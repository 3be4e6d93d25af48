import MipDispatch.Proofs.Decimal.Interval

namespace MipDispatch.Decimal.Binary

variable {b : Binary}

section LeadingPower

theorem ten_pow_le_of_length {n : Nat} (hn : 0 < n) :
    10 ^ ((Nat.toDigits 10 n).length - 1) ≤ n := by
  by_contra hlt
  have hlength : 0 < (Nat.toDigits 10 n).length := Nat.length_toDigits_pos
  rcases Nat.eq_zero_or_pos ((Nat.toDigits 10 n).length - 1) with hzero | hpos
  · rw [hzero] at hlt
    omega
  · have := (Nat.length_toDigits_le_iff (by decide) hpos).2 (Nat.lt_of_not_le hlt)
    omega

theorem lt_ten_pow_length (n : Nat) : n < 10 ^ (Nat.toDigits 10 n).length :=
  (Nat.length_toDigits_le_iff (by decide) Nat.length_toDigits_pos).1 le_rfl

/-- The guess from the lengths of numerator and denominator is at most one too high. -/
theorem ten_zpow_le_div {num den : Nat} (hnum : 0 < num) (hden : 0 < den) :
    (10 : ℚ) ^ ((Nat.toDigits 10 num).length - (Nat.toDigits 10 den).length - 1 : Int) ≤
      num / den := by
  have hlength : 0 < (Nat.toDigits 10 num).length := Nat.length_toDigits_pos
  have hden' : (0 : ℚ) < den := by exact_mod_cast hden
  have hlow : (10 : ℚ) ^ ((Nat.toDigits 10 num).length - 1) ≤ num := by
    exact_mod_cast ten_pow_le_of_length hnum
  have hhigh : (den : ℚ) ≤ 10 ^ (Nat.toDigits 10 den).length := by
    exact_mod_cast (lt_ten_pow_length den).le
  have hsplit : ((Nat.toDigits 10 num).length - (Nat.toDigits 10 den).length - 1 : Int) =
      ((Nat.toDigits 10 num).length - 1 : Nat) - (Nat.toDigits 10 den).length := by omega
  rw [hsplit, zpow_sub₀ (by norm_num), zpow_natCast, zpow_natCast]
  exact div_le_div₀ (by positivity) hlow hden' hhigh

theorem value_eq_div (b : Binary) : b.value =
    (b.mantissa * 2 ^ b.exponent.toNat : Nat) / (2 ^ (-b.exponent).toNat : Nat) := by
  have hpow := zpow_mul_toNat (a := 2) (by norm_num) b.exponent
  rw [value, eq_div_iff (by positivity)]
  push_cast
  rw [mul_assoc, hpow]

theorem leadingPower_le (hb : b.Regular) : (10 : ℚ) ^ b.leadingPower ≤ b.value := by
  have hnum : 0 < b.mantissa * 2 ^ b.exponent.toNat := Nat.mul_pos hb.positive (by positivity)
  have hden : 0 < 2 ^ (-b.exponent).toNat := by positivity
  rw [value_eq_div]
  unfold leadingPower
  dsimp only [Nat.pow_eq]
  split
  · exact ten_zpow_le_div hnum hden
  next hguess =>
    -- here the guess was compared with the number
    rw [le_div_iff₀ (by exact_mod_cast hden)]
    set guess : Int := (Nat.toDigits 10 (b.mantissa * 2 ^ b.exponent.toNat)).length -
      (Nat.toDigits 10 (2 ^ (-b.exponent).toNat)).length
    have hpow := zpow_mul_toNat (a := (10 : ℚ)) (by norm_num) guess
    have hpos : (0 : ℚ) < 10 ^ (-guess).toNat := by positivity
    have hle : ((2 ^ (-b.exponent).toNat : Nat) : ℚ) * 10 ^ guess.toNat ≤
        (b.mantissa * 2 ^ b.exponent.toNat : Nat) * 10 ^ (-guess).toNat := by
      exact_mod_cast Nat.le_of_not_lt hguess
    rw [← hpow] at hle
    refine le_of_mul_le_mul_right ?_ hpos
    linarith

end LeadingPower

section Grid

variable {scale : Int}

theorem mem_neighbours {d : Digits} : d ∈ b.neighbours scale ↔
    (∃ n, (n = 4 * b.mantissa * (b.commonUnits scale).1 / (b.commonUnits scale).2 ∨
      n = 4 * b.mantissa * (b.commonUnits scale).1 / (b.commonUnits scale).2 + 1) ∧
      Digits.mk n scale = d) ∧ b.Reads d := by
  unfold neighbours
  dsimp only
  rw [List.mem_filter, List.mem_map, decide_eq_true_iff]
  split
  · simp only [List.mem_cons, List.not_mem_nil, or_false]
  · simp only [List.mem_cons, List.not_mem_nil, or_false, or_comm (a := _ = _ + 1)]

theorem commonUnits_pos (b : Binary) (scale : Int) :
    0 < (b.commonUnits scale).1 ∧ 0 < (b.commonUnits scale).2 :=
  ⟨Nat.mul_pos (Nat.two_pow_pos _) (Nat.pow_pos (by decide)),
    Nat.mul_pos (Nat.pow_pos (by decide)) (Nat.two_pow_pos _)⟩

theorem reads_of_between {n : Nat}
    (hlow : (4 * b.mantissa - b.reach) * (b.commonUnits scale).1 < n * (b.commonUnits scale).2)
    (hhigh : n * (b.commonUnits scale).2 < (4 * b.mantissa + 2) * (b.commonUnits scale).1) :
    b.Reads ⟨n, scale⟩ := by
  unfold Reads
  dsimp only
  split
  · exact ⟨hlow.le, hhigh.le⟩
  · exact ⟨hlow, hhigh⟩

theorem reach_pos (b : Binary) : 0 < b.reach := by
  unfold reach
  split <;> decide

/-- Where decimal places are narrow enough, the neighbour below is within reach or else the one above
is. -/
theorem exists_neighbour (hb : b.Regular) (hplace : (b.commonUnits scale).2 <
    2 * (b.reach * (b.commonUnits scale).1)) : ∃ d, d ∈ b.neighbours scale := by
  obtain ⟨hquarter_pos, hplace_pos⟩ := b.commonUnits_pos scale
  have hbelow := Nat.div_mul_le_self (4 * b.mantissa * (b.commonUnits scale).1)
    (b.commonUnits scale).2
  have habove := Nat.lt_div_mul_add (a := 4 * b.mantissa * (b.commonUnits scale).1) hplace_pos
  have hreach := Nat.mul_le_mul_right (b.commonUnits scale).1 b.reach_le
  have hreach_le := Nat.mul_le_mul_right (b.commonUnits scale).1 hb.reach_le_mantissa
  have hreach_pos := Nat.mul_pos b.reach_pos hquarter_pos
  have hlow := Nat.sub_mul (4 * b.mantissa) b.reach (b.commonUnits scale).1
  set value := 4 * b.mantissa * (b.commonUnits scale).1
  set below := value / (b.commonUnits scale).2
  by_cases hnear : value < below * (b.commonUnits scale).2 + b.reach * (b.commonUnits scale).1
  · refine ⟨⟨below, scale⟩, mem_neighbours.2 ⟨⟨below, .inl rfl, rfl⟩, ?_⟩⟩
    apply reads_of_between
    · omega
    · rw [Nat.add_mul]
      omega
  · refine ⟨⟨below + 1, scale⟩, mem_neighbours.2 ⟨⟨below + 1, .inr rfl, rfl⟩, ?_⟩⟩
    apply reads_of_between
    · rw [Nat.add_mul]
      omega
    · rw [Nat.add_mul, Nat.add_mul]
      omega

/-- Seventeen digits are more than the mantissas are many, also right after a power of two. -/
theorem Regular.mantissa_lt (hb : b.Regular) : 4 * b.mantissa < 2 * b.reach * 10 ^ 16 := by
  have hlt := hb.stored.mantissa_lt
  by_cases hnarrow : b.mantissa = 2 ^ 52 ∧ -1074 < b.exponent
  · rw [hb.reach_eq_one hnarrow.1 hnarrow.2, hnarrow.1]
    decide
  · rw [hb.reach_eq_two (by omega)]
    omega

theorem place_lt (hb : b.Regular) (h : 10 ^ (scale + 16) ≤ b.value) :
    (b.commonUnits scale).2 < 2 * (b.reach * (b.commonUnits scale).1) := by
  obtain ⟨unit, hunit, hquarter, hplace⟩ := b.commonUnits_cast scale
  have hquarter_pos := (b.commonUnits_pos scale).1
  have hpow : (10 : ℚ) ^ (scale + 16) = 10 ^ 16 * 10 ^ scale := by
    rw [zpow_add₀ (by norm_num), mul_comm]
    rfl
  have hvalue : b.value = 4 * b.mantissa * 2 ^ (b.exponent - 2) := by
    rw [value, zpow_sub₀ two_ne_zero]
    ring
  have hfine : 10 ^ 16 * (b.commonUnits scale).2 ≤ 4 * b.mantissa * (b.commonUnits scale).1 := by
    have hscaled := mul_le_mul_of_nonneg_right h hunit.le
    rw [hpow, hvalue, mul_assoc, mul_assoc (4 * _ : ℚ), ← hplace, ← hquarter] at hscaled
    exact_mod_cast hscaled
  apply Nat.lt_of_mul_lt_mul_left (a := 10 ^ 16)
  calc 10 ^ 16 * (b.commonUnits scale).2 ≤ 4 * b.mantissa * (b.commonUnits scale).1 := hfine
    _ < 2 * b.reach * 10 ^ 16 * (b.commonUnits scale).1 :=
      Nat.mul_lt_mul_of_pos_right hb.mantissa_lt hquarter_pos
    _ = 10 ^ 16 * (2 * (b.reach * (b.commonUnits scale).1)) := by ring

/-- The search never comes to its end without digits that read back. -/
theorem shortest_reads (hb : b.Regular) : b.Reads b.shortest := by
  unfold shortest
  dsimp only
  cases hfound : (List.range 17).findSome? fun n : Nat =>
      (b.neighbours (b.leadingPower - n)).head? with
  | none =>
    have hleading : (10 : ℚ) ^ (b.leadingPower - 16 + 16) ≤ b.value := by
      rw [Int.sub_add_cancel]
      exact leadingPower_le hb
    obtain ⟨d, hd⟩ := exists_neighbour hb (place_lt hb hleading)
    have hnone := List.findSome?_eq_none_iff.1 hfound 16 (by decide)
    rw [List.head?_eq_none_iff] at hnone
    exact absurd hd (hnone ▸ List.not_mem_nil)
  | some d =>
    obtain ⟨n, _, hd⟩ := List.exists_of_findSome?_eq_some hfound
    exact (mem_neighbours.1 (List.mem_of_head? hd)).2

end Grid

namespace Regular

theorem shortest_covers (hb : b.Regular) : b.Covers b.shortest.value :=
  (reads_iff hb).1 (shortest_reads hb)

theorem shortest_pos (hb : b.Regular) : 0 < b.shortest.value := by
  have hm : (1 : ℚ) ≤ b.mantissa := by exact_mod_cast hb.positive
  have hreach : (b.reach : ℚ) ≤ 2 := by exact_mod_cast b.reach_le
  have hlow : 0 < b.low := mul_pos (by linarith) (by positivity)
  exact hlow.trans_le hb.shortest_covers.low_le.1

end Regular

/-- Numbers with the same shortest digits are the same number. -/
theorem eq_of_shortest_eq {b' : Binary} (hb : b.Regular) (hb' : b'.Regular)
    (h : b.shortest.value = b'.shortest.value) : b = b' :=
  eq_of_covers hb hb' hb.shortest_covers (h ▸ hb'.shortest_covers)

end MipDispatch.Decimal.Binary
