import MipDispatch.Proofs.Number.Order

namespace MipDispatch

open Float.Model Float.Model.UnpackedFloat

/-- A multiple of a power of two that is less than one unit off. -/
structure Close (x : ℚ) (q : Nat) (t : Int) : Prop where
  lt_next : x < (q + 1) * 2 ^ t
  prev_lt : q * 2 ^ t < x + 2 ^ t

section Mantissa

theorem mantissa_shiftRight (em : ExtendedMantissa) (k : Nat) :
    (em >>> k).mantissa = em.mantissa / 2 ^ k := by
  induction k with
  | zero => simp [HShiftRight.hShiftRight, Nat.repeat]
  | succ k ih =>
    change (em >>> k).mantissa / 2 = _
    rw [ih, Nat.div_div_eq_div_mul, Nat.pow_succ]

theorem roundedMantissa_bounds (em : ExtendedMantissa) :
    em.mantissa ≤ em.roundedMantissa ∧ em.roundedMantissa ≤ em.mantissa + 1 := by
  obtain ⟨m, round, sticky⟩ := em
  cases round <;> cases sticky <;>
    simp [ExtendedMantissa.roundedMantissa, ExtendedMantissa.accuracy, Accuracy.roundToNearestEven]
  omega

/-- Bits that are shifted out are rounded away, which changes nothing if there are none. -/
theorem roundedMantissa_shiftRight (m k : Nat) :
    let q := (ExtendedMantissa.mk m false false >>> k).roundedMantissa
    m < (q + 1) * 2 ^ k ∧ q * 2 ^ k < m + 2 ^ k := by
  intro q
  have hpow := Nat.two_pow_pos k
  have hdiv := Nat.div_add_mod' m (2 ^ k)
  have hmod := Nat.mod_lt m hpow
  rw [Nat.add_mul, Nat.one_mul]
  by_cases hexact : m % 2 ^ k = 0
  · have hm : m = 2 ^ k * (m / 2 ^ k) := by
      rw [Nat.mul_comm]
      omega
    have hq : q = m / 2 ^ k := by
      change (ExtendedMantissa.mk m false false >>> k).roundedMantissa = _
      rw [hm, shiftRight_shifted, Nat.mul_div_cancel_left _ hpow]
      rfl
    rw [hq]
    omega
  · obtain ⟨hlow, hhigh⟩ := roundedMantissa_bounds (ExtendedMantissa.mk m false false >>> k)
    rw [mantissa_shiftRight] at hlow hhigh
    have hlow : m / 2 ^ k * 2 ^ k ≤ q * 2 ^ k := Nat.mul_le_mul_right _ hlow
    have hhigh : q * 2 ^ k ≤ (m / 2 ^ k + 1) * 2 ^ k := Nat.mul_le_mul_right _ hhigh
    rw [Nat.add_mul] at hhigh
    omega

end Mantissa

section Round

variable {m : Nat} {e t : Int}

theorem two_pow_mul_zpow (k : Nat) (t : Int) : (2 : ℚ) ^ k * 2 ^ t = 2 ^ (k + t) := by
  rw [zpow_add₀ two_ne_zero, zpow_natCast]

theorem targetExponent_eq (total : Int) :
    Format.binary64.targetExponent total = max (total - 53) (-1074) := rfl

/-- Where a number is put by its target exponent: below the largest mantissa, and not below the
least normal one unless the exponent is the least. -/
structure Placed (x : ℚ) (t : Int) : Prop where
  least_le : -1074 ≤ t
  lt_largest : x < 2 ^ 53 * 2 ^ t
  least_normal : t ≠ -1074 → 2 ^ 52 * 2 ^ t ≤ x

theorem placed_target (hm : 0 < m)
    (ht : Format.binary64.targetExponent (totalExponent m e) = t) : Placed (m * 2 ^ e) t := by
  rw [targetExponent_eq, totalExponent] at ht
  have hlow : (2 : ℚ) ^ m.log2 ≤ m := by exact_mod_cast Nat.log2_self_le (Nat.ne_of_gt hm)
  have hhigh : (m : ℚ) < 2 ^ (m.log2 + 1) := by exact_mod_cast Nat.lt_log2_self
  refine ⟨by omega, ?_, fun hne => ?_⟩
  · calc (m : ℚ) * 2 ^ e < 2 ^ (m.log2 + 1) * 2 ^ e := by gcongr
      _ = 2 ^ ((m.log2 + 1 : Nat) + e) := two_pow_mul_zpow ..
      _ ≤ 2 ^ ((53 : Nat) + t) := zpow_le_zpow_right₀ one_le_two (by omega)
      _ = 2 ^ 53 * 2 ^ t := (two_pow_mul_zpow ..).symm
  · calc (2 : ℚ) ^ 52 * 2 ^ t = 2 ^ ((52 : Nat) + t) := two_pow_mul_zpow ..
      _ ≤ 2 ^ (m.log2 + e) := zpow_le_zpow_right₀ one_le_two (by omega)
      _ = 2 ^ m.log2 * 2 ^ e := (two_pow_mul_zpow ..).symm
      _ ≤ m * 2 ^ e := by gcongr

variable {x : ℚ} {q : Nat}

/-- The second shift of rounding brings a mantissa that has become too large back to its length. -/
theorem Placed.shift (hx : Placed x t) (hq : Close x q t) :
    ∃ em e', shiftToTargetExponent Format.binary64 q t .exact = (em, e') ∧
      (em.mantissa : ℚ) * 2 ^ e' = q * 2 ^ t ∧ (0 < em.mantissa → Stored em.mantissa e') := by
  have hpos : (0 : ℚ) < 2 ^ t := by positivity
  have hleast := hx.least_le
  have hle : q ≤ 2 ^ 53 := by
    have : (q : ℚ) * 2 ^ t < (2 ^ 53 + 1) * 2 ^ t := by linarith [hq.prev_lt, hx.lt_largest]
    have : (q : ℚ) < 2 ^ 53 + 1 := lt_of_mul_lt_mul_right this hpos.le
    exact Nat.le_of_lt_succ (by exact_mod_cast this)
  have hnormal : t ≠ -1074 → 2 ^ 52 ≤ q := by
    intro hne
    have : (2 : ℚ) ^ 52 * 2 ^ t < (q + 1) * 2 ^ t := (hx.least_normal hne).trans_lt hq.lt_next
    have : (2 : ℚ) ^ 52 < q + 1 := lt_of_mul_lt_mul_right this hpos.le
    exact Nat.le_of_lt_succ (by exact_mod_cast this)
  rcases Nat.eq_zero_or_pos q with rfl | hqpos
  · have hzero : (shiftToTargetExponent Format.binary64 0 t .exact).1.mantissa = 0 :=
      (mantissa_shiftRight ..).trans (Nat.zero_div _)
    refine ⟨(shiftToTargetExponent Format.binary64 0 t .exact).1, _, rfl, ?_,
      fun hpos => absurd hzero (Nat.ne_of_gt hpos)⟩
    rw [hzero, Nat.cast_zero, zero_mul, zero_mul]
  · rcases Nat.lt_or_ge q (2 ^ 53) with hlt | hge
    · have hstored : Stored q t := ⟨hlt, hleast, fun hsmall => by
        by_contra hne
        have := hnormal hne
        omega⟩
      have hshift := hstored.shift hqpos 0
      rw [Nat.pow_zero, Nat.one_mul, Nat.cast_zero, Int.sub_zero] at hshift
      exact ⟨_, _, hshift, rfl, fun _ => hstored⟩
    · -- rounding up has filled the mantissa, so one more bit is shifted out, which is a zero
      obtain rfl : q = 2 ^ 1 * 2 ^ 52 := by omega
      have hstored : Stored (2 ^ 52) (t + 1) := ⟨by decide, by omega, fun h => by omega⟩
      have hshift := hstored.shift (by decide) 1
      rw [Nat.cast_one, Int.add_sub_cancel] at hshift
      refine ⟨_, _, hshift, ?_, fun _ => hstored⟩
      rw [zpow_add_one₀ two_ne_zero]
      push_cast
      ring

theorem Close.shiftRight {k : Nat} (hk : e + k = t) :
    Close (m * 2 ^ e) (ExtendedMantissa.mk m false false >>> k).roundedMantissa t := by
  obtain ⟨hlow, hhigh⟩ := roundedMantissa_shiftRight m k
  generalize (ExtendedMantissa.mk m false false >>> k).roundedMantissa = q at hlow hhigh
  have hlow : (m : ℚ) < (q + 1) * 2 ^ k := by exact_mod_cast hlow
  have hhigh : (q : ℚ) * 2 ^ k < m + 2 ^ k := by exact_mod_cast hhigh
  have hpos : (0 : ℚ) < 2 ^ e := by positivity
  have ht : (2 : ℚ) ^ t = 2 ^ k * 2 ^ e := by rw [two_pow_mul_zpow, ← hk, add_comm]
  constructor
  · calc (m : ℚ) * 2 ^ e < (q + 1) * 2 ^ k * 2 ^ e := by gcongr
      _ = (q + 1) * 2 ^ t := by rw [ht, mul_assoc]
  · calc (q : ℚ) * 2 ^ t = q * 2 ^ k * 2 ^ e := by rw [ht, mul_assoc]
      _ < (m + 2 ^ k) * 2 ^ e := by gcongr
      _ = m * 2 ^ e + 2 ^ t := by rw [ht, add_mul]

theorem roundWithAccuracy_placed (hm : 0 < m)
    (ht : Format.binary64.targetExponent (totalExponent m e) = t) (he : e ≤ t) (s : Sign) :
    ∃ q, Placed (m * 2 ^ e) t ∧ Close (m * 2 ^ e) q t ∧
      IsStored (roundWithAccuracy .binary64 s m e .exact) ∧
      unpackedValue (roundWithAccuracy .binary64 s m e .exact) = s.apply 1 * (q * 2 ^ t) := by
  have hplaced := placed_target hm ht
  have hclose : Close _ _ t := Close.shiftRight (m := m) (e := e) (k := (t - e).toNat) (by omega)
  -- The first shift brings the number to its target exponent and rounds it. A second one follows,
  -- which does something only if the mantissa was rounded up to the next power of two.
  obtain ⟨em, e', hshift, hvalue, hstored⟩ := hplaced.shift hclose
  have hfirst : shiftToTargetExponent .binary64 m e .exact =
      (ExtendedMantissa.mk m false false >>> (t - e).toNat, t) := by
    unfold shiftToTargetExponent shiftToExponent
    rw [ht]
    refine Prod.ext rfl ?_
    change e + ((t - e).toNat : Int) = t
    omega
  have hround : roundWithAccuracy .binary64 s m e .exact =
      if h : em.mantissa = 0 then .zero s
      else .finite s em.mantissa e' (Nat.pos_of_ne_zero h) := by
    unfold roundWithAccuracy
    rw [hfirst]
    dsimp only
    rw [hshift]
  refine ⟨_, hplaced, hclose, ?_⟩
  rw [hround, ← hvalue]
  split
  next h => exact ⟨trivial, by simp [h, unpackedValue]⟩
  next h =>
    refine ⟨hstored (Nat.pos_of_ne_zero h), ?_⟩
    change ((s.apply em.mantissa : Int) : ℚ) * 2 ^ e' = _
    rw [apply_cast s em.mantissa, mul_assoc]

theorem two_pow_sub {t : Int} {e : Int} (h : t ≤ e) : (2 : ℚ) ^ e = 2 ^ (e - t).toNat * 2 ^ t := by
  rw [two_pow_mul_zpow]
  congr 1
  omega

section Between

variable {m' : Nat} {e' : Int}

theorem Close.le (hx : Placed x t) (hq : Close x q t) (h : Stored m' e') (hle : m' * 2 ^ e' ≤ x) :
    (m' : ℚ) * 2 ^ e' ≤ q * 2 ^ t := by
  have hpos : (0 : ℚ) < 2 ^ t := by positivity
  rcases Int.lt_or_le e' t with hlt | hge
  · -- the mantissa that was rounded has its leading one
    have hleast := h.least_le
    have hlow : (2 : ℚ) ^ 52 * 2 ^ t < (q + 1) * 2 ^ t :=
      (hx.least_normal (by omega)).trans_lt hq.lt_next
    have hlow : (2 : ℚ) ^ 52 < q + 1 := lt_of_mul_lt_mul_right hlow hpos.le
    have hq : (2 : ℚ) ^ 52 ≤ q := by exact_mod_cast Nat.le_of_lt_succ (by exact_mod_cast hlow)
    calc (m' : ℚ) * 2 ^ e' ≤ 2 ^ 52 * 2 ^ t := (h.lt_leading hlt).le
      _ ≤ q * 2 ^ t := by gcongr
  · rw [two_pow_sub hge, ← mul_assoc] at hle ⊢
    have hlt := lt_of_mul_lt_mul_right (hle.trans_lt hq.lt_next) hpos.le
    have hnat : m' * 2 ^ (e' - t).toNat ≤ q := Nat.le_of_lt_succ (by exact_mod_cast hlt)
    exact mul_le_mul_of_nonneg_right (by exact_mod_cast hnat) hpos.le

theorem Close.ge (hx : Placed x t) (hq : Close x q t) (h : Stored m' e') (hle : x ≤ m' * 2 ^ e') :
    (q : ℚ) * 2 ^ t ≤ m' * 2 ^ e' := by
  have hpos : (0 : ℚ) < 2 ^ t := by positivity
  rcases Int.lt_or_le e' t with hlt | hge
  · -- such a number lies below all that are rounded at this exponent
    have hleast := h.least_le
    have hsmall := (h.lt_leading hlt).trans_le (hx.least_normal (by omega))
    exact absurd hle hsmall.not_ge
  · rw [two_pow_sub hge, ← mul_assoc] at hle ⊢
    have hlt : (q : ℚ) * 2 ^ t < (m' * 2 ^ (e' - t).toNat + 1) * 2 ^ t := by
      linarith [hq.prev_lt]
    have hlt := lt_of_mul_lt_mul_right hlt hpos.le
    have hnat : q ≤ m' * 2 ^ (e' - t).toNat := Nat.le_of_lt_succ (by exact_mod_cast hlt)
    exact mul_le_mul_of_nonneg_right (by exact_mod_cast hnat) hpos.le

end Between

/-- What a number is rounded to: a stored one, so close that no stored number lies between. -/
structure Rounds (x : ℚ) (u : UnpackedFloat) : Prop where
  isStored : IsStored u
  le : ∀ v, IsStored v → unpackedValue v ≤ x → unpackedValue v ≤ unpackedValue u
  ge : ∀ v, IsStored v → x ≤ unpackedValue v → unpackedValue u ≤ unpackedValue v

theorem Rounds.self {u : UnpackedFloat} (h : IsStored u) : Rounds (unpackedValue u) u :=
  ⟨h, fun _ _ h => h, fun _ _ h => h⟩

theorem IsStored.value_cases {v : UnpackedFloat} (hv : IsStored v) : unpackedValue v = 0 ∨
    ∃ (m : Nat) (e : Int), Stored m e ∧ (0 : ℚ) < m * 2 ^ e ∧
      (unpackedValue v = m * 2 ^ e ∨ unpackedValue v = -(m * 2 ^ e)) := by
  cases v with
  | infinity s | notANumber => exact hv.elim
  | zero s => exact .inl rfl
  | finite s m e hm =>
    refine .inr ⟨m, e, hv, value_pos hm e, ?_⟩
    cases s with
    | negative => exact .inr (unpackedValue_negative m e hm)
    | positive => exact .inl rfl

/-- Signs are put to numbers after they are rounded. -/
theorem rounds_signed {u : UnpackedFloat} (hx : 0 < x) (hplaced : Placed x t) (hq : Close x q t)
    (hu : IsStored u) {s : Sign} (hvalue : unpackedValue u = s.apply 1 * (q * 2 ^ t)) :
    Rounds (s.apply 1 * x) u := by
  have hnonneg : (0 : ℚ) ≤ q * 2 ^ t := by positivity
  -- The magnitude is rounded as if it was positive. A number of the other sign is on the right
  -- side anyway; a negative sign swaps the two bounds.
  cases s with
  | positive =>
    have hone : ((Sign.positive.apply 1 : Int) : ℚ) = 1 := rfl
    rw [hone, one_mul] at hvalue ⊢
    refine ⟨hu, fun v hv hle => ?_, fun v hv hge => ?_⟩ <;> rw [hvalue]
    · obtain hzero | ⟨m', e', hstored, hpos, hv | hv⟩ := hv.value_cases
      · rwa [hzero]
      · rw [hv] at hle ⊢
        exact hq.le hplaced hstored hle
      · linarith
    · obtain hzero | ⟨m', e', hstored, hpos, hv | hv⟩ := hv.value_cases
      · linarith
      · rw [hv] at hge ⊢
        exact hq.ge hplaced hstored hge
      · linarith
  | negative =>
    have hone : ((Sign.negative.apply 1 : Int) : ℚ) = -1 := rfl
    rw [hone, neg_one_mul] at hvalue ⊢
    refine ⟨hu, fun v hv hle => ?_, fun v hv hge => ?_⟩ <;> rw [hvalue]
    · obtain hzero | ⟨m', e', hstored, hpos, hv | hv⟩ := hv.value_cases
      · linarith
      · linarith
      · rw [hv] at hle ⊢
        exact neg_le_neg (hq.ge hplaced hstored (neg_le_neg_iff.1 hle))
    · obtain hzero | ⟨m', e', hstored, hpos, hv | hv⟩ := hv.value_cases
      · linarith
      · linarith
      · rw [hv] at hge ⊢
        exact neg_le_neg (hq.le hplaced hstored (neg_le_neg_iff.1 hge))

theorem round_rounds (hm : 0 < m) (e : Int) (s : Sign) :
    Rounds (s.apply 1 * (m * 2 ^ e)) (UnpackedFloat.round .binary64 s m e) := by
  generalize ht : Format.binary64.targetExponent (totalExponent m e) = t
  have hround : UnpackedFloat.round .binary64 s m e = roundWithAccuracy .binary64 s
      (2 ^ (e - t).toNat * m) (e - ((e - t).toNat : Int)) .exact := by
    unfold UnpackedFloat.round decreaseExponent
    rw [ht]
    dsimp only
    rw [Nat.shiftLeft_eq, Nat.mul_comm]
  have hvalue : ((2 ^ (e - t).toNat * m : Nat) : ℚ) * 2 ^ (e - ((e - t).toNat : Int)) =
      m * 2 ^ e := by
    rw [zpow_sub₀ two_ne_zero, zpow_natCast]
    push_cast
    field_simp
  have htotal : totalExponent (2 ^ (e - t).toNat * m) (e - ((e - t).toNat : Int)) =
      totalExponent m e := by
    rw [totalExponent, totalExponent, log2_shifted hm]
    omega
  have hpos : 0 < 2 ^ (e - t).toNat * m := Nat.mul_pos (Nat.two_pow_pos _) hm
  obtain ⟨q, hplaced, hclose, hstored, hrounded⟩ :=
    roundWithAccuracy_placed hpos (htotal ▸ ht) (by omega) s
  rw [hvalue] at hplaced hclose
  rw [hround]
  exact rounds_signed (value_pos hm e) hplaced hclose hstored hrounded

theorem normalize_rounds (n : Int) (e : Int) (s : Sign) :
    Rounds (n * 2 ^ e) (UnpackedFloat.normalize .binary64 n e s) := by
  rcases lt_trichotomy n 0 with hlt | rfl | hgt
  · have hnormalize : UnpackedFloat.normalize .binary64 n e s =
        UnpackedFloat.round .binary64 .negative (-n).toNat e := by
      unfold UnpackedFloat.normalize
      rw [compare_lt_iff_lt.2 hlt]
    have hvalue : ((Sign.negative.apply 1 : Int) : ℚ) * ((-n).toNat * 2 ^ e) = n * 2 ^ e := by
      have : (((-n).toNat : Int) : ℚ) = ((-n : Int) : ℚ) := by rw [Int.toNat_of_nonneg (by omega)]
      push_cast at this
      rw [this]
      simp [Sign.apply]
    rw [hnormalize, ← hvalue]
    exact round_rounds (by omega) e .negative
  · have hself : Rounds 0 (.zero s) := Rounds.self (u := .zero s) trivial
    rw [Int.cast_zero, zero_mul]
    exact hself
  · have hnormalize : UnpackedFloat.normalize .binary64 n e s =
        UnpackedFloat.round .binary64 .positive n.toNat e := by
      unfold UnpackedFloat.normalize
      rw [compare_gt_iff_gt.2 hgt]
    have hvalue : ((Sign.positive.apply 1 : Int) : ℚ) * (n.toNat * 2 ^ e) = n * 2 ^ e := by
      have : ((n.toNat : Int) : ℚ) = (n : ℚ) := by rw [Int.toNat_of_nonneg (by omega)]
      push_cast at this
      rw [this]
      simp [Sign.apply]
    rw [hnormalize, ← hvalue]
    exact round_rounds (by omega) e .positive

end Round

end MipDispatch
