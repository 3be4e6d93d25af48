import MipDispatch.Decimal.Shortest
import MipDispatch.Proofs.Number.Exact

namespace MipDispatch.Decimal

def Digits.value (d : Digits) : ℚ := d.digits * 10 ^ d.scale

theorem zpow_mul_toNat {a : ℚ} (ha : a ≠ 0) (n : Int) : a ^ n * a ^ (-n).toNat = a ^ n.toNat := by
  rw [← zpow_natCast, ← zpow_natCast, ← zpow_add₀ ha]
  congr 1
  omega

namespace Binary

variable {b b' : Binary}

def value (b : Binary) : ℚ := b.mantissa * 2 ^ b.exponent

/-- How many quarters of the last place are between a number and the lower end of its interval. -/
def reach (b : Binary) : Nat := if b.narrowBelow then 1 else 2

def low (b : Binary) : ℚ := (4 * b.mantissa - b.reach) * 2 ^ (b.exponent - 2)

def high (b : Binary) : ℚ := (4 * b.mantissa + 2) * 2 ^ (b.exponent - 2)

/-- The ends belong to the interval when the mantissa is even. -/
def Covers (b : Binary) (x : ℚ) : Prop :=
  if b.mantissa % 2 = 0 then b.low ≤ x ∧ x ≤ b.high else b.low < x ∧ x < b.high

structure Regular (b : Binary) : Prop where
  stored : Stored b.mantissa b.exponent
  positive : 0 < b.mantissa
  narrowBelow_iff : b.narrowBelow ↔ b.mantissa = 2 ^ 52 ∧ -1074 < b.exponent

theorem reach_le (b : Binary) : b.reach ≤ 2 := by
  unfold reach
  split <;> decide

theorem Regular.reach_le_mantissa (hb : b.Regular) : b.reach ≤ 4 * b.mantissa := by
  have := b.reach_le
  have := hb.positive
  omega

/-- The whole numbers of the common unit are the fractions that they are for, in that unit. -/
theorem commonUnits_cast (b : Binary) (scale : Int) : ∃ unit : ℚ, 0 < unit ∧
    ((b.commonUnits scale).1 : ℚ) = 2 ^ (b.exponent - 2) * unit ∧
    ((b.commonUnits scale).2 : ℚ) = 10 ^ scale * unit := by
  refine ⟨2 ^ (2 - b.exponent).toNat * 10 ^ (-scale).toNat, by positivity, ?_, ?_⟩
  · have hbinary := zpow_mul_toNat (a := 2) (by norm_num) (b.exponent - 2)
    rw [Int.neg_sub] at hbinary
    change ((2 ^ (b.exponent - 2).toNat * 10 ^ (-scale).toNat : Nat) : ℚ) = _
    rw [← mul_assoc, hbinary]
    push_cast
    rfl
  · have hdecimal := zpow_mul_toNat (a := 10) (by norm_num) scale
    change ((10 ^ scale.toNat * 2 ^ (2 - b.exponent).toNat : Nat) : ℚ) = _
    rw [mul_comm (2 ^ (2 - b.exponent).toNat : ℚ), ← mul_assoc, hdecimal]
    push_cast
    rfl

theorem reads_iff (hb : b.Regular) {d : Digits} : b.Reads d ↔ b.Covers d.value := by
  obtain ⟨unit, hunit, hquarter, hplace⟩ := b.commonUnits_cast d.scale
  set quarter := (b.commonUnits d.scale).1
  set place := (b.commonUnits d.scale).2
  have hlow : (((4 * b.mantissa - b.reach) * quarter : Nat) : ℚ) = b.low * unit := by
    rw [low, Nat.cast_mul, Nat.cast_sub hb.reach_le_mantissa, hquarter]
    push_cast
    ring
  have hhigh : (((4 * b.mantissa + 2) * quarter : Nat) : ℚ) = b.high * unit := by
    rw [high, Nat.cast_mul, hquarter]
    push_cast
    ring
  have hpoint : ((d.digits * place : Nat) : ℚ) = d.value * unit := by
    rw [Digits.value, Nat.cast_mul, hplace, mul_assoc]
  change (if b.mantissa % 2 = 0 then
      (4 * b.mantissa - b.reach) * quarter ≤ d.digits * place ∧
        d.digits * place ≤ (4 * b.mantissa + 2) * quarter
    else (4 * b.mantissa - b.reach) * quarter < d.digits * place ∧
      d.digits * place < (4 * b.mantissa + 2) * quarter) ↔ _
  unfold Covers
  simp only [← Nat.cast_le (α := ℚ), ← Nat.cast_lt (α := ℚ), hlow, hhigh, hpoint,
    mul_le_mul_iff_left₀ hunit, mul_lt_mul_iff_left₀ hunit]

section Apart

def Before (b b' : Binary) : Prop :=
  b.exponent < b'.exponent ∨ b.exponent = b'.exponent ∧ b.mantissa < b'.mantissa

theorem Regular.reach_eq_one (hb : b.Regular) (hm : b.mantissa = 2 ^ 52)
    (he : -1074 < b.exponent) : b.reach = 1 :=
  if_pos (hb.narrowBelow_iff.2 ⟨hm, he⟩)

theorem Regular.reach_eq_two (hb : b.Regular)
    (h : b.mantissa = 2 ^ 52 → b.exponent ≤ -1074) : b.reach = 2 := by
  refine if_neg fun hnarrow => ?_
  obtain ⟨hm, he⟩ := hb.narrowBelow_iff.1 hnarrow
  exact (h hm).not_gt he

/-- In quarters of the last place of the first number: an interval ends where the next one begins,
or before, and where they meet the mantissas are not both even. -/
theorem Before.ends_le (hb : b.Regular) (hb' : b'.Regular) (h : b.Before b') {k : Nat}
    (hk : b'.exponent = b.exponent + k) :
    4 * b.mantissa + 2 ≤ (4 * b'.mantissa - b'.reach) * 2 ^ k ∧
      (4 * b.mantissa + 2 = (4 * b'.mantissa - b'.reach) * 2 ^ k →
        b.mantissa % 2 = 0 → b'.mantissa % 2 ≠ 0) := by
  obtain ⟨hlt, hleast, hsubnormal⟩ := hb.stored
  obtain ⟨hlt', hleast', hsubnormal'⟩ := hb'.stored
  rcases h with hexponent | ⟨hexponent, hmantissa⟩
  · -- the lowest end there is with a larger exponent is that of a power of two
    have hlow : 2 ^ 54 - 1 ≤ 4 * b'.mantissa - b'.reach := by
      by_cases hm : b'.mantissa = 2 ^ 52
      · rw [hb'.reach_eq_one hm (by omega), hm]
        decide
      · rw [hb'.reach_eq_two fun h => absurd h hm]
        omega
    have hpow : 2 ^ 1 ≤ 2 ^ k := Nat.pow_le_pow_right (by decide) (by omega)
    have hprod := Nat.mul_le_mul hlow hpow
    omega
  · obtain rfl : k = 0 := by omega
    rw [hb'.reach_eq_two (by omega)]
    omega

theorem Before.high_le_low (hb : b.Regular) (hb' : b'.Regular) (h : b.Before b') :
    b.high ≤ b'.low ∧ (b.high = b'.low → b.mantissa % 2 = 0 → b'.mantissa % 2 ≠ 0) := by
  have hunit : (0 : ℚ) < 2 ^ (b.exponent - 2) := by positivity
  obtain ⟨k, hk⟩ : ∃ k : Nat, b'.exponent = b.exponent + k :=
    ⟨(b'.exponent - b.exponent).toNat, by rcases h with h | h <;> omega⟩
  have hlow : b'.low = ((4 * b'.mantissa - b'.reach) * 2 ^ k : Nat) * 2 ^ (b.exponent - 2) := by
    have hexponent : b'.exponent - 2 = k + (b.exponent - 2) := by omega
    rw [low, hexponent, zpow_add₀ two_ne_zero, zpow_natCast, Nat.cast_mul,
      Nat.cast_sub hb'.reach_le_mantissa]
    push_cast
    ring
  have hhigh : b.high = (4 * b.mantissa + 2 : Nat) * 2 ^ (b.exponent - 2) := by
    rw [high]
    push_cast
    rfl
  obtain ⟨hle, hmeet⟩ := h.ends_le hb hb' hk
  rw [hlow, hhigh]
  refine ⟨mul_le_mul_of_nonneg_right (Nat.cast_le.2 hle) hunit.le, fun heq => hmeet ?_⟩
  exact Nat.cast_injective (mul_right_cancel₀ hunit.ne' heq)

theorem Covers.low_le {x : ℚ} (h : b.Covers x) :
    b.low ≤ x ∧ (b.low = x → b.mantissa % 2 = 0) := by
  unfold Covers at h
  split at h
  next heven => exact ⟨h.1, fun _ => heven⟩
  · exact ⟨h.1.le, fun heq => absurd heq h.1.ne⟩

theorem Covers.le_high {x : ℚ} (h : b.Covers x) :
    x ≤ b.high ∧ (x = b.high → b.mantissa % 2 = 0) := by
  unfold Covers at h
  split at h
  next heven => exact ⟨h.2, fun _ => heven⟩
  · exact ⟨h.2.le, fun heq => absurd heq h.2.ne⟩

theorem Before.not_covers (hb : b.Regular) (hb' : b'.Regular) (h : b.Before b') {x : ℚ}
    (hx : b.Covers x) : ¬ b'.Covers x := by
  intro hx'
  obtain ⟨hle, hmeet⟩ := h.high_le_low hb hb'
  obtain ⟨hhigh, heven⟩ := hx.le_high
  obtain ⟨hlow, heven'⟩ := hx'.low_le
  -- the decimal could only be where the intervals meet, and there one of them is open
  have hxlow : b'.low = x := le_antisymm hlow (hhigh.trans hle)
  have hxhigh : x = b.high := le_antisymm hhigh (hle.trans hlow)
  exact hmeet (hxhigh.symm.trans hxlow.symm) (heven hxhigh) (heven' hxlow)

end Apart

theorem Regular.narrowBelow_eq (hb : b.Regular) :
    b.narrowBelow = decide (b.mantissa = 2 ^ 52 ∧ -1074 < b.exponent) := by
  rw [Bool.eq_iff_iff, hb.narrowBelow_iff, decide_eq_true_iff]

theorem Regular.eq_or_before (hb : b.Regular) (hb' : b'.Regular) :
    b = b' ∨ b.Before b' ∨ b'.Before b := by
  by_cases hsame : b.exponent = b'.exponent ∧ b.mantissa = b'.mantissa
  · left
    have hnarrow := hb.narrowBelow_eq
    rw [hsame.1, hsame.2, ← hb'.narrowBelow_eq] at hnarrow
    cases b
    cases b'
    rw [mk.injEq]
    exact ⟨hsame.2, hsame.1, hnarrow⟩
  · right
    unfold Before
    omega

/-- A decimal reads back as one number only. -/
theorem eq_of_covers (hb : b.Regular) (hb' : b'.Regular) {x : ℚ} (hx : b.Covers x)
    (hx' : b'.Covers x) : b = b' := by
  rcases hb.eq_or_before hb' with heq | hbefore | hbefore
  · exact heq
  · exact absurd hx' (hbefore.not_covers hb hb' hx)
  · exact absurd hx (hbefore.not_covers hb' hb hx')

end Binary

end MipDispatch.Decimal
