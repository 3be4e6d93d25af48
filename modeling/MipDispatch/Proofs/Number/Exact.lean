import Mathlib

namespace MipDispatch

open Float.Model Float.Model.UnpackedFloat

def unpackedValue : UnpackedFloat → ℚ
  | .finite s m e _ => s.apply m * 2 ^ e
  | .infinity _ | .notANumber | .zero _ => 0

/-- The number that a finite float stands for; infinities and what is not a number count as zero. -/
def exactValue (x : Float) : ℚ := unpackedValue x.toModel.unpack

/-- Mantissas and exponents as they are stored: below the least normal number the exponent is
fixed. -/
structure Stored (m : Nat) (e : Int) : Prop where
  mantissa_lt : m < 2 ^ 53
  least_le : -1074 ≤ e
  subnormal : m < 2 ^ 52 → e = -1074

theorem toNat_leadingOne (mantissa : BitVec 52) :
    (1#1 ++ mantissa).toNat = 2 ^ 52 + mantissa.toNat := by
  have := Nat.two_pow_add_eq_or_of_lt mantissa.isLt 1
  rw [BitVec.toNat_append, Nat.shiftLeft_eq]
  simpa using this.symm

theorem stored_of_unpack {x : Float.Model} {s : Sign} {m : Nat} {e : Int} {hm : 0 < m}
    (h : x.unpack = .finite s m e hm) : Stored m e := by
  simp only [Float.Model.unpack, UnpackedFloat.unpack] at h
  split at h
  · split at h <;> cases h
  split at h
  next hexp =>
    split at h
    · cases h
    · obtain ⟨_, rfl, rfl⟩ := UnpackedFloat.finite.inj h
      have hlt : (@unpackMantissa Format.binary64 x.toBits.toBitVec).toNat < 2 ^ 52 :=
        BitVec.isLt _
      rw [hexp]
      exact ⟨by omega, by decide, fun _ => by decide⟩
  next hexp =>
    obtain ⟨_, rfl, rfl⟩ := UnpackedFloat.finite.inj h
    generalize @unpackMantissa Format.binary64 x.toBits.toBitVec = mantissa
    generalize @unpackExponent Format.binary64 x.toBits.toBitVec = exponent at hexp
    have hpos : exponent.toNat ≠ 0 := fun h => hexp (BitVec.eq_of_toNat_eq h)
    have hbias : (Format.binary64.exponentBias : Int) = 1023 := rfl
    have hlt : mantissa.toNat < 2 ^ 52 := mantissa.isLt
    rw [toNat_leadingOne, hbias]
    refine ⟨by omega, ?_, by omega⟩
    change -1074 ≤ (exponent.toNat : Int) - (1023 + 52)
    omega

section Shift

variable {m : Nat} {t : Int}

theorem log2_shifted (hm : 0 < m) (k : Nat) : (2 ^ k * m).log2 = k + m.log2 := by
  induction k with
  | zero => simp
  | succ k ih =>
    have hne : 2 ^ k * m ≠ 0 := Nat.ne_of_gt (Nat.mul_pos (Nat.two_pow_pos k) hm)
    have hstep : 2 ^ (k + 1) * m = 2 * (2 ^ k * m) := by ring
    rw [hstep, Nat.log2_two_mul hne, ih]
    omega

theorem shiftRight_shifted (m k : Nat) :
    ExtendedMantissa.mk (2 ^ k * m) false false >>> k = ExtendedMantissa.mk m false false := by
  induction k generalizing m with
  | zero => simp [HShiftRight.hShiftRight, Nat.repeat]
  | succ k ih =>
    have hstep : 2 ^ (k + 1) * m = 2 ^ k * (2 * m) := by ring
    change ExtendedMantissa.shiftRightOne
      (ExtendedMantissa.mk (2 ^ (k + 1) * m) false false >>> k) = _
    rw [hstep, ih]
    simp [ExtendedMantissa.shiftRightOne]

theorem Stored.target (h : Stored m t) (hm : 0 < m) :
    Format.binary64.targetExponent (totalExponent m t) = t := by
  have hlog : m.log2 < 53 := (Nat.log2_lt (Nat.ne_of_gt hm)).2 h.mantissa_lt
  have hnormal : 52 ≤ m.log2 ∨ t = -1074 := by
    rcases Nat.lt_or_ge m (2 ^ 52) with hsmall | hlarge
    · exact .inr (h.subnormal hsmall)
    · exact .inl ((Nat.le_log2 (Nat.ne_of_gt hm)).2 hlarge)
  have hleast := h.least_le
  have htarget (total : Int) :
      Format.binary64.targetExponent total = max (total - 53) (-1074) := rfl
  rw [htarget, totalExponent]
  omega

/-- Bits that were put in below the mantissa are shifted out again without a loss. -/
theorem Stored.shift (h : Stored m t) (hm : 0 < m) (k : Nat) :
    shiftToTargetExponent Format.binary64 (2 ^ k * m) (t - k) .exact =
      (ExtendedMantissa.mk m false false, t) := by
  have htotal : totalExponent (2 ^ k * m) (t - k) = totalExponent m t := by
    rw [totalExponent, totalExponent, log2_shifted hm]
    omega
  have hamount : (t - (t - k)).toNat = k := by omega
  unfold shiftToTargetExponent shiftToExponent
  rw [htotal, h.target hm]
  dsimp only
  rw [hamount]
  change (ExtendedMantissa.mk (2 ^ k * m) false false >>> k, _) = _
  rw [shiftRight_shifted, Int.sub_add_cancel]

theorem Stored.round (h : Stored m t) (hm : 0 < m) (s : Sign) (k : Nat) :
    roundWithAccuracy Format.binary64 s (2 ^ k * m) (t - k) .exact = .finite s m t hm := by
  have hagain := h.shift hm 0
  rw [Nat.pow_zero, Nat.one_mul, Nat.cast_zero, Int.sub_zero] at hagain
  unfold roundWithAccuracy
  rw [h.shift hm k]
  change (let (em, e) := shiftToTargetExponent Format.binary64 m t .exact
    if h : em.mantissa = 0 then UnpackedFloat.zero s
    else .finite s em.mantissa e (Nat.pos_of_ne_zero h)) = _
  -- the mantissa fits, so there is nothing to round and the second shift moves nothing
  rw [hagain]
  exact dif_neg (Nat.ne_of_gt hm)

end Shift

section Pack

variable {m : Nat} {e : Int} {hm : 0 < m} {s : Sign}

theorem finite_congr {m' : Nat} {e' : Int} {hm' : 0 < m'} (hmantissa : m = m')
    (hexponent : e = e') : UnpackedFloat.finite s m e hm = .finite s m' e' hm' := by
  subst hmantissa hexponent
  rfl

@[simp] theorem unpackSign_pack {spec : Format} {exponent mantissa} :
    unpackSign (packComponents spec s exponent mantissa) = s.toBitVec := by
  ext i hi
  have hi : i = 0 := by omega
  subst hi
  simp [unpackSign, packComponents, BitVec.getLsbD_append, BitVec.getElem_append]

theorem sign_ofBitVec_toBitVec (s : Sign) : Sign.ofBitVec s.toBitVec = s := by
  cases s <;> rfl

theorem biased_lt_iff (e : Int) :
    2 ^ Format.binary64.exponentBits ≤
      (e + Format.binary64.exponentBias + Format.binary64.mantissaBitsWithoutImplicit).toNat + 1 ↔
    971 < e := by
  change 2048 ≤ (e + 1023 + 52).toNat + 1 ↔ _
  omega

theorem pack_too_large (h : 971 < e) :
    (Float.Model.pack (.finite s m e hm)).isFinite = false := by
  have hlarge : UnpackedFloat.pack .binary64 (.finite s m e hm) = packedInfinity .binary64 s :=
    if_pos ((biased_lt_iff e).2 h)
  unfold Float.Model.isFinite Float.Model.unpack Float.Model.pack
  dsimp only
  rw [hlarge]
  cases s <;> rfl

theorem unpack_subnormal {mantissa : BitVec 52} (h : 0 < mantissa.toNat) :
    UnpackedFloat.unpack .binary64 (packComponents .binary64 s 0#11 mantissa) =
      .finite s mantissa.toNat (-1074) h := by
  have hne : mantissa ≠ 0#52 := fun h0 => by simp [h0] at h
  have hones : ¬ 0#11 = -1#11 := by decide
  simp only [UnpackedFloat.unpack, unpackExponent_packComponents, unpackMantissa_packComponents,
    unpackSign_pack, sign_ofBitVec_toBitVec]
  simp only [hne, hones, ↓reduceIte, ↓reduceDIte]
  exact finite_congr rfl rfl

theorem unpack_normal {exponent : BitVec 11} (hzero : exponent ≠ 0#11) (hones : exponent ≠ -1#11)
    (mantissa : BitVec 52) :
    UnpackedFloat.unpack .binary64 (packComponents .binary64 s exponent mantissa) =
      .finite s (2 ^ 52 + mantissa.toNat) (exponent.toNat - 1075)
        (Nat.add_pos_left (Nat.two_pow_pos 52) _) := by
  have hbias : (Format.binary64.exponentBias : Int) = 1023 := rfl
  simp only [UnpackedFloat.unpack, unpackExponent_packComponents, unpackMantissa_packComponents,
    unpackSign_pack, sign_ofBitVec_toBitVec]
  simp only [hzero, hones, ↓reduceIte, toNat_leadingOne, hbias]
  rfl

theorem Stored.unpack_pack (h : Stored m e) (hsmall : e ≤ 971) :
    (Float.Model.pack (.finite s m e hm)).unpack = .finite s m e hm := by
  have hfits : ¬ 971 < e := by omega
  have hleast := h.least_le
  have hlt := h.mantissa_lt
  unfold Float.Model.unpack Float.Model.pack UnpackedFloat.pack
  dsimp only
  rw [if_neg (mt (biased_lt_iff e).1 hfits)]
  rcases Nat.lt_or_ge m (2 ^ 52) with hm52 | hm52
  · have hlog : ¬ m.log2 + 1 = Format.binary64.mantissaBits := by
      have : m.log2 < 52 := (Nat.log2_lt (Nat.ne_of_gt hm)).2 hm52
      change ¬ m.log2 + 1 = 53
      omega
    have hmantissa : (BitVec.ofNat 52 m).toNat = m := by
      rw [BitVec.toNat_ofNat]
      exact Nat.mod_eq_of_lt hm52
    rw [if_neg hlog]
    refine (unpack_subnormal (by rw [hmantissa]; exact hm)).trans ?_
    exact finite_congr hmantissa (h.subnormal hm52).symm
  · have hlog : m.log2 + 1 = Format.binary64.mantissaBits := by
      have : m.log2 < 53 := (Nat.log2_lt (Nat.ne_of_gt hm)).2 hlt
      have : 52 ≤ m.log2 := (Nat.le_log2 (Nat.ne_of_gt hm)).2 hm52
      change m.log2 + 1 = 53
      omega
    -- the leading one is left out of the bits and put back when they are read
    have hmantissa : (BitVec.ofNat 52 m).toNat = m - 2 ^ 52 := by
      rw [BitVec.toNat_ofNat]
      omega
    have hexponent : (BitVec.ofNat 11 (e + 1023 + 52).toNat).toNat = (e + 1075).toNat := by
      rw [BitVec.toNat_ofNat]
      omega
    rw [if_pos hlog]
    have hzero : BitVec.ofNat 11 (e + 1023 + 52).toNat ≠ 0#11 := by
      intro h0
      have h0 : (BitVec.ofNat 11 (e + 1023 + 52).toNat).toNat = 0 := congrArg BitVec.toNat h0
      omega
    have hones : BitVec.ofNat 11 (e + 1023 + 52).toNat ≠ -1#11 := by
      intro h1
      have h1 : (BitVec.ofNat 11 (e + 1023 + 52).toNat).toNat = 2047 := congrArg BitVec.toNat h1
      omega
    refine (unpack_normal hzero hones _).trans (finite_congr ?_ ?_)
    · omega
    · omega

end Pack

def storedTwo : UnpackedFloat := .finite .positive (2 ^ 52) (-51) (by decide)

/-- Twice a stored number is stored again: with the next exponent if it is normal, else with twice
the mantissa. -/
theorem Stored.double {m : Nat} {e : Int} (h : Stored m e) (hm : 0 < m) (s : Sign) :
    ∃ (m' : Nat) (e' : Int) (hm' : 0 < m'), Stored m' e' ∧
      (m' : ℚ) * 2 ^ e' = 2 * (m * 2 ^ e) ∧
      UnpackedFloat.mul .binary64 storedTwo (.finite s m e hm) = .finite s m' e' hm' := by
  have hsign : Sign.positive * s = s := by cases s <;> rfl
  have hmul : UnpackedFloat.mul .binary64 storedTwo (.finite s m e hm) =
      roundWithAccuracy .binary64 s (2 ^ 52 * m) (-51 + e) .exact := by
    rw [storedTwo, UnpackedFloat.mul, hsign]
  have hlt := h.mantissa_lt
  have hleast := h.least_le
  rcases Nat.lt_or_ge m (2 ^ 52) with hsmall | hlarge
  · have hstored : Stored (2 * m) e := ⟨by omega, hleast, fun _ => h.subnormal hsmall⟩
    refine ⟨2 * m, e, by omega, hstored, by push_cast; ring, ?_⟩
    rw [hmul, ← hstored.round (by omega) s 51]
    congr 1
    · ring
    · omega
  · have hstored : Stored m (e + 1) := ⟨hlt, by omega, fun h => by omega⟩
    refine ⟨m, e + 1, hm, hstored, ?_, ?_⟩
    · rw [zpow_add_one₀ two_ne_zero]
      ring
    · rw [hmul, ← hstored.round hm s 52]
      congr 1
      omega

theorem toModel_double (x : Float) : (2 * x).toModel =
    Float.Model.pack (UnpackedFloat.mul .binary64 storedTwo x.toModel.unpack) := rfl

theorem apply_cast (s : Sign) (m : Nat) :
    ((s.apply m : Int) : ℚ) = (s.apply 1 : Int) * (m : ℚ) := by
  cases s <;> simp [Sign.apply]

/-- Doubling is exact unless the double is too large to be finite. -/
theorem exactValue_double {x : Float} (h : (2 * x).isFinite = true) :
    exactValue (2 * x) = 2 * exactValue x := by
  have hdouble := toModel_double x
  unfold exactValue
  cases hx : x.toModel.unpack with
  | infinity s =>
    rw [hdouble, hx]
    cases s <;> exact (mul_zero 2).symm
  | notANumber =>
    rw [hdouble, hx]
    exact (mul_zero 2).symm
  | zero s =>
    rw [hdouble, hx]
    cases s <;> exact (mul_zero 2).symm
  | finite s m e hm =>
    obtain ⟨m', e', hm', hstored, hvalue, hmul⟩ := (stored_of_unpack hx).double hm s
    rw [hx, hmul] at hdouble
    rcases lt_or_ge 971 e' with hlarge | hfits
    · -- past the largest exponent the double is infinite
      have hinf : (2 * x).isFinite = false := by
        change (2 * x).toModel.isFinite = false
        rw [hdouble]
        exact pack_too_large hlarge
      rw [hinf] at h
      cases h
    · rw [hdouble, hstored.unpack_pack hfits]
      change ((s.apply m' : Int) : ℚ) * 2 ^ e' = 2 * (((s.apply m : Int) : ℚ) * 2 ^ e)
      rw [apply_cast s m', apply_cast s m, mul_assoc, hvalue]
      ring

example : exactValue (-2.5) = -5 / 2 := by
  change ((-5629499534213120 : Int) : ℚ) * 2 ^ (-51 : Int) = -5 / 2
  norm_num

end MipDispatch
