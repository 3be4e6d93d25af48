import MipDispatch.Proofs.Number.Rounding

namespace MipDispatch

open Float.Model Float.Model.UnpackedFloat

section Sum

variable {u v : UnpackedFloat}

/-- A number is the same with a smaller exponent and a mantissa that makes up for it. -/
theorem value_shiftLeft (s : Sign) (m : Nat) {e least : Int} (h : least ≤ e) :
    ((s.apply (m <<< (e - least).toNat : Nat) : Int) : ℚ) * 2 ^ least =
      ((s.apply m : Int) : ℚ) * 2 ^ e := by
  rw [apply_cast s (m <<< _), apply_cast s m, Nat.shiftLeft_eq, two_pow_sub h]
  push_cast
  ring

theorem add_rounds (hu : IsStored u) (hv : IsStored v) :
    Rounds (unpackedValue u + unpackedValue v) (UnpackedFloat.add .binary64 u v) := by
  cases u with
  | infinity s | notANumber => exact hu.elim
  | zero s =>
    have hzero : unpackedValue (.zero s) = 0 := rfl
    rw [hzero, zero_add]
    cases v with
    | infinity s' | notANumber => exact hv.elim
    | zero s' =>
      have hself (s : Sign) : Rounds 0 (.zero s) := Rounds.self (u := .zero s) trivial
      cases s <;> cases s' <;> exact hself _
    | finite s' m' e' hm' => exact Rounds.self hv
  | finite s m e hm =>
    cases v with
    | infinity s' | notANumber => exact hv.elim
    | zero s' =>
      have hzero : unpackedValue (.zero s') = 0 := rfl
      rw [hzero, add_zero]
      exact Rounds.self hu
    | finite s' m' e' hm' =>
      -- Both are brought to the smaller exponent, where the sum is exact; it is rounded once, at
      -- the end.
      have hvalue : unpackedValue (.finite s m e hm) + unpackedValue (.finite s' m' e' hm') =
          ((s.apply (m <<< (e - min e e').toNat : Nat) +
            s'.apply (m' <<< (e' - min e e').toNat : Nat) : Int) : ℚ) * 2 ^ min e e' := by
        rw [Int.cast_add, add_mul, value_shiftLeft s m (min_le_left e e'),
          value_shiftLeft s' m' (min_le_right e e')]
        rfl
      rw [hvalue]
      exact normalize_rounds _ _ _

theorem sub_eq_add_neg (u v : UnpackedFloat) :
    UnpackedFloat.sub .binary64 u v = UnpackedFloat.add .binary64 u v.neg := by
  have hneg (s : Sign) (n : Int) : (-s).apply n = -s.apply n := by cases s <;> simp [Sign.apply]
  cases u <;> cases v <;> try rfl
  next s m e hm s' m' e' hm' =>
    simp only [UnpackedFloat.sub, UnpackedFloat.add, UnpackedFloat.neg, hneg, Int.sub_eq_add_neg]

theorem isStored_neg (hv : IsStored v) : IsStored v.neg := by
  cases v with
  | infinity s | notANumber => exact hv.elim
  | zero s => trivial
  | finite s m e hm => exact hv

theorem unpackedValue_neg (v : UnpackedFloat) : unpackedValue v.neg = -unpackedValue v := by
  cases v with
  | infinity s | notANumber | zero s => exact neg_zero.symm
  | finite s m e hm =>
    cases s with
    | negative =>
      rw [unpackedValue_negative, neg_neg]
      rfl
    | positive => exact unpackedValue_negative m e hm

end Sum

section Pack

variable {x : Float} {u v : UnpackedFloat}

theorem exponent_le_of_unpack {x : Float.Model} {s : Sign} {m : Nat} {e : Int} {hm : 0 < m}
    (h : x.unpack = .finite s m e hm) : e ≤ 971 := by
  simp only [Float.Model.unpack, UnpackedFloat.unpack] at h
  generalize @unpackExponent Format.binary64 x.toBits.toBitVec = exponent at h
  have hlt : exponent.toNat < 2048 := exponent.isLt
  have hbias : (Format.binary64.exponentBias : Int) = 1023 := rfl
  split at h
  · split at h <;> cases h
  next hones =>
    have hones : exponent.toNat ≠ 2047 := fun h => hones (BitVec.eq_of_toNat_eq h)
    split at h
    next hzero =>
      split at h
      · cases h
      · obtain ⟨_, _, rfl⟩ := UnpackedFloat.finite.inj h
        rw [hzero]
        decide
    · obtain ⟨_, _, rfl⟩ := UnpackedFloat.finite.inj h
      rw [hbias]
      change (exponent.toNat : Int) - (1023 + 52) ≤ 971
      omega

theorem unpack_pack_infinity (s : Sign) :
    (Float.Model.pack (.infinity s)).unpack = .infinity s := by
  cases s <;> rfl

/-- A number comes back as it was packed, unless it is too large. -/
theorem unpack_pack (hu : IsStored u) : (Float.Model.pack u).unpack = u ∨
    ∃ s m e hm, u = .finite s m e hm ∧ 971 < e ∧ (Float.Model.pack u).unpack = .infinity s := by
  cases u with
  | infinity s | notANumber => exact hu.elim
  | zero s => cases s <;> exact .inl rfl
  | finite s m e hm =>
    rcases lt_or_ge 971 e with hlarge | hfits
    · refine .inr ⟨s, m, e, hm, rfl, hlarge, ?_⟩
      have hpack : UnpackedFloat.pack .binary64 (.finite s m e hm) =
          UnpackedFloat.pack .binary64 (.infinity s) := if_pos ((biased_lt_iff e).2 hlarge)
      change UnpackedFloat.unpack .binary64 (UnpackedFloat.pack .binary64 _) = _
      rw [hpack]
      exact unpack_pack_infinity s
    · exact .inl (Stored.unpack_pack hu hfits)

theorem abs_exactValue_lt (x : Float) {m : Nat} {e : Int} (h : Stored m e) (hlarge : 971 < e) :
    |exactValue x| < m * 2 ^ e := by
  have hleading : 0 < m := by
    by_contra hzero
    have := h.subnormal (by omega)
    omega
  unfold exactValue
  cases hunpack : x.toModel.unpack with
  | infinity s | notANumber | zero s =>
    change |(0 : ℚ)| < _
    rw [abs_zero]
    exact value_pos hleading e
  | finite s m' e' hm' =>
    have hfits := exponent_le_of_unpack hunpack
    have hlt := (stored_of_unpack hunpack).lt_of_exponent_lt h (by omega)
    have habs : |unpackedValue (.finite s m' e' hm')| = m' * 2 ^ e' := by
      have hpos := value_pos hm' e'
      cases s with
      | negative => rw [unpackedValue_negative, abs_neg, abs_of_pos hpos]
      | positive => exact abs_of_pos hpos
    rwa [habs]

theorem le_extended_pack (hx : x.isFinite = true) (hu : IsStored u)
    (h : exactValue x ≤ unpackedValue u) :
    extendedValue x ≤ extended (Float.Model.pack u).unpack := by
  rcases unpack_pack hu with hback | ⟨s, m, e, hm, rfl, hlarge, hinfinite⟩
  · rw [hback, extended_of_isStored hu]
    exact (extended_of_isStored (isStored_of_isFinite hx)).trans_le
      (WithBot.coe_le_coe.2 (WithTop.coe_le_coe.2 h))
  · rw [hinfinite]
    cases s with
    | positive => exact le_top
    | negative =>
      have hlt := abs_lt.1 (abs_exactValue_lt x hu hlarge)
      rw [unpackedValue_negative] at h
      exact absurd h hlt.1.not_ge

theorem extended_pack_le (hx : x.isFinite = true) (hu : IsStored u)
    (h : unpackedValue u ≤ exactValue x) :
    extended (Float.Model.pack u).unpack ≤ extendedValue x := by
  rcases unpack_pack hu with hback | ⟨s, m, e, hm, rfl, hlarge, hinfinite⟩
  · rw [hback, extended_of_isStored hu]
    exact (WithBot.coe_le_coe.2 (WithTop.coe_le_coe.2 h)).trans_eq
      (extended_of_isStored (isStored_of_isFinite hx)).symm
  · rw [hinfinite]
    cases s with
    | positive =>
      have hlt := abs_lt.1 (abs_exactValue_lt x hu hlarge)
      exact absurd h hlt.2.not_ge
    | negative => exact bot_le

theorem isNaN_pack (hu : IsStored u) : (Float.ofModel (.pack u)).isNaN = false := by
  change (Float.Model.pack u).unpack.isNaN = false
  rcases unpack_pack hu with hback | ⟨s, m, e, hm, rfl, _, hinfinite⟩
  · rw [hback]
    cases u with
    | infinity s | notANumber => exact hu.elim
    | zero s | finite s m e hm => rfl
  · rw [hinfinite]
    rfl

theorem add_infinity (s : Sign) (hv : IsStored v) :
    UnpackedFloat.add .binary64 (.infinity s) v = .infinity s := by
  cases v with
  | infinity s' | notANumber => exact hv.elim
  | zero s' | finite s' m e hm => rfl

/-- A sum is on the same side of its first part as zero is of the second; infinities stay. -/
theorem pack_add_bounds (hx : x.isNaN = false) (hv : IsStored v) :
    let y := Float.ofModel (.pack (UnpackedFloat.add .binary64 x.toModel.unpack v))
    (0 ≤ unpackedValue v → x ≤ y) ∧ (unpackedValue v ≤ 0 → y ≤ x) := by
  intro y
  rcases infinite_or_isFinite hx with ⟨s, hinfinite⟩ | hfinite
  · have hsame : y.toModel.unpack = x.toModel.unpack := by
      change (Float.Model.pack _).unpack = _
      rw [hinfinite, add_infinity s hv, unpack_pack_infinity]
    have hy : y.isNaN = false := (congrArg UnpackedFloat.isNaN hsame).trans hx
    rw [le_iff_extendedValue hx hy, le_iff_extendedValue hy hx]
    have hextended : extendedValue y = extendedValue x := congrArg extended hsame
    exact ⟨fun _ => hextended.ge, fun _ => hextended.le⟩
  · have hrounds := add_rounds (isStored_of_isFinite hfinite) hv
    have hy : y.isNaN = false := isNaN_pack hrounds.isStored
    rw [le_iff_extendedValue hx hy, le_iff_extendedValue hy hx]
    have hstored := isStored_of_isFinite hfinite
    refine ⟨fun h => le_extended_pack hfinite hrounds.isStored (hrounds.le _ hstored ?_),
      fun h => extended_pack_le hfinite hrounds.isStored (hrounds.ge _ hstored ?_)⟩
    · exact le_add_of_nonneg_right h
    · exact add_le_of_nonpos_right h

end Pack

section Step

variable {x t : Float}

theorem sub_eq_pack (x t : Float) : x - t =
    .ofModel (.pack (UnpackedFloat.add .binary64 x.toModel.unpack t.toModel.unpack.neg)) :=
  congrArg (fun u => Float.ofModel (.pack u)) (sub_eq_add_neg _ _)

/-- Adding what is not negative makes no number smaller. -/
theorem le_add_of_nonneg (hx : x.isNaN = false) (ht : t.isFinite = true) (h : 0 ≤ exactValue t) :
    x ≤ x + t :=
  (pack_add_bounds hx (isStored_of_isFinite ht)).1 h

theorem sub_le_of_nonneg (hx : x.isNaN = false) (ht : t.isFinite = true) (h : 0 ≤ exactValue t) :
    x - t ≤ x := by
  have hvalue : unpackedValue t.toModel.unpack.neg ≤ 0 := by
    rw [unpackedValue_neg]
    exact neg_nonpos.2 h
  rw [sub_eq_pack]
  exact (pack_add_bounds hx (isStored_neg (isStored_of_isFinite ht))).2 hvalue

/-- The difference of equal numbers is a zero, of one sign or the other. -/
theorem abs_sub_of_exactValue_eq {y : Float} (hx : x.isFinite = true) (hy : y.isFinite = true)
    (h : exactValue x = exactValue y) : (x - y).abs = 0 := by
  have hrounds := add_rounds (isStored_of_isFinite hx) (isStored_neg (isStored_of_isFinite hy))
  have hsum : unpackedValue x.toModel.unpack + unpackedValue y.toModel.unpack.neg = 0 := by
    rw [unpackedValue_neg]
    exact (congrArg (exactValue x + -·) h.symm).trans (add_neg_cancel _)
  rw [hsum] at hrounds
  rw [sub_eq_pack]
  generalize UnpackedFloat.add .binary64 x.toModel.unpack y.toModel.unpack.neg = u at hrounds
  have hzero : unpackedValue u = 0 :=
    le_antisymm (hrounds.ge (.zero .positive) trivial le_rfl)
      (hrounds.le (.zero .positive) trivial le_rfl)
  cases u with
  | infinity s | notANumber => exact hrounds.isStored.elim
  | zero s => cases s <;> rfl
  | finite s m e hm =>
    cases s with
    | negative => exact absurd hzero (negative_lt_zero hm e).ne
    | positive => exact absurd hzero (value_pos hm e).ne'

end Step

end MipDispatch
