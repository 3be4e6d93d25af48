import MipDispatch.Model.Variable
import MipDispatch.Proofs.Number.Exact

namespace MipDispatch

open Float.Model Float.Model.UnpackedFloat

def IsStored : UnpackedFloat → Prop
  | .finite _ m e _ => Stored m e
  | .zero _ => True
  | .infinity _ | .notANumber => False

/-- The number that a float stands for, or the end of the line that it is at. What is not a number
is no element of the line, and counts as zero. -/
def extended : UnpackedFloat → WithBot (WithTop ℚ)
  | .infinity .positive => ⊤
  | .infinity .negative => ⊥
  | u => ((unpackedValue u : WithTop ℚ) : WithBot (WithTop ℚ))

def extendedValue (x : Float) : WithBot (WithTop ℚ) := extended x.toModel.unpack

theorem isStored_of_isFinite {x : Float} (h : x.isFinite = true) : IsStored x.toModel.unpack := by
  change x.toModel.unpack.isFinite = true at h
  cases hx : x.toModel.unpack with
  | infinity s | notANumber =>
    rw [hx] at h
    cases h
  | zero s => trivial
  | finite s m e hm => exact stored_of_unpack hx

theorem extended_of_isStored {u : UnpackedFloat} (h : IsStored u) :
    extended u = ((unpackedValue u : WithTop ℚ) : WithBot (WithTop ℚ)) := by
  cases u with
  | infinity s | notANumber => exact h.elim
  | zero s | finite s m e hm => rfl

section Compare

variable {m m' : Nat} {e e' : Int}

theorem value_pos (hm : 0 < m) (e : Int) : (0 : ℚ) < m * 2 ^ e := by positivity

theorem compare_map {α β : Type} [LinearOrder α] [LinearOrder β] {f : α → β} (hf : StrictMono f)
    (a b : α) : compare (f a) (f b) = compare a b := by
  rw [← cmp_eq_compare, ← cmp_eq_compare]
  exact hf.cmp_map_eq a b

/-- A stored number is below every mantissa with a leading one and a larger exponent. -/
theorem Stored.lt_leading (h : Stored m e) (hlt : e < e') : (m : ℚ) * 2 ^ e < 2 ^ 52 * 2 ^ e' := by
  have hm : (m : ℚ) < 2 ^ 53 := by exact_mod_cast h.mantissa_lt
  calc (m : ℚ) * 2 ^ e < 2 ^ 53 * 2 ^ e := by gcongr
    _ = 2 ^ 52 * 2 ^ (e + 1) := by
      rw [zpow_add_one₀ two_ne_zero]
      ring
    _ ≤ 2 ^ 52 * 2 ^ e' := by
      gcongr
      · exact one_le_two
      · omega

theorem Stored.lt_of_exponent_lt (h : Stored m e) (h' : Stored m' e') (hlt : e < e') :
    (m : ℚ) * 2 ^ e < m' * 2 ^ e' := by
  have hleast := h.least_le
  have hleading : 2 ^ 52 ≤ m' := by
    by_contra hsmall
    have := h'.subnormal (by omega)
    omega
  have hm' : (2 ^ 52 : ℚ) ≤ m' := by exact_mod_cast hleading
  exact (h.lt_leading hlt).trans_le (by gcongr)

theorem Stored.compare_eq (h : Stored m e) (h' : Stored m' e') :
    (compare e e').then (compare m m') = compare ((m : ℚ) * 2 ^ e) (m' * 2 ^ e') := by
  rcases lt_trichotomy e e' with hlt | rfl | hlt
  · rw [compare_lt_iff_lt.2 hlt, compare_lt_iff_lt.2 (h.lt_of_exponent_lt h' hlt)]
    rfl
  · have hmono : StrictMono fun n : Nat => (n : ℚ) * 2 ^ e :=
      Nat.strictMono_cast.mul_const (by positivity)
    rw [compare_eq_iff_eq.2 rfl, Ordering.eq_then]
    exact (compare_map hmono m m').symm
  · rw [compare_gt_iff_gt.2 hlt, compare_gt_iff_gt.2 (h'.lt_of_exponent_lt h hlt)]
    rfl

theorem unpackedValue_negative (m : Nat) (e : Int) (hm : 0 < m) :
    unpackedValue (.finite .negative m e hm) = -(m * 2 ^ e) := by
  change ((-(m : Int) : Int) : ℚ) * 2 ^ e = _
  push_cast
  ring

theorem negative_lt_zero (hm : 0 < m) (e : Int) :
    unpackedValue (.finite .negative m e hm) < 0 := by
  rw [unpackedValue_negative]
  exact neg_lt_zero.2 (value_pos hm e)

theorem compare_stored {u v : UnpackedFloat} (hu : IsStored u) (hv : IsStored v) :
    u.compare v = some (compare (unpackedValue u) (unpackedValue v)) := by
  cases u with
  | infinity s | notANumber => exact hu.elim
  | zero s =>
    cases v with
    | infinity s' | notANumber => exact hv.elim
    | zero s' => exact congrArg some (compare_eq_iff_eq.2 rfl).symm
    | finite s' m' e' hm' =>
      cases s' with
      | negative => exact congrArg some (compare_gt_iff_gt.2 (negative_lt_zero hm' e')).symm
      | positive => exact congrArg some (compare_lt_iff_lt.2 (value_pos hm' e')).symm
  | finite s m e hm =>
    cases v with
    | infinity s' | notANumber => exact hv.elim
    | zero s' =>
      cases s with
      | negative => exact congrArg some (compare_lt_iff_lt.2 (negative_lt_zero hm e)).symm
      | positive => exact congrArg some (compare_gt_iff_gt.2 (value_pos hm e)).symm
    | finite s' m' e' hm' =>
      -- With one sign the magnitudes decide, the other way round for negative numbers.
      cases s <;> cases s'
      case negative.negative =>
        have hanti : StrictAnti fun q : ℚ => -q := fun _ _ => neg_lt_neg
        refine congrArg some ?_
        rw [unpackedValue_negative, unpackedValue_negative, Stored.compare_eq hu hv,
          ← cmp_eq_compare, ← cmp_eq_compare, cmp_swap]
        exact (hanti.cmp_map_eq _ _).symm
      case negative.positive =>
        have hlt := (negative_lt_zero hm e).trans (value_pos hm' e')
        exact congrArg some (compare_lt_iff_lt.2 hlt).symm
      case positive.negative =>
        have hlt := (negative_lt_zero hm' e').trans (value_pos hm e)
        exact congrArg some (compare_gt_iff_gt.2 hlt).symm
      case positive.positive => exact congrArg some (Stored.compare_eq hu hv)

theorem bot_lt_extended {u : UnpackedFloat} (h : IsStored u) : ⊥ < extended u := by
  rw [extended_of_isStored h]
  exact WithBot.bot_lt_coe _

theorem extended_lt_top {u : UnpackedFloat} (h : IsStored u) : extended u < ⊤ := by
  rw [extended_of_isStored h]
  exact WithBot.coe_lt_coe.2 (WithTop.coe_lt_top _)

variable {u v : UnpackedFloat}

theorem infinity_compare (s : Sign) (hv : IsStored v) :
    (UnpackedFloat.infinity s).compare v =
      some (compare (extended (.infinity s)) (extended v)) := by
  have hbottom := bot_lt_extended hv
  have htop := extended_lt_top hv
  cases v with
  | infinity s' | notANumber => exact hv.elim
  | zero s' | finite s' m e hm =>
    cases s with
    | negative => exact congrArg some (compare_lt_iff_lt.2 hbottom).symm
    | positive => exact congrArg some (compare_gt_iff_gt.2 htop).symm

theorem compare_infinity (hu : IsStored u) (s : Sign) :
    u.compare (.infinity s) = some (compare (extended u) (extended (.infinity s))) := by
  have hbottom := bot_lt_extended hu
  have htop := extended_lt_top hu
  cases u with
  | infinity s' | notANumber => exact hu.elim
  | zero s' | finite s' m e hm =>
    cases s with
    | negative => exact congrArg some (compare_gt_iff_gt.2 hbottom).symm
    | positive => exact congrArg some (compare_lt_iff_lt.2 htop).symm

theorem compare_extended (hu : (∃ s, u = .infinity s) ∨ IsStored u)
    (hv : (∃ s, v = .infinity s) ∨ IsStored v) :
    u.compare v = some (compare (extended u) (extended v)) := by
  rcases hu with ⟨s, rfl⟩ | hu <;> rcases hv with ⟨s', rfl⟩ | hv
  · have hends : (⊥ : WithBot (WithTop ℚ)) < ⊤ := bot_lt_top
    cases s <;> cases s'
    · exact congrArg some (compare_eq_iff_eq.2 rfl).symm
    · exact congrArg some (compare_lt_iff_lt.2 hends).symm
    · exact congrArg some (compare_gt_iff_gt.2 hends).symm
    · exact congrArg some (compare_eq_iff_eq.2 rfl).symm
  · exact infinity_compare s hv
  · exact compare_infinity hu s'
  · rw [compare_stored hu hv, extended_of_isStored hu, extended_of_isStored hv]
    have hmono : StrictMono fun q : ℚ => ((q : WithTop ℚ) : WithBot (WithTop ℚ)) :=
      WithBot.coe_strictMono.comp WithTop.coe_strictMono
    exact congrArg some (compare_map hmono _ _).symm

end Compare

section Order

variable {x y : Float}

theorem infinite_or_isFinite (hx : x.isNaN = false) :
    (∃ s, x.toModel.unpack = .infinity s) ∨ x.isFinite = true := by
  change x.toModel.unpack.isNaN = false at hx
  change _ ∨ x.toModel.unpack.isFinite = true
  cases hunpack : x.toModel.unpack with
  | infinity s => exact .inl ⟨s, rfl⟩
  | notANumber =>
    rw [hunpack] at hx
    cases hx
  | zero s | finite s m e hm => exact .inr rfl

theorem compare_eq_extendedValue (hx : x.isNaN = false) (hy : y.isNaN = false) :
    x.toModel.unpack.compare y.toModel.unpack =
      some (compare (extendedValue x) (extendedValue y)) :=
  compare_extended ((infinite_or_isFinite hx).imp_right isStored_of_isFinite)
    ((infinite_or_isFinite hy).imp_right isStored_of_isFinite)

theorem le_iff_extendedValue (hx : x.isNaN = false) (hy : y.isNaN = false) :
    x ≤ y ↔ extendedValue x ≤ extendedValue y := by
  have hle : x ≤ y ↔ (x.toModel.unpack.compare y.toModel.unpack).any (·.isLE) = true :=
    decide_eq_true_iff
  rw [hle, compare_eq_extendedValue hx hy]
  exact Std.LawfulBCmp.isLE_iff_le

theorem lt_iff_extendedValue (hx : x.isNaN = false) (hy : y.isNaN = false) :
    x < y ↔ extendedValue x < extendedValue y := by
  have hlt : x < y ↔ (x.toModel.unpack.compare y.toModel.unpack == some .lt) = true :=
    decide_eq_true_iff
  rw [hlt, compare_eq_extendedValue hx hy, beq_iff_eq, Option.some_inj]
  exact compare_lt_iff_lt

theorem beq_iff_extendedValue (hx : x.isNaN = false) (hy : y.isNaN = false) :
    (x == y) = true ↔ extendedValue x = extendedValue y := by
  change (x.toModel.unpack.compare y.toModel.unpack == some .eq) = true ↔ _
  rw [compare_eq_extendedValue hx hy, beq_iff_eq, Option.some_inj]
  exact compare_eq_iff_eq

theorem isNaN_of_isFinite (h : x.isFinite = true) : x.isNaN = false := by
  change x.toModel.unpack.isFinite = true at h
  change x.toModel.unpack.isNaN = false
  cases hx : x.toModel.unpack with
  | notANumber =>
    rw [hx] at h
    cases h
  | infinity s | zero s | finite s m e hm => rfl

theorem le_iff_exactValue (hx : x.isFinite = true) (hy : y.isFinite = true) :
    x ≤ y ↔ exactValue x ≤ exactValue y := by
  rw [le_iff_extendedValue (isNaN_of_isFinite hx) (isNaN_of_isFinite hy), extendedValue,
    extendedValue, extended_of_isStored (isStored_of_isFinite hx),
    extended_of_isStored (isStored_of_isFinite hy), WithBot.coe_le_coe, WithTop.coe_le_coe]
  rfl

/-- What is compared is a number. -/
theorem isNaN_of_le (h : x ≤ y) : x.isNaN = false ∧ y.isNaN = false := by
  have hle : (x.toModel.unpack.compare y.toModel.unpack).any (·.isLE) = true :=
    of_decide_eq_true h
  change x.toModel.unpack.isNaN = false ∧ y.toModel.unpack.isNaN = false
  cases hx : x.toModel.unpack with
  | notANumber =>
    rw [hx] at hle
    cases hle
  | infinity s | zero s | finite s m e hm =>
    refine ⟨rfl, ?_⟩
    cases hy : y.toModel.unpack with
    | notANumber =>
      rw [hx, hy] at hle
      cases hle
    | infinity s' | zero s' | finite s' m' e' hm' => rfl

theorem le_chain {z : Float} (hxy : x ≤ y) (hyz : y ≤ z) : x ≤ z := by
  obtain ⟨hx, hy⟩ := isNaN_of_le hxy
  obtain ⟨_, hz⟩ := isNaN_of_le hyz
  rw [le_iff_extendedValue hx hy] at hxy
  rw [le_iff_extendedValue hy hz] at hyz
  rw [le_iff_extendedValue hx hz]
  exact hxy.trans hyz

theorem le_of_not_gt_number (hx : x.isNaN = false) (hy : y.isNaN = false) (h : ¬ y < x) :
    x ≤ y := by
  rw [lt_iff_extendedValue hy hx] at h
  rw [le_iff_extendedValue hx hy]
  exact not_lt.1 h

theorem between_ends (hx : x.isNaN = false) : -infinity ≤ x ∧ x ≤ infinity := by
  have hbottom : extendedValue (-infinity) = ⊥ := rfl
  have htop : extendedValue infinity = ⊤ := rfl
  rw [le_iff_extendedValue rfl hx, le_iff_extendedValue hx rfl, hbottom, htop]
  exact ⟨bot_le, le_top⟩

end Order

end MipDispatch
