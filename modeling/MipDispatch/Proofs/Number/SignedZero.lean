import MipDispatch.Model.Relation
import MipDispatch.Model.Terms
import MipDispatch.Proofs.Number.Order

namespace MipDispatch

open Float.Model Float.Model.UnpackedFloat

/-- The same value: one that compares equal, or something that is not a number both times. -/
def SameValue (x y : Float) : Prop := x = y ∨ (x == y) = true

def withoutSign : UnpackedFloat → UnpackedFloat
  | .zero _ => .zero .positive
  | .infinity s => .infinity s
  | .notANumber => .notANumber
  | .finite s m e hm => .finite s m e hm

def unsigned (x : Float) : UnpackedFloat := withoutSign x.toModel.unpack

section Unpacked

theorem compare_withoutSign (u v : UnpackedFloat) :
    (withoutSign u).compare (withoutSign v) = u.compare v := by
  cases u with
  | zero s =>
    cases v with
    | zero s' | notANumber => rfl
    | infinity s' | finite s' m e hm => cases s' <;> rfl
  | infinity s | finite s m e hm => cases s <;> cases v <;> rfl
  | notANumber => rfl

theorem withoutSign_mul (u v : UnpackedFloat) :
    withoutSign (UnpackedFloat.mul .binary64 u v) =
      withoutSign (UnpackedFloat.mul .binary64 u (withoutSign v)) := by
  cases u <;> cases v <;> rfl

theorem withoutSign_add (u v : UnpackedFloat) :
    withoutSign (UnpackedFloat.add .binary64 u v) =
      withoutSign (UnpackedFloat.add .binary64 (withoutSign u) (withoutSign v)) := by
  cases u with
  | zero s =>
    cases v with
    | zero s' => cases s <;> cases s' <;> rfl
    | infinity s' | notANumber | finite s' m e hm => rfl
  | infinity s | notANumber | finite s m e hm => cases v <;> rfl

/-- Storing a number does not bring the sign of a zero back in. -/
theorem withoutSign_unpack_pack (u : UnpackedFloat) :
    withoutSign (Float.Model.pack u).unpack =
      withoutSign (Float.Model.pack (withoutSign u)).unpack := by
  cases u with
  | zero s => cases s <;> rfl
  | infinity s | notANumber | finite s m e hm => rfl

/-- Numbers that compare equal differ at most in the sign of a zero. -/
theorem withoutSign_eq_of_compare {u v : UnpackedFloat} (h : u.compare v = some .eq) :
    withoutSign u = withoutSign v := by
  cases u with
  | notANumber => cases h
  | zero s =>
    cases v with
    | zero s' => rfl
    | notANumber => cases h
    | infinity s' | finite s' m e hm => cases s' <;> cases h
  | infinity s =>
    cases v with
    | infinity s' =>
      cases s <;> cases s'
      · rfl
      · cases h
      · cases h
      · rfl
    | notANumber => cases h
    | zero s' | finite s' m e hm => cases s <;> cases h
  | finite s m e hm =>
    cases v with
    | notANumber => cases h
    | zero s' => cases s <;> cases h
    | infinity s' => cases s <;> cases s' <;> cases h
    | finite s' m' e' hm' =>
      have hboth (h : (compare e e').then (compare m m') = .eq) : e = e' ∧ m = m' := by
        rwa [Ordering.then_eq_eq, Std.compare_eq_iff_eq, Std.compare_eq_iff_eq] at h
      -- among negative numbers the order is turned round, and two signs are never equal
      cases s <;> cases s'
      · obtain ⟨rfl, rfl⟩ := hboth (Ordering.swap_eq_eq.1 (Option.some.inj h))
        rfl
      · cases h
      · cases h
      · obtain ⟨rfl, rfl⟩ := hboth (Option.some.inj h)
        rfl

end Unpacked

section Unsigned

variable {x x' y y' : Float}

theorem SameValue.unsigned_eq (h : SameValue x y) : unsigned x = unsigned y := by
  rcases h with rfl | h
  · rfl
  · exact withoutSign_eq_of_compare (beq_iff_eq.1 h)

theorem unsigned_mul (a x : Float) :
    unsigned (a * x) = withoutSign (Float.Model.pack (withoutSign
      (UnpackedFloat.mul .binary64 a.toModel.unpack (unsigned x)))).unpack := by
  change withoutSign (Float.Model.pack
    (UnpackedFloat.mul .binary64 a.toModel.unpack x.toModel.unpack)).unpack = _
  rw [withoutSign_unpack_pack, withoutSign_mul]
  rfl

theorem unsigned_add (x y : Float) :
    unsigned (x + y) = withoutSign (Float.Model.pack (withoutSign
      (UnpackedFloat.add .binary64 (unsigned x) (unsigned y)))).unpack := by
  change withoutSign (Float.Model.pack
    (UnpackedFloat.add .binary64 x.toModel.unpack y.toModel.unpack)).unpack = _
  rw [withoutSign_unpack_pack, withoutSign_add]
  rfl

theorem unsigned_mul_congr (a : Float) (h : unsigned x = unsigned y) :
    unsigned (a * x) = unsigned (a * y) := by
  rw [unsigned_mul, unsigned_mul, h]

theorem unsigned_add_congr (hx : unsigned x = unsigned x') (hy : unsigned y = unsigned y') :
    unsigned (x + y) = unsigned (x' + y') := by
  rw [unsigned_add, unsigned_add, hx, hy]

/-- Sums of the same values, one by one, differ at most in the sign of a zero. -/
theorem unsigned_sum_congr {α : Type} {f g : α → Float} {ts : List α}
    (h : ∀ t ∈ ts, unsigned (f t) = unsigned (g t)) :
    unsigned (sum (ts.map f)) = unsigned (sum (ts.map g)) := by
  -- the sums up to some term may differ in the sign of a zero too
  have hfold (x y : Float) (hxy : unsigned x = unsigned y) :
      unsigned ((ts.map f).foldl (· + ·) x) = unsigned ((ts.map g).foldl (· + ·) y) := by
    induction ts generalizing x y with
    | nil => exact hxy
    | cons t ts ih =>
      obtain ⟨ht, hrest⟩ := List.forall_mem_cons.1 h
      exact ih hrest _ _ (unsigned_add_congr hxy ht)
  exact hfold _ _ rfl

theorem compare_congr (hx : unsigned x = unsigned x') (hy : unsigned y = unsigned y') :
    x.toModel.unpack.compare y.toModel.unpack = x'.toModel.unpack.compare y'.toModel.unpack := by
  rw [← compare_withoutSign, ← compare_withoutSign x'.toModel.unpack]
  exact congrArg₂ UnpackedFloat.compare hx hy

theorem lt_congr (hx : unsigned x = unsigned x') (hy : unsigned y = unsigned y') :
    x < y ↔ x' < y' := by
  have hlt (a b : Float) : a < b ↔ (a.toModel.unpack.compare b.toModel.unpack == some .lt) = true :=
    decide_eq_true_iff
  rw [hlt, hlt, compare_congr hx hy]

theorem bne_congr (hx : unsigned x = unsigned x') (hy : unsigned y = unsigned y') :
    (x != y) = (x' != y') :=
  congrArg (fun o => !(o == some Ordering.eq)) (compare_congr hx hy)

theorem Relation.brokenBy_congr (r : Relation) (value : Float) (h : unsigned x = unsigned y) :
    r.brokenBy x value = r.brokenBy y value := by
  cases r with
  | atMost => exact decide_eq_decide.2 (lt_congr rfl h)
  | atLeast => exact decide_eq_decide.2 (lt_congr h rfl)
  | equal => exact bne_congr h rfl

end Unsigned

end MipDispatch
