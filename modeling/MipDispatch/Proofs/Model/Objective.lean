import Mathlib.Data.List.GetD
import Mathlib.Data.List.Induction
import MipDispatch.Model.Objective
import MipDispatch.Proofs.Model.Terms

namespace MipDispatch.Objective

inductive Origin where
  | zero (n : Nat)
  | linear (coefficients : List Float) (sense : Sense)

inductive Edit where
  | linear (v : Nat) (c : Float)
  | grow (n : Nat)
  | quadratic (i j : Nat) (c : Float)
  | quadratics (terms : List ((Nat × Nat) × Float))
  | sense (sense : Sense)
  | constant (constant : Float)

structure Recipe where
  origin : Origin
  edits : List Edit

namespace Origin

def objective : Origin → Objective
  | zero n => .zero n
  | linear coefficients sense => .ofLinear coefficients sense

def size : Origin → Nat
  | zero n => n
  | linear coefficients _ => coefficients.length

def linearWrites : Origin → List (Nat × Float)
  | zero _ => []
  | linear coefficients _ => coefficients.zipIdx.map Prod.swap

end Origin

namespace Edit

def linearWrites : Edit → List (Nat × Float)
  | linear v c => [(v, c)]
  | grow _ | quadratic .. | quadratics _ | sense _ | constant _ => []

def productWrites : Edit → List ((Nat × Nat) × Float)
  | quadratic i j c => [((i, j), c)]
  | quadratics terms => terms
  | linear .. | grow _ | sense _ | constant _ => []

/-- The sizes that the dense part has to reach. A product that is written by itself asks for
none. -/
def sizes : Edit → List Nat
  | linear v _ => [v + 1]
  | grow n => [n]
  | quadratics terms => terms.map fun t => max t.1.1 t.1.2 + 1
  | quadratic .. | sense _ | constant _ => []

def ids : Edit → List Nat
  | linear v _ => [v]
  | quadratic i j _ => [i, j]
  | quadratics terms => terms.flatMap fun t => [t.1.1, t.1.2]
  | grow _ | sense _ | constant _ => []

end Edit

def edit (o : Objective) : Edit → Objective
  | .linear v c => o.setLinear v c
  | .grow n => o.grow n
  | .quadratic i j c => o.setQuadratic i j c
  | .quadratics terms => o.withQuadratic terms
  | .sense sense => o.withSense sense
  | .constant constant => o.withConstant constant

namespace Recipe

def objective (r : Recipe) : Objective := r.edits.foldl edit r.origin.objective

def linearWrites (r : Recipe) : List (Nat × Float) :=
  r.origin.linearWrites ++ r.edits.flatMap Edit.linearWrites

def productWrites (r : Recipe) : List ((Nat × Nat) × Float) := r.edits.flatMap Edit.productWrites

def sizes (r : Recipe) : List Nat := r.origin.size :: r.edits.flatMap Edit.sizes

end Recipe

section Products

variable (o : Objective) (terms : List ((Nat × Nat) × Float))

theorem withQuadratic_quadratic :
    (o.withQuadratic terms).quadratic = o.quadratic.writeAll (terms.map productTerm) := by
  induction terms generalizing o with
  | nil => rfl
  | cons t terms ih =>
    change (((o.grow _).setQuadratic t.1.1 t.1.2 t.2).withQuadratic terms).quadratic = _
    rw [ih]
    rfl

@[simp] theorem coefficient_withQuadratic (v : Nat) :
    (o.withQuadratic terms).coefficient v = o.coefficient v := by
  induction terms generalizing o with
  | nil => rfl
  | cons t terms ih =>
    change (((o.grow _).setQuadratic t.1.1 t.1.2 t.2).withQuadratic terms).coefficient v = _
    rw [ih, coefficient_setQuadratic, coefficient_grow]

theorem size_withQuadratic : (o.withQuadratic terms).size =
    (terms.map fun t => max t.1.1 t.1.2 + 1).foldl max o.size := by
  induction terms generalizing o with
  | nil => rfl
  | cons t terms ih =>
    change (((o.grow _).setQuadratic t.1.1 t.1.2 t.2).withQuadratic terms).size = _
    rw [ih, size_setQuadratic, size_grow]
    rfl

end Products

section Edits

theorem edit_quadratic (o : Objective) (e : Edit) :
    (o.edit e).quadratic = o.quadratic.writeAll (e.productWrites.map productTerm) := by
  cases e with
  | quadratics terms => exact o.withQuadratic_quadratic terms
  | linear v c | grow n | quadratic i j c | sense s | constant c => rfl

theorem size_edit (o : Objective) (e : Edit) : (o.edit e).size = e.sizes.foldl max o.size := by
  cases e with
  | linear v c => exact o.size_setLinear v c
  | grow n => exact o.size_grow n
  | quadratics terms => exact o.size_withQuadratic terms
  | quadratic i j c | sense s | constant c => rfl

theorem coefficient_edit (o : Objective) (e : Edit) (v : Nat) :
    (o.edit e).coefficient v = (lastLinear? e.linearWrites v).getD (o.coefficient v) := by
  cases e with
  | linear w c =>
    change (o.setLinear w c).coefficient v = _
    rw [coefficient_setLinear]
    by_cases hv : v = w
    · simp [Edit.linearWrites, lastLinear?, lastWrite?, writtenUnder, hv]
    · simp [Edit.linearWrites, lastLinear?, lastWrite?, writtenUnder, hv, Ne.symm hv]
  | grow n => exact o.coefficient_grow n v
  | quadratics terms => exact o.coefficient_withQuadratic terms v
  | quadratic i j c | sense s | constant c => rfl

variable (o : Objective) (es : List Edit)

theorem size_foldl_edit : (es.foldl edit o).size = (es.flatMap Edit.sizes).foldl max o.size := by
  induction es generalizing o with
  | nil => rfl
  | cons e es ih =>
    rw [List.foldl_cons, ih, size_edit, List.flatMap_cons, List.foldl_append]

theorem size_le_edit (e : Edit) : o.size ≤ (o.edit e).size := by
  rw [size_edit, List.foldl_max]
  exact Nat.le_max_left ..

theorem size_le_foldl_edit : o.size ≤ (es.foldl edit o).size := by
  rw [size_foldl_edit, List.foldl_max]
  exact Nat.le_max_left ..

theorem coefficient_foldl_edit (v : Nat) : (es.foldl edit o).coefficient v =
    (lastLinear? (es.flatMap Edit.linearWrites) v).getD (o.coefficient v) := by
  induction es generalizing o with
  | nil => rfl
  | cons e es ih =>
    rw [List.foldl_cons, ih, coefficient_edit, List.flatMap_cons, lastLinear?, lastLinear?,
      lastLinear?, lastWrite?_append, Option.getD_or]

end Edits

/-- Dense coefficients are written one under each id. -/
theorem lastLinear?_zipIdx (coefficients : List Float) (v : Nat) :
    lastLinear? (coefficients.zipIdx.map Prod.swap) v = coefficients[v]? := by
  induction coefficients using List.reverseRecOn with
  | nil => rfl
  | append_singleton cs c ih =>
    rw [lastLinear?] at ih ⊢
    rw [List.zipIdx_append, List.map_append, lastWrite?_append, ih, Nat.zero_add]
    -- the coefficient at the end is written last, and under its position only
    rcases Nat.lt_trichotomy v cs.length with hv | rfl | hv
    · simp [lastWrite?, writtenUnder, List.getElem?_append_left hv, Nat.ne_of_gt hv]
    · simp [lastWrite?, writtenUnder]
    · have hpast : (cs ++ [c]).length ≤ v := by
        rw [List.length_append]
        exact hv
      rw [List.getElem?_eq_none hv.le, List.getElem?_eq_none hpast, Option.or_none]
      simp [lastWrite?, writtenUnder, Nat.ne_of_lt hv]

namespace Recipe

variable (r : Recipe)

theorem quadratic_objective :
    r.objective.quadratic = (∅ : QuadraticTerms).writeAll (r.productWrites.map productTerm) := by
  have hnone : r.origin.objective.quadratic = ∅ := by cases r.origin <;> rfl
  rw [objective, SparseTerms.foldl_writeAll quadratic edit_quadratic, hnone, productWrites,
    List.map_flatMap]

theorem sizes_max : r.sizes.max? = some r.objective.size := by
  have horigin : r.origin.objective.size = r.origin.size := by
    cases r.origin with
    | zero n => exact size_zero n
    | linear coefficients sense => rfl
  rw [objective, size_foldl_edit, horigin]
  exact List.max?_cons'

theorem coefficient_objective (v : Nat) :
    r.objective.coefficient v = (lastLinear? r.linearWrites v).getD 0 := by
  have horigin :
      r.origin.objective.coefficient v = (lastLinear? r.origin.linearWrites v).getD 0 := by
    cases r.origin with
    | zero n =>
      change (List.replicate n 0).getD v 0 = 0
      rw [List.getD_eq_getElem?_getD, List.getElem?_getD_replicate_default_eq]
    | linear coefficients sense =>
      change coefficients.getD v 0 = _
      rw [List.getD_eq_getElem?_getD, ← lastLinear?_zipIdx]
      rfl
  rw [objective, coefficient_foldl_edit, horigin, linearWrites, lastLinear?, lastLinear?,
    lastLinear?, lastWrite?_append, Option.getD_or]

end Recipe

end MipDispatch.Objective
