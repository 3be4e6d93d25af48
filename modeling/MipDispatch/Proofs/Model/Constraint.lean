import Mathlib.Order.Bounds.Basic
import MipDispatch.Proofs.Model.Objective
import MipDispatch.Proofs.Model.Range
import MipDispatch.Proofs.Number.Order

namespace MipDispatch

/-- Stored is the last coefficient that was written for each variable, unless it is a zero. -/
structure LinearTerms.Records (terms : LinearTerms) (writes : List (Nat × Float)) : Prop where
  stored : ∀ v x, (v, x) ∈ terms.entries ↔ lastLinear? writes v = some x ∧ (x == 0) = false
  distinct : terms.keys.Nodup

/-- Stored is the last coefficient that was written for two variables, in either order and under the
smaller id first, unless it is a zero. -/
structure QuadraticTerms.Records (terms : QuadraticTerms) (writes : List ((Nat × Nat) × Float)) :
    Prop where
  stored : ∀ q x, (q, x) ∈ terms.entries ↔
    lastProduct? writes q.low q.high = some x ∧ (x == 0) = false
  ordered : ∀ q ∈ terms.keys, q.low ≤ q.high
  distinct : terms.keys.Nodup

theorem LinearTerms.records_written (writes : List (Nat × Float)) :
    LinearTerms.Records ((∅ : LinearTerms).writeAll writes) writes where
  stored _ _ := SparseTerms.mem_entries_written
  distinct := SortedMap.keys_nodup _

theorem QuadraticTerms.records_written (writes : List ((Nat × Nat) × Float)) :
    QuadraticTerms.Records ((∅ : QuadraticTerms).writeAll (writes.map productTerm)) writes where
  stored q x := by
    rw [SparseTerms.mem_entries_written, ← lastProduct?_eq, VarPair.of_low_high]
  ordered q _ := q.low_le_high
  distinct := SortedMap.keys_nodup _

theorem QuadraticTerms.coefficient_written (writes : List ((Nat × Nat) × Float)) (i j : Nat) :
    ((∅ : QuadraticTerms).writeAll (writes.map productTerm)).coefficient (.of i j) =
      readOf (lastProduct? writes i j) := by
  rw [SparseTerms.coefficient_written, lastProduct?_eq]

section SelfEqual

variable {κ : Type} [BEq κ] [ReflBEq κ]

theorem beq_self_of_number {x : Float} (hx : x.isNaN = false) : (x == x) = true :=
  (beq_iff_extendedValue hx hx).2 rfl

theorem entries_beq_self {es : List (κ × Float)} (h : ∀ e ∈ es, e.2.isNaN = false) :
    (es == es) = true := by
  induction es with
  | nil => rfl
  | cons e es ih =>
    obtain ⟨he, hes⟩ := List.forall_mem_cons.1 h
    have hfirst : (e == e) = true := by
      change (e.1 == e.1 && e.2 == e.2) = true
      rw [beq_self_eq_true, beq_self_of_number he]
      rfl
    rw [List.cons_beq_cons, hfirst, ih hes]
    rfl

end SelfEqual

namespace Constraint

inductive Origin where
  | empty
  | linear (coefficients : List Float) (relation : Relation) (value : Float)

inductive Edit where
  | linear (v : Nat) (a : Float)
  | quadratic (i j : Nat) (a : Float)
  | quadratics (terms : List ((Nat × Nat) × Float))
  | relation (relation : Relation)
  | value (value : Float)
  | bound (relation : Relation) (value : Float)

structure Recipe where
  origin : Origin
  edits : List Edit

def Origin.constraint : Origin → Constraint
  | empty => .empty
  | linear coefficients relation value => .ofLinear coefficients relation value

def Origin.linearWrites : Origin → List (Nat × Float)
  | empty => []
  | linear coefficients .. => coefficients.zipIdx.map Prod.swap

namespace Edit

def linearWrites : Edit → List (Nat × Float)
  | linear v a => [(v, a)]
  | quadratic .. | quadratics _ | relation _ | value _ | bound .. => []

def productWrites : Edit → List ((Nat × Nat) × Float)
  | quadratic i j a => [((i, j), a)]
  | quadratics terms => terms
  | linear .. | relation _ | value _ | bound .. => []

end Edit

def edit (c : Constraint) : Edit → Constraint
  | .linear v a => c.setLinear v a
  | .quadratic i j a => c.setQuadratic i j a
  | .quadratics terms => c.withQuadratic terms
  | .relation relation => { c with relation }
  | .value value => { c with value }
  | .bound relation value => c.withRelation relation value

namespace Recipe

def constraint (r : Recipe) : Constraint := r.edits.foldl edit r.origin.constraint

def linearWrites (r : Recipe) : List (Nat × Float) :=
  r.origin.linearWrites ++ r.edits.flatMap Edit.linearWrites

def productWrites (r : Recipe) : List ((Nat × Nat) × Float) := r.edits.flatMap Edit.productWrites

end Recipe

section Edits

variable (c : Constraint)

theorem withQuadratic_eq (terms : List ((Nat × Nat) × Float)) : c.withQuadratic terms =
    { c with quadratic := c.quadratic.writeAll (terms.map productTerm) } := by
  induction terms generalizing c with
  | nil => rfl
  | cons t terms ih => exact ih (c.setQuadratic t.1.1 t.1.2 t.2)

theorem ofLinear_eq (coefficients : List Float) (relation : Relation) (value : Float) :
    ofLinear coefficients relation value =
      { linear := (∅ : LinearTerms).writeAll (coefficients.zipIdx.map Prod.swap)
        quadratic := ∅, relation, value } := by
  have hwrites (ws : List (Float × Nat)) (terms : LinearTerms) :
      ws.foldl (fun c w => setLinear c w.2 w.1) ⟨terms, ∅, relation, value⟩ =
        ⟨terms.writeAll (ws.map Prod.swap), ∅, relation, value⟩ := by
    induction ws generalizing terms with
    | nil => rfl
    | cons w ws ih => exact ih (terms.write w.2 w.1)
  exact hwrites coefficients.zipIdx ∅

theorem edit_linear (e : Edit) : (c.edit e).linear = c.linear.writeAll e.linearWrites := by
  cases e with
  | quadratics terms =>
    change (c.withQuadratic terms).linear = _
    rw [withQuadratic_eq]
    rfl
  | linear v a | quadratic i j a | relation r | value x | bound r x => rfl

theorem edit_quadratic (e : Edit) :
    (c.edit e).quadratic = c.quadratic.writeAll (e.productWrites.map productTerm) := by
  cases e with
  | quadratics terms =>
    change (c.withQuadratic terms).quadratic = _
    rw [withQuadratic_eq]
    rfl
  | linear v a | quadratic i j a | relation r | value x | bound r x => rfl

end Edits

namespace Recipe

variable (r : Recipe)

theorem linear_constraint :
    r.constraint.linear = (∅ : LinearTerms).writeAll r.linearWrites := by
  have horigin : r.origin.constraint.linear = (∅ : LinearTerms).writeAll r.origin.linearWrites := by
    cases r.origin with
    | empty => rfl
    | linear coefficients relation value =>
      exact congrArg Constraint.linear (ofLinear_eq coefficients relation value)
  rw [constraint, SparseTerms.foldl_writeAll linear edit_linear, horigin, linearWrites,
    SparseTerms.writeAll_append]

theorem quadratic_constraint :
    r.constraint.quadratic = (∅ : QuadraticTerms).writeAll (r.productWrites.map productTerm) := by
  have horigin : r.origin.constraint.quadratic = ∅ := by
    cases r.origin with
    | empty => rfl
    | linear coefficients relation value =>
      exact congrArg Constraint.quadratic (ofLinear_eq coefficients relation value)
  rw [constraint, SparseTerms.foldl_writeAll quadratic edit_quadratic, horigin, productWrites,
    List.map_flatMap]

theorem records_linear : r.constraint.linear.Records r.linearWrites := by
  rw [r.linear_constraint]
  exact LinearTerms.records_written r.linearWrites

theorem records_products : r.constraint.quadratic.Records r.productWrites := by
  rw [r.quadratic_constraint]
  exact QuadraticTerms.records_written r.productWrites

/-- What was written last, zeros apart, is all there is to a row. -/
theorem constraint_eq {r r' : Recipe} (hrelation : r.constraint.relation = r'.constraint.relation)
    (hvalue : r.constraint.value = r'.constraint.value)
    (hlinear : ∀ v, (lastLinear? r.linearWrites v).bind kept? =
      (lastLinear? r'.linearWrites v).bind kept?)
    (hproducts : ∀ i j, (lastProduct? r.productWrites i j).bind kept? =
      (lastProduct? r'.productWrites i j).bind kept?) : r.constraint = r'.constraint := by
  have hl : r.constraint.linear = r'.constraint.linear := SparseTerms.ext_get? fun v => by
    rw [r.linear_constraint, r'.linear_constraint, SparseTerms.get?_written,
      SparseTerms.get?_written]
    exact hlinear v
  have hq : r.constraint.quadratic = r'.constraint.quadratic := SparseTerms.ext_get? fun q => by
    rw [r.quadratic_constraint, r'.quadratic_constraint, SparseTerms.get?_written,
      SparseTerms.get?_written, ← q.of_low_high, lastProduct?_eq, lastProduct?_eq]
    exact hproducts q.low q.high
  change Constraint.mk r.constraint.linear r.constraint.quadratic r.constraint.relation
    r.constraint.value = _
  rw [hl, hq, hrelation, hvalue]

end Recipe

def Mentions (c : Constraint) (v : Nat) : Prop :=
  v ∈ c.linear.keys ∨ ∃ q ∈ c.quadratic.keys, q.low = v ∨ q.high = v

section Largest

variable {c : Constraint}

theorem mentions_of_mem {v : Nat} (h : v ∈ c.linear.keys ++ c.quadratic.keys.map (·.high)) :
    c.Mentions v := by
  rcases List.mem_append.1 h with h | h
  · exact .inl h
  · obtain ⟨q, hq, rfl⟩ := List.mem_map.1 h
    exact .inr ⟨q, hq, .inr rfl⟩

/-- The larger id of a product is at least as large as the one that is mentioned. -/
theorem exists_mem_ge {v : Nat} (h : c.Mentions v) :
    ∃ w ∈ c.linear.keys ++ c.quadratic.keys.map (·.high), v ≤ w := by
  rcases h with h | ⟨q, hq, h⟩
  · exact ⟨v, List.mem_append_left _ h, Nat.le_refl v⟩
  · refine ⟨q.high, List.mem_append_right _ (List.mem_map_of_mem hq), ?_⟩
    rcases h with rfl | rfl
    · exact q.low_le_high
    · exact Nat.le_refl _

theorem maxVariable_eq_some_iff {m : Nat} :
    c.maxVariable = some m ↔ IsGreatest {v | c.Mentions v} m := by
  rw [maxVariable_eq_max?, List.max?_eq_some_iff]
  constructor
  · rintro ⟨hm, hle⟩
    refine ⟨mentions_of_mem hm, fun v hv => ?_⟩
    obtain ⟨w, hw, hvw⟩ := exists_mem_ge hv
    exact hvw.trans (hle w hw)
  · rintro ⟨hm, hle⟩
    obtain ⟨w, hw, hmw⟩ := exists_mem_ge hm
    obtain rfl : m = w := Nat.le_antisymm hmw (hle (mentions_of_mem hw))
    exact ⟨hw, fun v hv => hle (mentions_of_mem hv)⟩

theorem maxVariable_eq_none_iff : c.maxVariable = none ↔ ∀ v, ¬ c.Mentions v := by
  rw [maxVariable_eq_max?, List.max?_eq_none_iff, List.eq_nil_iff_forall_not_mem]
  refine ⟨fun h v hv => ?_, fun h v hv => h v (mentions_of_mem hv)⟩
  obtain ⟨w, hw, _⟩ := exists_mem_ge hv
  exact h w hw

end Largest

theorem beq_self {c : Constraint} (hvalue : c.value.isNaN = false)
    (hlinear : ∀ e ∈ c.linear.entries, e.2.isNaN = false)
    (hquadratic : ∀ e ∈ c.quadratic.entries, e.2.isNaN = false) : (c == c) = true := by
  change (c.linear.entries == c.linear.entries && (c.quadratic.entries == c.quadratic.entries &&
    (c.relation == c.relation && c.value == c.value))) = true
  rw [entries_beq_self hlinear, entries_beq_self hquadratic, beq_self_eq_true,
    beq_self_of_number hvalue]
  rfl

/-- Whatever is written in whatever order, the terms of a row record the last writes, and so do the
products of an objective. Nothing else is left: rows with the same relation, the same value
and the same last writes, where zeros and no write at all are the same, are one row. It also
compares equal to itself, unless there is something in it that is not a number. -/
theorem records_last_writes :
    (∀ r : Recipe,
      let c := r.constraint
      (∀ v, c.coefficient v = readOf (lastLinear? r.linearWrites v)) ∧
        (∀ i j, c.quadraticCoefficient i j = readOf (lastProduct? r.productWrites i j) ∧
          c.quadraticCoefficient j i = c.quadraticCoefficient i j) ∧
        c.linear.Records r.linearWrites ∧ c.quadratic.Records r.productWrites ∧
        (∀ m, c.maxVariable = some m ↔ IsGreatest {v | c.Mentions v} m) ∧
        (c.maxVariable = none ↔ ∀ v, ¬ c.Mentions v)) ∧
    (∀ r : Objective.Recipe,
      let o := r.objective
      (∀ i j, o.quadraticCoefficient i j = readOf (lastProduct? r.productWrites i j) ∧
        o.quadraticCoefficient j i = o.quadraticCoefficient i j) ∧
      o.quadratic.Records r.productWrites) ∧
    ∀ r r' : Recipe,
      let c := r.constraint
      let c' := r'.constraint
      c.relation = c'.relation → c.value = c'.value →
      (∀ v, (lastLinear? r.linearWrites v).bind kept? =
        (lastLinear? r'.linearWrites v).bind kept?) →
      (∀ i j, (lastProduct? r.productWrites i j).bind kept? =
        (lastProduct? r'.productWrites i j).bind kept?) →
      c = c' ∧ c.linear.entries = c'.linear.entries ∧ c.quadratic.entries = c'.quadratic.entries ∧
        c.text = c'.text ∧ c.linearVars = c'.linearVars ∧ c.isQuadratic = c'.isQuadratic ∧
        c.maxVariable = c'.maxVariable ∧ (∀ s, c.isViolated s = c'.isViolated s) ∧
        (c.value.isNaN = false →
          (∀ v x, lastLinear? r.linearWrites v = some x → x.isNaN = false) →
          (∀ i j x, lastProduct? r.productWrites i j = some x → x.isNaN = false) →
          (c == c') = true) := by
  refine ⟨fun r => ⟨fun v => ?_, fun i j => ⟨?_, ?_⟩, r.records_linear, r.records_products,
    fun _ => maxVariable_eq_some_iff, maxVariable_eq_none_iff⟩,
    fun r => ⟨fun i j => ⟨?_, ?_⟩, ?_⟩, ?_⟩
  · rw [coefficient, r.linear_constraint]
    exact SparseTerms.coefficient_written r.linearWrites v
  · rw [quadraticCoefficient, r.quadratic_constraint]
    exact QuadraticTerms.coefficient_written r.productWrites i j
  · rw [quadraticCoefficient, quadraticCoefficient, VarPair.of_comm]
  · rw [Objective.quadraticCoefficient, r.quadratic_objective]
    exact QuadraticTerms.coefficient_written r.productWrites i j
  · rw [Objective.quadraticCoefficient, Objective.quadraticCoefficient, VarPair.of_comm]
  · rw [r.quadratic_objective]
    exact QuadraticTerms.records_written r.productWrites
  · intro r r' c c' hrelation hvalue hlinears hproducts
    have hsame : c = c' := Recipe.constraint_eq hrelation hvalue hlinears hproducts
    rw [← hsame]
    refine ⟨rfl, rfl, rfl, rfl, rfl, rfl, rfl, fun _ => rfl, fun hnumber hnumbers hnumbers' => ?_⟩
    -- what is stored was written last, so all of it compares equal to itself
    refine beq_self hnumber (fun e he => ?_) fun e he => ?_
    · exact hnumbers e.1 e.2 ((r.records_linear.stored e.1 e.2).1 he).1
    · exact hnumbers' e.1.low e.1.high e.2 ((r.records_products.stored e.1 e.2).1 he).1

/-- One of the rows is written straight away. In the other a product is named the other way round
and written twice, and two coefficients are taken out again, by zeros of either sign. -/
theorem records_last_writes_rewritten :
    let r : Recipe := ⟨.linear [0, 1] .atMost 5, [.quadratic 0 1 3]⟩
    let r' : Recipe := ⟨.empty, [.quadratics [((1, 0), 7), ((1, 0), 3)], .linear 4 2, .linear 0 1,
      .bound .atMost 5, .linear 1 1, .linear 4 (-0.0), .linear 0 0]⟩
    r.constraint = r'.constraint ∧ r.constraint.text = r'.constraint.text ∧
      (r.constraint == r'.constraint) = true := by
  intro r r'
  obtain ⟨_, _, hrows⟩ := records_last_writes
  have hlinears (v : Nat) : (lastLinear? r.linearWrites v).bind kept? =
      (lastLinear? r'.linearWrites v).bind kept? := by
    rcases v with _ | _ | _ | _ | _ | v
    all_goals rfl
  have hproducts (i j : Nat) : (lastProduct? r.productWrites i j).bind kept? =
      (lastProduct? r'.productWrites i j).bind kept? := by
    have hwrites : r.productWrites.map productTerm = [(.of 0 1, 3)] := rfl
    have hwrites' : r'.productWrites.map productTerm = [(.of 0 1, 7), (.of 0 1, 3)] := rfl
    rw [← lastProduct?_eq, ← lastProduct?_eq, hwrites, hwrites']
    by_cases h : VarPair.of 0 1 = VarPair.of i j <;> simp [lastWrite?, writtenUnder, h]
  obtain ⟨hsame, _, _, htext, _, _, _, _, hequal⟩ := hrows r r' rfl rfl hlinears hproducts
  refine ⟨hsame, htext, hequal (by decide +kernel) (fun v x hx => ?_) fun i j x hx => ?_⟩
  · have hnumbers : ∀ w ∈ r.linearWrites, w.2.isNaN = false := by decide +kernel
    obtain ⟨w, hw, _, rfl⟩ := exists_of_lastWritten hx
    exact hnumbers w hw
  · have hnumbers : ∀ w ∈ r.productWrites, w.2.isNaN = false := by decide +kernel
    obtain ⟨w, hw, _, rfl⟩ := exists_of_lastWritten hx
    exact hnumbers w hw

end Constraint

end MipDispatch
