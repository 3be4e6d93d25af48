import MipDispatch.Proofs.Adapter.Declaration
import MipDispatch.Proofs.Adapter.Rows
import MipDispatch.Proofs.OneShot.Transcript

namespace MipDispatch

open Engine (Adapter)

namespace OneShot

/-- What the objective is refused for, where each of its variables is declared to be of one kind. -/
def objectiveFault? (o : Objective) (kind : VarKind) : Option SolveError :=
  if o.isQuadratic && kind.isIntegral && 0 < o.size then
    some (.unsupported Adapter.name .quadraticOverIntegers)
  else (o.quadratic.keys.find? (o.size ≤ ·.high)).map fun q =>
    .invalidProblem (.outOfRange .objective q.high o.size)

def rowFault? (n : Nat) (c : Constraint) : Option SolveError :=
  if c.isQuadratic then some (.unsupported Adapter.name .quadraticConstraint)
  else (c.maxVariable.filter (n ≤ ·)).map fun v => .invalidProblem (.outOfRange .constraint v n)

def firstFault? (o : Objective) (cs : List Constraint) (kind : VarKind) : Option SolveError :=
  (objectiveFault? o kind).or (cs.findSome? (rowFault? o.size))

/-- A problem without fault, that has as many variables as the objective has coefficients. -/
structure Acceptable (o : Objective) (cs : List Constraint) (kind : VarKind) : Prop where
  products_within : ∀ q ∈ o.quadratic.keys, q.low < o.size ∧ q.high < o.size
  continuous : o.isQuadratic = true → kind = .continuous
  rows_linear : ∀ c ∈ cs, c.isQuadratic = false
  rows_within : ∀ c ∈ cs, c.Within o.size

variable {o : Objective} {cs : List Constraint} {c : Constraint} {kind : VarKind} {n : Nat}

theorem isIntegral_eq_false_iff : kind.isIntegral = false ↔ kind = .continuous := by
  cases kind <;> decide

theorem exists_product (hquad : o.isQuadratic = true) : ∃ q, q ∈ o.quadratic.keys := by
  rw [Objective.isQuadratic, Bool.not_eq_true', SortedMap.isEmpty,
    List.isEmpty_eq_false_iff] at hquad
  obtain ⟨e, he⟩ := List.exists_mem_of_ne_nil _ hquad
  exact ⟨e.1, List.mem_map_of_mem he⟩

theorem objectiveFault?_eq_none_iff : objectiveFault? o kind = none ↔
    (∀ q ∈ o.quadratic.keys, q.low < o.size ∧ q.high < o.size) ∧
      (o.isQuadratic = true → kind = .continuous) := by
  have hproducts : o.quadratic.keys.find? (o.size ≤ ·.high) = none ↔
      ∀ q ∈ o.quadratic.keys, q.low < o.size ∧ q.high < o.size := by
    rw [List.find?_eq_none]
    refine forall₂_congr fun q _ => ?_
    rw [decide_eq_true_eq, Nat.not_le]
    exact ⟨fun hq => ⟨Nat.lt_of_le_of_lt q.low_le_high hq, hq⟩, And.right⟩
  unfold objectiveFault?
  split
  next hfault =>
    simp only [Bool.and_eq_true, decide_eq_true_eq] at hfault
    refine iff_of_false (by simp) fun hok => ?_
    rw [hok.2 hfault.1.1] at hfault
    cases hfault.1.2
  next hfault =>
    rw [Option.map_eq_none_iff, hproducts]
    refine ⟨fun hin => ⟨hin, fun hquad => ?_⟩, And.left⟩
    -- a product within the range leaves no room for a problem without variables
    have hpos : 0 < o.size := by
      obtain ⟨q, hq⟩ := exists_product hquad
      exact Nat.zero_lt_of_lt (hin q hq).1
    simpa [hquad, hpos, isIntegral_eq_false_iff] using hfault

theorem rowFault?_eq_none_iff :
    rowFault? n c = none ↔ c.isQuadratic = false ∧ c.Within n := by
  rw [← Constraint.maxVariable_lt_iff]
  unfold rowFault?
  cases c.isQuadratic <;> cases c.maxVariable <;> simp [Option.filter]

theorem firstFault?_eq_none_iff : firstFault? o cs kind = none ↔ Acceptable o cs kind := by
  rw [firstFault?, Option.or_eq_none_iff, objectiveFault?_eq_none_iff, List.findSome?_eq_none_iff]
  simp only [rowFault?_eq_none_iff]
  constructor
  · rintro ⟨⟨hproducts, hkind⟩, hrows⟩
    exact ⟨hproducts, hkind, fun c hc => (hrows c hc).1, fun c hc => (hrows c hc).2⟩
  · intro hok
    exact ⟨⟨hok.products_within, hok.continuous⟩,
      fun c hc => ⟨hok.rows_linear c hc, hok.rows_within c hc⟩⟩

def posed (a : Adapter) (o : Objective) : Adapter :=
  { a with problem := { a.problem with objective := o.grow o.size } }

section Refusals

variable {a : Adapter}

theorem integralCount_blank {p : Problem} (hblank : p.Blank n kind ∅) :
    p.integralCount = if kind.isIntegral then n else 0 := by
  have hkinds : p.kinds = List.replicate n kind :=
    List.eq_replicate_iff.2 ⟨hblank.size, fun k hk => by
      obtain ⟨v, hv, rfl⟩ := List.mem_iff_getElem.1 hk
      have hkind := hblank.kinds v (hblank.size ▸ hv)
      rw [List.getElem?_eq_getElem hv] at hkind
      exact Option.some.inj hkind⟩
  rw [Problem.integralCount, hkinds, List.filter_replicate]
  split
  · exact List.length_replicate
  · rfl

theorem setObjective_eq (hblank : a.problem.Blank o.size kind ∅) :
    a.setObjective o = match objectiveFault? o kind with
      | some e => .refuse e a
      | none => .done (posed a o) := by
  have hsize := hblank.size
  -- no coefficient stands past the last variable
  have hstray : a.problem.strayInObjective? o =
      (o.quadratic.keys.find? (o.size ≤ ·.high)).map (·.high) := by
    have hnone : o.linear.zipIdx.drop o.size = [] := by simp [Objective.size]
    rw [Problem.strayInObjective?, hsize, hnone]
    rfl
  have hready : a.problem.requireDeclared "set_objective" = .ok () :=
    Problem.requireDeclared_eq_ok_iff.2 hblank.declared
  unfold Adapter.setObjective Adapter.checkKinds Problem.setObjective Problem.checkObjective
  rw [Adapter.checkObjective_eq_ok, hready, hstray, integralCount_blank hblank, hsize]
  have hkind : (o.isQuadratic && decide (0 < if kind.isIntegral then o.size else 0)) =
      (o.isQuadratic && kind.isIntegral && decide (0 < o.size)) := by
    cases kind.isIntegral <;> simp
  rw [hkind, objectiveFault?]
  cases o.isQuadratic && kind.isIntegral && decide (0 < o.size) with
  | true => rfl
  | false => cases o.quadratic.keys.find? (o.size ≤ ·.high) <;> rfl

theorem addConstraint_eq (hdecl : a.problem.declared = true) (c : Constraint) :
    a.addConstraint c = match rowFault? a.problem.size c with
      | some e => .refuse e a
      | none => .done (a.withRows (a.problem.rows ++ [c])) := by
  have hready : a.problem.requireDeclared "add_constraint" = .ok () :=
    Problem.requireDeclared_eq_ok_iff.2 hdecl
  unfold Adapter.addConstraint Capabilities.checkConstraint Problem.addRow Problem.checkRow
    rowFault?
  rw [hready]
  cases c.isQuadratic with
  | true => rfl
  | false =>
    cases c.maxVariable with
    | none => rfl
    | some v =>
      rcases Nat.lt_or_ge v a.problem.size with hv | hv
      · dsimp only
        rw [if_neg (Nat.not_le.2 hv), Option.filter_some_neg (by simpa using hv)]
        rfl
      · dsimp only
        rw [if_pos hv, Option.filter_some_pos (by simpa using hv)]
        rfl

end Refusals

end OneShot

end MipDispatch
