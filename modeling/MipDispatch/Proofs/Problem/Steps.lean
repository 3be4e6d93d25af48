import MipDispatch.Problem
import MipDispatch.Proofs.Model.Range

namespace MipDispatch

section Checks

variable {ε α : Type}

theorem both_eq_ok_iff {x y : Except ε Unit} : x *> y = .ok () ↔ x = .ok () ∧ y = .ok () := by
  cases x with
  | error e =>
    constructor
    · intro h
      cases h
    · intro h
      cases h.1
  | ok u => exact ⟨fun h => ⟨rfl, h⟩, fun h => h.2⟩

theorem forM_eq_ok_iff {f : α → Except ε Unit} {xs : List α} :
    xs.forM f = .ok () ↔ ∀ x ∈ xs, f x = .ok () := by
  induction xs with
  | nil => exact ⟨fun _ x hx => (by cases hx), fun _ => rfl⟩
  | cons x xs ih =>
    rw [List.forall_mem_cons, ← ih]
    exact both_eq_ok_iff

end Checks

namespace Problem

variable {p : Problem}

theorem requireDeclared_eq_ok_iff {operation : String} :
    p.requireDeclared operation = .ok () ↔ p.declared = true := by
  unfold requireDeclared
  split <;> simp_all

theorem checkObjective_eq_ok_iff {o : Objective} :
    p.checkObjective o = .ok () ↔ o.Within p.size := by
  have hstray : p.checkObjective o = .ok () ↔ p.strayInObjective? o = none := by
    unfold checkObjective
    cases p.strayInObjective? o <;> simp
  have hproducts : (∀ q ∈ o.quadratic.keys, q.high < p.size) ↔
      ∀ q ∈ o.quadratic.keys, q.low < p.size ∧ q.high < p.size :=
    ⟨fun h q hq => ⟨Nat.lt_of_le_of_lt q.low_le_high (h q hq), h q hq⟩, fun h q hq => (h q hq).2⟩
  rw [hstray, strayInObjective?, Objective.Within, Objective.tail_zero_iff, ← hproducts]
  simp [Option.or_eq_none_iff, List.find?_eq_none, bne]

theorem checkRow_eq_ok_iff {c : Constraint} : p.checkRow c = .ok () ↔ c.Within p.size := by
  rw [← Constraint.maxVariable_lt_iff, checkRow]
  cases hmax : c.maxVariable with
  | none => simp
  | some v =>
    by_cases hv : p.size ≤ v
    · simp [hv]
    · simp [hv, Nat.lt_of_not_le hv]

theorem declare_cases (p : Problem) (n : Nat) (kind : VarKind) (overrides : KindOverrides) :
    ((∀ v ∈ overrides.keys, v < n) ∧
      p.declare n kind overrides = .done ⟨kindsOf n kind overrides, .zero n, [], true⟩) ∨
    ∃ v ∈ overrides.keys, n ≤ v ∧
      p.declare n kind overrides = .refuse (.invalidProblem (.overrideOutOfRange v n)) p := by
  unfold declare
  cases hfind : overrides.keys.find? (n ≤ ·) with
  | none =>
    have hall := List.find?_eq_none.1 hfind
    exact .inl ⟨fun v hv => by simpa using hall v hv, rfl⟩
  | some v =>
    exact .inr ⟨v, List.mem_of_find?_eq_some hfind, by simpa using List.find?_some hfind, rfl⟩

theorem setObjective_cases (p : Problem) (o : Objective) :
    (p.declared = true ∧ o.Within p.size ∧
      p.setObjective o = .done { p with objective := o.grow p.size }) ∨
    ¬ (p.declared = true ∧ o.Within p.size) ∧ ∃ e, p.setObjective o = .refuse e p := by
  have hok := @both_eq_ok_iff _ (p.requireDeclared "set_objective") (p.checkObjective o)
  rw [requireDeclared_eq_ok_iff, checkObjective_eq_ok_iff] at hok
  unfold setObjective
  cases hcheck : p.requireDeclared "set_objective" *> p.checkObjective o with
  | error e => exact .inr ⟨fun h => (nomatch hcheck.symm.trans (hok.2 h)), e, rfl⟩
  | ok u => exact .inl ⟨(hok.1 hcheck).1, (hok.1 hcheck).2, rfl⟩

theorem replaceRows_cases (p : Problem) (cs : ConstraintList) :
    (p.declared = true ∧ (∀ c ∈ cs, c.Within p.size) ∧
      p.replaceRows cs = .done { p with rows := cs }) ∨
    ¬ (p.declared = true ∧ ∀ c ∈ cs, c.Within p.size) ∧ ∃ e, p.replaceRows cs = .refuse e p := by
  have hok := @both_eq_ok_iff _ (p.requireDeclared "set_constraints") (cs.forM p.checkRow)
  rw [requireDeclared_eq_ok_iff, forM_eq_ok_iff] at hok
  simp only [checkRow_eq_ok_iff] at hok
  unfold replaceRows
  cases hcheck : p.requireDeclared "set_constraints" *> cs.forM p.checkRow with
  | error e => exact .inr ⟨fun h => (nomatch hcheck.symm.trans (hok.2 h)), e, rfl⟩
  | ok u => exact .inl ⟨(hok.1 hcheck).1, (hok.1 hcheck).2, rfl⟩

theorem addRow_cases (p : Problem) (c : Constraint) :
    (p.declared = true ∧ c.Within p.size ∧
      p.addRow c = .done { p with rows := p.rows ++ [c] }) ∨
    ¬ (p.declared = true ∧ c.Within p.size) ∧ ∃ e, p.addRow c = .refuse e p := by
  have hok := @both_eq_ok_iff _ (p.requireDeclared "add_constraint") (p.checkRow c)
  rw [requireDeclared_eq_ok_iff, checkRow_eq_ok_iff] at hok
  unfold addRow
  cases hcheck : p.requireDeclared "add_constraint" *> p.checkRow c with
  | error e => exact .inr ⟨fun h => (nomatch hcheck.symm.trans (hok.2 h)), e, rfl⟩
  | ok u => exact .inl ⟨(hok.1 hcheck).1, (hok.1 hcheck).2, rfl⟩

end Problem

end MipDispatch
