import MipDispatch.Engine.Adapter
import MipDispatch.Proofs.Backend.Refusals
import MipDispatch.Proofs.Problem.Staged

namespace MipDispatch.Engine.Adapter

variable {a : Adapter}

theorem checkObjective_eq_ok (o : Objective) : capabilities.checkObjective name o = .ok () := by
  simp [Capabilities.checkObjective, capabilities]

theorem checkConstraint_eq_ok_iff {c : Constraint} :
    capabilities.checkConstraint name c = .ok () ↔ c.isQuadratic = false := by
  cases h : c.isQuadratic <;> simp [Capabilities.checkConstraint, capabilities, h]

theorem checkKinds_eq_ok_iff {o : Objective} :
    a.checkKinds o = .ok () ↔ (o.isQuadratic = true → a.problem.integralCount = 0) := by
  cases h : o.isQuadratic with
  | false => simp [checkKinds, h]
  | true =>
    rcases Nat.eq_zero_or_pos a.problem.integralCount with h0 | h0
    · simp [checkKinds, h0]
    · simp [checkKinds, h, h0, Nat.ne_of_gt h0]

structure AcceptsObjective (a : Adapter) (o : Objective) : Prop where
  declared : a.problem.declared = true
  within : o.Within a.problem.size
  continuous : o.isQuadratic = true → a.problem.integralCount = 0

structure AcceptsRows (a : Adapter) (cs : ConstraintList) : Prop where
  declared : a.problem.declared = true
  within : ∀ c ∈ cs, c.Within a.problem.size
  linear : ∀ c ∈ cs, c.isQuadratic = false

theorem setObjective_cases (a : Adapter) (o : Objective) :
    (a.AcceptsObjective o ∧ a.setObjective o =
      .done { a with problem := { a.problem with objective := o.grow a.problem.size } }) ∨
    ¬ a.AcceptsObjective o ∧ ∃ e, a.setObjective o = .refuse e a := by
  have hok := @both_eq_ok_iff _ (capabilities.checkObjective name o) (a.checkKinds o)
  rw [checkObjective_eq_ok, checkKinds_eq_ok_iff] at hok
  unfold setObjective
  rw [checkObjective_eq_ok]
  cases hcheck : Except.ok () *> a.checkKinds o with
  | error e =>
    refine .inr ⟨fun h => ?_, e, rfl⟩
    cases hcheck.symm.trans (hok.2 ⟨rfl, h.continuous⟩)
  | ok u =>
    rcases a.problem.setObjective_cases o with ⟨hdecl, hin, heq⟩ | ⟨hno, e, heq⟩
    · exact .inl ⟨⟨hdecl, hin, (hok.1 hcheck).2⟩, by simp [heq]⟩
    · exact .inr ⟨fun h => hno ⟨h.declared, h.within⟩, e, by simp [heq]⟩

theorem setConstraints_cases (a : Adapter) (cs : ConstraintList) :
    (a.AcceptsRows cs ∧
      a.setConstraints cs = .done { a with problem := { a.problem with rows := cs } }) ∨
    ¬ a.AcceptsRows cs ∧ ∃ e, a.setConstraints cs = .refuse e a := by
  have hok := @forM_eq_ok_iff _ _ (capabilities.checkConstraint name) cs
  simp only [checkConstraint_eq_ok_iff] at hok
  unfold setConstraints
  cases hcheck : cs.forM (capabilities.checkConstraint name) with
  | error e =>
    refine .inr ⟨fun h => ?_, e, rfl⟩
    cases hcheck.symm.trans (hok.2 h.linear)
  | ok u =>
    rcases a.problem.replaceRows_cases cs with ⟨hdecl, hin, heq⟩ | ⟨hno, e, heq⟩
    · exact .inl ⟨⟨hdecl, hin, hok.1 hcheck⟩, by simp [heq]⟩
    · exact .inr ⟨fun h => hno ⟨h.declared, h.within⟩, e, by simp [heq]⟩

theorem addConstraint_cases (a : Adapter) (c : Constraint) :
    (a.AcceptsRows [c] ∧ a.addConstraint c =
      .done { a with problem := { a.problem with rows := a.problem.rows ++ [c] } }) ∨
    ¬ a.AcceptsRows [c] ∧ ∃ e, a.addConstraint c = .refuse e a := by
  have hok := @checkConstraint_eq_ok_iff c
  unfold addConstraint
  cases hcheck : capabilities.checkConstraint name c with
  | error e =>
    refine .inr ⟨fun h => ?_, e, rfl⟩
    cases hcheck.symm.trans (hok.2 (h.linear c (List.mem_singleton.2 rfl)))
  | ok u =>
    rcases a.problem.addRow_cases c with ⟨hdecl, hin, heq⟩ | ⟨hno, e, heq⟩
    · exact .inl ⟨⟨hdecl, by simpa using hin, by simpa using hok.1 hcheck⟩, by simp [heq]⟩
    · refine .inr ⟨fun h => hno ⟨h.declared, ?_⟩, e, by simp [heq]⟩
      exact h.within c (List.mem_singleton.2 rfl)

/-- Solving stages nothing, tunes nothing and leaves the listener alone. -/
theorem solve_backend (a : Adapter) (h : Host) (s : Solution) : (a.solve h s).backend = a := by
  unfold solve
  split
  · rfl
  · dsimp only
    split
    · rfl
    · split <;> rfl

theorem declare_allOrNothing (a : Adapter) (n : Nat) (kind : VarKind) (overrides : KindOverrides) :
    (a.declare n kind overrides).AllOrNothing a := by
  intro e he
  unfold declare at he ⊢
  rcases a.problem.declare_cases n kind overrides with ⟨_, hdone⟩ | ⟨v, _, _, hrefuse⟩
  · rw [hdone] at he
    cases he
  · rw [hrefuse] at he ⊢
    cases he
    rfl

theorem steady : Backend.Steady Adapter where
  declare := declare_allOrNothing
  setObjective := fun a o => Step.allOrNothing_of_cases (a.setObjective_cases o)
  setConstraints := fun a cs => Step.allOrNothing_of_cases (a.setConstraints_cases cs)
  addConstraint := fun a c => Step.allOrNothing_of_cases (a.addConstraint_cases c)
  listen := fun a _ => Step.done_allOrNothing _ a
  solve := solve_backend

end MipDispatch.Engine.Adapter
