import MipDispatch.Proofs.Adapter.Reached

namespace MipDispatch.Engine.Adapter

variable {a : Adapter}

theorem checkConstraint_eq (c : Constraint) : capabilities.checkConstraint name c =
    if c.isQuadratic then .error (.unsupported name .quadraticConstraint) else .ok () := by
  simp [Capabilities.checkConstraint, capabilities]

theorem checkConstraints_eq (cs : ConstraintList) : cs.forM (capabilities.checkConstraint name) =
    if cs.any (·.isQuadratic) then .error (.unsupported name .quadraticConstraint)
    else .ok () := by
  induction cs with
  | nil => rfl
  | cons c cs ih =>
    have hcons : (c :: cs).forM (capabilities.checkConstraint name) =
        (capabilities.checkConstraint name c *> cs.forM (capabilities.checkConstraint name)) := rfl
    rw [hcons, ih, checkConstraint_eq, List.any_cons]
    cases c.isQuadratic <;> rfl

/-- Why rows are refused while nothing is declared. The look at their products comes first. -/
def undeclaredRows (operation : String) (cs : ConstraintList) : SolveError :=
  if cs.any (·.isQuadratic) then .unsupported name .quadraticConstraint
  else .invalidProblem (.undeclared operation)

def Blank (a : Adapter) : Prop := a.problem = .empty

namespace Blank

theorem requireDeclared (ha : a.Blank) (operation : String) :
    a.problem.requireDeclared operation = .error (.invalidProblem (.undeclared operation)) := by
  rw [Problem.requireDeclared, ha]
  rfl

/-- Without variables no variable is integral, so products are no reason to refuse. -/
theorem setObjective (ha : a.Blank) (o : Objective) :
    a.setObjective o = .refuse (.invalidProblem (.undeclared "set_objective")) a := by
  have hcount : a.problem.integralCount = 0 := by
    rw [ha]
    rfl
  have hkinds : a.checkKinds o = .ok () := checkKinds_eq_ok_iff.2 fun _ => hcount
  have hproblem : a.problem.setObjective o =
      .refuse (.invalidProblem (.undeclared "set_objective")) a.problem := by
    rw [Problem.setObjective, ha.requireDeclared]
    rfl
  rw [Adapter.setObjective, checkObjective_eq_ok, hkinds, hproblem]
  rfl

theorem setConstraints (ha : a.Blank) (cs : ConstraintList) :
    a.setConstraints cs = .refuse (undeclaredRows "set_constraints" cs) a := by
  have hproblem : a.problem.replaceRows cs =
      .refuse (.invalidProblem (.undeclared "set_constraints")) a.problem := by
    rw [Problem.replaceRows, ha.requireDeclared]
    rfl
  rw [Adapter.setConstraints, checkConstraints_eq, hproblem, undeclaredRows]
  cases cs.any (·.isQuadratic) <;> rfl

theorem addConstraint (ha : a.Blank) (c : Constraint) :
    a.addConstraint c = .refuse (undeclaredRows "add_constraint" [c]) a := by
  have hproblem : a.problem.addRow c =
      .refuse (.invalidProblem (.undeclared "add_constraint")) a.problem := by
    rw [Problem.addRow, ha.requireDeclared]
    rfl
  rw [Adapter.addConstraint, checkConstraint_eq, hproblem, undeclaredRows, List.any_cons,
    List.any_nil, Bool.or_false]
  cases c.isQuadratic <;> rfl

theorem solve (ha : a.Blank) (h : Host) (s : Solution) :
    a.solve h s = ⟨.error (.error (.invalidProblem (.undeclared "solve"))), a, s, h, []⟩ := by
  rw [Adapter.solve, ha.requireDeclared]

end Blank

theorem after_blank {h₀ : Host} {rs : List Request}
    (hnone : ∀ x ∈ (Backend.converse fresh h₀ rs).exchanges, ¬ x.Declares) :
    (after h₀ rs).Blank := by
  have hdeclared := converse_declared fresh h₀ rs
  apply (after_staged h₀ rs).empty_of_undeclared
  rw [← Bool.not_eq_true]
  intro hd
  rcases hdeclared.1 hd with hfresh | ⟨x, hx, hdeclares⟩
  · cases hfresh
  · exact hnone x hx hdeclares

/-- After any requests none of which declared variables: an objective or a solve is refused because
nothing is declared, and so are rows unless one of them has products, which are refused before.
Nothing happens and nothing changes. -/
theorem undeclared_refuses (h₀ : Host) (rs : List Request)
    (hnone : ∀ x ∈ (Backend.converse fresh h₀ rs).exchanges, ¬ x.Declares) :
    let a := after h₀ rs
    (∀ o, a.setObjective o = .refuse (.invalidProblem (.undeclared "set_objective")) a) ∧
    (∀ c, a.addConstraint c = .refuse (undeclaredRows "add_constraint" [c]) a) ∧
    (∀ cs, a.setConstraints cs = .refuse (undeclaredRows "set_constraints" cs) a) ∧
    ∀ h s, a.solve h s =
      ⟨.error (.error (.invalidProblem (.undeclared "solve"))), a, s, h, []⟩ := by
  have hblank := after_blank hnone
  exact ⟨hblank.setObjective, hblank.addConstraint, hblank.setConstraints, hblank.solve⟩

/-- Settings, a listener, a declaration that is refused and a solve leave nothing declared. -/
theorem undeclared_refuses_history :
    let rs : List Request := [.tune (.timeLimit 5), .listen (some (.recorder "r")),
      .declare 1 .continuous (.ofList [(3, .binary)]), .solve default]
    let c := (Constraint.empty.setLinear 7 1).setQuadratic 0 1 2
    let a := after ⟨none, [], 0⟩ rs
    (∀ x ∈ (Backend.converse fresh ⟨none, [], 0⟩ rs).exchanges, ¬ x.Declares) ∧
      a.setObjective ((Objective.zero 3).setQuadratic 0 1 2) =
        .refuse (.invalidProblem (.undeclared "set_objective")) a ∧
      a.setConstraints [.empty, c] = .refuse (.unsupported name .quadraticConstraint) a := by
  intro rs c a
  have hnone : ∀ x ∈ (Backend.converse fresh ⟨none, [], 0⟩ rs).exchanges, ¬ x.Declares := by
    have hdeclared := converse_declared fresh ⟨none, [], 0⟩ rs
    have hundeclared : (Backend.converse fresh ⟨none, [], 0⟩ rs).backend.problem.declared = false :=
      rfl
    intro x hx hd
    rw [hdeclared.2 (.inr ⟨x, hx, hd⟩)] at hundeclared
    cases hundeclared
  obtain ⟨hobjective, _, hrows, _⟩ := undeclared_refuses ⟨none, [], 0⟩ rs hnone
  refine ⟨hnone, hobjective _, (hrows _).trans ?_⟩
  rw [undeclaredRows, if_pos (by decide)]

/-- A row with products is not refused for want of a declaration. -/
theorem undeclared_products_unsupported :
    let c := Constraint.empty.setQuadratic 0 0 1
    (after ⟨none, [], 0⟩ []).problem.declared = false ∧
      ∀ fault, ((after ⟨none, [], 0⟩ []).addConstraint c).result ≠
        .error (.invalidProblem fault) := by
  refine ⟨rfl, fun fault hfault => ?_⟩
  have hresult : ((after ⟨none, [], 0⟩ []).addConstraint
      (Constraint.empty.setQuadratic 0 0 1)).result =
        .error (.unsupported name .quadraticConstraint) := rfl
  cases hresult.symm.trans hfault

end MipDispatch.Engine.Adapter
