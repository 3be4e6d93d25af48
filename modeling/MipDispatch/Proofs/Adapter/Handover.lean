import MipDispatch.Proofs.Adapter.Calls
import MipDispatch.Proofs.Adapter.Reached
import MipDispatch.Proofs.Engine.QuadraticForm

namespace MipDispatch.Engine.Adapter

open Matrix

theorem selects_model : Selects Call.model? := ⟨fun _ _ => rfl, rfl, rfl⟩

theorem selects_sense : Selects Call.sense? := ⟨fun _ _ => rfl, rfl, rfl⟩

theorem selects_hessian : Selects Call.hessian? := ⟨fun _ _ => rfl, rfl, rfl⟩

variable {a : Adapter}

/-- The calls that a choice leaves out are no part of the quadratic part. -/
theorem filterMap_passHessian {α : Type} {f : Call → Option α}
    (hf : ∀ size lower, f (.passHessian size lower) = none) (r : Reply) :
    (a.passHessian r).1.calls.filterMap f = [] := by
  rw [calls_passHessian]
  split
  · rfl
  · split
    · rfl
    · simp [hf]

theorem models_solve (hdecl : a.problem.declared = true) (h : Host) (s : Solution) :
    (a.solve h s).trace.calls.filterMap Call.model? =
      if quiet.any h.reply.refuses then [] else [a.problem.toModel] := by
  rw [selects_model.calls hdecl, filterMap_passHessian fun _ _ => rfl, ite_self, List.append_nil]
  split
  · rfl
  · unfold undertaken
    split
    · rfl
    · unfold undertaken
      split <;> rfl

theorem senses_solve (hdecl : a.problem.declared = true) (h : Host) (s : Solution) :
    (a.solve h s).trace.calls.filterMap Call.sense? =
      if (quiet ++ [Call.passModel a.problem.toModel]).any h.reply.refuses then []
        else [a.problem.objective.sense] := by
  rw [selects_sense.calls hdecl, filterMap_passHessian fun _ _ => rfl, ite_self, List.append_nil,
    List.any_append]
  cases quiet.any h.reply.refuses with
  | true => rfl
  | false =>
    unfold undertaken
    rw [List.any_cons]
    cases h.reply.refuses (.passModel a.problem.toModel) with
    | true => rfl
    | false =>
      unfold undertaken
      cases h.reply.refuses (.setSense a.problem.objective.sense) <;> rfl

theorem hessians_solve (hdecl : a.problem.declared = true) (h : Host) (s : Solution) :
    (a.solve h s).trace.calls.filterMap Call.hessian? =
      if a.setupCalls.any h.reply.refuses then []
        else (a.passHessian h.reply).1.calls.filterMap Call.hessian? := by
  have hsetup : (undertaken h.reply [.passModel a.problem.toModel,
      .setSense a.problem.objective.sense]).filterMap Call.hessian? = [] := by
    rw [List.filterMap_eq_nil_iff]
    intro c hc
    rcases List.mem_cons.1 (mem_of_mem_undertaken hc) with rfl | hc
    · rfl
    · rw [List.mem_singleton.1 hc]
      rfl
  rw [selects_hessian.calls hdecl, hsetup, ite_self, List.nil_append]

def withConstant (a : Adapter) (k : Float) : Adapter :=
  { a with problem := { a.problem with objective := a.problem.objective.withConstant k } }

theorem calls_constant (a : Adapter) (k : Float) (h : Host) (s : Solution) :
    ((a.withConstant k).solve h s).trace.calls = (a.solve h s).trace.calls := by
  have hprepare : (a.withConstant k).prepare h.reply = a.prepare h.reply := rfl
  cases hdecl : a.problem.declared with
  | true =>
    have hdecl' : (a.withConstant k).problem.declared = true := hdecl
    rw [calls_solve hdecl, calls_solve hdecl', hprepare]
    rfl
  | false =>
    have hdecl' : (a.withConstant k).problem.declared = false := hdecl
    rw [trace_undeclared hdecl, trace_undeclared hdecl']

/-- After any requests that began a problem, a solve hands over one model, which encodes the problem
as it is staged, and its sense, but not the constant of its objective. -/
theorem solve_hands_over_model (h₀ : Host) (rs : List Request)
    (hdecl : (after h₀ rs).problem.declared = true) :
    let a := after h₀ rs
    ∃ m : Model, m.Encodes a.problem ∧ ∀ (h : Host) (s : Solution),
      (a.solve h s).trace.calls.filterMap Call.model? =
        (if quiet.any h.reply.refuses then [] else [m]) ∧
      (a.solve h s).trace.calls.filterMap Call.sense? =
        (if (quiet ++ [Call.passModel m]).any h.reply.refuses then []
          else [a.problem.objective.sense]) ∧
      ∀ k, ((a.withConstant k).solve h s).trace.calls = (a.solve h s).trace.calls := by
  intro a
  refine ⟨a.problem.toModel, Problem.toModel_encodes (after_staged h₀ rs), fun h s => ?_⟩
  exact ⟨models_solve hdecl h s, senses_solve hdecl h s, fun k => a.calls_constant k h s⟩

theorem solve_hands_over_model_row :
    let rs := [.declare 2 .integer ∅, .addConstraint (Constraint.empty.setLinear 1 3)]
    (after ⟨none, [], 0⟩ rs).problem.declared = true ∧
      ∃ m : Model, (0, 3) ∈ m.matrix.slice 1 ∧
        ((after ⟨none, [], 0⟩ rs).solve ⟨none, [], 0⟩ default).trace.calls.filterMap Call.model? =
          [m] := by
  intro rs
  have hdecl : (after ⟨none, [], 0⟩ rs).problem.declared = true := by decide
  obtain ⟨m, hm, hcalls⟩ := solve_hands_over_model ⟨none, [], 0⟩ rs hdecl
  refine ⟨hdecl, m, (hm.entry ..).2 ⟨Constraint.empty.setLinear 1 3, ?_, ?_, ?_⟩,
    (hcalls ⟨none, [], 0⟩ default).1⟩
  · rfl
  · decide
  · rfl

theorem declared_of_quadratic {h₀ : Host} {rs : List Request}
    (hquad : (after h₀ rs).problem.objective.isQuadratic = true) :
    (after h₀ rs).problem.declared = true := by
  cases hdecl : (after h₀ rs).problem.declared with
  | true => rfl
  | false =>
    rw [(after_staged h₀ rs).empty_of_undeclared hdecl] at hquad
    cases hquad

/-- After any requests, a solve hands over the products of the objective as a lower triangle, unless
they are too many for the engine. Over the rational numbers, that is with finite entries, the form
of the triangle is the sum of the products. Without products nothing is handed over. -/
theorem solve_hands_over_products (h₀ : Host) (rs : List Request) :
    let a := after h₀ rs
    let n := a.problem.size
    let terms := a.problem.objective.quadratic
    (a.problem.objective.isQuadratic = true → n ≤ indexLimit → terms.size ≤ indexLimit →
      ∃ lower : ColumnMatrix, lower.LowerTriangle n terms ∧
        (∀ (h : Host) (s : Solution), (a.solve h s).trace.calls.filterMap Call.hessian? =
          if a.setupCalls.any h.reply.refuses then [] else [(n, lower)]) ∧
        ((∀ y ∈ lower.value, y.isFinite = true) → ∀ x : Nat → ℚ,
          1 / 2 * ((fun v : Fin n => x v) ⬝ᵥ lower.symmetric n *ᵥ fun v : Fin n => x v) =
            terms.exactSum x)) ∧
    (a.problem.objective.isQuadratic = false → ∀ (h : Host) (s : Solution),
      (a.solve h s).trace.calls.filterMap Call.hessian? = []) := by
  intro a n terms
  have hin : ∀ q ∈ terms.keys, q.low < n ∧ q.high < n := (after_staged h₀ rs).objective_within.2
  constructor
  · intro hquad hsize hcount
    have hlower := QuadraticTerms.lowerTriangle fun q hq => (hin q hq).1
    refine ⟨_, hlower, fun h s => ?_, fun hfinite x => hlower.form hin hfinite x⟩
    rw [hessians_solve (declared_of_quadratic hquad), calls_passHessian, hquad,
      QuadraticTerms.hessian_eq_ok hin hsize hcount]
    rfl
  · intro hlinear h s
    cases hdecl : a.problem.declared with
    | true =>
      rw [hessians_solve hdecl, calls_passHessian, hlinear]
      exact ite_self _
    | false => rw [trace_undeclared hdecl, Trace.calls, List.filterMap_nil, List.filterMap_nil]

theorem solve_hands_over_products_square :
    let o := ((Objective.zero 2).setQuadratic 0 0 3).setQuadratic 1 0 5
    let rs := [.declare 2 .continuous ∅, .setObjective o]
    ∃ lower : ColumnMatrix, (0, 6) ∈ lower.slice 0 ∧ (1, 5) ∈ lower.slice 0 ∧
      ((after ⟨none, [], 0⟩ rs).solve ⟨none, [], 0⟩ default).trace.calls.filterMap Call.hessian? =
        [(2, lower)] := by
  intro o rs
  have hquad : (after ⟨none, [], 0⟩ rs).problem.objective.isQuadratic = true := by decide
  obtain ⟨lower, hlower, hcalls, _⟩ :=
    (solve_hands_over_products ⟨none, [], 0⟩ rs).1 hquad (by decide) (by decide)
  refine ⟨lower, (hlower.entry ..).2 ⟨.of 0 0, ?_, rfl, rfl, ?_⟩,
    (hlower.entry ..).2 ⟨.of 0 1, ?_, rfl, rfl, ?_⟩, hcalls ⟨none, [], 0⟩ default⟩
  · decide
  · decide +kernel
  · decide
  · rfl

end MipDispatch.Engine.Adapter
