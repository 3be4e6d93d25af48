import MipDispatch.Proofs.Problem.Steps
import MipDispatch.Engine.Adapter

namespace MipDispatch

/-- Filling leaves nothing of the values that were there before. -/
theorem Solution.values_fill (s : Solution) {n : Nat} {values : List Float}
    (h : values.length = n) : (s.fill n values).values = values := by
  have hsize : (s.resize n).values.length = n := s.size_resize n
  have hold : (s.resize n).values.drop values.length = [] := by
    apply List.drop_eq_nil_of_le
    omega
  change values.take n ++ (s.resize n).values.drop values.length = values
  rw [hold, List.append_nil, ← h, List.take_length]

namespace Engine

theorem Reply.values_length (r : Reply) (n : Nat) : (r.values n).length = n := by
  rw [values, List.length_map, List.length_range]

theorem Reply.values_getElem? (r : Reply) {n v : Nat} (h : v < n) :
    (r.values n)[v]? = some (r.column v) := by
  rw [values, List.getElem?_map, List.getElem?_range h]
  rfl

namespace Adapter

section Classify

variable {p : Problem} {status : ModelStatus} {values : List Float}

theorem classify_optimal_iff :
    (classify p status values).status = .optimal ↔ status = .optimal ∨ status = .modelEmpty := by
  cases status <;> cases hf : p.isFeasible values <;> simp [classify, hf]

/-- A point that the engine held when it stopped early is reported only if it is feasible. -/
theorem isFeasible_of_early (h : (classify p status values).status = .timeLimitFeasible ∨
    (classify p status values).status = .suboptimal) : p.isFeasible values = true := by
  cases hf : p.isFeasible values with
  | true => rfl
  | false => cases status <;> simp [classify, hf] at h

theorem classify_timeLimit_iff :
    ((classify p status values).status = .timeLimitFeasible ∨
      (classify p status values).status = .timeLimitInfeasible) ↔ status = .reachedTimeLimit := by
  cases status <;> cases hf : p.isFeasible values <;> simp [classify, hf]

theorem classify_infeasible_iff :
    (classify p status values).status = .infeasible ↔ status = .infeasible := by
  cases status <;> cases hf : p.isFeasible values <;> simp [classify, hf]

end Classify

structure RunsThrough (a : Adapter) (r : Reply) : Prop where
  declared : a.problem.declared = true
  prepared : ∃ u, (a.prepare r).2 = .ok u
  ran : r.ranThrough = true

theorem solve_cases (a : Adapter) (h : Host) (s : Solution) :
    (a.RunsThrough h.reply ∧ (a.solve h s).result = .ok (a.conclude h.reply s).2.1 ∧
      (a.solve h s).solution = (a.conclude h.reply s).2.2) ∨
    ¬ a.RunsThrough h.reply ∧ (∃ f, (a.solve h s).result = .error f) ∧
      (a.solve h s).solution = s := by
  cases hdecl : a.problem.requireDeclared "solve" with
  | error e =>
    refine .inr ⟨fun hr => ?_, ⟨.error e, by simp [solve, hdecl]⟩, by simp [solve, hdecl]⟩
    cases hdecl.symm.trans (Problem.requireDeclared_eq_ok_iff.2 hr.declared)
  | ok u =>
    have hd := Problem.requireDeclared_eq_ok_iff.1 hdecl
    cases hprep : (a.prepare h.reply).2 with
    | error f =>
      refine .inr ⟨fun hr => ?_, ⟨f, by simp [solve, hdecl, hprep]⟩, by simp [solve, hdecl, hprep]⟩
      obtain ⟨u, hu⟩ := hr.prepared
      cases hprep.symm.trans hu
    | ok u =>
      cases hran : h.reply.ranThrough with
      | true => exact .inl ⟨⟨hd, ⟨u, hprep⟩, hran⟩, by simp [solve, hdecl, hprep, hran]⟩
      | false =>
        refine .inr ⟨fun hr => ?_, ⟨_, by simp [solve, hdecl, hprep, hran]; rfl⟩,
          by simp [solve, hdecl, hprep, hran]⟩
        cases hran.symm.trans hr.ran

theorem conclude_outcome (a : Adapter) (r : Reply) (s : Solution) :
    (a.conclude r s).2.1 = classify a.problem r.status (r.values a.problem.size) := by
  unfold conclude
  dsimp only
  split <;> rfl

theorem conclude_solution (a : Adapter) (r : Reply) (s : Solution) :
    (a.conclude r s).2.2 =
      if (classify a.problem r.status (r.values a.problem.size)).hasSolution then
        ⟨r.values a.problem.size, a.problem.objective.evaluate (r.values a.problem.size), r.elapsed⟩
      else s := by
  have hfill := s.values_fill (r.values_length a.problem.size)
  unfold conclude
  dsimp only
  split
  · rw [hfill]
  · rfl

/-- How a solve ends, whatever the engine answers and whatever the solution held before: a point is
written exactly when the outcome has one, it is the engine's point, and the status claims no more
than the engine's verdict and the check of the point support. -/
theorem solve_outcome_agrees (a : Adapter) (h : Host) (s : Solution) :
    let p := a.problem
    let r := h.reply
    let values := r.values p.size
    let run := a.solve h s
    (∀ outcome, run.result = .ok outcome →
      (outcome.hasSolution = true →
        run.solution.values.length = p.size ∧
        (∀ v < p.size, run.solution.values[v]? = some (r.column v)) ∧
        run.solution.value = p.objective.evaluate run.solution.values ∧
        ∀ s', (a.solve h s').solution = run.solution) ∧
      (outcome.hasSolution = false → run.solution = s) ∧
      (outcome.status = .optimal ↔ r.status = .optimal ∨ r.status = .modelEmpty) ∧
      (outcome.status = .timeLimitFeasible ∨ outcome.status = .suboptimal →
        p.isFeasible values = true) ∧
      (outcome.status = .timeLimitFeasible ∨ outcome.status = .timeLimitInfeasible ↔
        r.status = .reachedTimeLimit) ∧
      (outcome.status = .infeasible ↔ r.status = .infeasible)) ∧
    (∀ f, run.result = .error f → run.solution = s) ∧
    ((∃ outcome, run.result = .ok outcome) ↔ a.RunsThrough r) := by
  intro p r values run
  rcases a.solve_cases h s with ⟨hruns, hresult, hsolution⟩ | ⟨hstops, ⟨f, hresult⟩, hsolution⟩
  · rw [conclude_outcome] at hresult
    rw [conclude_solution] at hsolution
    refine ⟨fun outcome hok => ?_, fun f hf => ?_, iff_of_true ⟨_, hresult⟩ hruns⟩
    · obtain rfl := Except.ok.inj (hresult.symm.trans hok)
      refine ⟨fun hhas => ?_, fun hno => ?_, classify_optimal_iff, isFeasible_of_early,
        classify_timeLimit_iff, classify_infeasible_iff⟩
      · rw [if_pos hhas] at hsolution
        have hvalues : run.solution.values = values := congrArg Solution.values hsolution
        rw [hvalues]
        refine ⟨r.values_length p.size, fun v hv => r.values_getElem? hv,
          congrArg Solution.value hsolution, fun s' => ?_⟩
        -- how far the solve gets does not depend on the solution
        rcases a.solve_cases h s' with ⟨_, _, hsolution'⟩ | ⟨hstops, _⟩
        · rw [conclude_solution, if_pos hhas] at hsolution'
          exact hsolution'.trans hsolution.symm
        · exact absurd hruns hstops
      · rw [if_neg (by rw [hno]; decide)] at hsolution
        exact hsolution
    · cases hresult.symm.trans hf
  · refine ⟨fun outcome hok => ?_, fun _ _ => hsolution, iff_of_false ?_ hstops⟩
    · cases hresult.symm.trans hok
    · rintro ⟨outcome, hok⟩
      cases hresult.symm.trans hok

end Adapter

end Engine

end MipDispatch
