import MipDispatch.Proofs.Adapter.Calls
import MipDispatch.Proofs.Adapter.Outcome
import MipDispatch.Proofs.Adapter.Reached

namespace MipDispatch.Engine

/-- Whether the engine fails a call. Restarting the worker threads has no result. -/
def Reply.fails (r : Reply) : Call → Bool
  | .passHessian .. => r.hessianStatus < 0
  | .run => !r.ranThrough
  | .resetScheduler => false
  | c => r.refuses c

def Call.reportedAs? : Call → Option String
  | .passHessian .. => some "Highs_passHessian"
  | .run => some "Highs_run"
  | .option .. | .passModel _ | .setSense _ | .resetScheduler => none

theorem any_refuses_iff {r : Reply} {cs : List Call} :
    cs.any r.refuses = true ↔ ∃ c ∈ undertaken r cs, r.refuses c = true := by
  constructor
  · intro h
    induction cs with
    | nil => cases h
    | cons c cs ih =>
      unfold undertaken
      cases hc : r.refuses c with
      | true => exact ⟨c, List.mem_singleton.2 rfl, hc⟩
      | false =>
        rw [List.any_cons, hc, Bool.false_or] at h
        obtain ⟨d, hd, hrefused⟩ := ih h
        exact ⟨d, List.mem_cons_of_mem c hd, hrefused⟩
  · rintro ⟨c, hc, hrefused⟩
    exact List.any_eq_true.2 ⟨c, mem_of_mem_undertaken hc, hrefused⟩

namespace Adapter

variable {a : Adapter} {r : Reply}

theorem setup_call {c : Call} (hc : c ∈ a.setupCalls) :
    r.fails c = r.refuses c ∧ c.reportedAs? = none := by
  have hoption {c : Call} (hc : c.option?.isSome = true) :
      r.fails c = r.refuses c ∧ c.reportedAs? = none := by
    cases c with
    | option name value => exact ⟨rfl, rfl⟩
    | _ => cases hc
  have hquiet : ∀ c ∈ quiet, c.option?.isSome = true := by simp [quiet, Call.option?]
  rw [setupCalls, List.mem_append, List.mem_append] at hc
  rcases hc with (hc | hc) | hc
  · exact hoption (hquiet c hc)
  · rcases List.mem_cons.1 hc with rfl | hc
    · exact ⟨rfl, rfl⟩
    · rw [List.mem_singleton.1 hc]
      exact ⟨rfl, rfl⟩
  · exact hoption (options_are_options a.tuning c hc)

theorem prepare_result (a : Adapter) (r : Reply) :
    (a.prepare r).2 = match (perform r a.setupCalls).2 with
      | some crash => .error (.crash crash)
      | none => (a.passHessian r).2.mapError .error := by
  unfold prepare
  cases perform r a.setupCalls with
  | mk setup crash => cases crash <;> rfl

theorem prepare_crash_iff :
    (∃ crash, (a.prepare r).2 = .error (.crash crash)) ↔ a.setupCalls.any r.refuses = true := by
  have hcrash := perform_crash r a.setupCalls
  rw [prepare_result]
  cases hperform : (perform r a.setupCalls).2 with
  | none =>
    have hany := hcrash.1 hperform
    refine iff_of_false ?_ (by simp [hany])
    rintro ⟨crash, h⟩
    cases hhessian : (a.passHessian r).2 <;> rw [hhessian] at h <;> cases h
  | some crash =>
    have hany : a.setupCalls.any r.refuses ≠ false := fun h => by
      cases hperform.symm.trans (hcrash.2 h)
    exact iff_of_true ⟨crash, rfl⟩ (Bool.not_eq_false _ ▸ hany)

theorem passHessian_fails {c : Call} (hc : c ∈ (a.passHessian r).1.calls)
    (hf : r.fails c = true) :
    c.reportedAs? = some "Highs_passHessian" ∧ (a.passHessian r).2 =
      .error (.engineFailed "Highs_passHessian" (callSite "Highs_passHessian")
        ("status " ++ Decimal.intText r.hessianStatus)) := by
  unfold passHessian at hc ⊢
  dsimp only at hc ⊢
  split at hc
  · cases hc
  next hterms =>
    rw [if_neg hterms]
    split at hc
    · cases hc
    next lower _ =>
      obtain rfl := List.mem_singleton.1 hc
      have hstatus : r.hessianStatus < 0 := by simpa [Reply.fails] using hf
      rw [if_pos hstatus]
      exact ⟨rfl, rfl⟩

theorem solve_result (hdecl : a.problem.declared = true) (h : Host) (s : Solution) :
    (a.solve h s).result = match (a.prepare h.reply).2 with
      | .error f => .error f
      | .ok _ =>
        if h.reply.ranThrough then .ok (a.conclude h.reply s).2.1
        else .error (.error (.engineFailed "Highs_run" (callSite "Highs_run") "Error")) := by
  have hready : a.problem.requireDeclared "solve" = .ok () :=
    Problem.requireDeclared_eq_ok_iff.2 hdecl
  unfold solve
  rw [hready]
  dsimp only
  cases (a.prepare h.reply).2 with
  | error f => rfl
  | ok u =>
    dsimp only
    split <;> rfl

theorem solution_of_error {h : Host} {s : Solution} {f : Failure}
    (hf : (a.solve h s).result = .error f) : (a.solve h s).solution = s := by
  rcases a.solve_cases h s with ⟨_, hok, _⟩ | ⟨_, _, hsolution⟩
  · cases hok.symm.trans hf
  · exact hsolution

/-- A setup call that the engine fails leaves the solve without a result. -/
theorem crash_of_setup (hdecl : a.problem.declared = true) {h : Host}
    (hsetup : a.setupCalls.any h.reply.refuses = true) (s : Solution) :
    ∃ crash, (a.solve h s).result = .error (.crash crash) := by
  obtain ⟨crash, hcrash⟩ := prepare_crash_iff.2 hsetup
  refine ⟨crash, ?_⟩
  rw [solve_result hdecl, hcrash]

theorem passHessian_failure (hdecl : a.problem.declared = true) {h : Host}
    (hsetup : a.setupCalls.any h.reply.refuses = false) {e : SolveError}
    (he : (a.passHessian h.reply).2 = .error e) (s : Solution) :
    (a.solve h s).result = .error (.error e) := by
  have hperform := (perform_crash h.reply a.setupCalls).2 hsetup
  rw [solve_result hdecl, prepare_result, hperform, he]
  rfl

theorem failed_call_result {h : Host} {s : Solution} {c : Call}
    (hc : c ∈ (a.solve h s).trace.calls) (hf : h.reply.fails c = true) :
    (∀ name, c.reportedAs? = some name →
      ∃ detail, (a.solve h s).result =
        .error (.error (.engineFailed name (callSite name) detail))) ∧
    (c.reportedAs? = none → ∃ crash, (a.solve h s).result = .error (.crash crash)) := by
  cases hdecl : a.problem.declared with
  | false =>
    rw [trace_undeclared hdecl] at hc
    cases hc
  | true =>
    rw [calls_solve hdecl, calls_prepare, List.mem_append, List.mem_append] at hc
    rcases hc with (hc | hc) | hc
    · -- a setup call
      obtain ⟨hrefuses, hname⟩ := setup_call (r := h.reply) (mem_of_mem_undertaken hc)
      have hsetup := any_refuses_iff.2 ⟨c, hc, hrefuses.symm.trans hf⟩
      refine ⟨fun name hsome => ?_, fun _ => crash_of_setup hdecl hsetup s⟩
      cases hname.symm.trans hsome
    · -- the quadratic part, which comes only after a setup that went well
      split at hc
      · cases hc
      next hsetup =>
        obtain ⟨hname, herror⟩ := passHessian_fails hc hf
        have hresult := passHessian_failure hdecl (Bool.not_eq_true _ ▸ hsetup) herror s
        refine ⟨fun name hsome => ?_, fun hnone => ?_⟩
        · cases hname.symm.trans hsome
          exact ⟨_, hresult⟩
        · cases hname.symm.trans hnone
    · cases hready : (a.prepare h.reply).2 with
      | error f =>
        rw [hready] at hc
        cases hc
      | ok u =>
        rw [hready] at hc
        rcases List.mem_append.1 hc with hc | hc
        · rw [calls_holdScheduler hc] at hf
          cases hf
        · -- the run itself
          obtain rfl := List.mem_singleton.1 hc
          have hran : h.reply.ranThrough = false := by simpa [Reply.fails] using hf
          refine ⟨fun name hsome => ⟨"Error", ?_⟩, fun hnone => by cases hnone⟩
          cases hsome
          rw [solve_result hdecl, hready, hran]
          rfl

theorem crash_of_result {h : Host} {s : Solution} {crash : Crash}
    (hcrash : (a.solve h s).result = .error (.crash crash)) :
    ∃ c ∈ (a.solve h s).trace.calls, h.reply.fails c = true ∧ c.reportedAs? = none := by
  cases hdecl : a.problem.declared with
  | false =>
    have hundeclared : a.problem.requireDeclared "solve" =
        .error (.invalidProblem (.undeclared "solve")) := by
      rw [Problem.requireDeclared, hdecl]
      rfl
    rw [solve, hundeclared] at hcrash
    cases hcrash
  | true =>
    rw [solve_result hdecl] at hcrash
    cases hready : (a.prepare h.reply).2 with
    | error f =>
      rw [hready] at hcrash
      cases hcrash
      obtain ⟨c, hc, hrefused⟩ := any_refuses_iff.1 (prepare_crash_iff.1 ⟨crash, hready⟩)
      obtain ⟨hfails, hname⟩ := setup_call (r := h.reply) (mem_of_mem_undertaken hc)
      refine ⟨c, ?_, hfails.trans hrefused, hname⟩
      rw [calls_solve hdecl, calls_prepare]
      exact List.mem_append_left _ (List.mem_append_left _ hc)
    | ok u =>
      rw [hready] at hcrash
      dsimp only at hcrash
      split at hcrash <;> cases hcrash

/-- What becomes of a solve when the engine fails a call: the backend and the solution stay as they
were; a quadratic part or a run that fails is an error with the name of the call, while any other
call that fails breaks the solve off. Nothing else breaks it off. -/
theorem failed_call_ends_solve (a : Adapter) (h : Host) (s : Solution) :
    let run := a.solve h s
    (∀ c ∈ run.trace.calls, h.reply.fails c = true →
      run.backend = a ∧ run.solution = s ∧
      (∀ name, c.reportedAs? = some name →
        ∃ detail, run.result = .error (.error (.engineFailed name (callSite name) detail))) ∧
      (c.reportedAs? = none → ∃ crash, run.result = .error (.crash crash))) ∧
    ((∃ crash, run.result = .error (.crash crash)) ↔
      ∃ c ∈ run.trace.calls, h.reply.fails c = true ∧ c.reportedAs? = none) := by
  intro run
  refine ⟨fun c hc hf => ?_, fun ⟨_, hcrash⟩ => crash_of_result hcrash, ?_⟩
  · have hresult := failed_call_result hc hf
    refine ⟨a.solve_backend h s, ?_, hresult⟩
    cases hname : c.reportedAs? with
    | some name =>
      obtain ⟨_, herror⟩ := hresult.1 name hname
      exact solution_of_error herror
    | none =>
      obtain ⟨_, hcrash⟩ := hresult.2 hname
      exact solution_of_error hcrash
  · rintro ⟨c, hc, hf, hname⟩
    exact (failed_call_result hc hf).2 hname

/-- A quadratic part that the engine turns down is reported under its name. -/
theorem failed_call_ends_solve_hessian :
    let o := (Objective.zero 1).setQuadratic 0 0 1
    let a := after ⟨none, [], 0⟩ [.declare 1 .continuous ∅, .setObjective o]
    let h : Host := ⟨none, [{ (default : Reply) with hessianStatus := -1 }], 0⟩
    ∃ c ∈ (a.solve h default).trace.calls, h.reply.fails c = true ∧
      ∃ detail, (a.solve h default).result =
        .error (.error
          (.engineFailed "Highs_passHessian" (callSite "Highs_passHessian") detail)) := by
  intro o a h
  have hlast : (a.solve h default).trace.calls.getLast?.map
      (fun c => (c.reportedAs?, h.reply.fails c)) = some (some "Highs_passHessian", true) := by
    decide +kernel
  obtain ⟨c, hc, hcall⟩ := Option.map_eq_some_iff.1 hlast
  obtain ⟨hname, hf⟩ := Prod.mk.inj hcall
  have hmem := List.mem_of_getLast? hc
  exact ⟨c, hmem, hf, ((failed_call_ends_solve a h default).1 c hmem hf).2.2.1 _ hname⟩

end Adapter

def Reply.positiveLimits : Reply :=
  { (default : Reply) with
    refuses := fun
      | .option "time_limit" (.real x) => x < 0
      | _ => false }

namespace Adapter

/-- On such an engine a time limit below zero breaks the solve off, where an error would have to
name the call. -/
theorem negative_time_limit_crashes :
    let a := after ⟨none, [], 0⟩ [.declare 1 .continuous ∅, .tune (.timeLimit (-1))]
    let h : Host := ⟨none, [.positiveLimits], 0⟩
    let call : Call := .option "time_limit" (.real (-1))
    a.problem.declared = true ∧
      call ∈ (a.solve h default).trace.calls ∧ h.reply.fails call = true ∧
      ∀ e, (a.solve h default).result ≠ .error (.error e) := by
  intro a h call
  have hlast : (a.solve h default).trace.calls.getLast? = some call := rfl
  have hresult : (a.solve h default).result =
      .error (.crash (.text "An error was encountered in HiGHS.: Error")) := rfl
  refine ⟨rfl, List.mem_of_getLast? hlast, by decide, fun e he => ?_⟩
  cases hresult.symm.trans he

end Adapter

end MipDispatch.Engine
