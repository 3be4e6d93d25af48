import MipDispatch.Proofs.Adapter.Calls
import MipDispatch.Proofs.Dialogue
import MipDispatch.Proofs.Engine.Alone
import MipDispatch.Proofs.Engine.Restarts

namespace MipDispatch

namespace Engine

def Call.isReset : Call → Bool
  | .resetScheduler => true
  | _ => false

def Call.isRun : Call → Bool
  | .run => true
  | _ => false

def ranWith? (run : SolveRun Adapter) : Option (Option Nat) :=
  if run.trace.calls.any Call.isRun then some run.backend.tuning.threads else none

theorem resets_holdScheduler (h : Host) (threads : Option Nat) (l : List (Option Nat)) :
    (h.holdScheduler threads).1.calls.countP Call.isReset + changes (threads :: l) =
      changes (h.scheduler.toList ++ threads :: l) := by
  unfold Host.holdScheduler
  cases h.scheduler with
  | none => exact Nat.zero_add _
  | some previous =>
    by_cases hsame : previous = threads
    · subst hsame
      simp [Trace.calls]
    · simp [hsame, Trace.calls, changes_of_ne, Call.isReset, Nat.add_comm]

/-- A solver that has the turns to itself, while nobody has the setting, does to the setting what
`holdScheduler` does, with as many restarts. -/
theorem SharedScheduler.leads_as_holdScheduler {m : SharedScheduler} {t : Nat} {job : Job}
    {todo : List Job} (hs : m.solvers[t]? = some ⟨.idle, job :: todo⟩) (hw : m.writer = none)
    (hr : m.readers = []) {h : Host} (hh : h.scheduler = m.setting) :
    let held := h.holdScheduler job.threads
    ∃ m', Leads t m m' ∧ m'.setting = held.2.scheduler ∧ m'.readers = [] ∧ m'.writer = none ∧
      m'.solvers = m.solvers.set t ⟨.idle, todo⟩ ∧ m'.begun = job.threads :: m.begun ∧
      m'.restartCount = m.restartCount + held.1.calls.countP Call.isReset := by
  intro held
  have hresets : held.1.calls.countP Call.isReset = if m.needsRestart job then 1 else 0 := by
    dsimp only [held]
    unfold Host.holdScheduler needsRestart
    rw [hh]
    cases m.setting with
    | none => rfl
    | some previous =>
      by_cases hsame : previous = job.threads <;> simp [hsame, Trace.calls, Call.isReset]
  refine ⟨_, leads_alone hs hw hr, (Host.holdScheduler_scheduler ..).symm, hr, hw, rfl, ?_, ?_⟩
  · cases hrestart : m.needsRestart job <;> simp [begun, put, runMoments, restartMoments, hrestart]
  · rw [hresets]
    cases hrestart : m.needsRestart job <;>
      simp [restartCount, put, runMoments, restartMoments, hrestart]

namespace Adapter

variable {a : Adapter}

/-- Before the run the threads are left alone. -/
theorem prepare_spares (a : Adapter) (r : Reply) :
    ∀ c ∈ (a.prepare r).1.calls, c.isReset = false ∧ c.isRun = false := by
  have hoption {c : Call} (hc : c.option?.isSome = true) : c.isReset = false ∧ c.isRun = false := by
    cases c with
    | option name value => exact ⟨rfl, rfl⟩
    | _ => cases hc
  intro c hc
  rw [calls_prepare, List.mem_append] at hc
  rcases hc with hc | hc
  · have hsetup := mem_of_mem_undertaken hc
    simp only [setupCalls, quiet, List.mem_append, List.mem_cons, List.not_mem_nil,
      or_false] at hsetup
    rcases hsetup with ((rfl | rfl) | rfl | rfl) | hc
    · exact ⟨rfl, rfl⟩
    · exact ⟨rfl, rfl⟩
    · exact ⟨rfl, rfl⟩
    · exact ⟨rfl, rfl⟩
    · exact hoption (options_are_options a.tuning c hc)
  · split at hc
    · cases hc
    · rw [calls_passHessian] at hc
      split at hc
      · cases hc
      · split at hc
        · cases hc
        · rw [List.mem_singleton.1 hc]
          exact ⟨rfl, rfl⟩

/-- A solve restarts the threads if they were started with another setting than the one it runs
with. -/
theorem resets_solve (a : Adapter) (h : Host) (s : Solution) (l : List (Option Nat)) :
    (a.solve h s).trace.calls.countP Call.isReset +
        changes ((a.solve h s).host.scheduler.toList ++ l) =
      changes (h.scheduler.toList ++ ((ranWith? (a.solve h s)).toList ++ l)) := by
  unfold ranWith?
  rw [solve_backend]
  -- A solve that ends before the run neither restarts the threads nor runs with them, so only one
  -- that gets to hold them counts.
  cases hdecl : a.problem.declared with
  | false =>
    have hhost : (a.solve h s).host = h := by
      unfold solve Problem.requireDeclared
      rw [hdecl]
      rfl
    rw [trace_undeclared hdecl, hhost]
    exact Nat.zero_add _
  | true =>
    have hspared := prepare_spares a h.reply
    have hreset : (a.prepare h.reply).1.calls.countP Call.isReset = 0 :=
      List.countP_eq_zero.2 fun c hc => by simp [hspared c hc]
    have hrun : (a.prepare h.reply).1.calls.any Call.isRun = false :=
      List.any_eq_false.2 fun c hc => by simp [hspared c hc]
    rw [calls_solve hdecl, solve_host hdecl]
    cases (a.prepare h.reply).2 with
    | error f =>
      dsimp only
      rw [List.append_nil, hreset, hrun, Nat.zero_add]
      rfl
    | ok u =>
      have hheld := resets_holdScheduler h.afterReply a.tuning.threads l
      change _ = changes (h.scheduler.toList ++ _) at hheld
      dsimp only
      rw [Host.holdScheduler_scheduler, List.countP_append, hreset, Nat.zero_add,
        List.countP_append]
      simpa [Call.isRun, Call.isReset] using hheld

def solveInTurn (h : Host) (solves : List (Adapter × Solution)) : List (SolveRun Adapter) × Host :=
  dialogue (fun h (a, s) => (a.solve h s, (a.solve h s).host)) h solves

theorem resets_solveInTurn (h : Host) (solves : List (Adapter × Solution)) :
    let runs := (solveInTurn h solves).1
    (runs.flatMap (·.trace.calls)).countP Call.isReset =
      changes (h.scheduler.toList ++ runs.filterMap ranWith?) := by
  induction solves generalizing h with
  | nil => cases h.scheduler <;> rfl
  | cons as solves ih =>
    obtain ⟨a, s⟩ := as
    have hrest := ih (a.solve h s).host
    dsimp only at hrest ⊢
    have hsolve := resets_solve a h s
      ((solveInTurn (a.solve h s).host solves).1.filterMap ranWith?)
    change ((a.solve h s).trace.calls ++ (solveInTurn (a.solve h s).host solves).1.flatMap
      (·.trace.calls)).countP Call.isReset = changes (h.scheduler.toList ++
        (a.solve h s :: (solveInTurn (a.solve h s).host solves).1).filterMap ranWith?)
    rw [List.countP_append, hrest, hsolve, List.filterMap_cons]
    cases ranWith? (a.solve h s) <;> rfl

end Adapter

namespace SharedScheduler

/-- The engine runs with threads of the run's own setting, so no two runs with different settings
overlap. The threads are restarted while nothing runs, and then only because they were started with
another setting than the next run has. A solve keeps the setting until it returns, whether or not
its run succeeded, and not beyond. Where every solve has returned, or solves were made one after the
other, the threads were restarted as often as the setting changed from one run to the next; a
setting of zero threads stands for none. -/
theorem threads_fit_runs :
    (∀ (setting : Option (Option Nat)) (programs : List (List Job)) (turns : List Nat),
      let m := (start setting programs).run turns
      (∀ job ∈ m.runningJobs, m.setting = some job.threads) ∧
      (∀ x ∈ m.runningJobs, ∀ y ∈ m.runningJobs, x.threads = y.threads) ∧
      (∀ t, m.Holds t → (m.step? t).isSome = true ∧
        ∃ s, m.solvers[t]? = some s ∧ s.progress ≠ .idle) ∧
      ∀ t m', m.step? t = some m' →
        (m'.restartCount ≠ m.restartCount → m.runningJobs = [] ∧
          ∃ job todo previous, m.solvers[t]? = some ⟨.restarting job, todo⟩ ∧
            m.setting = some previous ∧ previous ≠ job.threads) ∧
        ∀ u succeeded, m'.history = .returned u succeeded :: m.history → ¬ m'.Holds u) ∧
    (∀ (programs : List (List Job)) (turns : List Nat),
      let m := (start none programs).run turns
      (∀ s ∈ m.solvers, s.progress = .idle) → m.restartCount = changes m.begun) ∧
    (∀ (h : Host) (solves : List (Adapter × Solution)),
      let runs := (Adapter.solveInTurn { h with scheduler := none } solves).1
      (runs.flatMap (·.trace.calls)).countP Call.isReset = changes (runs.filterMap ranWith?)) ∧
    ∀ (a : Adapter) (n : Nat),
      (a.tune (.threads n)).tuning.threads = if n = 0 then none else some n := by
  refine ⟨fun setting programs turns => ?_, restartCount_eq, fun h solves => ?_, fun a n => ?_⟩
  · intro m
    have h : Held m := held_run setting programs turns
    refine ⟨fun job => h.setting_of_running, fun x hx y hy => ?_, fun t ht => ?_,
      fun t m' hstep => ?_⟩
    · have hsame := (h.setting_of_running hx).symm.trans (h.setting_of_running hy)
      exact Option.some_inj.1 hsame
    · refine ⟨h.step?_isSome ht, ?_⟩
      obtain ⟨s, hs⟩ := h.solver_of_holds ht
      refine ⟨s, hs, fun hidle => ?_⟩
      have hholds := (h.holds_iff hs).1 ht
      rw [hidle] at hholds
      simp [Progress.reads, Progress.writes] at hholds
    · obtain ⟨s, hs, hturn⟩ := turn_of_step? hstep
      refine ⟨fun hcount => ?_, fun u succeeded => h.of_returned hs hturn⟩
      obtain ⟨hnone, job, todo, previous, rfl, hprevious⟩ := h.of_restarted hs hturn hcount
      exact ⟨hnone, job, todo, previous, hs, hprevious⟩
  · exact Adapter.resets_solveInTurn _ solves
  · change (if 0 < n then some n else none) = _
    split <;> split <;> first | rfl | omega

/-- Two solves with one setting run side by side, and the one with another setting, which fails,
waits for both. -/
theorem threads_fit_side_by_side :
    let programs := [[⟨none, true⟩], [⟨none, true⟩], [⟨some 4, false⟩]]
    let turns := [0, 0, 0, 0, 0, 0, 0, 0, 0, 1, 1, 1, 1, 2, 2, 2, 2]
    let together := (start none programs).run turns
    let finished := (start none programs).run (turns ++ [2, 0, 0, 2, 1, 1, 2, 2, 2, 2, 2, 2, 2, 2])
    together.runningJobs = [⟨none, true⟩, ⟨none, true⟩] ∧ together.setting = some none ∧
      finished.begun = [some 4, none, none] ∧ finished.restartCount = changes finished.begun := by
  intro programs turns together finished
  have hrunning : together.runningJobs = [⟨none, true⟩, ⟨none, true⟩] := by decide
  have hbegun : finished.begun = [some 4, none, none] := by decide
  have hidle : ∀ s ∈ finished.solvers, s.progress = .idle := by decide
  have hfits := (threads_fit_runs.1 none programs turns).1
  refine ⟨hrunning, hfits ⟨none, true⟩ ?_, hbegun, threads_fit_runs.2.1 programs _ hidle⟩
  rw [hrunning]
  exact List.mem_cons_self ..

end SharedScheduler

end Engine

end MipDispatch
