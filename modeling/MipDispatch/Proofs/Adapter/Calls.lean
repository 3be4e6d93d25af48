import MipDispatch.Proofs.Adapter.Steps

namespace MipDispatch

namespace Engine

/-- The calls that are made of those intended: a refused one is the last. -/
def undertaken (r : Reply) : List Call → List Call
  | [] => []
  | c :: cs => if r.refuses c then [c] else c :: undertaken r cs

theorem calls_perform (r : Reply) (cs : List Call) : (perform r cs).1.calls = undertaken r cs := by
  induction cs with
  | nil => rfl
  | cons c cs ih =>
    unfold perform undertaken
    split
    · rfl
    · rw [← ih]
      rfl

theorem perform_crash (r : Reply) (cs : List Call) :
    (perform r cs).2 = none ↔ cs.any r.refuses = false := by
  induction cs with
  | nil => exact ⟨fun _ => rfl, fun _ => rfl⟩
  | cons c cs ih =>
    rw [List.any_cons, perform]
    cases hc : r.refuses c with
    | true => simp
    | false => simpa using ih

theorem undertaken_append (r : Reply) (xs ys : List Call) :
    undertaken r (xs ++ ys) =
      undertaken r xs ++ if xs.any r.refuses then [] else undertaken r ys := by
  induction xs with
  | nil => rfl
  | cons x xs ih =>
    rw [List.cons_append, List.any_cons, undertaken, undertaken]
    cases hx : r.refuses x with
    | true => rfl
    | false => simpa using ih

theorem undertaken_ne_nil (r : Reply) {cs : List Call} (hcs : cs ≠ []) : undertaken r cs ≠ [] := by
  cases cs with
  | nil => exact absurd rfl hcs
  | cons c cs =>
    unfold undertaken
    split <;> exact List.cons_ne_nil _ _

theorem mem_of_mem_undertaken {r : Reply} {c : Call} {cs : List Call}
    (h : c ∈ undertaken r cs) : c ∈ cs := by
  induction cs with
  | nil => cases h
  | cons x xs ih =>
    rw [undertaken] at h
    split at h
    · rw [List.mem_singleton.1 h]
      exact List.mem_cons_self ..
    · rcases List.mem_cons.1 h with rfl | h
      · exact List.mem_cons_self ..
      · exact List.mem_cons_of_mem _ (ih h)

def Call.model? : Call → Option Model
  | .passModel m => some m
  | _ => none

def Call.sense? : Call → Option Sense
  | .setSense s => some s
  | _ => none

def Call.hessian? : Call → Option (Nat × ColumnMatrix)
  | .passHessian size lower => some (size, lower)
  | _ => none

def Call.option? : Call → Option String
  | .option name _ => some name
  | _ => none

theorem options_are_options (t : Tuning) : ∀ c ∈ t.options, c.option?.isSome = true := by
  intro c hc
  unfold Tuning.options quiet at hc
  grind [Call.option?]

/-- Nothing but options is chosen by a selection that passes over options. -/
theorem filterMap_undertaken_options {α : Type} {f : Call → Option α}
    (hf : ∀ name value, f (.option name value) = none) (r : Reply) {cs : List Call}
    (hcs : ∀ c ∈ cs, c.option?.isSome = true) : (undertaken r cs).filterMap f = [] := by
  rw [List.filterMap_eq_nil_iff]
  intro c hc
  have := hcs c (mem_of_mem_undertaken hc)
  cases c with
  | option name value => exact hf name value
  | _ => cases this

theorem calls_publish (c : Channel) (e : Event) : (c.publish e).calls = [] := by
  unfold Channel.publish Channel.publishWith
  split
  · split
    · rfl
    · dsimp only [Channel.deliver]
      split <;> rfl
  · rfl

theorem calls_holdScheduler {h : Host} {threads : Option Nat} {c : Call}
    (hc : c ∈ (h.holdScheduler threads).1.calls) : c = .resetScheduler := by
  unfold Host.holdScheduler at hc
  split at hc
  · cases hc
  · split at hc
    · cases hc
    · exact List.mem_singleton.1 hc

namespace Adapter

variable {a : Adapter}

theorem calls_conclude (a : Adapter) (r : Reply) (s : Solution) :
    (a.conclude r s).1.calls = [] := by
  have hreport (e : Event) (rec : Log.Record) :
      Trace.calls (.logged rec :: a.channel.publish e) = [] := calls_publish a.channel e
  unfold conclude
  dsimp only
  split
  · rw [Trace.calls_append, hreport, calls_publish]
    rfl
  · exact hreport ..

theorem calls_prepare (a : Adapter) (r : Reply) :
    (a.prepare r).1.calls = undertaken r a.setupCalls ++
      if a.setupCalls.any r.refuses then [] else (a.passHessian r).1.calls := by
  have hcrash := perform_crash r a.setupCalls
  rw [← calls_perform]
  unfold prepare
  -- what is published goes to the listener, not to the engine
  cases hp : perform r a.setupCalls with
  | mk setup crash =>
    rw [hp] at hcrash
    cases crash with
    | none =>
      rw [hcrash.1 rfl]
      simp [calls_publish]
    | some crash =>
      have hany : a.setupCalls.any r.refuses = true := by simpa using hcrash
      rw [hany]
      simp [calls_publish]

theorem trace_undeclared (hdecl : a.problem.declared = false) (h : Host) (s : Solution) :
    (a.solve h s).trace = [] := by
  unfold solve Problem.requireDeclared
  rw [hdecl]
  rfl

/-- A solve makes the setup calls, then hands over the quadratic part, then runs. -/
theorem calls_solve (hdecl : a.problem.declared = true) (h : Host) (s : Solution) :
    (a.solve h s).trace.calls = (a.prepare h.reply).1.calls ++
      match (a.prepare h.reply).2 with
      | .error _ => []
      | .ok _ => (h.afterReply.holdScheduler a.tuning.threads).1.calls ++ [.run] := by
  have hready : a.problem.requireDeclared "solve" = .ok () :=
    Problem.requireDeclared_eq_ok_iff.2 hdecl
  unfold solve
  rw [hready]
  dsimp only
  cases (a.prepare h.reply).2 with
  | error f => simp
  | ok u =>
    dsimp only
    split
    · rw [Trace.calls_append, Trace.calls_append, Trace.calls_append, calls_conclude,
        List.append_nil, List.append_assoc]
      rfl
    · rw [Trace.calls_append, Trace.calls_append, List.append_assoc]
      rfl

/-- However the engine behaves, it is told something once there is a problem to solve. -/
theorem calls_solve_ne_nil (hdecl : a.problem.declared = true) (h : Host) (s : Solution) :
    (a.solve h s).trace.calls ≠ [] := by
  have hsome : a.setupCalls ≠ [] := List.cons_ne_nil _ _
  have hsetup := undertaken_ne_nil h.reply hsome
  rw [calls_solve hdecl, calls_prepare]
  exact List.append_ne_nil_of_left_ne_nil (List.append_ne_nil_of_left_ne_nil hsetup _) _

theorem solve_host (hdecl : a.problem.declared = true) (h : Host) (s : Solution) :
    (a.solve h s).host =
      match (a.prepare h.reply).2 with
      | .error _ => h.afterReply
      | .ok _ => (h.afterReply.holdScheduler a.tuning.threads).2 := by
  have hready : a.problem.requireDeclared "solve" = .ok () :=
    Problem.requireDeclared_eq_ok_iff.2 hdecl
  unfold solve
  rw [hready]
  dsimp only
  cases (a.prepare h.reply).2 with
  | error f => rfl
  | ok u =>
    dsimp only
    split <;> rfl

/-- A choice among the calls that passes over options, restarts of the worker threads and runs. -/
structure Selects {α : Type} (f : Call → Option α) : Prop where
  option : ∀ name value, f (.option name value) = none
  resetScheduler : f .resetScheduler = none
  run : f .run = none

theorem Selects.calls_solve {α : Type} {f : Call → Option α} (hf : Selects f)
    (hdecl : a.problem.declared = true) (h : Host) (s : Solution) :
    (a.solve h s).trace.calls.filterMap f = (a.prepare h.reply).1.calls.filterMap f := by
  have hend : ((h.afterReply.holdScheduler a.tuning.threads).1.calls ++ [Call.run]).filterMap f =
      [] := by
    rw [List.filterMap_eq_nil_iff]
    intro c hc
    rcases List.mem_append.1 hc with hc | hc
    · rw [calls_holdScheduler hc]
      exact hf.resetScheduler
    · rw [List.mem_singleton.1 hc]
      exact hf.run
  rw [Adapter.calls_solve hdecl, List.filterMap_append]
  split
  · simp
  · rw [hend, List.append_nil]

/-- Before the model is handed over there are only options, and after its sense too. -/
theorem Selects.calls_setup {α : Type} {f : Call → Option α} (hf : Selects f) (r : Reply) :
    (undertaken r a.setupCalls).filterMap f = if quiet.any r.refuses then [] else
      (undertaken r [.passModel a.problem.toModel,
        .setSense a.problem.objective.sense]).filterMap f := by
  have hquiet : ∀ c ∈ quiet, c.option?.isSome = true := by simp [quiet, Call.option?]
  have hoptions := options_are_options a.tuning
  unfold setupCalls
  rw [List.append_assoc, undertaken_append, List.filterMap_append,
    filterMap_undertaken_options hf.option r hquiet, List.nil_append]
  split
  · rfl
  · rw [undertaken_append, List.filterMap_append]
    split
    · simp
    · rw [filterMap_undertaken_options hf.option r hoptions, List.append_nil]

theorem Selects.calls {α : Type} {f : Call → Option α} (hf : Selects f)
    (hdecl : a.problem.declared = true) (h : Host) (s : Solution) :
    (a.solve h s).trace.calls.filterMap f =
      (if quiet.any h.reply.refuses then [] else (undertaken h.reply
        [.passModel a.problem.toModel, .setSense a.problem.objective.sense]).filterMap f) ++
      if a.setupCalls.any h.reply.refuses then []
        else (a.passHessian h.reply).1.calls.filterMap f := by
  rw [hf.calls_solve hdecl, calls_prepare, List.filterMap_append, hf.calls_setup]
  cases a.setupCalls.any h.reply.refuses <;> rfl

theorem calls_passHessian (a : Adapter) (r : Reply) :
    (a.passHessian r).1.calls = if a.problem.objective.isQuadratic = false then [] else
      match QuadraticTerms.hessian a.problem.size a.problem.objective.quadratic with
      | .error _ => []
      | .ok lower => [.passHessian a.problem.size lower] := by
  unfold passHessian Objective.isQuadratic
  dsimp only
  cases a.problem.objective.quadratic.isEmpty with
  | true => rfl
  | false =>
    cases QuadraticTerms.hessian a.problem.size a.problem.objective.quadratic <;> rfl

end Adapter

end Engine

end MipDispatch
