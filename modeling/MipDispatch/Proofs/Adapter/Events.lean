import MipDispatch.Proofs.Adapter.Failures
import MipDispatch.Proofs.Adapter.Handover

namespace MipDispatch

def Listener.hears (l : Listener) (e : Event) : Delivery := ⟨l.name, e, l.fails e⟩

theorem Channel.deliveries_publish {c : Channel} (hc : c.Consistent) (e : Event) :
    (c.publish e).deliveries = c.listener.toList.map (·.hears e) := by
  rw [publish_eq hc]
  cases c.listener with
  | none => rfl
  | some l => cases hfails : l.fails e <;> simp [deliver, hfails, Listener.hears, Trace.deliveries]

/-- What was put in place last stays. -/
theorem Channel.listener_foldl (c : Channel) (ls : List (Option Listener)) :
    (ls.foldl listen c).listener = ls.getLast?.getD c.listener := by
  induction ls using List.reverseRecOn with
  | nil => rfl
  | append_singleton ls l =>
    rw [List.foldl_append, List.getLast?_concat]
    rfl

namespace Engine

theorem deliveries_perform (r : Reply) (cs : List Call) : (perform r cs).1.deliveries = [] := by
  induction cs with
  | nil => rfl
  | cons c cs ih =>
    unfold perform
    split
    · rfl
    · exact ih

theorem deliveries_holdScheduler (h : Host) (threads : Option Nat) :
    (h.holdScheduler threads).1.deliveries = [] := by
  unfold Host.holdScheduler
  split
  · rfl
  · split <;> rfl

namespace Adapter

variable {a : Adapter}

theorem deliveries_passHessian (a : Adapter) (r : Reply) :
    (a.passHessian r).1.deliveries = [] := by
  unfold passHessian
  dsimp only
  split
  · rfl
  · split <;> rfl

theorem deliveries_prepare (a : Adapter) (r : Reply) :
    (a.prepare r).1.deliveries = (a.channel.publish (modelBuilt a.problem)).deliveries := by
  have hsetup := deliveries_perform r a.setupCalls
  unfold prepare
  cases hperform : perform r a.setupCalls with
  | mk setup crash =>
    rw [hperform] at hsetup
    cases crash <;> simp [hsetup, deliveries_passHessian]

def closing (a : Adapter) (r : Reply) : Event :=
  let primal := a.problem.objective.evaluate (r.values a.problem.size)
  solved primal (a.problem.dualBound r.dualBound primal) r.elapsed

/-- The events of a solve of a declared problem, by how it ends. -/
def told (a : Adapter) (r : Reply) : Except Failure Outcome → List Event
  | .error _ => [modelBuilt a.problem]
  | .ok outcome =>
    if outcome.hasSolution then
      [modelBuilt a.problem, statusReached r.status r.elapsed, a.closing r]
    else [modelBuilt a.problem, statusReached r.status r.elapsed]

theorem deliveries_conclude (a : Adapter) (r : Reply) (s : Solution) :
    (a.conclude r s).1.deliveries =
      (a.channel.publish (statusReached r.status r.elapsed)).deliveries ++
        if (a.conclude r s).2.1.hasSolution then (a.channel.publish (a.closing r)).deliveries
        else [] := by
  have hlogged (record : Log.Record) (t : Trace) :
      Trace.deliveries (.logged record :: t) = t.deliveries := rfl
  rw [conclude_outcome]
  unfold conclude
  dsimp only
  split
  · rw [Trace.deliveries_append, hlogged]
    rfl
  · rw [hlogged, List.append_nil]

theorem deliveries_solve (hdecl : a.problem.declared = true) (h : Host) (s : Solution) :
    (a.solve h s).trace.deliveries =
      (a.told h.reply (a.solve h s).result).flatMap fun e => (a.channel.publish e).deliveries := by
  have hready : a.problem.requireDeclared "solve" = .ok () :=
    Problem.requireDeclared_eq_ok_iff.2 hdecl
  have hrun : Trace.deliveries [.called .run] = [] := rfl
  unfold solve
  rw [hready]
  dsimp only
  cases (a.prepare h.reply).2 with
  | error f => simp [deliveries_prepare, told]
  | ok u =>
    dsimp only
    split
    · rw [Trace.deliveries_append, Trace.deliveries_append, Trace.deliveries_append, hrun,
        deliveries_prepare, deliveries_holdScheduler, deliveries_conclude, told]
      split <;> simp
    · rw [Trace.deliveries_append, Trace.deliveries_append, hrun, deliveries_prepare,
        deliveries_holdScheduler, told]
      simp

/-- Nothing but a solve says anything to the listener, and nothing but `listen` replaces it. -/
theorem serve_silent (a : Adapter) (h : Host) {r : Request} (hr : ∀ s, r ≠ .solve s) :
    let served := Backend.serve a h r
    served.exchange.trace.deliveries = [] ∧
      served.backend.channel = r.listener?.elim a.channel a.channel.listen := by
  cases r with
  | declare n kind overrides =>
    dsimp only [Backend.serve, Backend.answerStep, Backend.declare, declare]
    rcases a.problem.declare_cases n kind overrides with ⟨_, heq⟩ | ⟨_, _, _, heq⟩ <;>
      rw [heq] <;> exact ⟨rfl, rfl⟩
  | setObjective o =>
    dsimp only [Backend.serve, Backend.answerStep, Backend.setObjective]
    rcases a.setObjective_cases o with ⟨_, heq⟩ | ⟨_, _, heq⟩ <;> rw [heq] <;> exact ⟨rfl, rfl⟩
  | setConstraints cs =>
    dsimp only [Backend.serve, Backend.answerStep, Backend.setConstraints]
    rcases a.setConstraints_cases cs with ⟨_, heq⟩ | ⟨_, _, heq⟩ <;> rw [heq] <;> exact ⟨rfl, rfl⟩
  | addConstraint c =>
    dsimp only [Backend.serve, Backend.answerStep, Backend.addConstraint]
    rcases a.addConstraint_cases c with ⟨_, heq⟩ | ⟨_, _, heq⟩ <;> rw [heq] <;> exact ⟨rfl, rfl⟩
  | tune call => exact ⟨rfl, rfl⟩
  | listen listener => exact ⟨rfl, rfl⟩
  | solve s => exact absurd rfl (hr s)

theorem serve_channel (a : Adapter) (h : Host) (r : Request) :
    (Backend.serve a h r).backend.channel = r.listener?.elim a.channel a.channel.listen := by
  cases r with
  | solve s => exact congrArg Adapter.channel (a.solve_backend h s)
  | _ => exact (serve_silent a h (by simp)).2

theorem serve_consistent (a : Adapter) (h : Host) (r : Request) (ha : a.channel.Consistent) :
    (Backend.serve a h r).backend.channel.Consistent := by
  rw [serve_channel]
  cases r with
  | listen listener => exact Channel.listen_consistent a.channel listener
  | _ => exact ha

theorem after_consistent (h : Host) (rs : List Request) : (after h rs).channel.Consistent :=
  Backend.converse_keeps serve_consistent Channel.idle_consistent h rs

end Adapter

namespace Adapter

variable {a : Adapter}

end Adapter

end Engine

end MipDispatch
