import MipDispatch.Proofs.Adapter.Steps
import MipDispatch.Proofs.Session.Requests

namespace MipDispatch

namespace Session

def Exchange.isRefused (x : Exchange) : Bool :=
  match x.answer with
  | .step (.error _) => true
  | .step (.ok _) | .tuned | .solved _ => false

section Steps

variable {β : Type} {step : Step (Session β)} {t : Session β × Host} {r : Request}

theorem answerStep_refused (hstep : step.AllOrNothing t.1)
    (hr : (answerStep r t.2 step).1.isRefused = true) :
    ∃ e, answerStep r t.2 step = (⟨r, .step (.error e), []⟩, t) := by
  cases hresult : step.result with
  | ok u => simp [answerStep, Exchange.isRefused, hresult] at hr
  | error e =>
    refine ⟨e, ?_⟩
    rw [hstep e hresult]
    rfl

theorem step_allOrNothing (s : Session β) (f : β → Step β)
    (hf : (f s.resolved.backend).AllOrNothing s.resolved.backend) : (s.step f).AllOrNothing s := by
  have hwithin := hf.within fun backend : β =>
    ({ s with resolved := { s.resolved with backend } } : Session β)
  exact hwithin

end Steps

variable {β : Type} [Backend β]

/-- Also the number of variables stays when new ones are refused. -/
theorem redeclare_allOrNothing (hβ : Backend.Steady β) (s : Session β) (d : Declaration) :
    (s.redeclare d).AllOrNothing s := by
  have hstep := s.step_allOrNothing (fun b => Backend.declare b d.size d.kind d.overrides)
    (hβ.declare s.resolved.backend d.size d.kind d.overrides)
  unfold redeclare
  dsimp only
  split
  · exact hstep
  next hok =>
    intro e he
    cases hok.symm.trans he

theorem listen_allOrNothing (hβ : Backend.Steady β) (s : Session β) (listener : Option Listener) :
    (s.listen listener).AllOrNothing s := by
  unfold listen
  split
  · exact s.step_allOrNothing _ (hβ.listen s.resolved.backend listener)
  · exact Step.refuse_allOrNothing _ s

theorem solve_session (hβ : Backend.Steady β) (s : Session β) (h : Host) :
    (s.solve h).session = s := by
  have hkept := hβ.solve s.resolved.backend h (.zero 0)
  unfold solve
  dsimp only
  rw [hkept]
  split <;> rfl

/-- A refused change is answered with its error, and that is all that comes of it. -/
theorem serve_refused (hβ : Backend.Steady β) (t : Session β × Host) (r : Request)
    (hr : (serve t r).1.isRefused = true) :
    ∃ e, serve t r = (⟨r, .step (.error e), []⟩, t) := by
  cases r with
  | redeclare d => exact answerStep_refused (t.1.redeclare_allOrNothing hβ d) hr
  | setObjective o =>
    exact answerStep_refused (t.1.step_allOrNothing _ (hβ.setObjective _ o)) hr
  | setConstraints cs =>
    exact answerStep_refused (t.1.step_allOrNothing _ (hβ.setConstraints _ cs)) hr
  | addConstraint c =>
    exact answerStep_refused (t.1.step_allOrNothing _ (hβ.addConstraint _ c)) hr
  | listen listener => exact answerStep_refused (t.1.listen_allOrNothing hβ listener) hr
  | configure c => cases hr
  | tune call => cases hr
  | solve => cases hr

/-- Without the refused changes the conversation is the same in every other exchange. -/
theorem dialogue_omit_refused (hβ : Backend.Steady β) (t : Session β × Host) (rs : List Request) :
    let talk := dialogue serve t rs
    let kept := talk.1.filter (!·.isRefused)
    dialogue serve t (kept.map (·.request)) = (kept, talk.2) := by
  apply dialogue_omit serve_request
  intro t r hr
  obtain ⟨e, he⟩ := serve_refused hβ t r hr
  rw [he]

end Session

/-- Refused changes are invisible, be they asked of the engine's backend itself or through a
session: problem, settings and listener, a session's number of variables and the process are what
they were, and all later answers, events and calls on the engine are those of a history in which
nothing was refused. Nor does a solve change the backend or the session. -/
theorem refused_changes_invisible (a : Engine.Adapter) (s : Session Engine.Adapter) (h : Host) :
    (∀ r, (Backend.serve a h r).exchange.isRefused = true →
      ∃ e, Backend.serve a h r = ⟨⟨r, .step (.error e), []⟩, a, h⟩) ∧
    (∀ rs,
      let talk := Backend.converse a h rs
      let kept := talk.exchanges.filter (!·.isRefused)
      Backend.converse a h (kept.map (·.request)) = ⟨kept, talk.backend, talk.host⟩) ∧
    (∀ solution, (a.solve h solution).backend = a) ∧
    (∀ r, (Session.serve (s, h) r).1.isRefused = true →
      ∃ e, Session.serve (s, h) r = (⟨r, .step (.error e), []⟩, s, h)) ∧
    (∀ rs,
      let talk := dialogue Session.serve (s, h) rs
      let kept := talk.1.filter (!·.isRefused)
      dialogue Session.serve (s, h) (kept.map (·.request)) = (kept, talk.2)) ∧
    (s.solve h).session = s := by
  have hsteady := Engine.Adapter.steady
  refine ⟨hsteady.serve_refused a h, hsteady.converse_omit a h, a.solve_backend h, ?_, ?_, ?_⟩
  · exact Session.serve_refused hsteady (s, h)
  · exact Session.dialogue_omit_refused hsteady (s, h)
  · exact s.solve_session hsteady h

/-- Two variables are declared, then one with an override for a third; the second declaration may
be left out. -/
theorem refused_override_invisible :
    let h : Host := ⟨none, [], 0⟩
    let s : Session Engine.Adapter := ⟨⟨.fresh, 0, "", .ofString "/"⟩, 0⟩
    let kept : List Session.Request := [.redeclare ⟨2, .integer, ∅⟩, .solve]
    let rs := kept.insertIdx 1 (.redeclare ⟨1, .continuous, .ofList [(3, .binary)]⟩)
    (dialogue Session.serve (s, h) rs).1.map (·.isRefused) = [false, true, false] ∧
      (dialogue Session.serve (s, h) kept).2 = (dialogue Session.serve (s, h) rs).2 := by
  intro h s kept rs
  have hkept : ((dialogue Session.serve (s, h) rs).1.filter (!·.isRefused)).map (·.request) =
      kept := rfl
  have homit := congrArg Prod.snd ((refused_changes_invisible .fresh s h).2.2.2.2.1 rs)
  dsimp only at homit
  rw [hkept] at homit
  exact ⟨by decide, homit⟩

end MipDispatch
