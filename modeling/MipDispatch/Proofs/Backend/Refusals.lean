import MipDispatch.Proofs.Backend.Requests
import MipDispatch.Proofs.Dialogue

namespace MipDispatch

namespace Step

variable {σ τ : Type}

/-- When the step is refused, the state is the one before and nothing happened. -/
def AllOrNothing (step : Step σ) (before : σ) : Prop :=
  ∀ e, step.result = .error e → step = .refuse e before

theorem done_allOrNothing (s before : σ) : (done s).AllOrNothing before :=
  fun _ he => nomatch he

theorem refuse_allOrNothing (e : SolveError) (before : σ) :
    (refuse e before).AllOrNothing before := by
  intro e' he
  cases he
  rfl

theorem allOrNothing_of_cases {step : Step σ} {s before : σ} {P Q : Prop}
    (h : P ∧ step = .done s ∨ Q ∧ ∃ e, step = .refuse e before) : step.AllOrNothing before := by
  rcases h with ⟨_, hdone⟩ | ⟨_, e, hrefuse⟩
  · rw [hdone]
    exact done_allOrNothing s before
  · rw [hrefuse]
    exact refuse_allOrNothing e before

theorem AllOrNothing.within {step : Step σ} {b : σ} (h : step.AllOrNothing b) (f : σ → τ) :
    (step.within f).AllOrNothing (f b) := by
  intro e he
  rw [h e he]
  rfl

end Step

def Exchange.isRefused (x : Exchange) : Bool :=
  match x.answer with
  | .step (.error _) => true
  | .step (.ok _) | .tuned | .solved .. => false

namespace Backend

section Answer

variable {β : Type} {step : Step β} {b : β} {h : Host} {r : Request}

theorem answerStep_refused (hstep : step.AllOrNothing b)
    (hr : (answerStep r h step).exchange.isRefused = true) :
    ∃ e, answerStep r h step = ⟨⟨r, .step (.error e), []⟩, b, h⟩ := by
  cases hresult : step.result with
  | ok u => simp [answerStep, Exchange.isRefused, hresult] at hr
  | error e =>
    refine ⟨e, ?_⟩
    rw [hstep e hresult]
    rfl

end Answer

variable {β : Type} [Backend β]

/-- Every change is carried out in full or leaves no mark, and solving is no change. -/
structure Steady (β : Type) [Backend β] : Prop where
  declare : ∀ (b : β) n kind overrides, (declare b n kind overrides).AllOrNothing b
  setObjective : ∀ (b : β) o, (setObjective b o).AllOrNothing b
  setConstraints : ∀ (b : β) cs, (setConstraints b cs).AllOrNothing b
  addConstraint : ∀ (b : β) c, (addConstraint b c).AllOrNothing b
  listen : ∀ (b : β) listener, (listen b listener).AllOrNothing b
  solve : ∀ (b : β) h s, (solve b h s).backend = b

/-- A refused change is answered with its error, and that is all that comes of it. -/
theorem Steady.serve_refused (hβ : Steady β) (b : β) (h : Host) (r : Request)
    (hr : (serve b h r).exchange.isRefused = true) :
    ∃ e, serve b h r = ⟨⟨r, .step (.error e), []⟩, b, h⟩ := by
  cases r with
  | declare n kind overrides => exact answerStep_refused (hβ.declare b n kind overrides) hr
  | setObjective o => exact answerStep_refused (hβ.setObjective b o) hr
  | setConstraints cs => exact answerStep_refused (hβ.setConstraints b cs) hr
  | addConstraint c => exact answerStep_refused (hβ.addConstraint b c) hr
  | listen listener => exact answerStep_refused (hβ.listen b listener) hr
  | tune call => cases hr
  | solve s => cases hr

theorem serve_request (b : β) (h : Host) (r : Request) : (serve b h r).exchange.request = r := by
  cases r <;> rfl

def serveIn (s : β × Host) (r : Request) : Exchange × β × Host :=
  let served := serve s.1 s.2 r
  (served.exchange, served.backend, served.host)

theorem converse_eq_dialogue (b : β) (h : Host) (rs : List Request) :
    let talk := dialogue serveIn (b, h) rs
    converse b h rs = ⟨talk.1, talk.2.1, talk.2.2⟩ := by
  induction rs generalizing b h with
  | nil => rfl
  | cons r rs ih =>
    rw [converse]
    dsimp only
    rw [ih]
    rfl

/-- Without the refused changes the conversation is the same in every other exchange. -/
theorem Steady.converse_omit (hβ : Steady β) (b : β) (h : Host) (rs : List Request) :
    let talk := converse b h rs
    let kept := talk.exchanges.filter (!·.isRefused)
    converse b h (kept.map (·.request)) = ⟨kept, talk.backend, talk.host⟩ := by
  have hidle (s : β × Host) (r : Request) (hr : (serveIn s r).1.isRefused = true) :
      (serveIn s r).2 = s := by
    obtain ⟨e, he⟩ := hβ.serve_refused s.1 s.2 r hr
    rw [serveIn, he]
  have homit := dialogue_omit (fun s r => serve_request s.1 s.2 r) hidle (b, h) rs
  dsimp only at homit ⊢
  rw [converse_eq_dialogue b h rs, converse_eq_dialogue]
  dsimp only
  rw [homit]

end Backend

end MipDispatch
