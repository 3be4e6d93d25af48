import MipDispatch.Backend.Stock
import MipDispatch.Proofs.Session.Requests

namespace MipDispatch

namespace SolveRun

variable {α β : Type}

def within (f : α → β) (run : SolveRun α) : SolveRun β :=
  ⟨run.result, f run.backend, run.solution, run.host, run.trace⟩

end SolveRun

namespace Backend

/-- Seen among others, a backend does what it does by itself. -/
structure Embeds {α β : Type} [Backend α] [Backend β] (f : α → β) : Prop where
  name : ∀ a, name (f a) = name a
  capabilities : ∀ a, capabilities (f a) = capabilities a
  declare : ∀ a n kind overrides,
    declare (f a) n kind overrides = (declare a n kind overrides).within f
  setObjective : ∀ a o, setObjective (f a) o = (setObjective a o).within f
  setConstraints : ∀ a cs, setConstraints (f a) cs = (setConstraints a cs).within f
  addConstraint : ∀ a c, addConstraint (f a) c = (addConstraint a c).within f
  tune : ∀ a call, tune (f a) call = f (tune a call)
  listen : ∀ a listener, listen (f a) listener = (listen a listener).within f
  solve : ∀ a h s, solve (f a) h s = (solve a h s).within f

theorem embeds_engine : Embeds StockBackend.engine where
  name := fun _ => rfl
  capabilities := fun _ => rfl
  declare := fun _ _ _ _ => rfl
  setObjective := fun _ _ => rfl
  setConstraints := fun _ _ => rfl
  addConstraint := fun _ _ => rfl
  tune := fun _ _ => rfl
  listen := fun _ _ => rfl
  solve := fun _ _ _ => rfl

end Backend

namespace Session

variable {α β : Type} [Backend α] [Backend β] {f : α → β}

def seen (f : α → β) (s : Session α) : Session β :=
  ⟨⟨f s.resolved.backend, s.resolved.moduleId, s.resolved.moduleName, s.resolved.path⟩, s.size⟩

omit [Backend α] [Backend β] in
theorem step_seen {g : α → Step α} {g' : β → Step β} (hg : ∀ a, g' (f a) = (g a).within f)
    (s : Session α) : (s.seen f).step g' = (s.step g).within (seen f) := by
  unfold step
  change (g' (f s.resolved.backend)).within _ = _
  rw [hg]
  rfl

theorem redeclare_seen (hf : Backend.Embeds f) (s : Session α) (d : Declaration) :
    (s.seen f).redeclare d = (s.redeclare d).within (seen f) := by
  have hstep : (s.seen f).step (Backend.declare · d.size d.kind d.overrides) =
      (s.step (Backend.declare · d.size d.kind d.overrides)).within (seen f) :=
    s.step_seen fun a => hf.declare a d.size d.kind d.overrides
  unfold redeclare
  rw [hstep]
  dsimp only [Step.within]
  split <;> rfl

theorem configure_seen (hf : Backend.Embeds f) (s : Session α) (c : Config) :
    (s.seen f).configure c = (s.configure c).seen f := by
  have hcalls (calls : List TuningCall) (a : α) :
      calls.foldl Backend.tune (f a) = f (calls.foldl Backend.tune a) := by
    induction calls generalizing a with
    | nil => rfl
    | cons call calls ih => rw [List.foldl_cons, hf.tune, ih]; rfl
  unfold configure Config.apply
  dsimp only [seen]
  rw [hcalls]

theorem listen_seen (hf : Backend.Embeds f) (s : Session α) (listener : Option Listener) :
    (s.seen f).listen listener = (s.listen listener).within (seen f) := by
  have hstep : (s.seen f).step (Backend.listen · listener) =
      (s.step (Backend.listen · listener)).within (seen f) :=
    s.step_seen fun a => hf.listen a listener
  have hevents : (Backend.capabilities (s.seen f).resolved.backend).events =
      (Backend.capabilities s.resolved.backend).events := by
    rw [← hf.capabilities]
    rfl
  have hname : (s.seen f).backendName = s.backendName := hf.name s.resolved.backend
  unfold listen
  rw [hstep, hevents, hname]
  split <;> rfl

theorem solve_seen (hf : Backend.Embeds f) (s : Session α) (h : Host) :
    let run := s.solve h
    (s.seen f).solve h = ⟨run.result, run.session.seen f, run.host, run.trace⟩ := by
  have hrun : Backend.solve (s.seen f).resolved.backend h (.zero 0) =
      (Backend.solve s.resolved.backend h (.zero 0)).within f := hf.solve _ h (.zero 0)
  unfold solve
  dsimp only
  rw [hrun]
  dsimp only [SolveRun.within]
  split
  · rfl
  · unfold backendName
    rw [hf.name]
    rfl

theorem serve_seen (hf : Backend.Embeds f) (s : Session α) (h : Host) (r : Request) :
    let served := serve (s, h) r
    serve (s.seen f, h) r = (served.1, served.2.1.seen f, served.2.2) := by
  cases r with
  | redeclare d =>
    dsimp only [serve]
    rw [redeclare_seen hf]
    rfl
  | configure c =>
    dsimp only [serve]
    rw [configure_seen hf]
  | setObjective o =>
    dsimp only [serve, setObjective]
    rw [s.step_seen fun a => hf.setObjective a o]
    rfl
  | setConstraints cs =>
    dsimp only [serve, setConstraints]
    rw [s.step_seen fun a => hf.setConstraints a cs]
    rfl
  | addConstraint c =>
    dsimp only [serve, addConstraint]
    rw [s.step_seen fun a => hf.addConstraint a c]
    rfl
  | tune call =>
    dsimp only [serve, tune, seen]
    rw [hf.tune]
  | listen listener =>
    dsimp only [serve]
    rw [listen_seen hf]
    rfl
  | solve =>
    dsimp only [serve]
    rw [solve_seen hf]

theorem dialogue_seen (hf : Backend.Embeds f) (s : Session α) (h : Host) (rs : List Request) :
    let talk := dialogue serve (s, h) rs
    dialogue serve (s.seen f, h) rs = (talk.1, talk.2.1.seen f, talk.2.2) :=
  dialogue_view (fun t r => serve_seen hf t.1 t.2 r) (s, h) rs

end Session

end MipDispatch
