import MipDispatch.Session

namespace MipDispatch

namespace Resolver

variable {β : Type} [Backend β]

theorem construct_silent (path : Path) (id : Nat) (m : BackendModule β) :
    (construct path id m).2.calls = [] ∧ (construct path id m).2.deliveries = [] := by
  unfold construct
  dsimp only
  split <;> exact ⟨rfl, rfl⟩

theorem load_silent (r : Resolver β) (path : Path) (h : Host) :
    (r.load path h).trace.calls = [] ∧ (r.load path h).trace.deliveries = [] := by
  unfold load
  split
  · exact ⟨rfl, rfl⟩
  next m _ => exact construct_silent path h.modulesOpened m

theorem tryPaths_silent (r : Resolver β) (choice : EngineChoice) (paths : List Path)
    (attempts : List LoadAttempt) (h : Host) :
    let run := r.tryPaths choice paths attempts h
    run.trace.calls = [] ∧ run.trace.deliveries = [] := by
  induction paths generalizing attempts h with
  | nil => exact ⟨rfl, rfl⟩
  | cons path paths ih =>
    obtain ⟨hcalls, hdeliveries⟩ := r.load_silent path h
    -- The search ends with this path or goes on, and loading says nothing in either case.
    unfold tryPaths
    dsimp only
    split
    · constructor
      · rw [Trace.calls_append]
        exact List.append_eq_nil_iff.2 ⟨hcalls, rfl⟩
      · rw [Trace.deliveries_append]
        exact List.append_eq_nil_iff.2 ⟨hdeliveries, rfl⟩
    next e _ =>
      obtain ⟨hcalls', hdeliveries'⟩ := ih (attempts ++ [⟨path, e.message⟩]) (r.load path h).host
      constructor
      · rw [Trace.calls_append]
        exact List.append_eq_nil_iff.2 ⟨hcalls, hcalls'⟩
      · rw [Trace.deliveries_append]
        exact List.append_eq_nil_iff.2 ⟨hdeliveries, hdeliveries'⟩

end Resolver

namespace Session

variable {β : Type} [Backend β] {resolver : Resolver β} {choice : EngineChoice} {h : Host}
  {r : ResolvedBackend β}

def opened (r : ResolvedBackend β) (d : Declaration) : Session β :=
  ⟨{ r with backend := (Backend.declare r.backend d.size d.kind d.overrides).state }, d.size⟩

theorem create_unresolved {e : SolveError} (hr : (resolver.resolve choice h).result = .error e)
    (d : Declaration) : (create resolver d choice h).result = .error e := by
  unfold create
  dsimp only
  rw [hr]

theorem create_resolved (hr : (resolver.resolve choice h).result = .ok r) (d : Declaration) :
    let created := create resolver d choice h
    created.host = (resolver.resolve choice h).host ∧ created.result =
      (Backend.declare r.backend d.size d.kind d.overrides).result.map fun _ => opened r d := by
  unfold create start
  dsimp only
  rw [hr]
  dsimp only
  cases (Backend.declare r.backend d.size d.kind d.overrides).result <;> exact ⟨rfl, rfl⟩

theorem create_ok_trace (hr : (resolver.resolve choice h).result = .ok r) (d : Declaration)
    (hd : (Backend.declare r.backend d.size d.kind d.overrides).result = .ok ()) :
    (create resolver d choice h).trace = (resolver.resolve choice h).trace ++
      ((Backend.declare r.backend d.size d.kind d.overrides).trace ++
        [.logged (readyRecord (opened r d).backendName d.size)]) := by
  unfold create start
  dsimp only
  rw [hr]
  dsimp only
  rw [hd]
  rfl

end Session

end MipDispatch
