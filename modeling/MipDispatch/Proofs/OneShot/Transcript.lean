import MipDispatch.OneShot
import MipDispatch.Proofs.Session.Opening
import MipDispatch.Proofs.Session.Refusals

namespace MipDispatch

namespace Session

def Request.isSolve : Request → Bool
  | .solve => true
  | _ => false

/-- What a request comes to if nothing is requested after it. A change that was carried out comes to
nothing by itself. -/
def Answer.final? : Answer → Option (Except Failure Report)
  | .step (.error e) => some (.error (.error e))
  | .step (.ok _) | .tuned => none
  | .solved result => some result

def traced (xs : List Exchange) : Trace := xs.flatMap (·.trace)

@[simp] theorem traced_append (xs ys : List Exchange) :
    traced (xs ++ ys) = traced xs ++ traced ys :=
  List.flatMap_append

variable {β : Type} [Backend β]

def untilRefused (t : Session β × Host) (rs : List Request) : List Exchange × Session β × Host :=
  dialogueUntil serve Exchange.isRefused t rs

theorem untilRefused_singleton (t : Session β × Host) (r : Request) :
    untilRefused t [r] = ([(serve t r).1], (serve t r).2) :=
  ite_self _

theorem untilRefused_append (t : Session β × Host) (rs rs' : List Request) :
    let first := untilRefused t rs
    let rest := untilRefused first.2 rs'
    untilRefused t (rs ++ rs') =
      if first.1.any (·.isRefused) then first else (first.1 ++ rest.1, rest.2) :=
  dialogueUntil_append t rs rs'

end Session

namespace OneShot

open Session (traced untilRefused)

variable {β : Type} [Backend β]

def loading (o : Objective) (cs : List Constraint) (options : Options) : List Session.Request :=
  [.tune (.verbose options.verbose)] ++ ([.setObjective o] ++ cs.map .addConstraint ++
    options.listener.toList.map fun l => .listen (some l))

def requests (o : Objective) (cs : List Constraint) (options : Options) : List Session.Request :=
  loading o cs options ++ [.solve]

/-- The exchanges of a one-shot solve. There are none if no session can be opened. -/
def transcript (resolver : Resolver β) (o : Objective) (cs : List Constraint) (options : Options)
    (h : Host) : List Session.Exchange :=
  let created := Session.create resolver (declaration o options) options.engine h
  match created.result with
  | .error _ => []
  | .ok s => (untilRefused (s, created.host) (requests o cs options)).1

def withListener (s : Session β) : Option Listener → Step (Session β)
  | none => .done s
  | some l => s.listen (some l)

theorem load_def (s : Session β) (o : Objective) (cs : List Constraint) (options : Options) :
    load s o cs options =
      andThen (andThen ((s.tune (.verbose options.verbose)).setObjective o) (addAll · cs))
        (withListener · options.listener) := rfl

omit [Backend β] in
@[simp] theorem andThen_done (s : Session β) (second : Session β → Step (Session β)) :
    andThen (.done s) second = second s := rfl

omit [Backend β] in
@[simp] theorem andThen_refuse (e : SolveError) (s : Session β)
    (second : Session β → Step (Session β)) : andThen (.refuse e s) second = .refuse e s := rfl

structure Comprises (step : Step (Session β)) (h : Host)
    (talk : List Session.Exchange × Session β × Host) : Prop where
  trace : traced talk.1 = step.trace
  left : talk.2 = (step.state, h)
  accepted : step.result = .ok () → ∀ x ∈ talk.1, x.isRefused = false
  refused : ∀ e, step.result = .error e →
    ∃ x, talk.1.getLast? = some x ∧ x.answer = .step (.error e)

theorem comprises_done (s : Session β) (h : Host) :
    Comprises (.done s) h (untilRefused (s, h) []) where
  trace := rfl
  left := rfl
  accepted := fun _ _ hx => nomatch hx
  refused := fun _ he => nomatch he

theorem comprises_request {s : Session β} {h : Host} {r : Session.Request} {step : Step (Session β)}
    (hserve : Session.serve (s, h) r = Session.answerStep r h step) :
    Comprises step h (untilRefused (s, h) [r]) := by
  rw [Session.untilRefused_singleton, hserve]
  refine ⟨List.flatMap_singleton .., rfl, fun hok => ?_, fun e he => ?_⟩
  · rw [List.forall_mem_singleton]
    dsimp only [Session.answerStep, Session.Exchange.isRefused]
    rw [hok]
  · exact ⟨_, rfl, congrArg Session.Answer.step he⟩

section Comprises

variable {first : Step (Session β)} {h : Host} {talk : List Session.Exchange × Session β × Host}

omit [Backend β] in
theorem Comprises.any_refused (hfirst : Comprises first h talk) {e : SolveError}
    (he : first.result = .error e) : talk.1.any (·.isRefused) = true := by
  obtain ⟨x, hlast, hx⟩ := hfirst.refused e he
  exact List.any_eq_true.2 ⟨x, List.mem_of_getLast? hlast, by rw [Session.Exchange.isRefused, hx]⟩

omit [Backend β] in
theorem Comprises.none_refused (hfirst : Comprises first h talk) (hok : first.result = .ok ()) :
    talk.1.any (·.isRefused) = false :=
  List.any_eq_false.2 fun x hx => by simp [hfirst.accepted hok x hx]

variable {s : Session β} {rs : List Session.Request}

/-- A step that is refused stops the requests made after it. -/
theorem untilRefused_error (hfirst : Comprises first h (untilRefused (s, h) rs)) {e : SolveError}
    (he : first.result = .error e) (rs' : List Session.Request) :
    untilRefused (s, h) (rs ++ rs') = untilRefused (s, h) rs := by
  rw [Session.untilRefused_append, hfirst.any_refused he, if_pos rfl]

theorem untilRefused_ok (hfirst : Comprises first h (untilRefused (s, h) rs))
    (hok : first.result = .ok ()) (rs' : List Session.Request) :
    let rest := untilRefused (first.state, h) rs'
    untilRefused (s, h) (rs ++ rs') = ((untilRefused (s, h) rs).1 ++ rest.1, rest.2) := by
  rw [Session.untilRefused_append, hfirst.none_refused hok, if_neg Bool.false_ne_true, hfirst.left]

theorem Comprises.andThen {rs' : List Session.Request} {second : Session β → Step (Session β)}
    (hfirst : Comprises first h (untilRefused (s, h) rs))
    (hsecond : ∀ t, Comprises (second t) h (untilRefused (t, h) rs')) :
    Comprises (andThen first second) h (untilRefused (s, h) (rs ++ rs')) := by
  unfold OneShot.andThen
  cases hresult : first.result with
  | error e =>
    rw [untilRefused_error hfirst hresult rs']
    exact hfirst
  | ok u =>
    obtain ⟨htrace, hleft, hok, herror⟩ := hsecond first.state
    rw [untilRefused_ok hfirst hresult rs']
    refine ⟨?_, hleft, fun hresult' => ?_, fun e he => ?_⟩
    · rw [Session.traced_append, hfirst.trace, htrace]
    · exact List.forall_mem_append.2 ⟨hfirst.accepted hresult, hok hresult'⟩
    · obtain ⟨x, hlast, hx⟩ := herror e he
      exact ⟨x, by rw [List.getLast?_append, hlast]; rfl, hx⟩

end Comprises

theorem comprises_addAll (s : Session β) (h : Host) (cs : List Constraint) :
    Comprises (addAll s cs) h (untilRefused (s, h) (cs.map .addConstraint)) := by
  induction cs generalizing s with
  | nil => exact comprises_done s h
  | cons c cs ih =>
    have hadd : Comprises (s.addConstraint c) h (untilRefused (s, h) [.addConstraint c]) :=
      comprises_request rfl
    exact hadd.andThen ih

theorem comprises_load (s : Session β) (h : Host) (o : Objective) (cs : List Constraint)
    (options : Options) :
    Comprises (load s o cs options) h (untilRefused (s, h) (loading o cs options)) := by
  let told := s.tune (.verbose options.verbose)
  have htold : Comprises (.done told) h (untilRefused (s, h) [.tune (.verbose options.verbose)]) :=
    ⟨rfl, rfl, fun _ => List.forall_mem_singleton.2 rfl, fun _ he => nomatch he⟩
  have hobjective (t : Session β) :
      Comprises (t.setObjective o) h (untilRefused (t, h) [.setObjective o]) :=
    comprises_request rfl
  have hlisten (t : Session β) : Comprises (withListener t options.listener) h
      (untilRefused (t, h) (options.listener.toList.map fun l => .listen (some l))) := by
    cases options.listener with
    | none => exact comprises_done t h
    | some l => exact comprises_request rfl
  rw [load_def]
  exact htold.andThen fun t =>
    ((hobjective t).andThen fun t => comprises_addAll t h cs).andThen hlisten

/-- Where no session can be opened, that is all that happens. -/
theorem solve_unopened {resolver : Resolver β} {o : Objective} {options : Options} {h : Host}
    {e : SolveError}
    (hcreated : (Session.create resolver (declaration o options) options.engine h).result =
      .error e) (cs : List Constraint) :
    let created := Session.create resolver (declaration o options) options.engine h
    solve resolver o cs options h = ⟨.error (.error e), created.host, created.trace⟩ := by
  unfold solve
  dsimp only
  rw [hcreated]

section Opened

variable {resolver : Resolver β} {o : Objective} {options : Options} {h : Host} {s : Session β}
  {cs : List Constraint}

theorem solve_refused
    (hcreated : (Session.create resolver (declaration o options) options.engine h).result = .ok s)
    {e : SolveError} (hload : (load s o cs options).result = .error e) :
    let created := Session.create resolver (declaration o options) options.engine h
    let loaded := load s o cs options
    solve resolver o cs options h = ⟨.error (.error e), created.host,
      created.trace ++ loaded.trace ++ loaded.state.release⟩ := by
  unfold solve
  dsimp only
  rw [hcreated]
  dsimp only
  rw [hload]

theorem solve_loaded
    (hcreated : (Session.create resolver (declaration o options) options.engine h).result = .ok s)
    (hload : (load s o cs options).result = .ok ()) :
    let created := Session.create resolver (declaration o options) options.engine h
    let loaded := load s o cs options
    let run := loaded.state.solve created.host
    solve resolver o cs options h = ⟨run.result, run.host,
      created.trace ++ loaded.trace ++ run.trace ++ run.session.release⟩ := by
  unfold solve
  dsimp only
  rw [hcreated]
  dsimp only
  rw [hload]

/-- An open session is asked to load the problem and to solve it, until it refuses. Then it is
released. -/
theorem solve_opened
    (hcreated : (Session.create resolver (declaration o options) options.engine h).result = .ok s)
    (cs : List Constraint) :
    let created := Session.create resolver (declaration o options) options.engine h
    let talk := untilRefused (s, created.host) (requests o cs options)
    let run := solve resolver o cs options h
    talk.1.getLast?.bind (·.answer.final?) = some run.result ∧ run.host = talk.2.2 ∧
      run.trace = created.trace ++ traced talk.1 ++ talk.2.1.release := by
  intro created talk run
  have hload := comprises_load s created.host o cs options
  cases hresult : (load s o cs options).result with
  | error e =>
    -- the last answer is the refusal, since the solve is not even requested
    obtain ⟨x, hlast, hx⟩ := hload.refused e hresult
    have htalk : talk = untilRefused (s, created.host) (loading o cs options) :=
      untilRefused_error hload hresult [.solve]
    have hrun : run = _ := solve_refused hcreated hresult
    rw [htalk, hrun, hload.left, hload.trace, hlast, Option.bind_some, hx]
    exact ⟨rfl, rfl, rfl⟩
  | ok u =>
    let loaded := (load s o cs options).state
    have htalk : talk = ((untilRefused (s, created.host) (loading o cs options)).1 ++
        [(Session.serve (loaded, created.host) .solve).1],
        (Session.serve (loaded, created.host) .solve).2) :=
      (untilRefused_ok hload hresult [.solve]).trans (by rw [Session.untilRefused_singleton])
    have hrun : run = _ := solve_loaded hcreated hresult
    rw [htalk, hrun, Session.traced_append, hload.trace, List.getLast?_concat]
    refine ⟨rfl, rfl, ?_⟩
    simp [Session.serve, Session.traced, List.append_assoc, created, loaded]

theorem load_ok_iff (s : Session β) (h : Host) : (load s o cs options).result = .ok () ↔
    ∀ x ∈ (dialogue Session.serve (s, h) (loading o cs options)).1, x.isRefused = false := by
  have hload := comprises_load s h o cs options
  constructor
  · intro hok
    have haccepted := hload.accepted hok
    have htalk : untilRefused (s, h) (loading o cs options) =
        dialogue Session.serve (s, h) (loading o cs options) := dialogueUntil_eq haccepted
    rwa [htalk] at haccepted
  · intro haccepted
    have htalk : untilRefused (s, h) (loading o cs options) =
        dialogue Session.serve (s, h) (loading o cs options) := dialogueUntil_accepted haccepted
    rw [← htalk] at haccepted
    cases hresult : (load s o cs options).result with
    | ok u => rfl
    | error e =>
      have hany := hload.any_refused hresult
      rw [List.any_eq_false.2 fun x hx => by simp [haccepted x hx]] at hany
      cases hany

theorem countP_loading (s : Session β) (h : Host) :
    (untilRefused (s, h) (loading o cs options)).1.countP (·.request.isSolve) = 0 := by
  have hmade : (untilRefused (s, h) (loading o cs options)).1.map (·.request) <+:
      loading o cs options := requests_dialogueUntil Session.serve_request (s, h) _
  have hnone : ∀ r ∈ loading o cs options, r.isSolve = false := by
    simp only [loading, List.forall_mem_append, List.forall_mem_singleton, List.forall_mem_map]
    exact ⟨rfl, ⟨rfl, fun _ _ => rfl⟩, fun _ _ => rfl⟩
  rw [List.countP_eq_zero]
  intro x hx
  simp [hnone x.request (hmade.subset (List.mem_map_of_mem hx))]

/-- The solve is requested once if the problem can be loaded, and else not at all. -/
theorem countP_requests (s : Session β) (h : Host) :
    let solves := (untilRefused (s, h) (requests o cs options)).1.countP (·.request.isSolve)
    ((load s o cs options).result = .ok () → solves = 1) ∧
      ((load s o cs options).result ≠ .ok () → solves = 0) := by
  have hload := comprises_load s h o cs options
  intro solves
  cases hresult : (load s o cs options).result with
  | error e =>
    have hsolves : solves = 0 := by
      dsimp only [solves]
      rw [requests, untilRefused_error hload hresult, countP_loading]
    exact ⟨fun hok => (nomatch hok), fun _ => hsolves⟩
  | ok u =>
    have hthen := untilRefused_ok hload hresult [.solve]
    rw [Session.untilRefused_singleton] at hthen
    have hsolves : solves = 1 := by
      dsimp only [solves]
      rw [requests, hthen, List.countP_append, countP_loading]
      rfl
    exact ⟨fun _ => hsolves, fun hno => absurd rfl hno⟩

end Opened

end OneShot

end MipDispatch
