import MipDispatch.Proofs.Backend.Embedding
import MipDispatch.Proofs.OneShot.Validation

namespace MipDispatch

open Engine (Adapter)

def Session.holding {α : Type} (s : Session α) (a : α) : Session α :=
  { s with resolved := { s.resolved with backend := a } }

namespace OneShot

open Session (traced untilRefused)

/-- The requests of a session that loads the problem in another order and its rows together. -/
def reordered (o : Objective) (cs : List Constraint) (options : Options) : List Session.Request :=
  (options.listener.toList.map fun l => .listen (some l)) ++
    [.setObjective o, .setConstraints cs, .tune (.verbose options.verbose)]

def heard (a : Adapter) (listener : Option Listener) : Adapter :=
  { a with channel := listener.elim a.channel fun l => a.channel.listen (some l) }

def loaded (a : Adapter) (o : Objective) (cs : List Constraint) (options : Options) : Adapter :=
  heard ((posed (a.tune (.verbose options.verbose)) o).withRows cs) options.listener

section Engine

variable {a : Adapter} {o : Objective} {cs : List Constraint} {options : Options}

theorem addAll_eq (s : Session Adapter) (hdecl : a.problem.declared = true)
    (cs : List Constraint) :
    match cs.findSome? (rowFault? a.problem.size) with
    | some e => ∃ t, addAll (s.holding a) cs = .refuse e t
    | none => addAll (s.holding a) cs = .done (s.holding (a.withRows (a.problem.rows ++ cs))) := by
  induction cs generalizing a with
  | nil =>
    rw [Adapter.withRows_append_nil]
    rfl
  | cons c cs ih =>
    have hadd : (s.holding a).addConstraint c = (a.addConstraint c).within s.holding := rfl
    rw [List.findSome?_cons]
    unfold addAll
    rw [hadd, addConstraint_eq hdecl]
    cases rowFault? a.problem.size c with
    | some e => exact ⟨s.holding a, rfl⟩
    | none =>
      have hrest := ih (a := a.withRows (a.problem.rows ++ [c])) hdecl
      rw [List.append_cons a.problem.rows c cs]
      exact hrest

theorem withListener_eq (s : Session Adapter) (listener : Option Listener) :
    withListener (s.holding a) listener = .done (s.holding (heard a listener)) := by
  cases listener <;> rfl

theorem load_eq (s : Session Adapter) (hblank : a.problem.Blank o.size options.kind ∅)
    (cs : List Constraint) :
    match firstFault? o cs options.kind with
    | some e => ∃ t, load (s.holding a) o cs options = .refuse e t
    | none => load (s.holding a) o cs options = .done (s.holding (loaded a o cs options)) := by
  let told : Adapter := a.tune (.verbose options.verbose)
  have htune : (s.holding a).tune (.verbose options.verbose) = s.holding told := rfl
  have hset : (s.holding told).setObjective o = match objectiveFault? o options.kind with
      | some e => .refuse e (s.holding told)
      | none => .done (s.holding (posed told o)) := by
    change (told.setObjective o).within s.holding = _
    rw [setObjective_eq (a := told) hblank]
    cases objectiveFault? o options.kind <;> rfl
  have hsize : (posed told o).problem.size = o.size := hblank.size
  have hrows : (posed told o).problem.rows = [] := hblank.rows
  -- rows are checked against the size that the objective gave the problem
  have hadd := addAll_eq (a := posed told o) s hblank.declared cs
  rw [hsize, hrows, List.nil_append] at hadd
  rw [load_def, htune, hset, firstFault?]
  cases objectiveFault? o options.kind with
  | some e => exact ⟨s.holding told, rfl⟩
  | none =>
    rw [Option.none_or]
    dsimp only
    rw [andThen_done]
    cases hfault : cs.findSome? (rowFault? o.size) with
    | some e =>
      rw [hfault] at hadd
      obtain ⟨t, ht⟩ := hadd
      exact ⟨t, by rw [ht, andThen_refuse]⟩
    | none =>
      rw [hfault] at hadd
      dsimp only at hadd ⊢
      rw [hadd, andThen_done]
      exact withListener_eq s options.listener

theorem calls_sessionSolve_ne_nil {s : Session Adapter}
    (hdecl : s.resolved.backend.problem.declared = true) (h : Host) :
    (s.solve h).trace.calls ≠ [] := by
  have hcalls := Adapter.calls_solve_ne_nil hdecl h (.zero 0)
  unfold Session.solve
  dsimp only
  split
  · exact hcalls
  · rw [Trace.calls_append]
    exact List.append_ne_nil_of_left_ne_nil hcalls _

/-- Whatever is wrong with the problem, the engine is told nothing. -/
theorem untilRefused_fault (s : Session Adapter) (h : Host)
    (hblank : a.problem.Blank o.size options.kind ∅) {e : SolveError}
    (hfault : firstFault? o cs options.kind = some e) :
    let talk := untilRefused (s.holding a, h) (requests o cs options)
    talk.1.getLast?.bind (·.answer.final?) = some (.error (.error e)) ∧ traced talk.1 = [] := by
  have hload := load_eq s hblank cs
  rw [hfault] at hload
  obtain ⟨t, ht⟩ := hload
  have hcomprises := comprises_load (s.holding a) h o cs options
  rw [ht] at hcomprises
  obtain ⟨x, hlast, hx⟩ := hcomprises.refused e rfl
  dsimp only
  rw [requests, untilRefused_error hcomprises rfl, hlast, Option.bind_some, hx]
  exact ⟨rfl, hcomprises.trace⟩

theorem untilRefused_acceptable (s : Session Adapter) (h : Host)
    (hblank : a.problem.Blank o.size options.kind ∅) (hok : Acceptable o cs options.kind) :
    let talk := untilRefused (s.holding a, h) (requests o cs options)
    let run := (s.holding (loaded a o cs options)).solve h
    talk.1.getLast?.bind (·.answer.final?) = some run.result ∧ traced talk.1 = run.trace := by
  have hload := load_eq s hblank cs
  rw [firstFault?_eq_none_iff.2 hok] at hload
  dsimp only at hload
  have hcomprises := comprises_load (s.holding a) h o cs options
  rw [hload] at hcomprises
  have hthen := untilRefused_ok hcomprises rfl [.solve]
  rw [Session.untilRefused_singleton] at hthen
  dsimp only
  rw [requests, hthen, List.getLast?_concat, Session.traced_append, hcomprises.trace]
  exact ⟨rfl, List.append_nil _⟩

/-- The same problem is loaded by requests in another order. -/
theorem dialogue_reordered (s : Session Adapter) (h : Host)
    (hblank : a.problem.Blank o.size options.kind ∅) (hok : Acceptable o cs options.kind) :
    ∃ xs, dialogue Session.serve (s.holding a, h) (reordered o cs options) =
        (xs, s.holding (loaded a o cs options), h) ∧
      (∀ x ∈ xs, x.isRefused = false) ∧ traced xs = [] := by
  let first : Adapter := heard a options.listener
  have hfirst : first.problem.Blank o.size options.kind ∅ := hblank
  have hlisten : ∃ xs, dialogue Session.serve (s.holding a, h)
        (options.listener.toList.map fun l => .listen (some l)) = (xs, s.holding first, h) ∧
      (∀ x ∈ xs, x.isRefused = false) ∧ traced xs = [] := by
    dsimp only [first]
    cases options.listener with
    | none => exact ⟨[], rfl, fun x hx => (nomatch hx), rfl⟩
    | some l => exact ⟨_, rfl, List.forall_mem_singleton.2 rfl, rfl⟩
  have hset : first.setObjective o = .done (posed first o) := by
    rw [setObjective_eq hfirst,
      objectiveFault?_eq_none_iff.2 ⟨hok.products_within, hok.continuous⟩]
  have hsize : (posed first o).problem.size = o.size := hfirst.size
  have hrows : (posed first o).setConstraints cs = .done ((posed first o).withRows cs) :=
    Adapter.setConstraints_accepted ⟨hfirst.declared, hsize ▸ hok.rows_within, hok.rows_linear⟩
  have hserve : Session.serve (s.holding first, h) (.setObjective o) =
      (⟨.setObjective o, .step (.ok ()), []⟩, s.holding (posed first o), h) := by
    change Session.answerStep _ h ((first.setObjective o).within s.holding) = _
    rw [hset]
    rfl
  have hserve' : Session.serve (s.holding (posed first o), h) (.setConstraints cs) =
      (⟨.setConstraints cs, .step (.ok ()), []⟩, s.holding ((posed first o).withRows cs), h) := by
    change Session.answerStep _ h (((posed first o).setConstraints cs).within s.holding) = _
    rw [hrows]
    rfl
  obtain ⟨xs, hxs, haccepted, hsilent⟩ := hlisten
  refine ⟨xs ++ [⟨.setObjective o, .step (.ok ()), []⟩, ⟨.setConstraints cs, .step (.ok ()), []⟩,
    ⟨.tune (.verbose options.verbose), .tuned, []⟩], ?_, ?_, ?_⟩
  · rw [reordered, dialogue_append, hxs]
    dsimp only [dialogue]
    rw [hserve]
    dsimp only
    rw [hserve']
    rfl
  · exact List.forall_mem_append.2 ⟨haccepted, by simp [Session.Exchange.isRefused]⟩
  · rw [Session.traced_append, hsilent]
    rfl

end Engine

section Transcript

variable {β : Type} [Backend β] (resolver : Resolver β) (o : Objective) (cs : List Constraint)
  (options : Options) (h : Host)

/-- A backend is resolved, and takes over the variables, the objective, every row and the
listener. -/
def TakenOver : Prop :=
  let d := declaration o options
  let resolving := resolver.resolve options.engine h
  ∃ r, resolving.result = .ok r ∧
    (Backend.declare r.backend d.size d.kind d.overrides).result = .ok () ∧
    ∀ x ∈ (dialogue Session.serve (Session.opened r d, resolving.host)
      (loading o cs options)).1, x.isRefused = false

/-- Just then is the backend asked to solve, and once. -/
theorem countP_transcript :
    let solves := (transcript resolver o cs options h).countP (·.request.isSolve)
    (TakenOver resolver o cs options h → solves = 1) ∧
      (¬ TakenOver resolver o cs options h → solves = 0) := by
  let d := declaration o options
  let resolving := resolver.resolve options.engine h
  intro solves
  have hunopened {e : SolveError}
      (hcreated : (Session.create resolver d options.engine h).result = .error e) : solves = 0 := by
    dsimp only [solves, transcript]
    rw [hcreated]
    rfl
  have hopened {r : ResolvedBackend β} (hr : resolving.result = .ok r)
      (hd : (Backend.declare r.backend d.size d.kind d.overrides).result = .ok ()) : solves =
        (untilRefused (Session.opened r d, resolving.host) (requests o cs options)).1.countP
          (·.request.isSolve) := by
    obtain ⟨hhost, hresult⟩ := Session.create_resolved hr d
    rw [hd] at hresult
    dsimp only [solves, transcript]
    rw [hresult, hhost]
    rfl
  -- Either no session is opened and nothing is requested, or the requests that load the problem
  -- decide.
  constructor
  · rintro ⟨r, hr, hd, hload⟩
    rw [hopened hr hd]
    exact (countP_requests _ resolving.host).1 ((load_ok_iff _ resolving.host).2 hload)
  · intro hno
    cases hr : resolving.result with
    | error e => exact hunopened (Session.create_unresolved hr d)
    | ok r =>
      cases hd : (Backend.declare r.backend d.size d.kind d.overrides).result with
      | error e =>
        obtain ⟨-, hresult⟩ := Session.create_resolved hr d
        rw [hd] at hresult
        exact hunopened hresult
      | ok u =>
        rw [hopened hr hd]
        refine (countP_requests _ resolving.host).2 fun hload => hno ⟨r, hr, hd, ?_⟩
        exact (load_ok_iff _ resolving.host).1 hload

end Transcript

section Highs

variable {β : Type} [Backend β] {resolver : Resolver β} {embed : Adapter → β}
  {r : ResolvedBackend β} {o : Objective} {cs : List Constraint} {options : Options} {h : Host}

theorem untilRefused_seen (hf : Backend.Embeds embed) (s : Session Adapter) (h : Host)
    (rs : List Session.Request) :
    let talk := untilRefused (s, h) rs
    untilRefused (s.seen embed, h) rs = (talk.1, talk.2.1.seen embed, talk.2.2) := by
  let view (t : Session Adapter × Host) : Session β × Host := (t.1.seen embed, t.2)
  have hview (t : Session Adapter × Host) (r : Session.Request) :
      Session.serve (view t) r = ((Session.serve t r).1, view (Session.serve t r).2) :=
    Session.serve_seen hf t.1 t.2 r
  exact dialogueUntil_view hview Session.Exchange.isRefused (s, h) rs

/-- Exchanges come to the same as a run for the caller, for the engine and for the listener. -/
structure Matches (run : Hosted Failure Report) (xs : List Session.Exchange) : Prop where
  result : xs.getLast?.bind (·.answer.final?) = some run.result
  calls : (traced xs).calls = run.trace.calls
  deliveries : (traced xs).deliveries = run.trace.deliveries

def engineSession (r : ResolvedBackend β) (n : Nat) : Session Adapter :=
  ⟨⟨.fresh, r.moduleId, r.moduleName, r.path⟩, n⟩

/-- The engine's backend declares variables of one kind whatever their number, and neither engine
nor listener learns of it. -/
theorem create_engine (hf : Backend.Embeds embed)
    (hr : (resolver.resolve options.engine h).result = .ok r) (hb : r.backend = embed .fresh)
    (o : Objective) :
    let d := declaration o options
    let created := Session.create resolver d options.engine h
    created.result = .ok (((engineSession r o.size).holding
        (Adapter.fresh.renewed o.size options.kind ∅)).seen embed) ∧
      created.trace.calls = [] ∧ created.trace.deliveries = [] := by
  intro d created
  -- The variables are all of one kind, so no override can be out of range.
  have hkeys : ∀ v ∈ d.overrides.keys, v < d.size := fun v hv => (nomatch hv)
  have hdeclare : Backend.declare r.backend d.size d.kind d.overrides = Step.within embed ⟨.ok (),
      Adapter.fresh.renewed o.size options.kind ∅, [.logged (Adapter.declaredRecord
        (Adapter.fresh.renewed o.size options.kind ∅).problem)]⟩ := by
    rw [hb, hf.declare]
    exact congrArg (Step.within embed) (Adapter.declare_accepted hkeys .fresh)
  have hd : (Backend.declare r.backend d.size d.kind d.overrides).result = .ok () := by
    rw [hdeclare]
    rfl
  obtain ⟨-, hresult⟩ := Session.create_resolved hr d
  have htrace := Session.create_ok_trace hr d hd
  obtain ⟨hcalls, hdeliveries⟩ :=
    resolver.tryPaths_silent options.engine (resolver.candidates options.engine) [] h
  refine ⟨?_, ?_, ?_⟩
  · rw [hresult, Session.opened, hdeclare]
    rfl
  · rw [htrace, Trace.calls_append, hdeclare]
    exact List.append_eq_nil_iff.2 ⟨hcalls, rfl⟩
  · rw [htrace, Trace.deliveries_append, hdeclare]
    exact List.append_eq_nil_iff.2 ⟨hdeliveries, rfl⟩

/-- So everything that matters about the solve is in the exchanges with the engine's backend. -/
theorem solve_engine (hf : Backend.Embeds embed)
    (hr : (resolver.resolve options.engine h).result = .ok r) (hb : r.backend = embed .fresh)
    (o : Objective) (cs : List Constraint) :
    let created := Session.create resolver (declaration o options) options.engine h
    let s := (engineSession r o.size).holding (Adapter.fresh.renewed o.size options.kind ∅)
    Matches (solve resolver o cs options h)
      (untilRefused (s, created.host) (requests o cs options)).1 := by
  intro created s
  obtain ⟨hcreated, hcalls, hdeliveries⟩ := create_engine hf hr hb o
  obtain ⟨hresult, -, htrace⟩ := solve_opened hcreated cs
  -- what the session's backend answers is what the engine's answers, seen from outside
  have htalk := untilRefused_seen hf s created.host (requests o cs options)
  dsimp only at htalk
  have hrelease (t : Session β) : t.release.calls = [] ∧ t.release.deliveries = [] := ⟨rfl, rfl⟩
  rw [htalk] at hresult htrace
  refine ⟨hresult, ?_, ?_⟩
  · rw [htrace, Trace.calls_append, Trace.calls_append, hcalls, (hrelease _).1, List.append_nil]
    rfl
  · rw [htrace, Trace.deliveries_append, Trace.deliveries_append, hdeliveries, (hrelease _).2,
      List.append_nil]
    rfl

theorem solve_faulty (hf : Backend.Embeds embed)
    (hr : (resolver.resolve options.engine h).result = .ok r) (hb : r.backend = embed .fresh)
    (hno : ¬ Acceptable o cs options.kind) :
    let run := solve resolver o cs options h
    ∃ e, firstFault? o cs options.kind = some e ∧ run.result = .error (.error e) ∧
      run.trace.calls = [] ∧ run.trace.deliveries = [] := by
  intro run
  let created := Session.create resolver (declaration o options) options.engine h
  obtain ⟨hresult, hcalls, hdeliveries⟩ := solve_engine hf hr hb o cs
  obtain ⟨e, he⟩ :=
    Option.ne_none_iff_exists'.1 fun hnone => hno (firstFault?_eq_none_iff.1 hnone)
  have hblank : (Adapter.fresh.renewed o.size options.kind ∅).problem.Blank o.size options.kind ∅ :=
    Problem.declared_blank ..
  obtain ⟨hlast, hsilent⟩ :=
    untilRefused_fault (engineSession r o.size) created.host hblank he
  rw [hsilent] at hcalls hdeliveries
  exact ⟨e, he, Option.some.inj (hresult.symm.trans hlast), hcalls.symm, hdeliveries.symm⟩

/-- A problem without fault is solved as it is when it is loaded in another order. -/
theorem solve_faultless (hf : Backend.Embeds embed)
    (hr : (resolver.resolve options.engine h).result = .ok r) (hb : r.backend = embed .fresh)
    (hok : Acceptable o cs options.kind) :
    let created := Session.create resolver (declaration o options) options.engine h
    let run := solve resolver o cs options h
    run.trace.calls ≠ [] ∧ ∃ s, created.result = .ok s ∧
      let talk := dialogue Session.serve (s, created.host) (reordered o cs options ++ [.solve])
      (∀ x ∈ talk.1, x.isRefused = false) ∧ Matches run talk.1 := by
  intro created run
  let a : Adapter := Adapter.fresh.renewed o.size options.kind ∅
  let s : Session Adapter := engineSession r o.size
  let ran := (s.holding (loaded a o cs options)).solve created.host
  have hblank : a.problem.Blank o.size options.kind ∅ := Problem.declared_blank ..
  obtain ⟨hresult, hcalls, hdeliveries⟩ := solve_engine hf hr hb o cs
  obtain ⟨hcreated, -, -⟩ := create_engine hf hr hb o
  -- both orders of requests load the same backend, and only the solve leaves a trace
  obtain ⟨hlast, htraced⟩ := untilRefused_acceptable s created.host hblank hok
  obtain ⟨xs, hxs, haccepted, hsilent⟩ := dialogue_reordered s created.host hblank hok
  have htalk : (dialogue Session.serve ((s.holding a).seen embed, created.host)
      (reordered o cs options ++ [.solve])).1 =
        xs ++ [⟨.solve, .solved ran.result, ran.trace⟩] := by
    have hseen := Session.dialogue_seen hf (s.holding a) created.host
      (reordered o cs options ++ [.solve])
    dsimp only at hseen
    rw [hseen, dialogue_append, hxs]
    rfl
  have hone : traced (xs ++ [⟨.solve, .solved ran.result, ran.trace⟩]) = ran.trace := by
    rw [Session.traced_append, hsilent]
    exact List.append_nil _
  rw [htraced] at hcalls hdeliveries
  refine ⟨?_, (s.holding a).seen embed, hcreated, ?_⟩
  · rw [← hcalls]
    exact calls_sessionSolve_ne_nil hblank.declared created.host
  · dsimp only
    rw [htalk]
    refine ⟨List.forall_mem_append.2 ⟨haccepted, List.forall_mem_singleton.2 rfl⟩, ?_, ?_, ?_⟩
    · rw [List.getLast?_concat]
      exact hlast.symm.trans hresult
    · rw [hone]
      exact hcalls
    · rw [hone]
      exact hdeliveries

end Highs

/-- A problem that is given in one go is taken over by a session's backend request by request until
one is refused, and is solved once if none was. The engine's backend has checked all of it before
the engine or the listener is told anything: what it refuses is the first item in its order that has
a fault. Nor do the orders of requests matter that put the listener first, the rows together and the
verbosity last: answer, events and calls on the engine are the same. -/
theorem solve_checks_first {β : Type} [Backend β] (resolver : Resolver β) (o : Objective)
    (cs : List Constraint) (options : Options) (h : Host) :
    let run := solve resolver o cs options h
    let created := Session.create resolver (declaration o options) options.engine h
    let xs := transcript resolver o cs options h
    let solves := xs.countP (·.request.isSolve)
    ((TakenOver resolver o cs options h → solves = 1) ∧
      (¬ TakenOver resolver o cs options h → solves = 0) ∧
      (∀ e, created.result = .error e →
        xs = [] ∧ run = ⟨.error (.error e), created.host, created.trace⟩) ∧
      ∀ s, created.result = .ok s →
        let talk := untilRefused (s, created.host) (requests o cs options)
        xs = talk.1 ∧ xs.getLast?.bind (·.answer.final?) = some run.result ∧
          run.host = talk.2.2 ∧ run.trace = created.trace ++ traced xs ++ talk.2.1.release) ∧
    ∀ (embed : Adapter → β) (r : ResolvedBackend β), Backend.Embeds embed →
      (resolver.resolve options.engine h).result = .ok r → r.backend = embed .fresh →
        (run.trace.calls ≠ [] ↔ Acceptable o cs options.kind) ∧
        (¬ Acceptable o cs options.kind → ∃ e, firstFault? o cs options.kind = some e ∧
          run.result = .error (.error e) ∧ run.trace.calls = [] ∧ run.trace.deliveries = []) ∧
        (Acceptable o cs options.kind → ∃ s, created.result = .ok s ∧
          let talk := dialogue Session.serve (s, created.host) (reordered o cs options ++ [.solve])
          (∀ x ∈ talk.1, x.isRefused = false) ∧ Matches run talk.1) := by
  intro run created xs solves
  obtain ⟨honce, hnever⟩ := countP_transcript resolver o cs options h
  refine ⟨⟨honce, hnever, fun e he => ⟨?_, solve_unopened he cs⟩, fun s hs => ?_⟩, ?_⟩
  · dsimp only [xs, transcript]
    rw [he]
  · have hxs : xs = (untilRefused (s, created.host) (requests o cs options)).1 := by
      dsimp only [xs, transcript]
      rw [hs]
    rw [hxs]
    exact ⟨rfl, solve_opened hs cs⟩
  · intro embed r hf hr hb
    refine ⟨⟨fun hcalls => ?_, fun hok => (solve_faultless hf hr hb hok).1⟩,
      solve_faulty hf hr hb, fun hok => (solve_faultless hf hr hb hok).2⟩
    by_contra hno
    obtain ⟨-, -, -, hnone, -⟩ := solve_faulty hf hr hb hno
    exact hcalls hnone

/-- With the second of three rows a variable too far, the engine is not told of the first one
either, and the third one, which has a product, is not complained of. -/
theorem solve_checks_first_stray :
    let resolver : Resolver StockBackend :=
      ⟨⟨fun _ => .ok (.offering "m" (some (.made (.engine .fresh))))⟩, .ofString "modules"⟩
    let o : Objective := .ofLinear [1, 2] .maximize
    let options : Options := ⟨.integer, true, .highs, some (.recorder "log")⟩
    let h : Host := ⟨none, [], 0⟩
    let row : Constraint := Constraint.empty.setLinear 1 1
    let rows : List Constraint := [row, row.setLinear 2 1, row.setQuadratic 0 0 1]
    let run := solve resolver o rows options h
    (transcript resolver o [row] options h).countP (·.request.isSolve) = 1 ∧
      (solve resolver o [row] options h).trace.calls ≠ [] ∧
      run.result = .error (.error (.invalidProblem (.outOfRange .constraint 2 2))) ∧
      run.trace.calls = [] ∧ run.trace.deliveries = [] := by
  intro resolver o options h row rows run
  let r : ResolvedBackend StockBackend :=
    ⟨.engine .fresh, 0, "m", (Path.ofString "modules").join EngineChoice.highs.moduleFile⟩
  have hr : (resolver.resolve options.engine h).result = .ok r := rfl
  have hgood : Acceptable o [row] options.kind := firstFault?_eq_none_iff.1 (by decide +kernel)
  have hfault : firstFault? o rows options.kind =
      some (.invalidProblem (.outOfRange .constraint 2 2)) := by decide +kernel
  have hbad : ¬ Acceptable o rows options.kind := fun hok => by
    rw [firstFault?_eq_none_iff.2 hok] at hfault
    cases hfault
  have hload : ((dialogue Session.serve
      (Session.opened r (declaration o options), (resolver.resolve options.engine h).host)
      (loading o [row] options)).1.all (!·.isRefused)) = true := by decide +kernel
  obtain ⟨⟨honce, -⟩, hsolved⟩ := solve_checks_first resolver o [row] options h
  obtain ⟨-, hrefused⟩ := solve_checks_first resolver o rows options h
  obtain ⟨e, he, hresult, hcalls, hdeliveries⟩ :=
    (hrefused StockBackend.engine r Backend.embeds_engine hr rfl).2.1 hbad
  cases he.symm.trans hfault
  refine ⟨honce ⟨r, hr, rfl, fun x hx => ?_⟩,
    (hsolved StockBackend.engine r Backend.embeds_engine hr rfl).1.2 hgood, hresult, hcalls,
    hdeliveries⟩
  simpa using List.all_eq_true.1 hload x hx

end OneShot

end MipDispatch
