import MipDispatch.Proofs.Adapter.Events
import MipDispatch.Proofs.Adapter.Steps

namespace MipDispatch

namespace Engine

def Reply.untimed (r : Reply) : Reply := { r with elapsed := 0 }

end Engine

def Host.untimed (h : Host) : Host := { h with replies := h.replies.map Engine.Reply.untimed }

def Solution.untimed (s : Solution) : Solution := { s with time := 0 }

/-- A request that has nothing to do with listeners. -/
def Request.plain? : Request → Option Request
  | .listen _ => none
  | .solve s => some (.solve s.untimed)
  | r => some r

def Answer.untimed : Answer → Answer
  | .solved result s => .solved result s.untimed
  | .step result => .step result
  | .tuned => .tuned

/-- The request with listeners that never fail. -/
def Request.named : Request → Request
  | .listen listener => .listen (listener.map fun l => .recorder l.name)
  | r => r

theorem Request.named_cases {r r' : Request} (h : r.named = r'.named) :
    (r.listener? = none ∧ r' = r) ∨ ∃ x y, r = .listen x ∧ r' = .listen y ∧
      x.map (·.name) = y.map (·.name) := by
  cases r with
  | listen x =>
    cases r' with
    | listen y =>
      have hnames := congrArg (Option.map Listener.name) (Request.listen.inj h)
      rw [Option.map_map, Option.map_map] at hnames
      exact .inr ⟨x, y, rfl, rfl, hnames⟩
    | _ => cases h
  | _ =>
    cases r' with
    | listen y => cases h
    | _ => exact .inl ⟨rfl, h.symm⟩

/-- The events of an exchange with the listeners that were handed them, who may have failed. -/
def Exchange.handed (x : Exchange) : List (String × Event) :=
  x.trace.deliveries.map fun d => (d.listener, d.event)

/-- What is asked, answered and told to the engine in an exchange that has nothing to do with
listeners. -/
def Exchange.plain? (x : Exchange) : Option (Request × Answer × List Engine.Call) :=
  x.request.plain?.map fun r => (r, x.answer.untimed, x.trace.calls)

/-- Two exchanges alike but for what listeners failed on. -/
structure Exchange.Alike (x y : Exchange) : Prop where
  plain : x.plain? = y.plain?
  handed : x.handed = y.handed

namespace Host

@[simp] theorem untimed_untimed (h : Host) : h.untimed.untimed = h.untimed := by
  have hreply : Engine.Reply.untimed ∘ Engine.Reply.untimed = Engine.Reply.untimed := rfl
  simp [untimed, hreply]

theorem reply_untimed (h : Host) : h.untimed.reply = h.reply.untimed := by
  cases hreplies : h.replies with
  | nil => simp [reply, untimed, hreplies]; rfl
  | cons r rs => simp [reply, untimed, hreplies]

theorem afterReply_untimed (h : Host) : h.untimed.afterReply = h.afterReply.untimed := by
  simp [afterReply, untimed]

theorem holdScheduler_untimed (h : Host) (threads : Option Nat) :
    h.untimed.holdScheduler threads =
      ((h.holdScheduler threads).1, (h.holdScheduler threads).2.untimed) := by
  unfold holdScheduler
  dsimp only [untimed]
  split
  · rfl
  · split <;> rfl

end Host

namespace Engine

theorem perform_untimed (r : Reply) (cs : List Call) : perform r.untimed cs = perform r cs := by
  induction cs with
  | nil => rfl
  | cons c cs ih =>
    unfold perform
    rw [ih]
    rfl

namespace Adapter

def deaf (a : Adapter) : Adapter := { a with channel := .idle }

variable {a : Adapter}

theorem prepare_deaf (a : Adapter) (r : Reply) :
    (a.deaf.prepare r.untimed).2 = (a.prepare r).2 := by
  have hsetup : a.deaf.setupCalls = a.setupCalls := rfl
  have hhessian : a.deaf.passHessian r.untimed = a.passHessian r := rfl
  rw [prepare_result, prepare_result, hsetup, hhessian, perform_untimed]

theorem calls_prepare_deaf (a : Adapter) (r : Reply) :
    (a.deaf.prepare r.untimed).1.calls = (a.prepare r).1.calls := by
  have hsetup : a.deaf.setupCalls = a.setupCalls := rfl
  have hhessian : a.deaf.passHessian r.untimed = a.passHessian r := rfl
  have hrefuses : r.untimed.refuses = r.refuses := rfl
  rw [calls_prepare, calls_prepare, hsetup, hhessian, hrefuses, ← calls_perform, ← calls_perform,
    perform_untimed]

theorem conclude_deaf (a : Adapter) (r : Reply) (s : Solution) :
    (a.deaf.conclude r.untimed s.untimed).2.1 = (a.conclude r s).2.1 ∧
      (a.deaf.conclude r.untimed s.untimed).2.2.untimed = (a.conclude r s).2.2.untimed := by
  have hproblem : a.deaf.problem = a.problem := rfl
  have hvalues : r.untimed.values a.problem.size = r.values a.problem.size := rfl
  have hstatus : r.untimed.status = r.status := rfl
  constructor
  · rw [conclude_outcome, conclude_outcome, hproblem, hvalues, hstatus]
  · rw [conclude_solution, conclude_solution, hproblem, hvalues, hstatus]
    split <;> rfl

/-- A solve that nobody listens to, in no time, is the same in its result, in its solution and in
what it tells the engine. -/
theorem solve_deaf (a : Adapter) (h : Host) (s : Solution) :
    let run := a.solve h s
    let plain := a.deaf.solve h.untimed s.untimed
    plain.result = run.result ∧ plain.solution.untimed = run.solution.untimed ∧
      plain.trace.calls = run.trace.calls ∧ plain.host.untimed = run.host.untimed := by
  have hsolution : s.untimed.untimed = s.untimed := rfl
  -- The listener is nowhere in the setup, in the verdict or in what holds the threads, and the
  -- time is only ever written down.
  cases hdecl : a.problem.declared with
  | false =>
    have hdecl' : a.deaf.problem.declared = false := hdecl
    simp [solve, Problem.requireDeclared, hdecl, hdecl', hsolution]
  | true =>
    have hready : a.problem.requireDeclared "solve" = .ok () :=
      Problem.requireDeclared_eq_ok_iff.2 hdecl
    have hready' : a.deaf.problem.requireDeclared "solve" = .ok () := hready
    have hconclude := conclude_deaf a h.reply s
    have hran : h.reply.untimed.ranThrough = h.reply.ranThrough := rfl
    have htuning : a.deaf.tuning = a.tuning := rfl
    have hcalls : (a.deaf.solve h.untimed s.untimed).trace.calls = (a.solve h s).trace.calls := by
      rw [calls_solve hdecl, calls_solve (a := a.deaf) hdecl, Host.reply_untimed, htuning,
        calls_prepare_deaf, prepare_deaf, Host.afterReply_untimed, Host.holdScheduler_untimed]
    refine ⟨?_, ?_, hcalls, ?_⟩
    · rw [solve_result hdecl, solve_result (a := a.deaf) hdecl, Host.reply_untimed, prepare_deaf,
        hran, conclude_deaf a h.reply s |>.1]
    · unfold solve
      rw [hready, hready', Host.reply_untimed]
      dsimp only
      rw [prepare_deaf, hran]
      split
      · exact hsolution
      · split
        · exact hconclude.2
        · exact hsolution
    · rw [solve_host hdecl, solve_host (a := a.deaf) hdecl, Host.reply_untimed, prepare_deaf,
        htuning, Host.afterReply_untimed, Host.holdScheduler_untimed]
      split <;> exact Host.untimed_untimed _

theorem setObjective_deaf (a : Adapter) (o : Objective) :
    a.deaf.setObjective o = (a.setObjective o).within deaf := by
  have hkinds : a.deaf.checkKinds o = a.checkKinds o := rfl
  unfold setObjective
  rw [hkinds]
  split <;> rfl

theorem setConstraints_deaf (a : Adapter) (cs : ConstraintList) :
    a.deaf.setConstraints cs = (a.setConstraints cs).within deaf := by
  unfold setConstraints
  split <;> rfl

theorem addConstraint_deaf (a : Adapter) (c : Constraint) :
    a.deaf.addConstraint c = (a.addConstraint c).within deaf := by
  unfold addConstraint
  split <;> rfl

def servePlain (s : Adapter × Host) (r : Request) :
    (Request × Answer × List Call) × Adapter × Host :=
  let served := Backend.serve s.1 s.2 r
  ((r, served.exchange.answer.untimed, served.exchange.trace.calls), served.backend.deaf,
    served.host.untimed)

theorem serve_deaf (a : Adapter) (h : Host) {r r' : Request} (hr : r.plain? = some r') :
    let served := Backend.serve a h r
    servePlain (a.deaf, h.untimed) r' =
      ((r', served.exchange.answer.untimed, served.exchange.trace.calls), served.backend.deaf,
        served.host.untimed) := by
  -- A step leaves the host as it was, and taking the times from it twice is taking them once.
  have hstep {r : Request} {step : Step Adapter} :
      (Backend.answerStep r h.untimed (step.within deaf)).host.untimed =
        (Backend.answerStep r h step).host.untimed := h.untimed_untimed
  cases r with
  | declare n kind overrides =>
    cases hr
    have hdeclare : Backend.declare a.deaf n kind overrides =
        (Backend.declare a n kind overrides).within deaf := rfl
    dsimp only [servePlain, Backend.serve]
    rw [hdeclare, hstep]
    rfl
  | setObjective o =>
    cases hr
    have hset : Backend.setObjective a.deaf o = (Backend.setObjective a o).within deaf :=
      a.setObjective_deaf o
    dsimp only [servePlain, Backend.serve]
    rw [hset, hstep]
    rfl
  | setConstraints cs =>
    cases hr
    have hset : Backend.setConstraints a.deaf cs = (Backend.setConstraints a cs).within deaf :=
      a.setConstraints_deaf cs
    dsimp only [servePlain, Backend.serve]
    rw [hset, hstep]
    rfl
  | addConstraint c =>
    cases hr
    have hadd : Backend.addConstraint a.deaf c = (Backend.addConstraint a c).within deaf :=
      a.addConstraint_deaf c
    dsimp only [servePlain, Backend.serve]
    rw [hadd, hstep]
    rfl
  | tune call =>
    cases hr
    dsimp only [servePlain, Backend.serve]
    rw [Host.untimed_untimed]
    rfl
  | listen listener => cases hr
  | solve s =>
    cases hr
    obtain ⟨hresult, hsolution, hcalls, hhost⟩ := a.solve_deaf h s
    have hbackend : (a.deaf.solve h.untimed s.untimed).backend = a.deaf := solve_backend ..
    have hbackend' : (a.solve h s).backend = a := solve_backend ..
    have hdeaf : a.deaf.deaf = a.deaf := rfl
    simp only [servePlain, Backend.serve, Backend.solve, Answer.untimed]
    rw [hresult, hsolution, hcalls, hhost, hbackend, hbackend', hdeaf]

def unheard (s : Adapter × Host) : Adapter × Host := (s.1.deaf, s.2.untimed)

/-- A conversation, but for the listeners and the time that passes, is one that nobody listens
to. -/
theorem converse_deaf (a : Adapter) (h : Host) (rs : List Request) :
    let talk := Backend.converse a h rs
    dialogue servePlain (a.deaf, h.untimed) (rs.filterMap Request.plain?) =
      (talk.exchanges.filterMap Exchange.plain?, talk.backend.deaf, talk.host.untimed) := by
  have hunseen (s : Adapter × Host) (r : Request) (hr : r.plain? = none) :
      (Backend.serveIn s r).1.plain? = none ∧ unheard (Backend.serveIn s r).2 = unheard s := by
    cases r with
    | listen listener => exact ⟨rfl, rfl⟩
    | _ => cases hr
  have hseen (s : Adapter × Host) (r r' : Request) (hr : r.plain? = some r') :
      (Backend.serveIn s r).1.plain? = some (servePlain (unheard s) r').1 ∧
        unheard (Backend.serveIn s r).2 = (servePlain (unheard s) r').2 := by
    have hrequest : (Backend.serve s.1 s.2 r).exchange.request = r := Backend.serve_request ..
    rw [unheard, serve_deaf s.1 s.2 hr]
    constructor
    · rw [Exchange.plain?, Backend.serveIn, hrequest, hr]
      rfl
    · rfl
  rw [Backend.converse_eq_dialogue]
  exact dialogue_project hunseen hseen (a, h) rs

variable {b : Adapter} {l : Listener}

theorem deaf_eq_iff : a.deaf = b.deaf ↔ a.problem = b.problem ∧ a.tuning = b.tuning := by
  simp [deaf]

theorem solve_result_congr (hab : a.deaf = b.deaf) (h : Host) (s : Solution) :
    (a.solve h s).result = (b.solve h s).result ∧ (a.solve h s).host = (b.solve h s).host := by
  have hprepare : (a.prepare h.reply).2 = (b.prepare h.reply).2 := by
    rw [← a.prepare_deaf, ← b.prepare_deaf, hab]
  obtain ⟨hproblem, htuning⟩ := deaf_eq_iff.1 hab
  constructor
  · rw [← (a.solve_deaf h s).1, ← (b.solve_deaf h s).1, hab]
  · cases hdecl : a.problem.declared with
    | true => rw [solve_host hdecl, solve_host (hproblem ▸ hdecl), hprepare, htuning]
    | false =>
      have hdecl' : b.problem.declared = false := hproblem ▸ hdecl
      simp [solve, Problem.requireDeclared, hdecl, hdecl']

/-- The events that a solve hands over, if somebody listens. -/
def announced (a : Adapter) (h : Host) (s : Solution) : List Event :=
  if a.problem.declared then a.told h.reply (a.solve h s).result else []

theorem deliveries_announced (hc : a.channel.Consistent) (h : Host) (s : Solution) :
    (a.solve h s).trace.deliveries =
      (a.announced h s).flatMap fun e => a.channel.listener.toList.map (·.hears e) := by
  unfold announced
  cases hdecl : a.problem.declared with
  | false =>
    rw [trace_undeclared hdecl]
    rfl
  | true =>
    rw [deliveries_solve hdecl]
    simp only [Channel.deliveries_publish hc]
    rfl

theorem announced_congr (hab : a.deaf = b.deaf) (h : Host) (s : Solution) :
    a.announced h s = b.announced h s := by
  obtain ⟨hproblem, _⟩ := deaf_eq_iff.1 hab
  have htold (result : Except Failure Outcome) : a.told h.reply result = b.told h.reply result := by
    unfold told closing
    rw [hproblem]
  rw [announced, announced, hproblem, (solve_result_congr hab h s).1, htold]

/-- Two adapters alike in everything but what their listeners fail on. -/
structure Alike (a b : Adapter) : Prop where
  deaf : a.deaf = b.deaf
  left : a.channel.Consistent
  right : b.channel.Consistent
  names : a.channel.listener.map (·.name) = b.channel.listener.map (·.name)

/-- A listener is handed an event whether or not it will fail on it. -/
theorem Alike.solve_handed (hab : a.Alike b) (h : Host) (s : Solution) :
    (a.solve h s).trace.deliveries.map (fun d => (d.listener, d.event)) =
      (b.solve h s).trace.deliveries.map (fun d => (d.listener, d.event)) := by
  have hnamed (l? : Option Listener) (e : Event) :
      (l?.toList.map (·.hears e)).map (fun d => (d.listener, d.event)) =
        (l?.map (·.name)).toList.map fun name => (name, e) := by
    cases l? <;> rfl
  rw [deliveries_announced hab.left, deliveries_announced hab.right, announced_congr hab.deaf,
    List.map_flatMap, List.map_flatMap]
  simp only [hnamed, hab.names]

theorem Alike.serve (hab : a.Alike b) (h : Host) {r r' : Request} (hr : r.named = r'.named) :
    let served := Backend.serve a h r
    let served' := Backend.serve b h r'
    served.exchange.Alike served'.exchange ∧ served.host = served'.host ∧
      served.backend.Alike served'.backend := by
  -- Setting a listener is the one request in which the two adapters may differ; every other one is
  -- served as if nobody listened, but for what is handed over.
  rcases Request.named_cases hr with ⟨hlisten, rfl⟩ | ⟨x, y, rfl, rfl, hnames⟩
  · have hchannel (c : Adapter) : (Backend.serve c h r').backend.channel = c.channel := by
      rw [serve_channel, hlisten]
      rfl
    obtain ⟨r, hplain⟩ : ∃ r, r'.plain? = some r := by
      cases r' with
      | listen listener => cases hlisten
      | _ => exact ⟨_, rfl⟩
    have hserved := (serve_deaf a h hplain).symm.trans (hab.deaf ▸ serve_deaf b h hplain)
    refine ⟨⟨?_, ?_⟩, ?_, congrArg (·.2.1) hserved, ?_, ?_, ?_⟩
    · rw [Exchange.plain?, Exchange.plain?, Backend.serve_request, Backend.serve_request, hplain]
      exact congrArg (fun served => some served.1) hserved
    · by_cases hsolve : ∀ s, r' ≠ .solve s
      · rw [Exchange.handed, Exchange.handed, (serve_silent a h hsolve).1,
          (serve_silent b h hsolve).1]
      · obtain ⟨s, rfl⟩ := not_forall_not.1 hsolve
        exact hab.solve_handed h s
    · cases r' with
      | solve s => exact (solve_result_congr hab.deaf h s).2
      | _ => rfl
    · exact serve_consistent a h r' hab.left
    · exact serve_consistent b h r' hab.right
    · rw [hchannel, hchannel]
      exact hab.names
  · exact ⟨⟨rfl, rfl⟩, rfl, hab.deaf, rfl, rfl, hnames⟩

/-- With one event of a kind at most, what a listener fails on in the course of a solve can always be
told by the event. -/
theorem announced_kinds_nodup (a : Adapter) (h : Host) (s : Solution) :
    ((a.announced h s).map (·.kind)).Nodup := by
  unfold announced told
  split
  · split
    · exact List.nodup_singleton _
    · split
      · change ["MODEL_BUILT", "STATUS", "SOLVED"].Nodup
        decide
      · change ["MODEL_BUILT", "STATUS"].Nodup
        decide
  · exact List.nodup_nil

section Moods

/-- The adapter with a listener that fails on other events from now on, as one that
counts its calls does. -/
def inMood (a : Adapter) (fails : Event → Bool) : Adapter :=
  { a with channel := { a.channel with
      listener := a.channel.listener.map fun l => { l with fails } } }

/-- A request together with what the listener fails on while it is served. -/
def serveInMood (s : Adapter × Host) (r : Request × (Event → Bool)) : Exchange × Adapter × Host :=
  Backend.serveIn (s.1.inMood r.2, s.2) r.1

theorem inMood_consistent (hc : a.channel.Consistent) (fails : Event → Bool) :
    (a.inMood fails).channel.Consistent := hc.trans Option.isSome_map.symm

theorem Alike.inMood (hab : a.Alike b) (fails : Event → Bool) : (a.inMood fails).Alike b where
  deaf := hab.deaf
  left := inMood_consistent hab.left fails
  right := hab.right
  names := by
    rw [← hab.names]
    exact Option.map_map ..

/-- Moods that change from one request to the next are the listener's own affair. -/
theorem Alike.converse (hab : a.Alike b) (h : Host) {rs : List (Request × (Event → Bool))}
    {rs' : List Request} (hrs : rs.map (·.1.named) = rs'.map Request.named) :
    let moody := dialogue serveInMood (a, h) rs
    let talk := Backend.converse b h rs'
    List.Forall₂ Exchange.Alike moody.1 talk.exchanges ∧ moody.2.1.Alike talk.backend ∧
      moody.2.2 = talk.host := by
  -- Each mood makes another adapter that is alike, so one request at a time is enough.
  induction rs generalizing a b h rs' with
  | nil =>
    rw [List.map_nil, eq_comm, List.map_eq_nil_iff] at hrs
    rw [hrs]
    exact ⟨.nil, hab, rfl⟩
  | cons r rs ih =>
    obtain ⟨r', rest, rfl, hr, hrest⟩ := List.map_eq_cons_iff.1 hrs.symm
    obtain ⟨hexchange, hhost, halike⟩ := (hab.inMood r.2).serve h hr.symm
    obtain ⟨hexchanges, hbackend, hlast⟩ := ih halike (Backend.serve b h r').host hrest.symm
    rw [← hhost] at hexchanges hbackend hlast
    dsimp only [Backend.converse]
    rw [← hhost]
    exact ⟨.cons hexchange hexchanges, hbackend, hlast⟩

theorem serveInMood_failed {s : Adapter × Host} (hc : s.1.channel.Consistent)
    (r : Request × (Event → Bool)) :
    (∀ d ∈ (serveInMood s r).1.trace.deliveries, d.failed = r.2 d.event) ∧
      (serveInMood s r).2.1.channel.Consistent := by
  have hmood := inMood_consistent hc r.2
  refine ⟨fun d hd => ?_, serve_consistent _ _ _ hmood⟩
  by_cases hsolve : ∀ s, r.1 ≠ .solve s
  · have hsilent := (serve_silent (s.1.inMood r.2) s.2 hsolve).1
    rw [serveInMood, Backend.serveIn, hsilent] at hd
    cases hd
  · obtain ⟨solution, hr⟩ := not_forall_not.1 hsolve
    have hsolve : (serveInMood s r).1.trace.deliveries =
        ((s.1.inMood r.2).solve s.2 solution).trace.deliveries := by
      rw [serveInMood, Backend.serveIn, hr]
      rfl
    rw [hsolve, deliveries_announced hmood, List.mem_flatMap] at hd
    obtain ⟨e, _, hd⟩ := hd
    obtain ⟨l, hl, rfl⟩ := List.mem_map.1 hd
    obtain ⟨_, _, rfl⟩ := Option.map_eq_some_iff.1 (Option.mem_toList.1 hl)
    rfl

end Moods

theorem converse_listening (a : Adapter) (h : Host) (rs : List Request) :
    (Backend.converse a h rs).backend.channel =
      (rs.filterMap Request.listener?).foldl Channel.listen a.channel :=
  Backend.converse_foldl serve_channel a h rs

theorem listen_answered (a : Adapter) (h : Host) (rs : List Request) :
    ∀ x ∈ (Backend.converse a h rs).exchanges, x.request.listener? ≠ none →
      x.answer = .step (.ok ()) := by
  induction rs generalizing a h with
  | nil => exact fun x hx => by cases hx
  | cons r rs ih =>
    rw [Backend.converse, List.forall_mem_cons]
    refine ⟨fun hr => ?_, ih _ _⟩
    rw [Backend.serve_request] at hr
    cases r with
    | listen listener => rfl
    | _ => exact absurd rfl hr

/-- Listeners are bystanders. After any requests, two conversations that ask for the same but for
the listeners, on engines that behave the same but for the time they take, give the same answers,
solutions and calls on the engine, and leave the same problem, settings and process behind,
whatever listener there is in each. The listener that was set last stays, whatever it fails on, and
each solve hands it all of its events, those that it fails on and those after them. A listener may
even fail on this at one time and on that at another, call by call, as no two events of a solve are
of a kind: it stays and is handed the same events as one that never fails. -/
theorem listeners_stand_by (h₀ : Host) (past : List Request) :
    let a := after h₀ past
    (∀ (x y : Option Listener) (h h' : Host) (rs rs' : List Request), h.untimed = h'.untimed →
      rs.filterMap Request.plain? = rs'.filterMap Request.plain? →
      let talk := Backend.converse (a.listen x).state h rs
      let talk' := Backend.converse (a.listen y).state h' rs'
      talk.exchanges.filterMap Exchange.plain? = talk'.exchanges.filterMap Exchange.plain? ∧
        talk.backend.problem = talk'.backend.problem ∧
        talk.backend.tuning = talk'.backend.tuning ∧ talk.host.untimed = talk'.host.untimed ∧
        ∀ x ∈ talk.exchanges ++ talk'.exchanges, x.request.listener? ≠ none →
          x.answer = .step (.ok ())) ∧
    (∀ (x : Option Listener) (h : Host) (rs later : List Request) (s : Solution),
      let sofar := Backend.converse (a.listen x).state h rs
      let talk := Backend.converse (a.listen x).state h (rs ++ .solve s :: later)
      let run := sofar.backend.solve sofar.host s
      sofar.backend.channel.listener = (rs.filterMap Request.listener?).getLast?.getD x ∧
        talk.exchanges[rs.length]? = some ⟨.solve s, .solved run.result run.solution, run.trace⟩ ∧
        (∀ l, sofar.backend.channel.listener = some l →
          run.trace.deliveries = (sofar.backend.announced sofar.host s).map l.hears) ∧
        ((sofar.backend.announced sofar.host s).map (·.kind)).Nodup) ∧
    ∀ (x y : Option Listener) (h : Host) (rs : List (Request × (Event → Bool)))
      (rs' : List Request),
      x.map (·.name) = y.map (·.name) → rs.map (·.1.named) = rs'.map Request.named →
      let moody := dialogue serveInMood ((a.listen x).state, h) rs
      let talk := Backend.converse (a.listen y).state h rs'
      List.Forall₂ (fun r x => ∀ d ∈ x.trace.deliveries, d.failed = r.2 d.event) rs moody.1 ∧
        List.Forall₂ Exchange.Alike moody.1 talk.exchanges ∧ moody.2.1.Alike talk.backend ∧
        moody.2.2 = talk.host := by
  intro a
  refine ⟨?_, fun x h rs later s => ?_, fun x y h rs rs' hnames hasked => ?_⟩
  · intro x y h h' rs rs' hhost hasked talk talk'
    have hdeaf : (a.listen x).state.deaf = (a.listen y).state.deaf := rfl
    have hplain := converse_deaf (a.listen x).state h rs
    rw [hdeaf, hhost, hasked, converse_deaf (a.listen y).state h' rs'] at hplain
    have hexchanges : talk.exchanges.filterMap Exchange.plain? =
        talk'.exchanges.filterMap Exchange.plain? := (congrArg Prod.fst hplain).symm
    have hbackend : talk.backend.deaf = talk'.backend.deaf := (congrArg (·.2.1) hplain).symm
    have hprocess : talk.host.untimed = talk'.host.untimed := (congrArg (·.2.2) hplain).symm
    obtain ⟨hproblem, htuning⟩ := deaf_eq_iff.1 hbackend
    refine ⟨hexchanges, hproblem, htuning, hprocess, fun x hx => ?_⟩
    exact (List.mem_append.1 hx).elim (listen_answered _ h rs x) (listen_answered _ h' rs' x)
  · intro sofar talk run
    have hchannel := converse_listening (a.listen x).state h rs
    have hsofar : sofar.exchanges.length = rs.length := Backend.length_exchanges ..
    refine ⟨?_, ?_, fun l hl => ?_, announced_kinds_nodup ..⟩
    · rw [hchannel, Channel.listener_foldl]
      rfl
    · rw [show talk = _ from Backend.converse_append .., ← hsofar, List.getElem?_append_right le_rfl,
        Nat.sub_self]
      rfl
    · have hconsistent : sofar.backend.channel.Consistent :=
        Backend.converse_keeps serve_consistent (Channel.listen_consistent a.channel x) h rs
      rw [deliveries_announced hconsistent, hl]
      exact List.flatMap_pure_eq_map ..
  · have halike : (a.listen x).state.Alike (a.listen y).state := ⟨rfl, rfl, rfl, hnames⟩
    refine ⟨?_, halike.converse h hasked⟩
    exact dialogue_forall₂ (fun s r hs => serveInMood_failed hs r) halike.left rs

/-- A listener that fails on every event makes no difference to two solves, is handed the events of
both and stays. -/
theorem listeners_stand_by_failing :
    let l : Listener := ⟨"l", fun _ => true⟩
    let h : Host := ⟨none, [], 0⟩
    let past := [.declare 1 .continuous ∅]
    let once := [.solve default]
    let heard := Backend.converse ((after h past).listen (some l)).state h (once ++ [.solve default])
    let alone := Backend.converse ((after h past).listen none).state h (once ++ [.solve default])
    heard.exchanges.filterMap Exchange.plain? = alone.exchanges.filterMap Exchange.plain? ∧
      heard.backend.channel.listener = some l ∧
      heard.exchanges[once.length]?.map (fun x => x.trace.deliveries.map (·.event.kind)) =
        some ["MODEL_BUILT", "STATUS", "SOLVED"] := by
  intro l h past once heard alone
  obtain ⟨hsame, hheard, -⟩ := listeners_stand_by h past
  have hset (rs : List Request) (hrs : rs.filterMap Request.listener? = []) :
      (rs.filterMap Request.listener?).getLast?.getD (some l) = some l := by
    rw [hrs]
    rfl
  have hplain := (hsame (some l) none h h (once ++ [.solve default]) _ rfl rfl).1
  have hlast := (hheard (some l) h (once ++ [.solve default]) [] default).1
  obtain ⟨hfirst, hsecond, hevents, -⟩ := hheard (some l) h once [] default
  rw [hset _ rfl] at hfirst hlast
  dsimp only [heard, alone]
  refine ⟨hplain, hlast, ?_⟩
  rw [hsecond, Option.map_some, hevents l hfirst, List.map_map]
  decide +kernel

end Adapter

end Engine

end MipDispatch
