import MipDispatch.Proofs.Adapter.Declaration
import MipDispatch.Proofs.Adapter.Handover
import MipDispatch.Proofs.Adapter.Outcome
import MipDispatch.Proofs.Session.Opening
import MipDispatch.Proofs.Session.Refusals

namespace MipDispatch

open Engine (Adapter)

namespace Session

section Opening

variable {β : Type} [Backend β]

/-- The ways to come by a session: with a backend that was resolved before, with one that is
resolved for it, or as configured. -/
inductive Opened (s : Session β) : Prop where
  | fromBackend {r : ResolvedBackend β} {d : Declaration} {h : Host}
      (opened : (start r d h).result = .ok s)
  | fromChoice {resolver : Resolver β} {d : Declaration} {choice : EngineChoice} {h : Host}
      (opened : (create resolver d choice h).result = .ok s)
  | fromConfig {resolver : Path → Resolver β} {e : Environment} {d : Declaration} {c : Config}
      {h : Host} (opened : (ofConfig resolver e d c h).result = .ok s)

variable {s : Session β} {d : Declaration} {h : Host}

theorem start_eq_ok {r : ResolvedBackend β} (hs : (start r d h).result = .ok s) :
    (Backend.declare r.backend d.size d.kind d.overrides).result = .ok () ∧ s = opened r d := by
  unfold start at hs
  dsimp only at hs
  split at hs
  · cases hs
  next hdeclared => exact ⟨hdeclared, (Except.ok.inj hs).symm⟩

theorem create_eq_ok {resolver : Resolver β} {choice : EngineChoice}
    (hs : (create resolver d choice h).result = .ok s) :
    ∃ r : ResolvedBackend β, ∃ h' : Host, (start r d h').result = .ok s := by
  unfold create at hs
  dsimp only at hs
  split at hs
  · cases hs
  next r _ => exact ⟨r, (resolver.resolve choice h).host, hs⟩

theorem ofConfig_eq_ok {resolver : Path → Resolver β} {e : Environment} {c : Config}
    (hs : (ofConfig resolver e d c h).result = .ok s) :
    ∃ s₀ : Session β, s = s₀.configure c ∧
      (create (resolver (c.resolvedSearchDir e)) d c.engine h).result = .ok s₀ := by
  unfold ofConfig at hs
  split at hs
  · cases hs
  · dsimp only at hs
    cases hcreated : (create (resolver (c.resolvedSearchDir e)) d c.engine h).result with
    | error e =>
      rw [hcreated] at hs
      cases hs
    | ok s₀ =>
      rw [hcreated] at hs
      exact ⟨s₀, (Except.ok.inj hs).symm, rfl⟩

/-- However it is come by, a session is one that was started, tuned at most. -/
theorem Opened.started (hs : s.Opened) :
    ∃ r d h s₀, (start r d h).result = .ok s₀ ∧ (s = s₀ ∨ ∃ c, s = s₀.configure c) := by
  cases hs with
  | fromBackend opened => exact ⟨_, _, _, s, opened, .inl rfl⟩
  | fromChoice opened =>
    obtain ⟨r, h', hstarted⟩ := create_eq_ok opened
    exact ⟨r, _, h', s, hstarted, .inl rfl⟩
  | fromConfig opened =>
    obtain ⟨s₀, hconfigured, hcreated⟩ := ofConfig_eq_ok opened
    obtain ⟨r, h', hstarted⟩ := create_eq_ok hcreated
    exact ⟨r, _, h', s₀, hstarted, .inr ⟨_, hconfigured⟩⟩

/-- A report passes on the outcome and the solution of the backend, which is given an empty one. -/
theorem solve_eq_ok {report : Report} (hs : (s.solve h).result = .ok report) :
    (Backend.solve s.resolved.backend h (.zero 0)).result = .ok report.outcome ∧
      (Backend.solve s.resolved.backend h (.zero 0)).solution = report.solution := by
  unfold solve at hs
  dsimp only at hs
  split at hs
  · cases hs
  next houtcome =>
    obtain rfl := Except.ok.inj hs
    exact ⟨houtcome, rfl⟩

theorem calls_solve (s : Session β) (h : Host) : (s.solve h).trace.calls =
    (Backend.solve s.resolved.backend h (.zero 0)).trace.calls := by
  unfold solve
  dsimp only
  split
  · rfl
  · rw [Trace.calls_append]
    exact List.append_nil _

end Opening

/-- The variables are declared, and the session counts as many as its backend. -/
structure Sized (s : Session Adapter) : Prop where
  declared : s.resolved.backend.problem.declared = true
  size_eq : s.size = s.resolved.backend.problem.size

variable {s : Session Adapter}

/-- What changes neither the session's count nor the backend's variables leaves the two agreed. -/
theorem Sized.congr (hs : s.Sized) {s' : Session Adapter} (hsize : s'.size = s.size)
    (hkinds : s'.resolved.backend.problem.kinds = s.resolved.backend.problem.kinds)
    (hdeclared : s'.resolved.backend.problem.declared = s.resolved.backend.problem.declared) :
    s'.Sized := by
  refine ⟨hdeclared.trans hs.declared, ?_⟩
  rw [hsize, hs.size_eq, Problem.size, Problem.size, hkinds]

theorem opened_sized {r : ResolvedBackend Adapter} {d : Declaration}
    (hd : (Backend.declare r.backend d.size d.kind d.overrides).result = .ok ()) :
    (opened r d).Sized := by
  have hkeys := Adapter.declare_result_iff.1 hd
  have hproblem : (opened r d).resolved.backend = r.backend.renewed d.size d.kind d.overrides :=
    congrArg Step.state (Adapter.declare_accepted hkeys r.backend)
  have hblank := Problem.declared_blank d.size d.kind d.overrides
  constructor
  · rw [hproblem]
    rfl
  · rw [hproblem]
    exact hblank.size.symm

theorem Sized.configure (hs : s.Sized) (c : Config) : (s.configure c).Sized := by
  have hproblem (calls : List TuningCall) (a : Adapter) :
      (calls.foldl Backend.tune a).problem = a.problem := by
    induction calls generalizing a with
    | nil => rfl
    | cons call calls ih => exact ih (Backend.tune a call)
  have hkept : (s.configure c).resolved.backend.problem = s.resolved.backend.problem :=
    hproblem c.tuningCalls s.resolved.backend
  exact hs.congr rfl (congrArg _ hkept) (congrArg _ hkept)

/-- The session's count follows the backend's in a declaration that is carried out, and in no
other. -/
theorem Sized.redeclare (hs : s.Sized) (d : Declaration) : (s.redeclare d).state.Sized := by
  cases hresult : (s.redeclare d).result with
  | error e =>
    rw [s.redeclare_allOrNothing Adapter.steady d e hresult]
    exact hs
  | ok u =>
    unfold Session.redeclare at hresult ⊢
    dsimp only at hresult ⊢
    cases hd : (s.step fun b => Backend.declare b d.size d.kind d.overrides).result with
    | error e =>
      rw [hd] at hresult
      cases hd.symm.trans hresult
    | ok u => exact opened_sized hd

theorem Sized.serve (t : Session Adapter × Host) (r : Request) (ht : t.1.Sized) :
    (serve t r).2.1.Sized := by
  let a := t.1.resolved.backend
  cases r with
  | redeclare d => exact ht.redeclare d
  | configure c => exact ht.configure c
  | setObjective o =>
    change Sized (t.1.step (Backend.setObjective · o)).state
    rcases a.setObjective_cases o with ⟨_, hset⟩ | ⟨_, _, hset⟩ <;>
      exact ht.congr rfl (congrArg (·.state.problem.kinds) hset)
        (congrArg (·.state.problem.declared) hset)
  | setConstraints cs =>
    change Sized (t.1.step (Backend.setConstraints · cs)).state
    rcases a.setConstraints_cases cs with ⟨_, hset⟩ | ⟨_, _, hset⟩ <;>
      exact ht.congr rfl (congrArg (·.state.problem.kinds) hset)
        (congrArg (·.state.problem.declared) hset)
  | addConstraint c =>
    change Sized (t.1.step (Backend.addConstraint · c)).state
    rcases a.addConstraint_cases c with ⟨_, hset⟩ | ⟨_, _, hset⟩ <;>
      exact ht.congr rfl (congrArg (·.state.problem.kinds) hset)
        (congrArg (·.state.problem.declared) hset)
  | tune call => exact ht.congr rfl rfl rfl
  | listen listener => exact ht.congr rfl rfl rfl
  | solve =>
    change Sized (t.1.solve t.2).session
    rw [t.1.solve_session Adapter.steady]
    exact ht

theorem Opened.sized (hs : s.Opened) : s.Sized := by
  obtain ⟨r, d, h, s₀, hstarted, hconfigured⟩ := hs.started
  obtain ⟨hd, rfl⟩ := start_eq_ok hstarted
  have hsized := opened_sized hd
  rcases hconfigured with rfl | ⟨c, rfl⟩
  · exact hsized
  · exact hsized.configure c

theorem Sized.models (hs : s.Sized) (h : Host) :
    ∃ m : Engine.Model, m.columns.length = s.size ∧
      (s.solve h).trace.calls.filterMap Engine.Call.model? =
        if Engine.quiet.any h.reply.refuses then [] else [m] := by
  refine ⟨s.resolved.backend.problem.toModel, ?_, ?_⟩
  · rw [hs.size_eq]
    simp [Problem.toModel, Problem.size]
  · rw [calls_solve]
    exact Adapter.models_solve hs.declared h (.zero 0)

/-- What a report holds is of the solve that it reports, or else nothing at all. -/
theorem Sized.report (hs : s.Sized) {h : Host} {report : Report}
    (hreport : (s.solve h).result = .ok report) :
    report.solution.values =
        (if report.hasSolution then h.reply.values s.size else (Solution.zero 0).values) ∧
      (report.hasSolution = false → report.solution = .zero 0) := by
  let a := s.resolved.backend
  obtain ⟨houtcome, hsolution⟩ := solve_eq_ok hreport
  rcases a.solve_cases h (.zero 0) with ⟨-, hresult, hsolved⟩ | ⟨-, ⟨f, hfailed⟩, -⟩
  · have hverdict := Except.ok.inj (houtcome.symm.trans hresult)
    rw [Adapter.conclude_outcome] at hverdict
    have hfilled : report.solution = _ := hsolution.symm.trans hsolved
    rw [Adapter.conclude_solution, ← hverdict, ← hs.size_eq] at hfilled
    rw [Report.hasSolution, hfilled]
    constructor
    · split <;> rfl
    · intro hno
      rw [hno]
      rfl
  · cases houtcome.symm.trans hfailed

/-- A session over the engine's backend counts the variables that the backend has declared, after
any requests, refused declarations and failed solves among them. So the next model for the engine
has as many columns. A report with a solution has as many values, those of the engine in that solve,
and a report without has the empty solution, whatever was solved before. -/
theorem sizes_agree (hs : s.Opened) (h : Host) (rs : List Request) :
    let t := (dialogue Session.serve (s, h) rs).2.1
    let p := t.resolved.backend.problem
    (p.declared = true ∧ t.size = p.size) ∧
    ∀ h' : Host,
      let run := t.solve h'
      (∃ m : Engine.Model, m.columns.length = t.size ∧
        run.trace.calls.filterMap Engine.Call.model? =
          if Engine.quiet.any h'.reply.refuses then [] else [m]) ∧
      ∀ report, run.result = .ok report →
        (report.hasSolution = true → report.solution.values.length = t.size ∧
          ∀ v < t.size, report.solution.values[v]? = some (h'.reply.column v)) ∧
        (report.hasSolution = false → report.solution = .zero 0) := by
  intro t p
  have ht : t.Sized := dialogue_keeps (P := fun (t : Session Adapter × Host) => t.1.Sized)
    Sized.serve hs.sized rs
  refine ⟨⟨ht.declared, ht.size_eq⟩, fun h' => ⟨ht.models h', fun report hreport => ?_⟩⟩
  obtain ⟨hvalues, hnothing⟩ := ht.report hreport
  refine ⟨fun hhas => ?_, hnothing⟩
  rw [if_pos hhas] at hvalues
  rw [hvalues]
  exact ⟨h'.reply.values_length t.size, fun v hv => h'.reply.values_getElem? hv⟩

/-- Three variables are solved for, then an override for a fourth one of two is refused, then one is
declared instead: an infeasible solve has nothing to show, and the next solve one value. -/
theorem sizes_agree_shrinking :
    let r : ResolvedBackend Adapter := ⟨.fresh, 0, "m", .ofString "/m"⟩
    let h : Host := ⟨none, [], 1⟩
    let infeasible : Engine.Reply := { (default : Engine.Reply) with status := .infeasible }
    let s := opened r ⟨3, .integer, ∅⟩
    let rs : List Request :=
      [.solve, .redeclare ⟨2, .binary, .ofList [(3, .integer)]⟩, .redeclare ⟨1, .binary, ∅⟩]
    let t := (dialogue Session.serve (s, h) rs).2.1
    s.Opened ∧ t.resolved.backend.problem.size = 1 ∧
      (∃ report, (t.solve { h with replies := [infeasible] }).result = .ok report ∧
        report.solution = .zero 0) ∧
      ∃ report, (t.solve h).result = .ok report ∧ report.solution.values.length = 1 := by
  intro r h infeasible s rs t
  have hs : s.Opened := .fromBackend (r := r) (d := ⟨3, .integer, ∅⟩) (h := h) rfl
  obtain ⟨⟨-, hsize⟩, hsolve⟩ := sizes_agree hs h rs
  have hone : t.size = 1 := rfl
  have hfound (h' : Host) (has : Bool)
      (hhas : (t.solve h').result.toOption.map Report.hasSolution = some has) :
      ∃ report, (t.solve h').result = .ok report ∧ report.hasSolution = has := by
    cases hresult : (t.solve h').result with
    | error f =>
      rw [hresult] at hhas
      cases hhas
    | ok report =>
      rw [hresult] at hhas
      exact ⟨report, rfl, Option.some.inj hhas⟩
  obtain ⟨report, hreport, hno⟩ :=
    hfound { h with replies := [infeasible] } false (by decide +kernel)
  obtain ⟨report', hreport', hhas⟩ := hfound h true (by decide +kernel)
  refine ⟨hs, hsize.symm.trans hone, ⟨report, hreport, ?_⟩, ⟨report', hreport', ?_⟩⟩
  · exact ((hsolve { h with replies := [infeasible] }).2 report hreport).2 hno
  · rw [← hone]
    exact (((hsolve h).2 report' hreport').1 hhas).1

end Session

end MipDispatch
