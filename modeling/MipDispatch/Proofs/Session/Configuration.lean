import MipDispatch.Proofs.Adapter.Declaration
import MipDispatch.Proofs.Backend.Embedding
import MipDispatch.Proofs.Module.Registration
import MipDispatch.Proofs.Session.Opening

namespace MipDispatch

open Engine (Adapter)

namespace Config

def Unusable (x : Float) : Prop := x.isNaN = true ∨ x.isInf = true ∨ x < 0

theorem isFinite_eq (x : Float) : x.isFinite = (!x.isNaN && !x.isInf) := by
  unfold Float.isFinite Float.isNaN Float.isInf Float.Model.isFinite Float.Model.isNaN
    Float.Model.isInf
  cases x.toModel.unpack <;> rfl

theorem isUsable_eq_false {x : Float} : isUsable x = false ↔ Unusable x := by
  unfold isUsable Unusable
  rw [isFinite_eq]
  cases x.isNaN <;> cases x.isInf <;> simp

def Faulty (c : Config) : Prop :=
  (∃ x, c.timeLimit = some x ∧ Unusable x) ∨ ∃ x, c.gap = some x ∧ Unusable x

theorem filter_eq_none {limit : Option Float} (h : limit.filter (!isUsable ·) = none) :
    ¬ ∃ x, limit = some x ∧ Unusable x := by
  rintro ⟨x, rfl, hx⟩
  simp [Option.filter, isUsable_eq_false.2 hx] at h

theorem filter_eq_some {limit : Option Float} {x : Float}
    (h : limit.filter (!isUsable ·) = some x) : limit = some x ∧ Unusable x := by
  obtain ⟨hlimit, hx⟩ := Option.filter_eq_some_iff.1 h
  exact ⟨hlimit, isUsable_eq_false.1 (by simpa using hx)⟩

theorem validate_cases (c : Config) :
    (c.Faulty ∧ ∃ fault, c.validate = .error fault) ∨ (¬ c.Faulty ∧ c.validate = .ok ()) := by
  unfold validate
  cases htime : c.timeLimit.filter (!isUsable ·) with
  | some x => exact .inl ⟨.inl ⟨x, filter_eq_some htime⟩, _, rfl⟩
  | none =>
    cases hgap : c.gap.filter (!isUsable ·) with
    | some x => exact .inl ⟨.inr ⟨x, filter_eq_some hgap⟩, _, rfl⟩
    | none => exact .inr ⟨not_or.2 ⟨filter_eq_none htime, filter_eq_none hgap⟩, rfl⟩

/-- What a tuning becomes under a configuration: settings that are not given stay. -/
def overwrite (c : Config) (t : Tuning) : Tuning where
  timeLimit := c.timeLimit.or t.timeLimit
  relativeGap := if c.absoluteGap then t.relativeGap else c.gap.or t.relativeGap
  absoluteGap := if c.absoluteGap then c.gap.or t.absoluteGap else t.absoluteGap
  threads := if c.threads.isSome then c.threads.filter (0 < ·) else t.threads
  verbose := c.verbose

theorem foldl_tuningCalls (c : Config) (t : Tuning) :
    c.tuningCalls.foldl Tuning.apply t = c.overwrite t := by
  obtain ⟨_, _, timeLimit, gap, absolute, threads, verbose, _⟩ := c
  cases timeLimit <;> cases gap <;> cases absolute <;> cases threads <;>
    simp [tuningCalls, overwrite, Tuning.apply, Tuning.setGap, Tuning.setThreads, Option.filter]

theorem overwrite_overwrite (c : Config) (t : Tuning) :
    c.overwrite (c.overwrite t) = c.overwrite t := by
  obtain ⟨_, _, timeLimit, gap, absolute, threads, verbose, _⟩ := c
  cases timeLimit <;> cases gap <;> cases absolute <;> cases threads <;> rfl

def settings (c : Config) : Tuning where
  timeLimit := c.timeLimit
  relativeGap := if c.absoluteGap then none else c.gap
  absoluteGap := if c.absoluteGap then c.gap else none
  threads := c.threads.filter (0 < ·)
  verbose := c.verbose

theorem overwrite_default (c : Config) : c.overwrite .default = c.settings := by
  obtain ⟨_, _, timeLimit, gap, absolute, threads, verbose, _⟩ := c
  cases timeLimit <;> cases gap <;> cases absolute <;> cases threads <;> rfl

end Config

/-- With the engine that comes with the program a resolver gives its backend, untouched, or none. -/
theorem Resolver.builtin_cases {β : Type} [Backend β] (embed : Adapter → β) (dir : Path)
    (choice : EngineChoice) (h : Host) :
    (∃ id file, ((Resolver.builtin embed dir).resolve choice h).result =
      .ok ⟨embed .fresh, id, file, dir.join file⟩) ∨
    ∃ attempts, ((Resolver.builtin embed dir).resolve choice h).result =
      .error (.unresolved choice attempts) := by
  rcases Catalog.resolve_result_cases [(.highs, .made (embed .fresh))] choice dir h with
    ⟨engine, b, id, -, hb, hresult⟩ | ⟨-, attempts, hresult⟩
  · obtain rfl : embed .fresh = b := by
      cases engine <;> cases hb
      rfl
    exact .inl ⟨id, _, hresult⟩
  · exact .inr ⟨attempts, hresult⟩

/-- Settings that a tuning call changes as it changes a tuning. -/
def Backend.Heeds {β : Type} [Backend β] (settings : β → Tuning) : Prop :=
  ∀ b call, settings (tune b call) = (settings b).apply call

namespace Session

theorem settings_configure {β : Type} [Backend β] {settings : β → Tuning}
    (hsettings : Backend.Heeds settings) (s : Session β) (c : Config) :
    settings (s.configure c).resolved.backend = c.overwrite (settings s.resolved.backend) := by
  have hcalls (calls : List TuningCall) (b : β) :
      settings (calls.foldl Backend.tune b) = calls.foldl Tuning.apply (settings b) := by
    induction calls generalizing b with
    | nil => rfl
    | cons call calls ih => rw [List.foldl_cons, ih, hsettings, List.foldl_cons]
  exact (hcalls c.tuningCalls s.resolved.backend).trans (c.foldl_tuningCalls _)

def retuned (s : Session Adapter) (t : Tuning) : Session Adapter :=
  { s with resolved.backend.tuning := t }

theorem configure_eq (s : Session Adapter) (c : Config) :
    s.configure c = s.retuned (c.overwrite s.resolved.backend.tuning) := by
  have hcalls (calls : List TuningCall) (a : Adapter) :
      calls.foldl Backend.tune a = { a with tuning := calls.foldl Tuning.apply a.tuning } := by
    induction calls generalizing a with
    | nil => rfl
    | cons call calls ih => exact ih (a.tune call)
  unfold configure Config.apply retuned
  rw [hcalls, Config.foldl_tuningCalls]

section Opening

variable {β : Type} [Backend β] {embed : Adapter → β} {c : Config} {d : Declaration}

theorem ofConfig_faulty (hc : c.Faulty) (resolver : Path → Resolver β) (e : Environment)
    (d : Declaration) (h : Host) :
    ∃ message, ofConfig resolver e d c h = ⟨.error (.invalidConfig message), h, []⟩ := by
  rcases c.validate_cases with ⟨-, fault, hfault⟩ | ⟨hfaultless, -⟩
  · unfold ofConfig
    rw [hfault]
    exact ⟨_, rfl⟩
  · exact absurd hc hfaultless

theorem ofConfig_faultless (hc : ¬ c.Faulty) (resolver : Path → Resolver β) (e : Environment)
    (d : Declaration) (h : Host) : (ofConfig resolver e d c h).result =
      (create (resolver (c.resolvedSearchDir e)) d c.engine h).result.map (·.configure c) := by
  rcases c.validate_cases with ⟨hfaulty, -⟩ | ⟨-, hvalid⟩
  · exact absurd hfaulty hc
  · unfold ofConfig
    rw [hvalid]

theorem declare_not_invalidConfig (hf : Backend.Embeds embed) {a : Adapter} {e : SolveError}
    (he : (Backend.declare (embed a) d.size d.kind d.overrides).result = .error e)
    (message : String) : e ≠ .invalidConfig message := by
  rw [hf.declare, Step.within_result] at he
  cases hfind : d.overrides.keys.find? (d.size ≤ ·) with
  | none =>
    have hkeys : ∀ v ∈ d.overrides.keys, v < d.size :=
      fun v hv => by simpa using List.find?_eq_none.1 hfind v hv
    cases (Adapter.declare_result_iff.2 hkeys).symm.trans he
  | some v =>
    have hrefused := congrArg Step.result (Adapter.declare_refused hfind a d.kind)
    cases hrefused.symm.trans he
    nofun

theorem opened_seen (hf : Backend.Embeds embed) (a : Adapter) (id : Nat) (name : String)
    (path : Path) (d : Declaration) :
    opened ⟨embed a, id, name, path⟩ d = (opened ⟨a, id, name, path⟩ d).seen embed := by
  unfold opened
  rw [hf.declare]
  rfl

theorem ofConfig_unresolved (hc : ¬ c.Faulty) {resolver : Path → Resolver β} {e : Environment}
    {h : Host} {error : SolveError}
    (hr : ((resolver (c.resolvedSearchDir e)).resolve c.engine h).result = .error error)
    (d : Declaration) : (ofConfig resolver e d c h).result = .error error := by
  rw [ofConfig_faultless hc, create_unresolved hr]
  rfl

theorem ofConfig_resolved (hc : ¬ c.Faulty) {resolver : Path → Resolver β} {e : Environment}
    {h : Host} {r : ResolvedBackend β}
    (hr : ((resolver (c.resolvedSearchDir e)).resolve c.engine h).result = .ok r)
    (d : Declaration) : (ofConfig resolver e d c h).result =
      (Backend.declare r.backend d.size d.kind d.overrides).result.map fun _ =>
        (opened r d).configure c := by
  rw [ofConfig_faultless hc, (create_resolved hr d).2]
  cases (Backend.declare r.backend d.size d.kind d.overrides).result <;> rfl

theorem ofConfig_not_invalidConfig (hf : Backend.Embeds embed) (hc : ¬ c.Faulty) (e : Environment)
    (d : Declaration) (h : Host) (message : String) :
    (ofConfig (Resolver.builtin embed) e d c h).result ≠ .error (.invalidConfig message) := by
  intro hinvalid
  rcases Resolver.builtin_cases embed (c.resolvedSearchDir e) c.engine h with
    ⟨id, file, hr⟩ | ⟨attempts, hr⟩
  · rw [ofConfig_resolved hc hr] at hinvalid
    cases hd : (Backend.declare (embed .fresh) d.size d.kind d.overrides).result with
    | error error =>
      rw [hd] at hinvalid
      exact declare_not_invalidConfig hf hd message (Except.error.inj hinvalid)
    | ok u =>
      rw [hd] at hinvalid
      cases hinvalid
  · cases (ofConfig_unresolved hc hr d).symm.trans hinvalid

/-- A session that is opened as configured has the configured settings and no others. -/
theorem ofConfig_settings (hf : Backend.Embeds embed) (hc : ¬ c.Faulty) {e : Environment}
    {h : Host} {r : ResolvedBackend β}
    (hr : ((Resolver.builtin embed (c.resolvedSearchDir e)).resolve c.engine h).result = .ok r)
    (hd : (Backend.declare r.backend d.size d.kind d.overrides).result = .ok ()) :
    ∃ s : Session Adapter, (ofConfig (Resolver.builtin embed) e d c h).result = .ok (s.seen embed) ∧
      s.resolved.backend.tuning = c.settings := by
  rcases Resolver.builtin_cases embed (c.resolvedSearchDir e) c.engine h with
    ⟨id, file, hmade⟩ | ⟨attempts, hnone⟩
  · obtain rfl := Except.ok.inj (hr.symm.trans hmade)
    let path := (c.resolvedSearchDir e).join file
    refine ⟨(opened ⟨.fresh, id, file, path⟩ d).configure c, ?_, ?_⟩
    · rw [ofConfig_resolved hc hmade, hd, opened_seen hf, configure_seen hf]
      rfl
    · rw [configure_eq]
      exact c.overwrite_default
  · cases hr.symm.trans hnone

/-- A session that is configured, opened with the engine that comes with the program. A limit that
is none is refused before any module is looked for, whatever else is wrong. With usable limits an
error is that of resolving or else that of declaring the variables, and a session has the settings
that are given. Configuring a session later on overwrites the settings that are given and keeps the
others, for any backend that heeds tuning calls. With the engine's backend nothing else changes
either, and doing it once more changes nothing. -/
theorem configuration_reaches_settings (hf : Backend.Embeds embed) (e : Environment)
    (d : Declaration) (c : Config) (h : Host) :
    let resolver := Resolver.builtin embed
    let resolving := (resolver (c.resolvedSearchDir e)).resolve c.engine h
    let run := ofConfig resolver e d c h
    ((∃ message, run.result = .error (.invalidConfig message)) ↔ c.Faulty) ∧
    (c.Faulty → run.host = h ∧ run.trace = []) ∧
    (¬ c.Faulty →
      (∀ error, resolving.result = .error error → run.result = .error error) ∧
      ∀ r, resolving.result = .ok r →
        let declared := Backend.declare r.backend d.size d.kind d.overrides
        (∀ error, declared.result = .error error → run.result = .error error) ∧
        (declared.result = .ok () → ∃ s : Session Adapter,
          run.result = .ok (s.seen embed) ∧ s.resolved.backend.tuning = c.settings)) ∧
    (∀ settings : β → Tuning, Backend.Heeds settings → ∀ (s : Session β) (c₁ c₂ : Config),
      settings ((s.configure c₁).configure c₂).resolved.backend =
        c₂.overwrite (c₁.overwrite (settings s.resolved.backend))) ∧
    ∀ (s : Session Adapter) (c₁ c₂ : Config),
      ((s.seen embed).configure c₁).configure c₂ =
        (s.retuned (c₂.overwrite (c₁.overwrite s.resolved.backend.tuning))).seen embed ∧
      ((s.seen embed).configure c₁).configure c₁ = (s.seen embed).configure c₁ := by
  intro resolver resolving run
  have htwice (s : Session Adapter) (c₁ c₂ : Config) :
      ((s.seen embed).configure c₁).configure c₂ =
        (s.retuned (c₂.overwrite (c₁.overwrite s.resolved.backend.tuning))).seen embed := by
    rw [configure_seen hf, configure_seen hf, configure_eq s c₁, configure_eq]
    rfl
  refine ⟨⟨?_, ?_⟩, ?_, ?_, ?_, fun s c₁ c₂ => ⟨htwice s c₁ c₂, ?_⟩⟩
  · rintro ⟨message, hinvalid⟩
    by_contra hc
    exact ofConfig_not_invalidConfig hf hc e d h message hinvalid
  · intro hc
    obtain ⟨message, hrun⟩ := ofConfig_faulty hc resolver e d h
    exact ⟨message, congrArg Hosted.result hrun⟩
  · intro hc
    obtain ⟨message, hrun⟩ := ofConfig_faulty hc resolver e d h
    exact ⟨congrArg Hosted.host hrun, congrArg Hosted.trace hrun⟩
  · intro hc
    refine ⟨fun error hr => ofConfig_unresolved hc hr d, fun r hr => ⟨fun error hd => ?_, ?_⟩⟩
    · dsimp only [run]
      rw [ofConfig_resolved hc hr, hd]
      rfl
    · exact ofConfig_settings hf hc hr
  · intro settings hsettings s c₁ c₂
    rw [settings_configure hsettings, settings_configure hsettings]
  · rw [htwice, Config.overwrite_overwrite, configure_seen hf, configure_eq]

/-- A negative time limit is refused although its engine is not there either, and an override is
out of range. An absolute gap is set, and zero threads are no setting. -/
theorem configuration_reaches_settings_absolute :
    let resolver := Resolver.builtin StockBackend.engine
    let e : Environment := ⟨none, none⟩
    let h : Host := ⟨none, [], 0⟩
    let faulty := (Config.default.withEngine .coinCbc).withTimeLimit (-2)
    let c : Config := { Config.default.withGap 0.5 true with threads := some 0 }
    (ofConfig resolver e ⟨1, .binary, .ofList [(1, .integer)]⟩ faulty h).trace = [] ∧
      ∃ s : Session Adapter,
        (ofConfig resolver e ⟨1, .binary, ∅⟩ c h).result = .ok (s.seen .engine) ∧
        s.resolved.backend.tuning = ⟨none, none, some 0.5, none, false⟩ := by
  intro resolver e h faulty c
  have hfaulty : faulty.Faulty := .inl ⟨-2, rfl, .inr (.inr (by decide +kernel))⟩
  have hc : ¬ c.Faulty := by
    rcases c.validate_cases with ⟨-, fault, hfault⟩ | ⟨hc, -⟩
    · cases hfault
    · exact hc
  obtain ⟨-, hrefused, -, -⟩ := configuration_reaches_settings Backend.embeds_engine e
    ⟨1, .binary, .ofList [(1, .integer)]⟩ faulty h
  obtain ⟨-, -, hopened, -⟩ := configuration_reaches_settings Backend.embeds_engine e
    ⟨1, .binary, ∅⟩ c h
  have hengines : c.engine.engines = [] ++ .highs :: [.coinCbc] := rfl
  have hregistered : Catalog.lastFor [(.highs, .made (StockBackend.engine .fresh))] .highs =
      some (.made (StockBackend.engine .fresh)) := rfl
  obtain ⟨id, hr⟩ := Catalog.resolve_offered hengines (fun _ he => nomatch he) hregistered
    (c.resolvedSearchDir e) h
  exact ⟨(hrefused hfaulty).2, ((hopened hc).2 _ hr).2 rfl⟩

end Opening

end Session

end MipDispatch
