import Mathlib.Data.List.Induction
import MipDispatch.Module.Source
import MipDispatch.Proofs.Module.Path
import MipDispatch.Proofs.Module.Resolution

namespace MipDispatch

theorem exists_first {α : Type} {p : α → Prop} {l : List α} (h : ∃ a ∈ l, p a) :
    ∃ before a after, l = before ++ a :: after ∧ p a ∧ ∀ b ∈ before, ¬ p b := by
  classical
  obtain ⟨a, ha, hpa⟩ := h
  cases hfind : l.find? p with
  | none => exact absurd hpa (by simpa using List.find?_eq_none.1 hfind a ha)
  | some b =>
    obtain ⟨hb, before, after, hl, hbefore⟩ := List.find?_eq_some_iff_append.1 hfind
    exact ⟨before, b, after, hl, by simpa using hb, by simpa using hbefore⟩

theorem EngineChoice.moduleFile_plain (engine : EngineChoice) :
    Path.Plain (Text.encode engine.moduleFile) := by
  cases engine <;> constructor <;> decide +kernel

theorem EngineChoice.ne_any_of_mem_engines {choice engine : EngineChoice}
    (h : engine ∈ choice.engines) : engine ≠ .any := by
  cases choice <;> cases engine <;> simp_all [EngineChoice.engines, EngineChoice.priority]

namespace Catalog

variable {β : Type}

/-- The catalog after these registrations, the earliest one first. -/
def ofRegistrations (regs : List (EngineChoice × Construction β)) : Catalog β :=
  regs.foldl (fun c reg => c.register reg.1 reg.2) empty

def lastFor (regs : List (EngineChoice × Construction β)) (engine : EngineChoice) :
    Option (Construction β) :=
  (regs.filter (·.1 = engine)).getLast?.map (·.2)

theorem get?_ofRegistrations (regs : List (EngineChoice × Construction β)) (file : String) :
    (ofRegistrations regs).modules.get? file =
      (regs.filter (·.1.moduleFile = file)).getLast?.map (·.2) := by
  -- the last registration is the one that counts
  induction regs using List.reverseRecOn with
  | nil => rfl
  | append_singleton regs reg ih =>
    rw [ofRegistrations, List.foldl_append] at *
    rw [List.foldl_cons, List.foldl_nil, register, SortedMap.get?_insert, ih, List.filter_append]
    by_cases hfile : file = reg.1.moduleFile
    · subst hfile
      simp
    · have hne : compare file reg.1.moduleFile ≠ .eq :=
        fun heq => hfile (Std.LawfulEqOrd.eq_of_compare heq)
      simp [hne, Ne.symm hfile]

theorem get?_moduleFile (regs : List (EngineChoice × Construction β)) (engine : EngineChoice) :
    (ofRegistrations regs).modules.get? engine.moduleFile = lastFor regs engine := by
  have hsame (reg : EngineChoice × Construction β) :
      reg.1.moduleFile = engine.moduleFile ↔ reg.1 = engine :=
    ⟨EngineChoice.moduleFile_injective, congrArg _⟩
  rw [get?_ofRegistrations, lastFor]
  simp only [hsame]

theorem isSome_get? {regs : List (EngineChoice × Construction β)} {file : String} :
    ((ofRegistrations regs).modules.get? file).isSome ↔
      ∃ engine, (lastFor regs engine).isSome ∧ file = engine.moduleFile := by
  constructor
  · intro h
    have hlast := h
    rw [get?_ofRegistrations, Option.isSome_map] at hlast
    obtain ⟨reg, hreg⟩ := Option.isSome_iff_exists.1 hlast
    have hfile := (List.mem_filter.1 (List.mem_of_getLast? hreg)).2
    obtain rfl : reg.1.moduleFile = file := by simpa using hfile
    exact ⟨reg.1, get?_moduleFile regs reg.1 ▸ h, rfl⟩
  · rintro ⟨engine, h, rfl⟩
    rwa [get?_moduleFile]

theorem lastFor_filter_ne {regs : List (EngineChoice × Construction β)}
    {engine other : EngineChoice} (h : engine ≠ other) :
    lastFor (regs.filter (·.1 ≠ other)) engine = lastFor regs engine := by
  unfold lastFor
  rw [List.filter_filter]
  congr 3
  funext reg
  rw [← Bool.decide_and]
  exact decide_eq_decide.2 ⟨And.left, fun heq => ⟨heq, heq ▸ h⟩⟩

theorem openModule_isOk {c : Catalog β} {path : Path} :
    (∃ m, c.source.openModule path = .ok m) ↔
      ∃ file, path.fileName? = some (Text.encode file) ∧ (c.modules.get? file).isSome := by
  simp only [source, ModuleSource.ofFileNames, ← Path.fileText?_eq_some]
  cases path.fileText? with
  | none => simp
  | some file => cases hfile : c.modules.get? file <;> simp [hfile]

theorem openModule_join (c : Catalog β) (dir : Path) (engine : EngineChoice) :
    c.source.openModule (dir.join engine.moduleFile) =
      match c.modules.get? engine.moduleFile with
      | none => .error (.notFound (dir.join engine.moduleFile))
      | some construction => .ok (.offering engine.moduleFile (some construction)) := by
  have hfile : (dir.join engine.moduleFile).fileText? = some engine.moduleFile :=
    Path.fileText?_eq_some.2 (dir.fileName?_join engine.moduleFile_plain)
  simp only [source, ModuleSource.ofFileNames, hfile]
  cases c.modules.get? engine.moduleFile <;> rfl

def answer : Option (Construction β) → Except (Path → LoadError) β
  | none => .error .notFound
  | some (.failed e) => .error (.constructionFailed · e)
  | some (.crashed c) => .error (.constructionCrashed · (Resolver.crashText c))
  | some (.made b) => .ok b

theorem answer_eq_ok {registered : Option (Construction β)} {b : β} :
    answer registered = .ok b ↔ registered = some (.made b) := by
  rcases registered with _ | _ | _ | _ <;> simp [answer]

def openedFor (registered : Option (Construction β)) (h : Host) : Host :=
  if registered.isSome then { h with modulesOpened := h.modulesOpened + 1 } else h

def refusedTrace (registered : Option (Construction β)) (engine : EngineChoice) (path : Path)
    (e : LoadError) (id : Nat) : Trace :=
  let lived : Trace := if registered.isSome then
    [.lived (.moduleOpened id engine.moduleFile), .lived (.moduleReleased id engine.moduleFile)]
    else []
  .logged (Resolver.tryingRecord path) :: .asked path ::
    (lived ++ [.logged (Resolver.failedRecord path e)])

theorem lifetimes_refusedTrace (registered : Option (Construction β)) (engine : EngineChoice)
    (path : Path) (e : LoadError) (id : Nat) :
    (refusedTrace registered engine path e id).lifetimes = if registered.isSome then
      [.moduleOpened id engine.moduleFile, .moduleReleased id engine.moduleFile] else [] := by
  cases registered <;> rfl

variable [Backend β]

/-- Trying engines by what is registered for them. The places are for reports only. -/
def tryEngines (registered : EngineChoice → Option (Construction β)) (place : EngineChoice → Path)
    (choice : EngineChoice) :
    List EngineChoice → List LoadAttempt → Host → Hosted SolveError (ResolvedBackend β)
  | [], attempts, h => ⟨.error (.unresolved choice attempts), h, []⟩
  | engine :: engines, attempts, h =>
    let path := place engine
    let id := h.modulesOpened
    let h' := openedFor (registered engine) h
    match answer (registered engine) with
    | .ok b => ⟨.ok ⟨b, id, engine.moduleFile, path⟩, h',
      Resolver.madeTrace path (.offering engine.moduleFile (registered engine)) b id⟩
    | .error refusal =>
      let e := refusal path
      (tryEngines registered place choice engines (attempts ++ [⟨path, e.message⟩]) h').preceded
        (refusedTrace (registered engine) engine path e id)

theorem tryPaths_eq (c : Catalog β) (dir : Path) (choice : EngineChoice)
    (engines : List EngineChoice) (attempts : List LoadAttempt) (h : Host) :
    (⟨c.source, dir⟩ : Resolver β).tryPaths choice
        (engines.map fun engine => dir.join engine.moduleFile) attempts h =
      tryEngines (fun engine => c.modules.get? engine.moduleFile)
        (fun engine => dir.join engine.moduleFile) choice engines attempts h := by
  induction engines generalizing attempts h with
  | nil => rfl
  | cons engine engines ih =>
    rw [List.map_cons, Resolver.tryPaths, tryEngines, Resolver.load, openModule_join]
    cases c.modules.get? engine.moduleFile with
    | none => simp [answer, openedFor, refusedTrace, Hosted.preceded, ih]
    | some construction =>
      cases construction <;>
        simp [answer, openedFor, refusedTrace, Hosted.preceded, ih, Resolver.construct,
          BackendModule.offering, Resolver.madeTrace, Resolver.crashText]

/-- Whatever the directory, it is the registrations that are gone through. -/
theorem resolve_eq (regs : List (EngineChoice × Construction β)) (dir : Path)
    (choice : EngineChoice) (h : Host) :
    (⟨(ofRegistrations regs).source, dir⟩ : Resolver β).resolve choice h =
      tryEngines (lastFor regs) (fun engine => dir.join engine.moduleFile) choice choice.engines []
        h := by
  have hregistered : (fun engine => (ofRegistrations regs).modules.get? engine.moduleFile) =
      lastFor regs := funext (get?_moduleFile regs)
  rw [← hregistered]
  exact tryPaths_eq _ dir choice choice.engines [] h

theorem tryEngines_congr {registered registered' : EngineChoice → Option (Construction β)}
    {engines : List EngineChoice} (heq : ∀ e ∈ engines, registered e = registered' e)
    (place : EngineChoice → Path) (choice : EngineChoice) (attempts : List LoadAttempt) (h : Host) :
    tryEngines registered place choice engines attempts h =
      tryEngines registered' place choice engines attempts h := by
  induction engines generalizing attempts h with
  | nil => rfl
  | cons engine engines ih =>
    obtain ⟨hengine, hengines⟩ := List.forall_mem_cons.1 heq
    rw [tryEngines, tryEngines, hengine]
    simp only [ih hengines]

structure AgreeButForPaths (run run' : Hosted SolveError (ResolvedBackend β)) : Prop where
  taken : run.result.toOption.map (fun r => { r with path := default }) =
    run'.result.toOption.map fun r => { r with path := default }
  host : run.host = run'.host
  lifetimes : run.trace.lifetimes = run'.trace.lifetimes

theorem tryEngines_agree (registered : EngineChoice → Option (Construction β))
    (place place' : EngineChoice → Path) (choice : EngineChoice) (engines : List EngineChoice)
    (attempts attempts' : List LoadAttempt) (h : Host) :
    AgreeButForPaths (tryEngines registered place choice engines attempts h)
      (tryEngines registered place' choice engines attempts' h) := by
  induction engines generalizing attempts attempts' h with
  | nil => exact ⟨rfl, rfl, rfl⟩
  | cons engine engines ih =>
    rw [tryEngines, tryEngines]
    cases answer (registered engine) with
    | ok b => exact ⟨rfl, rfl, rfl⟩
    | error refusal =>
      obtain ⟨htaken, hhost, hlifetimes⟩ := ih _ _ _
      refine ⟨htaken, hhost, ?_⟩
      dsimp only [Hosted.preceded]
      rw [Trace.lifetimes_append, Trace.lifetimes_append, lifetimes_refusedTrace,
        lifetimes_refusedTrace, hlifetimes]

/-- An engine without a backend is passed over, with an attempt at its place. -/
theorem tryEngines_append {registered : EngineChoice → Option (Construction β)}
    {before : List EngineChoice} (hbefore : ∀ e ∈ before, ∀ b, registered e ≠ some (.made b))
    (place : EngineChoice → Path) (choice : EngineChoice) (engines : List EngineChoice)
    (attempts : List LoadAttempt) (h : Host) :
    ∃ attempts' h' told,
      attempts'.map (·.module) = attempts.map (·.module) ++ before.map place ∧
      tryEngines registered place choice (before ++ engines) attempts h =
        (tryEngines registered place choice engines attempts' h').preceded told := by
  induction before generalizing attempts h with
  | nil => exact ⟨attempts, h, [], by simp, rfl⟩
  | cons engine before ih =>
    obtain ⟨hengine, hbefore⟩ := List.forall_mem_cons.1 hbefore
    rw [List.cons_append, tryEngines]
    cases hanswer : answer (registered engine) with
    | ok b => exact absurd (answer_eq_ok.1 hanswer) (hengine b)
    | error refusal =>
      dsimp only
      generalize refusal (place engine) = e
      obtain ⟨attempts', h', told, hmodules, hrun⟩ := ih hbefore
        (attempts ++ [⟨place engine, e.message⟩]) (openedFor (registered engine) h)
      rw [hrun, Hosted.preceded_preceded]
      refine ⟨attempts', h', _, ?_, rfl⟩
      rw [hmodules, List.map_append, List.append_assoc]
      rfl

section Outcome

variable {regs : List (EngineChoice × Construction β)} {choice : EngineChoice}

def Offers (regs : List (EngineChoice × Construction β)) (engine : EngineChoice) : Prop :=
  ∃ b, lastFor regs engine = some (.made b)

theorem resolve_offered {before after : List EngineChoice} {engine : EngineChoice} {b : β}
    (hengines : choice.engines = before ++ engine :: after)
    (hbefore : ∀ e ∈ before, ¬ Offers regs e) (hb : lastFor regs engine = some (.made b))
    (dir : Path) (h : Host) :
    ∃ id, ((⟨(ofRegistrations regs).source, dir⟩ : Resolver β).resolve choice h).result =
      .ok ⟨b, id, engine.moduleFile, dir.join engine.moduleFile⟩ := by
  have hnone : ∀ e ∈ before, ∀ b, lastFor regs e ≠ some (.made b) :=
    fun e he b hmade => hbefore e he ⟨b, hmade⟩
  obtain ⟨attempts, h', told, -, hrun⟩ := tryEngines_append hnone
    (fun engine => dir.join engine.moduleFile) choice (engine :: after) [] h
  rw [resolve_eq, hengines, hrun, tryEngines, answer_eq_ok.2 hb]
  exact ⟨h'.modulesOpened, rfl⟩

theorem resolve_not_offered (hnone : ∀ e ∈ choice.engines, ¬ Offers regs e) (dir : Path)
    (h : Host) :
    ∃ attempts, ((⟨(ofRegistrations regs).source, dir⟩ : Resolver β).resolve choice h).result =
        .error (.unresolved choice attempts) ∧
      attempts.map (·.module) = choice.engines.map fun engine => dir.join engine.moduleFile := by
  have hnone : ∀ e ∈ choice.engines, ∀ b, lastFor regs e ≠ some (.made b) :=
    fun e he b hmade => hnone e he ⟨b, hmade⟩
  obtain ⟨attempts, h', told, hmodules, hrun⟩ := tryEngines_append hnone
    (fun engine => dir.join engine.moduleFile) choice [] [] h
  rw [List.append_nil] at hrun
  rw [resolve_eq, hrun]
  exact ⟨attempts, rfl, hmodules⟩

/-- A backend that a resolver returns was registered for an engine, and all else it can return is
the error that tells of every attempt. -/
theorem resolve_result_cases (regs : List (EngineChoice × Construction β)) (choice : EngineChoice)
    (dir : Path) (h : Host) :
    (∃ engine b id,
      engine ∈ choice.engines ∧ lastFor regs engine = some (.made b) ∧
      ((⟨(ofRegistrations regs).source, dir⟩ : Resolver β).resolve choice h).result =
        .ok ⟨b, id, engine.moduleFile, dir.join engine.moduleFile⟩) ∨
    ((∀ e ∈ choice.engines, ¬ Offers regs e) ∧ ∃ attempts,
      ((⟨(ofRegistrations regs).source, dir⟩ : Resolver β).resolve choice h).result =
        .error (.unresolved choice attempts)) := by
  by_cases hsome : ∃ engine ∈ choice.engines, Offers regs engine
  · obtain ⟨before, engine, after, hengines, ⟨b, hb⟩, hbefore⟩ := exists_first hsome
    obtain ⟨id, hresult⟩ := resolve_offered hengines hbefore hb dir h
    refine .inl ⟨engine, b, id, ?_, hb, hresult⟩
    rw [hengines]
    exact List.mem_append_right before List.mem_cons_self
  · have hnone : ∀ e ∈ choice.engines, ¬ Offers regs e :=
      fun e he hoffers => hsome ⟨e, he, hoffers⟩
    obtain ⟨attempts, hresult, -⟩ := resolve_not_offered hnone dir h
    exact .inr ⟨hnone, attempts, hresult⟩

theorem resolve_isOk_iff (dir : Path) (h : Host) :
    (∃ resolved,
      ((⟨(ofRegistrations regs).source, dir⟩ : Resolver β).resolve choice h).result =
        .ok resolved) ↔ ∃ engine ∈ choice.engines, Offers regs engine := by
  rcases resolve_result_cases regs choice dir h with
    ⟨engine, b, id, hengine, hb, hresult⟩ | ⟨hnone, attempts, hresult⟩
  · exact iff_of_true ⟨_, hresult⟩ ⟨engine, hengine, b, hb⟩
  · refine iff_of_false (fun ⟨resolved, hok⟩ => ?_) fun ⟨e, he, hoffers⟩ => hnone e he hoffers
    cases hresult.symm.trans hok

end Outcome

/-- What a resolver over a catalog does, for every directory, whatever bytes it is made of: the
first engine for which a backend was registered last is taken, and the directory only shows in the
paths of reports. Registering something for `any` never makes a difference. A path leads to a module
when it ends in the file name of an engine that is registered. -/
theorem resolve_by_registrations (regs : List (EngineChoice × Construction β))
    (choice : EngineChoice) (h : Host) :
    let source := (ofRegistrations regs).source
    let run (dir : Path) := (⟨source, dir⟩ : Resolver β).resolve choice h
    let place (dir : Path) (engine : EngineChoice) := dir.join engine.moduleFile
    (∀ dir, (∃ resolved, (run dir).result = .ok resolved) ↔
      ∃ engine ∈ choice.engines, Offers regs engine) ∧
    (∀ dir before engine after b, choice.engines = before ++ engine :: after →
      (∀ e ∈ before, ¬ Offers regs e) → lastFor regs engine = some (.made b) →
      ∃ id, (run dir).result = .ok ⟨b, id, engine.moduleFile, place dir engine⟩) ∧
    (∀ dir, (∀ e ∈ choice.engines, ¬ Offers regs e) →
      ∃ attempts, (run dir).result = .error (.unresolved choice attempts) ∧
        attempts.map (·.module) = choice.engines.map (place dir)) ∧
    (∀ dir, run dir = tryEngines (lastFor regs) (place dir) choice choice.engines [] h) ∧
    (∀ dir dir', AgreeButForPaths (run dir) (run dir')) ∧
    (∀ dir, (⟨(ofRegistrations (regs.filter (·.1 ≠ .any))).source, dir⟩ : Resolver β).resolve choice
      h = run dir) ∧
    ∀ path, (∃ m, source.openModule path = .ok m) ↔
      ∃ engine, (lastFor regs engine).isSome ∧
        path.fileName? = some (Text.encode engine.moduleFile) := by
  intro source run place
  refine ⟨fun dir => resolve_isOk_iff dir h, ?_, fun dir hnone => resolve_not_offered hnone dir h,
    fun dir => resolve_eq regs dir choice h, ?_, ?_, ?_⟩
  · intro dir before engine after b hengines hbefore hb
    exact resolve_offered hengines hbefore hb dir h
  · intro dir dir'
    dsimp only [run, source]
    rw [resolve_eq, resolve_eq]
    exact tryEngines_agree _ _ _ choice choice.engines [] [] h
  · intro dir
    dsimp only [run, source]
    rw [resolve_eq, resolve_eq]
    exact tryEngines_congr
      (fun e he => lastFor_filter_ne (EngineChoice.ne_any_of_mem_engines he)) _ choice [] h
  · intro path
    rw [openModule_isOk]
    simp only [isSome_get?]
    constructor
    · rintro ⟨_, hname, engine, hregistered, rfl⟩
      exact ⟨engine, hregistered, hname⟩
    · rintro ⟨engine, hregistered, hname⟩
      exact ⟨_, hname, engine, hregistered, rfl⟩

/-- The directory ends in dots and begins with a byte that is no text. Of two registrations for one
engine the later one counts, and a path to the module of `any` is opened. -/
theorem resolve_by_registrations_odd_directory :
    let regs : List (EngineChoice × Construction Inert) :=
      [(.any, .made .inert), (.highs, .made .inert), (.coinCbc, .crashed .other),
        (.highs, .failed (.executionFailed "no license")), (.coinCbc, .made .inert)]
    let source := (ofRegistrations regs).source
    let dir : Path := ⟨[0xff, 0x2f, 0x2e, 0x2e]⟩
    ¬ Offers regs .highs ∧ Offers regs .coinCbc ∧
      (∃ id, ((⟨source, dir⟩ : Resolver Inert).resolve .any ⟨none, [], 0⟩).result =
        .ok ⟨.inert, id, EngineChoice.coinCbc.moduleFile,
          ⟨[0xff, 0x2f, 0x2e, 0x2e, 0x2f] ++ Text.encode EngineChoice.coinCbc.moduleFile⟩⟩) ∧
      ∃ m, source.openModule (dir.join EngineChoice.any.moduleFile) = .ok m := by
  intro regs source dir
  have hfirst : ¬ Offers regs .highs := fun ⟨_, hb⟩ => nomatch hb
  have hregistered := resolve_by_registrations regs .any ⟨none, [], 0⟩
  refine ⟨hfirst, ⟨.inert, rfl⟩, ?_, ?_⟩
  · exact hregistered.2.1 dir [.highs] .coinCbc [] .inert rfl
      (List.forall_mem_singleton.2 hfirst) rfl
  · refine (hregistered.2.2.2.2.2.2 _).2 ⟨.any, rfl, ?_⟩
    exact dir.fileName?_join EngineChoice.any.moduleFile_plain

end Catalog

end MipDispatch
