import Mathlib.Data.List.Nodup
import MipDispatch.Session

namespace MipDispatch

def Lifetime.module : Lifetime → Nat
  | moduleOpened id _ | backendMade id _ | backendReleased id _ | moduleReleased id _ => id

namespace Trace

def about (t : Trace) (id : Nat) : List Lifetime := t.lifetimes.filter (·.module = id)

theorem about_append (s t : Trace) (id : Nat) : about (s ++ t) id = s.about id ++ t.about id := by
  simp [about]

theorem about_of_lifetimes {t : Trace} (h : t.lifetimes = []) (id : Nat) : t.about id = [] := by
  simp [about, h]

theorem about_pair {a b : Lifetime} {n : Nat} (ha : a.module = n) (hb : b.module = n) (id : Nat) :
    about [.lived a, .lived b] id = if id = n then [a, b] else [] := by
  by_cases hid : id = n <;> simp [about, lifetimes, ha, hb, hid, eq_comm]

end Trace

def Alive (id : Nat) (name : String) (told : List Lifetime) : Prop :=
  ∃ made, told = [.moduleOpened id name, .backendMade id made]

/-- A module that is gone: it never made a backend, or its backend is gone before it. -/
inductive Ended (id : Nat) : List Lifetime → Prop where
  | refused (name : String) : Ended id [.moduleOpened id name, .moduleReleased id name]
  | used (name made last : String) : Ended id [.moduleOpened id name, .backendMade id made,
      .backendReleased id last, .moduleReleased id name]

def Settled (id : Nat) (told : List Lifetime) : Prop :=
  told = [] ∨ (∃ name, Alive id name told) ∨ Ended id told

/-- Whenever a module is asked for, none of those before is open without a backend. -/
def SettledWhenAsked (t : Trace) : Prop :=
  ∀ (before : Trace) path after, t = before ++ .asked path :: after →
    ∀ id, Settled id (before.about id)

theorem SettledWhenAsked.of_asked {t : Trace} (h : t.asked = []) : SettledWhenAsked t := by
  rintro before path after rfl
  rw [Trace.asked_append] at h
  cases (List.append_eq_nil_iff.1 h).2

theorem SettledWhenAsked.append {t t' : Trace} (h : SettledWhenAsked t)
    (h' : ∀ (rest : Trace) path after, t' = rest ++ .asked path :: after →
      ∀ id, Settled id (t.about id ++ rest.about id)) : SettledWhenAsked (t ++ t') := by
  intro before path after hsplit id
  rcases List.append_eq_append_iff.1 hsplit with ⟨rest, rfl, ht'⟩ | ⟨rest, rfl, hrest⟩
  · rw [Trace.about_append]
    exact h' rest path after ht' id
  · cases rest with
    | nil =>
      have hsettled := h' [] path after hrest.symm id
      rwa [← Trace.about_append, List.append_nil, List.append_nil] at hsettled
    | cons e rest =>
      obtain ⟨rfl, -⟩ := List.cons.inj hrest
      exact h before path rest rfl id

/-- The modules numbered from `n` up to `m` are opened, and in the end those in `live` are in use. -/
structure Account (n m : Nat) (live : List (Nat × String)) (t : Trace) : Prop where
  le : n ≤ m
  nodup : (live.map (·.1)).Nodup
  numbered : ∀ x ∈ live, n ≤ x.1 ∧ x.1 < m
  alive : ∀ x ∈ live, Alive x.1 x.2 (t.about x.1)
  ended : ∀ id, n ≤ id → id < m → id ∉ live.map (·.1) → Ended id (t.about id)
  others : ∀ id, ¬ (n ≤ id ∧ id < m) → t.about id = []
  settled : SettledWhenAsked t

namespace Account

variable {n m k : Nat} {live live' : List (Nat × String)} {t t' : Trace}

theorem about_settled (h : Account n m live t) (id : Nat) : Settled id (t.about id) := by
  by_cases hid : n ≤ id ∧ id < m
  · by_cases hlive : id ∈ live.map (·.1)
    · obtain ⟨x, hx, rfl⟩ := List.mem_map.1 hlive
      exact .inr (.inl ⟨_, h.alive x hx⟩)
    · exact .inr (.inr (h.ended id hid.1 hid.2 hlive))
  · exact .inl (h.others id hid)

theorem unopened (hlifetimes : t.lifetimes = []) (hsettled : SettledWhenAsked t) (n : Nat) :
    Account n n [] t where
  le := Nat.le_refl n
  nodup := List.nodup_nil
  numbered := List.forall_mem_nil _
  alive := List.forall_mem_nil _
  ended := fun _ hn hm => absurd hm (Nat.not_lt.2 hn)
  others := fun id _ => Trace.about_of_lifetimes hlifetimes id
  settled := hsettled

theorem silent (hlifetimes : t.lifetimes = []) (hasked : t.asked = []) (n : Nat) :
    Account n n [] t := unopened hlifetimes (.of_asked hasked) n

theorem asked (path : Path) (n : Nat) : Account n n [] [.asked path] := by
  refine unopened rfl ?_ n
  intro before path' after hsplit id
  cases before with
  | nil => exact .inl rfl
  | cons e before => cases before <;> cases hsplit

theorem refused (n : Nat) (name : String) : Account n (n + 1) []
    [.lived (.moduleOpened n name), .lived (.moduleReleased n name)] := by
  have htold (id : Nat) :
      Trace.about [.lived (.moduleOpened n name), .lived (.moduleReleased n name)] id =
        if id = n then [.moduleOpened n name, .moduleReleased n name] else [] := by
    apply Trace.about_pair <;> rfl
  refine ⟨Nat.le_succ n, List.nodup_nil, List.forall_mem_nil _, List.forall_mem_nil _, ?_, ?_,
    .of_asked rfl⟩
  · intro id hn hm _
    obtain rfl : id = n := by omega
    rw [htold, if_pos rfl]
    exact .refused name
  · intro id hid
    rw [htold, if_neg (by omega)]

theorem made (n : Nat) (name backend : String) : Account n (n + 1) [(n, name)]
    [.lived (.moduleOpened n name), .lived (.backendMade n backend)] := by
  have htold (id : Nat) :
      Trace.about [.lived (.moduleOpened n name), .lived (.backendMade n backend)] id =
        if id = n then [.moduleOpened n name, .backendMade n backend] else [] := by
    apply Trace.about_pair <;> rfl
  refine ⟨Nat.le_succ n, List.nodup_singleton n, ?_, ?_, ?_, ?_, .of_asked rfl⟩
  · rw [List.forall_mem_singleton]
    exact ⟨Nat.le_refl n, Nat.lt_succ_self n⟩
  · rw [List.forall_mem_singleton, htold, if_pos rfl]
    exact ⟨backend, rfl⟩
  · intro id hn hm hid
    obtain rfl : id = n := by omega
    exact absurd (List.mem_singleton.2 rfl) hid
  · intro id hid
    rw [htold, if_neg (by omega)]

/-- One account after the other. Modules are numbered on, so neither has a part in the other's. -/
theorem append (h : Account n m live t) (h' : Account m k live' t') :
    Account n k (live ++ live') (t ++ t') := by
  have hle := h.le
  have hle' := h'.le
  -- a module has all of its course in one of the two traces
  have hfirst {id : Nat} (hid : id < m) : t'.about id = [] := h'.others id (by omega)
  have hsecond {id : Nat} (hid : m ≤ id) : t.about id = [] := h.others id (by omega)
  refine ⟨Nat.le_trans hle hle', ?_, ?_, ?_, ?_, ?_, h.settled.append ?_⟩
  · rw [List.map_append, List.nodup_append]
    refine ⟨h.nodup, h'.nodup, fun a ha b hb => ?_⟩
    obtain ⟨x, hx, rfl⟩ := List.mem_map.1 ha
    obtain ⟨y, hy, rfl⟩ := List.mem_map.1 hb
    have hxm := (h.numbered x hx).2
    have hym := (h'.numbered y hy).1
    omega
  · intro x hx
    rcases List.mem_append.1 hx with hx | hx
    · have hxm := h.numbered x hx
      omega
    · have hxm := h'.numbered x hx
      omega
  · intro x hx
    rw [Trace.about_append]
    rcases List.mem_append.1 hx with hx | hx
    · rw [hfirst (h.numbered x hx).2, List.append_nil]
      exact h.alive x hx
    · rw [hsecond (h'.numbered x hx).1]
      exact h'.alive x hx
  · intro id hn hk hid
    rw [List.map_append, List.mem_append, not_or] at hid
    rw [Trace.about_append]
    rcases Nat.lt_or_ge id m with hm | hm
    · rw [hfirst hm, List.append_nil]
      exact h.ended id hn hm hid.1
    · rw [hsecond hm]
      exact h'.ended id hm hk hid.2
  · intro id hid
    rw [Trace.about_append, h.others id (by omega), h'.others id (by omega)]
    rfl
  · rintro rest path after rfl id
    rcases Nat.lt_or_ge id m with hm | hm
    · have hall := hfirst hm
      rw [Trace.about_append] at hall
      rw [(List.append_eq_nil_iff.1 hall).1, List.append_nil]
      exact h.about_settled id
    · rw [hsecond hm]
      exact h'.settled rest path after rfl id

theorem append_silent (h : Account n m live t) (hlifetimes : t'.lifetimes = [])
    (hasked : t'.asked = []) : Account n m live (t ++ t') := by
  have hboth := h.append (.silent hlifetimes hasked m)
  rwa [List.append_nil] at hboth

/-- Letting go of one backend in use ends its module and touches no other. -/
theorem release {x : Nat × String} (h : Account n m (live ++ x :: live') t) (last : String) :
    Account n m (live ++ live')
      (t ++ [.lived (.backendReleased x.1 last), .lived (.moduleReleased x.1 x.2)]) := by
  have htold (id : Nat) :
      Trace.about [.lived (.backendReleased x.1 last), .lived (.moduleReleased x.1 x.2)] id =
        if id = x.1 then [.backendReleased x.1 last, .moduleReleased x.1 x.2] else [] := by
    apply Trace.about_pair <;> rfl
  have hx : x ∈ live ++ x :: live' := by simp
  have hother {y : Nat × String} (hy : y ∈ live ++ live') : y ∈ live ++ x :: live' :=
    List.mem_append.2 ((List.mem_append.1 hy).imp_right (List.mem_cons_of_mem x))
  have hids : ((live ++ x :: live').map (·.1)).Perm (x.1 :: (live ++ live').map (·.1)) :=
    List.perm_middle.map Prod.fst
  obtain ⟨hgone, hnodup⟩ := List.nodup_cons.1 (hids.nodup_iff.1 h.nodup)
  refine ⟨h.le, hnodup, fun y hy => h.numbered y (hother hy), ?_, ?_, ?_, h.settled.append ?_⟩
  · intro y hy
    have hne : y.1 ≠ x.1 := fun heq => hgone (heq ▸ List.mem_map_of_mem hy)
    rw [Trace.about_append, htold, if_neg hne, List.append_nil]
    exact h.alive y (hother hy)
  · intro id hn hm hid
    rw [Trace.about_append, htold]
    by_cases heq : id = x.1
    · -- in use up to here, and now let go of
      subst heq
      obtain ⟨made, hmade⟩ := h.alive x hx
      rw [if_pos rfl, hmade]
      exact .used x.2 made last
    · rw [if_neg heq, List.append_nil]
      refine h.ended id hn hm fun hmem => hid ?_
      exact (List.mem_cons.1 (hids.mem_iff.1 hmem)).resolve_left heq
  · intro id hid
    have hne : id ≠ x.1 := fun heq => hid (heq ▸ h.numbered x hx)
    rw [Trace.about_append, htold, if_neg hne, h.others id hid]
    rfl
  · rintro rest path after hrest id
    have hasked := congrArg Trace.asked hrest
    rw [Trace.asked_append] at hasked
    cases (List.append_eq_nil_iff.1 hasked.symm).2

end Account

def ResolvedBackend.origin {β : Type} (r : ResolvedBackend β) : Nat × String :=
  (r.moduleId, r.moduleName)

namespace Resolver

variable {β : Type} [Backend β]

def kept {ε α : Type} (origin : α → Nat × String) (result : Except ε α) : List (Nat × String) :=
  (result.toOption.map origin).toList

theorem load_account (r : Resolver β) (path : Path) (h : Host) :
    Account h.modulesOpened (r.load path h).host.modulesOpened
      (kept ResolvedBackend.origin (r.load path h).result) (r.load path h).trace := by
  unfold load
  cases r.source.openModule path with
  | error e => exact .asked path h.modulesOpened
  | ok m =>
    have hasked := Account.asked path h.modulesOpened
    dsimp only [construct]
    cases m.entry? entrySymbol with
    | none => exact hasked.append (.refused _ m.name)
    | some construction =>
      cases construction with
      | made b => exact hasked.append (.made _ m.name (Backend.name b))
      | failed e => exact hasked.append (.refused _ m.name)
      | crashed c => exact hasked.append (.refused _ m.name)

theorem tryPaths_account (r : Resolver β) (choice : EngineChoice) (paths : List Path)
    (attempts : List LoadAttempt) (h : Host) :
    let run := r.tryPaths choice paths attempts h
    Account h.modulesOpened run.host.modulesOpened (kept ResolvedBackend.origin run.result)
      run.trace := by
  induction paths generalizing attempts h with
  | nil => exact .silent rfl rfl _
  | cons path paths ih =>
    have hload := r.load_account path h
    have hlogged (record : Log.Record) (n : Nat) : Account n n [] [.logged record] :=
      .silent rfl rfl n
    rw [tryPaths]
    dsimp only
    cases hresult : (r.load path h).result with
    | ok resolved =>
      rw [hresult] at hload
      exact ((hlogged _ _).append hload).append (hlogged _ _)
    | error e =>
      rw [hresult] at hload
      exact ((hlogged _ _).append hload).append ((hlogged _ _).append (ih _ _))

theorem resolve_account (r : Resolver β) (choice : EngineChoice) (h : Host) :
    let run := r.resolve choice h
    Account h.modulesOpened run.host.modulesOpened (kept ResolvedBackend.origin run.result)
      run.trace :=
  r.tryPaths_account choice _ [] h

end Resolver

structure Backend.DeclaresAlone (β : Type) [Backend β] : Prop where
  lifetimes : ∀ (b : β) n kind overrides, (declare b n kind overrides).trace.lifetimes = []
  asked : ∀ (b : β) n kind overrides, (declare b n kind overrides).trace.asked = []

theorem Engine.Adapter.declaresAlone : Backend.DeclaresAlone Engine.Adapter := by
  have htrace (a : Engine.Adapter) (n : Nat) (kind : VarKind) (overrides : KindOverrides) :
      let t := (Backend.declare a n kind overrides).trace
      t.lifetimes = [] ∧ t.asked = [] := by
    dsimp only [Backend.declare, Engine.Adapter.declare]
    split <;> exact ⟨rfl, rfl⟩
  exact ⟨fun a n kind overrides => (htrace a n kind overrides).1,
    fun a n kind overrides => (htrace a n kind overrides).2⟩

namespace Session

variable {β : Type} [Backend β] {n m : Nat} {live live' : List (Nat × String)} {t : Trace}

def origin (s : Session β) : Nat × String := s.resolved.origin

/-- A session keeps the backend it is started on in use. If it cannot be started the backend is let
go of. -/
theorem start_account (hβ : Backend.DeclaresAlone β) {r : ResolvedBackend β}
    (h : Account n m (live ++ r.origin :: live') t) (d : Declaration) (host : Host) :
    Account n m (live ++ (Resolver.kept origin (start r d host).result ++ live'))
      (t ++ (start r d host).trace) := by
  have hdeclared := h.append_silent (hβ.lifetimes r.backend d.size d.kind d.overrides)
    (hβ.asked r.backend d.size d.kind d.overrides)
  unfold start
  dsimp only
  cases (Backend.declare r.backend d.size d.kind d.overrides).result with
  | ok u =>
    have hready (record : Log.Record) := hdeclared.append_silent
      (show Trace.lifetimes [.logged record] = [] from rfl) rfl
    simp only [List.append_assoc] at hready
    exact hready _
  | error e =>
    have hreleased (last : String) := hdeclared.release last
    simp only [List.append_assoc] at hreleased
    exact hreleased _

theorem start_host (r : ResolvedBackend β) (d : Declaration) (h : Host) :
    (start r d h).host = h := by
  unfold start
  dsimp only
  split <;> rfl

theorem create_account (hβ : Backend.DeclaresAlone β) (resolver : Resolver β) (d : Declaration)
    (choice : EngineChoice) (h : Host) :
    let run := create resolver d choice h
    Account h.modulesOpened run.host.modulesOpened (Resolver.kept origin run.result) run.trace := by
  have hresolved := resolver.resolve_account choice h
  unfold create
  dsimp only at hresolved ⊢
  cases hresult : (resolver.resolve choice h).result with
  | error e =>
    rw [hresult] at hresolved
    exact hresolved
  | ok r =>
    rw [hresult] at hresolved
    have halone : Account h.modulesOpened _ ([] ++ r.origin :: []) _ := hresolved
    have hstarted := start_account hβ halone d (resolver.resolve choice h).host
    dsimp only
    rw [start_host]
    rwa [List.nil_append, List.append_nil] at hstarted

theorem ofConfig_account (hβ : Backend.DeclaresAlone β) (resolver : Path → Resolver β)
    (e : Environment) (d : Declaration) (c : Config) (h : Host) :
    let run := ofConfig resolver e d c h
    Account h.modulesOpened run.host.modulesOpened (Resolver.kept origin run.result) run.trace := by
  unfold ofConfig
  cases c.validate with
  | error fault => exact .silent rfl rfl _
  | ok u =>
    have hcreated := create_account hβ (resolver (c.resolvedSearchDir e)) d c.engine h
    dsimp only at hcreated ⊢
    cases hresult : (create (resolver (c.resolvedSearchDir e)) d c.engine h).result <;>
      rwa [hresult] at hcreated

end Session

inductive Holding (β : Type) where
  | alone (r : ResolvedBackend β)
  | inSession (s : Session β)

namespace Holding

variable {β : Type}

def resolved : Holding β → ResolvedBackend β
  | alone r => r
  | inSession s => s.resolved

def withBackend (backend : β) : Holding β → Holding β
  | alone r => alone { r with backend }
  | inSession s => inSession { s with resolved := { s.resolved with backend } }

def release [Backend β] : Holding β → Trace
  | alone r => r.release
  | inSession s => s.release

def origin (x : Holding β) : Nat × String := x.resolved.origin

@[simp] theorem origin_withBackend (b : β) (x : Holding β) :
    (x.withBackend b).origin = x.origin := by
  cases x <;> rfl

theorem release_eq [Backend β] (x : Holding β) : x.release =
    [.lived (.backendReleased x.origin.1 (Backend.name x.resolved.backend)),
      .lived (.moduleReleased x.origin.1 x.origin.2)] := by
  cases x <;> rfl

end Holding

structure Custody (β : Type) where
  host : Host
  held : List (Holding β)
  trace : Trace

namespace Custody

variable {β : Type}

/-- What can be done with backends. Whatever one is used for, it stays where it is and no module is
opened, but the backend and the process may be in any other state afterwards. -/
inductive Deed (β : Type) where
  | resolve (resolver : Resolver β) (choice : EngineChoice)
  | create (resolver : Resolver β) (d : Declaration) (choice : EngineChoice)
  | ofConfig (resolver : Path → Resolver β) (e : Environment) (d : Declaration) (c : Config)
  | start (i : Nat) (d : Declaration)
  | use (i : Nat) (backend : β) (host : Host)
  | drop (i : Nat)

def take {ε α : Type} (p : Custody β) (run : Hosted ε α) (hold : α → Holding β) : Custody β :=
  ⟨run.host, p.held ++ (run.result.toOption.map hold).toList, p.trace ++ run.trace⟩

def replace (p : Custody β) (i : Nat) (others : List (Holding β)) : Custody β :=
  { p with held := p.held.take i ++ (others ++ p.held.drop (i + 1)) }

def origins (held : List (Holding β)) : List (Nat × String) := held.map Holding.origin

theorem origins_split {p : Custody β} {i : Nat} {x : Holding β} (hx : p.held[i]? = some x) :
    origins p.held = origins (p.held.take i) ++ x.origin :: origins (p.held.drop (i + 1)) := by
  obtain ⟨hi, rfl⟩ := List.getElem?_eq_some_iff.1 hx
  conv => lhs; rw [← List.take_append_drop i p.held, List.drop_eq_getElem_cons hi]
  exact List.map_append

theorem origins_replace (p : Custody β) (i : Nat) (others : List (Holding β)) :
    origins (p.replace i others).held =
      origins (p.held.take i) ++ (origins others ++ origins (p.held.drop (i + 1))) := by
  simp only [origins, replace, List.map_append]

theorem origins_taken {ε α : Type} (result : Except ε α) (hold : α → Holding β) :
    origins (result.toOption.map hold).toList =
      Resolver.kept (fun a => (hold a).origin) result := by
  cases result <;> rfl

/-- Of the modules from the `n`-th on, those of the backends held are in use, and all others that
were opened have ended. -/
def Sound (n : Nat) (p : Custody β) : Prop :=
  Account n p.host.modulesOpened (origins p.held) p.trace

variable {n : Nat} {p : Custody β}

theorem Sound.take {ε α : Type} (hp : p.Sound n) {run : Hosted ε α} {hold : α → Holding β}
    (h : Account p.host.modulesOpened run.host.modulesOpened
      (Resolver.kept (fun a => (hold a).origin) run.result) run.trace) :
    (p.take run hold).Sound n := by
  have hboth := Account.append hp h
  rw [← origins_taken] at hboth
  unfold Sound Custody.take origins
  rw [List.map_append]
  exact hboth

theorem Sound.split (hp : p.Sound n) {i : Nat} {x : Holding β} (hx : p.held[i]? = some x) :
    Account n p.host.modulesOpened
      (origins (p.held.take i) ++ x.origin :: origins (p.held.drop (i + 1))) p.trace := by
  rw [← origins_split hx]
  exact hp

theorem sound_start (h : Host) : (⟨h, [], []⟩ : Custody β).Sound h.modulesOpened :=
  .silent rfl rfl _

variable [Backend β]

def step (p : Custody β) : Deed β → Custody β
  | .resolve resolver choice => p.take (resolver.resolve choice p.host) .alone
  | .create resolver d choice => p.take (Session.create resolver d choice p.host) .inSession
  | .ofConfig resolver e d c => p.take (Session.ofConfig resolver e d c p.host) .inSession
  | .start i d =>
    match p.held[i]? with
    | some (.alone r) =>
      let started := Session.start r d p.host
      { p.replace i (started.result.toOption.map .inSession).toList with
        host := started.host, trace := p.trace ++ started.trace }
    | some (.inSession _) | none => p
  | .use i backend host =>
    match p.held[i]? with
    | some x => { p.replace i [x.withBackend backend] with
      host := { host with modulesOpened := p.host.modulesOpened } }
    | none => p
  | .drop i =>
    match p.held[i]? with
    | some x => { p.replace i [] with trace := p.trace ++ x.release }
    | none => p

def run (p : Custody β) (deeds : List (Deed β)) : Custody β := deeds.foldl step p

theorem Sound.start (hβ : Backend.DeclaresAlone β) (hp : p.Sound n) (i : Nat) (d : Declaration) :
    (p.step (.start i d)).Sound n := by
  unfold Custody.step
  dsimp only
  split
  next r hx =>
    have hstarted := Session.start_account hβ (hp.split hx) d p.host
    unfold Sound
    dsimp only
    rw [Session.start_host, origins_replace, origins_taken]
    exact hstarted
  all_goals exact hp

theorem Sound.use (hp : p.Sound n) (i : Nat) (backend : β) (host : Host) :
    (p.step (.use i backend host)).Sound n := by
  unfold Custody.step
  dsimp only
  split
  next x hx =>
    unfold Sound
    dsimp only
    rw [origins_replace, origins, origins, origins, List.map_singleton, x.origin_withBackend]
    exact hp.split hx
  · exact hp

theorem Sound.drop (hp : p.Sound n) (i : Nat) : (p.step (.drop i)).Sound n := by
  unfold Custody.step
  dsimp only
  split
  next x hx =>
    unfold Sound
    dsimp only
    rw [origins_replace, x.release_eq]
    exact (hp.split hx).release _
  · exact hp

theorem Sound.step (hβ : Backend.DeclaresAlone β) (hp : p.Sound n) (deed : Deed β) :
    (p.step deed).Sound n := by
  cases deed with
  | resolve resolver choice => exact hp.take (resolver.resolve_account choice p.host)
  | create resolver d choice => exact hp.take (Session.create_account hβ resolver d choice p.host)
  | ofConfig resolver e d c => exact hp.take (Session.ofConfig_account hβ resolver e d c p.host)
  | start i d => exact hp.start hβ i d
  | use i backend host => exact hp.use i backend host
  | drop i => exact hp.drop i

theorem Sound.run (hβ : Backend.DeclaresAlone β) (hp : p.Sound n) (deeds : List (Deed β)) :
    (p.run deeds).Sound n := by
  induction deeds generalizing p with
  | nil => exact hp
  | cons deed deeds ih => exact ih (hp.step hβ deed)

/-- Any number of backends, resolved in any way and put to any use, some of them in sessions, others
lost to sessions that could not be started, and let go of in any order. The module of a backend that
is held is open, and has made that backend. All other modules that were opened have ended: without a
backend, or once their backend was let go of. Whenever another module is asked for, none of those
before it is left open without a backend. To drop a backend is to let go of it and then of its
module, and of nothing else. -/
theorem modules_outlive_backends (hβ : Backend.DeclaresAlone β) (h : Host)
    (deeds : List (Deed β)) :
    let p := (⟨h, [], []⟩ : Custody β).run deeds
    let opened (id : Nat) := h.modulesOpened ≤ id ∧ id < p.host.modulesOpened
    (p.held.map (·.resolved.moduleId)).Nodup ∧
    (∀ x ∈ p.held, opened x.resolved.moduleId ∧
      Alive x.resolved.moduleId x.resolved.moduleName (p.trace.about x.resolved.moduleId)) ∧
    (∀ id, opened id → (∀ x ∈ p.held, x.resolved.moduleId ≠ id) → Ended id (p.trace.about id)) ∧
    (∀ id, ¬ opened id → p.trace.about id = []) ∧
    (∀ (before : Trace) path after, p.trace = before ++ .asked path :: after →
      ∀ id, Settled id (before.about id)) ∧
    ∀ i x, p.held[i]? = some x →
      let q := p.step (.drop i)
      q.held = p.held.eraseIdx i ∧ q.trace = p.trace ++ x.release ∧
        x.release.lifetimes =
          [.backendReleased x.resolved.moduleId (Backend.name x.resolved.backend),
            .moduleReleased x.resolved.moduleId x.resolved.moduleName] := by
  intro p opened
  have hp : p.Sound h.modulesOpened := (sound_start h).run hβ deeds
  have hids : (origins p.held).map (·.1) = p.held.map (·.resolved.moduleId) := List.map_map ..
  refine ⟨hids ▸ hp.nodup, ?_, ?_, hp.others, hp.settled, ?_⟩
  · intro x hx
    have horigin : x.origin ∈ origins p.held := List.mem_map_of_mem hx
    exact ⟨hp.numbered _ horigin, hp.alive _ horigin⟩
  · intro id hid hnone
    refine hp.ended id hid.1 hid.2 fun hmem => ?_
    rw [hids] at hmem
    obtain ⟨x, hx, hxid⟩ := List.mem_map.1 hmem
    exact hnone x hx hxid
  · intro i x hx
    dsimp only [Custody.step]
    rw [hx]
    refine ⟨?_, rfl, ?_⟩
    · exact (List.eraseIdx_eq_take_drop_succ p.held i).symm
    · rw [x.release_eq]
      rfl

/-- The first candidate of one backend has no entry point, the first session is refused an override,
and the backends are let go of in the reverse order. -/
theorem modules_outlive_backends_reversed :
    let dir : Path := .ofString "/m"
    let first := dir.join EngineChoice.highs.moduleFile
    let r : Resolver Engine.Adapter :=
      ⟨⟨fun p => .ok (.offering "m" (if p = first then none else some (.made .fresh)))⟩, dir⟩
    let deeds : List (Deed Engine.Adapter) := [.resolve r .any,
      .create r ⟨1, .binary, .ofList [(1, .integer)]⟩ .coinCbc, .create r ⟨1, .binary, ∅⟩ .coinCbc,
      .drop 1, .drop 0]
    let p := (⟨⟨none, [], 0⟩, [], []⟩ : Custody Engine.Adapter).run deeds
    p.host.modulesOpened = 4 ∧ (∀ id < 4, Ended id (p.trace.about id)) ∧
      p.trace.lifetimes = [.moduleOpened 0 "m", .moduleReleased 0 "m",
        .moduleOpened 1 "m", .backendMade 1 "HiGHS",
        .moduleOpened 2 "m", .backendMade 2 "HiGHS",
        .backendReleased 2 "HiGHS", .moduleReleased 2 "m",
        .moduleOpened 3 "m", .backendMade 3 "HiGHS",
        .backendReleased 3 "HiGHS", .moduleReleased 3 "m",
        .backendReleased 1 "HiGHS", .moduleReleased 1 "m"] := by
  intro dir first r deeds p
  have hopened : p.host.modulesOpened = 4 := by decide +kernel
  have hnone : p.held = [] := List.eq_nil_of_length_eq_zero (by decide +kernel)
  obtain ⟨-, -, hended, -⟩ :=
    modules_outlive_backends Engine.Adapter.declaresAlone ⟨none, [], 0⟩ deeds
  refine ⟨hopened, fun id hid => ?_, by decide +kernel⟩
  refine hended id ⟨Nat.zero_le id, hopened ▸ hid⟩ fun x hx => ?_
  rw [show p.held = [] from hnone] at hx
  cases hx

end Custody

end MipDispatch
