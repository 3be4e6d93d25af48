import MipDispatch.Engine.SharedScheduler
import Mathlib.Data.List.Basic

namespace MipDispatch.Engine

namespace Progress

def reads : Progress → Bool
  | comparing _ | releasing _ | ready _ | running _ | unlocking _ => true
  | idle | lockingToRead _ | lockingToWrite _ | rechecking _ | restarting _ | storing _
  | downgrading _ => false

def writes : Progress → Bool
  | rechecking _ | restarting _ | storing _ | downgrading _ => true
  | idle | lockingToRead _ | comparing _ | releasing _ | lockingToWrite _ | ready _ | running _
  | unlocking _ => false

def Trusts (setting : Option (Option Nat)) : Progress → Prop
  | downgrading job | ready job | running job | unlocking job => setting = some job.threads
  | restarting job => ∃ previous, setting = some previous ∧ previous ≠ job.threads
  | idle | lockingToRead _ | comparing _ | releasing _ | lockingToWrite _ | rechecking _
  | storing _ => True

theorem trusts_of_holds_nothing {p : Progress} (hread : ¬ p.reads = true)
    (hwrite : ¬ p.writes = true) (setting : Option (Option Nat)) : p.Trusts setting := by
  cases p <;> trivial

end Progress

namespace SharedScheduler

def put (m : SharedScheduler) (t : Nat) (s : Solver) : SharedScheduler :=
  { m with solvers := m.solvers.set t s }

inductive Turn (m : SharedScheduler) (t : Nat) : Solver → SharedScheduler → Prop where
  | begin (job : Job) (todo : List Job) :
    Turn m t ⟨.idle, job :: todo⟩ (m.put t ⟨.lockingToRead job, todo⟩)
  | lockToRead (job : Job) (todo : List Job) (free : m.writer = none) :
    Turn m t ⟨.lockingToRead job, todo⟩
      ({ m with readers := t :: m.readers }.put t ⟨.comparing job, todo⟩)
  | agree (job : Job) (todo : List Job) (same : m.setting = some job.threads) :
    Turn m t ⟨.comparing job, todo⟩ (m.put t ⟨.ready job, todo⟩)
  | differ (job : Job) (todo : List Job) (other : m.setting ≠ some job.threads) :
    Turn m t ⟨.comparing job, todo⟩ (m.put t ⟨.releasing job, todo⟩)
  | release (job : Job) (todo : List Job) :
    Turn m t ⟨.releasing job, todo⟩ ((m.unlockRead t).put t ⟨.lockingToWrite job, todo⟩)
  | lockToWrite (job : Job) (todo : List Job) (free : m.writer = none) (unread : m.readers = []) :
    Turn m t ⟨.lockingToWrite job, todo⟩
      ({ m with writer := some t }.put t ⟨.rechecking job, todo⟩)
  | mustRestart (job : Job) (todo : List Job) (previous : Option Nat)
      (stored : m.setting = some previous) (other : previous ≠ job.threads) :
    Turn m t ⟨.rechecking job, todo⟩ (m.put t ⟨.restarting job, todo⟩)
  | mayStore (job : Job) (todo : List Job)
      (fits : m.setting = none ∨ m.setting = some job.threads) :
    Turn m t ⟨.rechecking job, todo⟩ (m.put t ⟨.storing job, todo⟩)
  | restart (job : Job) (todo : List Job) :
    Turn m t ⟨.restarting job, todo⟩ ((m.put t ⟨.storing job, todo⟩).note (.restarted t))
  | store (job : Job) (todo : List Job) :
    Turn m t ⟨.storing job, todo⟩
      ({ m with setting := some job.threads }.put t ⟨.downgrading job, todo⟩)
  | downgrade (job : Job) (todo : List Job) :
    Turn m t ⟨.downgrading job, todo⟩ ((m.downgrade t).put t ⟨.ready job, todo⟩)
  | run (job : Job) (todo : List Job) :
    Turn m t ⟨.ready job, todo⟩
      ((m.put t ⟨.running job, todo⟩).note (.runBegan t job.threads))
  | finish (job : Job) (todo : List Job) :
    Turn m t ⟨.running job, todo⟩
      ((m.put t ⟨.unlocking job, todo⟩).note (.runEnded t job.succeeds))
  | unlock (job : Job) (todo : List Job) :
    Turn m t ⟨.unlocking job, todo⟩
      (((m.unlockRead t).put t ⟨.idle, todo⟩).note (.returned t job.succeeds))

variable {m m' : SharedScheduler} {t : Nat}

theorem advance_eq_put {s : Solver} (hs : m.solvers[t]? = some s) (p : Progress) :
    m.advance t p = m.put t ⟨p, s.todo⟩ := by
  have hset : m.solvers.modify t (fun s => { s with progress := p }) =
      m.solvers.set t ⟨p, s.todo⟩ := by
    rw [List.modify_eq_set_getElem?, hs]
    rfl
  rw [advance, hset]
  rfl

theorem needsRestart_iff {job : Job} : m.needsRestart job = true ↔
    ∃ previous, m.setting = some previous ∧ previous ≠ job.threads := by
  unfold needsRestart
  cases m.setting <;> simp

theorem fits_of_not_needsRestart {job : Job} (h : ¬ m.needsRestart job = true) :
    m.setting = none ∨ m.setting = some job.threads := by
  rw [needsRestart_iff] at h
  cases hset : m.setting with
  | none => exact .inl rfl
  | some previous =>
    by_cases same : previous = job.threads
    · exact .inr (same ▸ rfl)
    · exact absurd ⟨previous, hset, same⟩ h

theorem turn_of_step? (h : m.step? t = some m') : ∃ s, m.solvers[t]? = some s ∧ Turn m t s m' := by
  unfold step? at h
  cases hs : m.solvers[t]? with
  | none => simp [hs] at h
  | some s =>
    refine ⟨s, rfl, ?_⟩
    rw [hs] at h
    obtain ⟨p, todo⟩ := s
    -- a change of the setting or of who holds it leaves the solvers, so `hs` serves there too
    cases p with
    | idle =>
      cases todo with
      | nil => cases h
      | cons job todo =>
        cases h
        exact .begin job todo
    | lockingToRead job =>
      by_cases free : m.writer = none
      · simp only [lockToRead?, free, Option.isNone_none, if_true, Option.map_some,
          Option.some_inj] at h
        rw [← h, ← free, advance_eq_put (m := { m with readers := t :: m.readers }) hs]
        exact .lockToRead job todo free
      · simp [lockToRead?, free] at h
    | comparing job =>
      cases h
      rw [advance_eq_put hs]
      split
      · exact .agree job todo ‹_›
      · exact .differ job todo ‹_›
    | releasing job =>
      cases h
      rw [advance_eq_put (m := m.unlockRead t) hs]
      exact .release job todo
    | lockingToWrite job =>
      by_cases free : m.writer = none ∧ m.readers = []
      · have hlock : m.lockToWrite? t = some { m with writer := some t } := by
          simp [lockToWrite?, free]
        simp only [hlock, Option.map_some, Option.some_inj] at h
        rw [← h, advance_eq_put (m := { m with writer := some t }) hs]
        exact .lockToWrite job todo free.1 free.2
      · have hlock : m.lockToWrite? t = none := by
          simpa [lockToWrite?] using free
        simp [hlock] at h
    | rechecking job =>
      cases h
      rw [advance_eq_put hs]
      split
      · obtain ⟨previous, stored, other⟩ := needsRestart_iff.1 ‹_›
        exact .mustRestart job todo previous stored other
      · exact .mayStore job todo (fits_of_not_needsRestart ‹_›)
    | restarting job =>
      cases h
      rw [advance_eq_put hs]
      exact .restart job todo
    | storing job =>
      cases h
      rw [advance_eq_put (m := { m with setting := some job.threads }) hs]
      exact .store job todo
    | downgrading job =>
      cases h
      rw [advance_eq_put (m := m.downgrade t) hs]
      exact .downgrade job todo
    | ready job =>
      cases h
      rw [advance_eq_put hs]
      exact .run job todo
    | running job =>
      cases h
      rw [advance_eq_put hs]
      exact .finish job todo
    | unlocking job =>
      cases h
      rw [advance_eq_put (m := m.unlockRead t) hs]
      exact .unlock job todo

/-- Who holds the setting, and that what its holders rely on is so. -/
structure Held (m : SharedScheduler) : Prop where
  nodup : m.readers.Nodup
  reads : ∀ u : Nat, u ∈ m.readers ↔ ∃ s, m.solvers[u]? = some s ∧ s.progress.reads = true
  writes : ∀ u : Nat, m.writer = some u ↔ ∃ s, m.solvers[u]? = some s ∧ s.progress.writes = true
  exclusive : m.writer = none ∨ m.readers = []
  trusts : ∀ (u : Nat) (s : Solver), m.solvers[u]? = some s → s.progress.Trusts m.setting

variable {s s' : Solver}

theorem solvers_set (hs : m.solvers[t]? = some s) (hsolvers : m'.solvers = m.solvers.set t s')
    (u : Nat) : m'.solvers[u]? = if t = u then some s' else m.solvers[u]? := by
  have hlt : t < m.solvers.length := (List.getElem?_eq_some_iff.1 hs).1
  rw [hsolvers, List.getElem?_set]
  simp [hlt]

namespace Held

theorem readers_eq_nil (h : Held m) (hw : m.writer = some t) : m.readers = [] := by
  rcases h.exclusive with hn | hn
  · rw [hn] at hw
    cases hw
  · exact hn

/-- While one solver writes, the others have nothing. -/
theorem others_hold_nothing (h : Held m) (hw : m.writer = some t) {u : Nat} {v : Solver}
    (hv : m.solvers[u]? = some v) (hu : t ≠ u) :
    ¬ v.progress.reads = true ∧ ¬ v.progress.writes = true := by
  constructor
  · intro hr
    have hmem : u ∈ m.readers := (h.reads u).2 ⟨v, hv, hr⟩
    rw [h.readers_eq_nil hw] at hmem
    cases hmem
  · intro hr
    have hwu : m.writer = some u := (h.writes u).2 ⟨v, hv, hr⟩
    rw [hw, Option.some_inj] at hwu
    exact hu hwu

/-- One solver moves on, and takes or gives up its share of the lock accordingly. The setting
changes at most while it writes. -/
theorem set (h : Held m) (hs : m.solvers[t]? = some s) (hsolvers : m'.solvers = m.solvers.set t s')
    (nodup : m'.readers.Nodup)
    (reads : ∀ u, u ∈ m'.readers ↔ if t = u then s'.progress.reads = true else u ∈ m.readers)
    (writes : ∀ u, m'.writer = some u ↔
      if t = u then s'.progress.writes = true else m.writer = some u)
    (exclusive : m'.writer = none ∨ m'.readers = [])
    (trusts : s'.progress.Trusts m'.setting)
    (setting : m'.setting = m.setting ∨ m.writer = some t) : Held m' := by
  have hat := solvers_set hs hsolvers
  refine ⟨nodup, fun u => ?_, fun u => ?_, exclusive, fun u v hv => ?_⟩
  · rw [reads, hat]
    by_cases hu : t = u
    · simp [hu]
    · simpa [hu] using h.reads u
  · rw [writes, hat]
    by_cases hu : t = u
    · simp [hu]
    · simpa [hu] using h.writes u
  · rw [hat] at hv
    by_cases hu : t = u
    · rw [if_pos hu, Option.some_inj] at hv
      exact hv ▸ trusts
    rw [if_neg hu] at hv
    rcases setting with heq | hw
    · exact heq ▸ h.trusts u v hv
    -- the setting is new, but then `t` writes it, and nobody else relies on what it was
    obtain ⟨hread, hwrite⟩ := h.others_hold_nothing hw hv hu
    exact Progress.trusts_of_holds_nothing hread hwrite _

/-- One solver moves on without taking or giving up anything. -/
theorem move (h : Held m) (hs : m.solvers[t]? = some s) (hsolvers : m'.solvers = m.solvers.set t s')
    (hreaders : m'.readers = m.readers) (hwriter : m'.writer = m.writer)
    (hreads : s'.progress.reads = s.progress.reads)
    (hwrites : s'.progress.writes = s.progress.writes)
    (trusts : s'.progress.Trusts m'.setting)
    (setting : m'.setting = m.setting ∨ m.writer = some t) : Held m' := by
  refine h.set hs hsolvers (hreaders ▸ h.nodup) (fun u => ?_) (fun u => ?_) ?_ trusts setting
  · rw [hreaders]
    by_cases hu : t = u
    · subst hu
      rw [if_pos rfl, hreads, h.reads, hs]
      simp
    · rw [if_neg hu]
  · rw [hwriter]
    by_cases hu : t = u
    · subst hu
      rw [if_pos rfl, hwrites, h.writes, hs]
      simp
    · rw [if_neg hu]
  · rw [hreaders, hwriter]
    exact h.exclusive

theorem mem_readers (h : Held m) (hs : m.solvers[t]? = some s) :
    t ∈ m.readers ↔ s.progress.reads = true := by
  rw [h.reads, hs]
  simp

theorem writer_eq (h : Held m) (hs : m.solvers[t]? = some s) :
    m.writer = some t ↔ s.progress.writes = true := by
  rw [h.writes, hs]
  simp

theorem unlock (h : Held m) (hs : m.solvers[t]? = some s)
    (hsolvers : m'.solvers = m.solvers.set t s') (hreaders : m'.readers = m.readers.erase t)
    (hwriter : m'.writer = m.writer) (hsetting : m'.setting = m.setting)
    (hreads : s'.progress.reads = false) (hwrites : s.progress.writes = false)
    (hwrites' : s'.progress.writes = false) : Held m' := by
  have trusts : s'.progress.Trusts m'.setting :=
    Progress.trusts_of_holds_nothing (by simp [hreads]) (by simp [hwrites']) _
  have hmem (u : Nat) : u ∈ m'.readers ↔ t ≠ u ∧ u ∈ m.readers := by
    rw [hreaders, h.nodup.mem_erase_iff, ne_comm]
  refine h.set hs hsolvers ?_ (fun u => ?_) (fun u => ?_) ?_ trusts (.inl hsetting)
  · rw [hreaders]
    exact h.nodup.erase t
  · by_cases hu : t = u <;> simp [hmem, hu, hreads]
  · rw [hwriter]
    by_cases hu : t = u
    · subst hu
      rw [if_pos rfl, h.writer_eq hs, hwrites, hwrites']
    · rw [if_neg hu]
  · rw [hwriter, hreaders]
    rcases h.exclusive with hn | hn
    · exact .inl hn
    · exact .inr (by rw [hn, List.erase_nil])

theorem step (h : Held m) (hs : m.solvers[t]? = some s) (hturn : Turn m t s m') : Held m' := by
  have htrusts : s.progress.Trusts m.setting := h.trusts t s hs
  cases hturn with
  | begin job todo => exact h.move hs rfl rfl rfl rfl rfl trivial (.inl rfl)
  | lockToRead job todo free =>
    -- A solver that waits to read does not read already, so no reader is listed twice.
    have hnot : t ∉ m.readers := fun hmem => nomatch (h.mem_readers hs).1 hmem
    refine h.set hs rfl (List.nodup_cons.2 ⟨hnot, h.nodup⟩) (fun u => ?_) (fun u => ?_)
      (.inl free) trivial (.inl rfl)
    · by_cases hu : t = u
      · simp [put, hu, Progress.reads]
      · simp [put, hu, Ne.symm hu]
    · simp [put, free, Progress.writes]
  | agree job todo same => exact h.move hs rfl rfl rfl rfl rfl same (.inl rfl)
  | differ job todo other => exact h.move hs rfl rfl rfl rfl rfl trivial (.inl rfl)
  | release job todo => exact h.unlock hs rfl rfl rfl rfl rfl rfl rfl
  | lockToWrite job todo free unread =>
    refine h.set hs rfl h.nodup (fun u => ?_) (fun u => ?_) (.inr unread) trivial (.inl rfl)
    · simp [put, unread, Progress.reads]
    · by_cases hu : t = u <;> simp [put, hu, free, Progress.writes]
  | mustRestart job todo previous stored other =>
    exact h.move hs rfl rfl rfl rfl rfl ⟨previous, stored, other⟩ (.inl rfl)
  | mayStore job todo fits => exact h.move hs rfl rfl rfl rfl rfl trivial (.inl rfl)
  | restart job todo => exact h.move hs rfl rfl rfl rfl rfl trivial (.inl rfl)
  | store job todo =>
    have hw : m.writer = some t := (h.writer_eq hs).2 rfl
    exact h.move hs rfl rfl rfl rfl rfl rfl (.inr hw)
  | downgrade job todo =>
    have hw : m.writer = some t := (h.writer_eq hs).2 rfl
    -- Nobody reads while it writes, so from now on it is the only reader.
    have hreaders : m.readers = [] := h.readers_eq_nil hw
    refine h.set hs rfl ?_ (fun u => ?_) (fun u => ?_) (.inl rfl) htrusts (.inl rfl)
    · simp [put, SharedScheduler.downgrade, hreaders]
    · by_cases hu : t = u
      · simp [put, SharedScheduler.downgrade, hu, Progress.reads]
      · simp [put, SharedScheduler.downgrade, hu, hreaders, Ne.symm hu]
    · by_cases hu : t = u <;> simp [put, SharedScheduler.downgrade, hu, hw, Progress.writes]
  | run job todo => exact h.move hs rfl rfl rfl rfl rfl htrusts (.inl rfl)
  | finish job todo => exact h.move hs rfl rfl rfl rfl rfl htrusts (.inl rfl)
  | unlock job todo => exact h.unlock hs rfl rfl rfl rfl rfl rfl rfl

theorem start (setting : Option (Option Nat)) (programs : List (List Job)) :
    Held (SharedScheduler.start setting programs) := by
  have hidle (u : Nat) (s : Solver)
      (hs : (SharedScheduler.start setting programs).solvers[u]? = some s) :
      s.progress = .idle := by
    simp only [SharedScheduler.start, List.getElem?_map, Option.map_eq_some_iff] at hs
    obtain ⟨todo, _, rfl⟩ := hs
    rfl
  refine ⟨List.nodup_nil, fun u => iff_of_false List.not_mem_nil ?_,
    fun u => iff_of_false (Option.some_ne_none u).symm ?_, .inl rfl, fun u s hs => ?_⟩
  · rintro ⟨s, hs, hreads⟩
    rw [hidle u s hs] at hreads
    cases hreads
  · rintro ⟨s, hs, hwrites⟩
    rw [hidle u s hs] at hwrites
    cases hwrites
  · rw [hidle u s hs]
    trivial

end Held

theorem run_keeps {P : SharedScheduler → Prop}
    (hturn : ∀ (m m' : SharedScheduler) (t : Nat) (s : Solver),
      P m → m.solvers[t]? = some s → Turn m t s m' → P m') (h : P m) (turns : List Nat) :
    P (m.run turns) := by
  induction turns generalizing m with
  | nil => exact h
  | cons t turns ih =>
    have hone : P ((m.step? t).getD m) := by
      cases hstep : m.step? t with
      | none => exact h
      | some m' =>
        obtain ⟨s, hs, hm'⟩ := turn_of_step? hstep
        exact hturn m m' t s h hs hm'
    exact ih hone

theorem held_run (setting : Option (Option Nat)) (programs : List (List Job)) (turns : List Nat) :
    Held ((start setting programs).run turns) :=
  run_keeps (fun _ _ _ _ h hs hturn => h.step hs hturn) (.start setting programs) turns

def Holds (m : SharedScheduler) (t : Nat) : Prop := t ∈ m.readers ∨ m.writer = some t

theorem mem_runningJobs {job : Job} : job ∈ m.runningJobs ↔
    ∃ (t : Nat) (todo : List Job), m.solvers[t]? = some ⟨.running job, todo⟩ := by
  unfold runningJobs
  rw [List.mem_filterMap]
  constructor
  · rintro ⟨⟨p, todo⟩, hs, hp⟩
    obtain ⟨t, hlt, heq⟩ := List.mem_iff_getElem.1 hs
    refine ⟨t, todo, ?_⟩
    cases p with
    | running job' =>
      rw [← Option.some_inj.1 hp, ← heq]
      exact List.getElem?_eq_getElem hlt
    | _ => cases hp
  · rintro ⟨t, todo, hs⟩
    exact ⟨_, List.mem_of_getElem? hs, rfl⟩

namespace Held

theorem holds_iff (h : Held m) (hs : m.solvers[t]? = some s) :
    m.Holds t ↔ s.progress.reads = true ∨ s.progress.writes = true := by
  rw [Holds, h.mem_readers hs, h.writer_eq hs]

theorem solver_of_holds (h : Held m) (ht : m.Holds t) : ∃ s, m.solvers[t]? = some s := by
  rcases ht with ht | ht
  · obtain ⟨s, hs, _⟩ := (h.reads t).1 ht
    exact ⟨s, hs⟩
  · obtain ⟨s, hs, _⟩ := (h.writes t).1 ht
    exact ⟨s, hs⟩

theorem setting_of_running (h : Held m) {job : Job} (hj : job ∈ m.runningJobs) :
    m.setting = some job.threads := by
  obtain ⟨t, todo, hs⟩ := mem_runningJobs.1 hj
  exact h.trusts t _ hs

theorem runningJobs_eq_nil (h : Held m) (hw : m.writer = some t) : m.runningJobs = [] := by
  rw [List.eq_nil_iff_forall_not_mem]
  intro job hj
  obtain ⟨u, todo, hs⟩ := mem_runningJobs.1 hj
  have hu : u ∈ m.readers := (h.mem_readers hs).2 rfl
  rw [h.readers_eq_nil hw] at hu
  cases hu

/-- Only a solver that was about to restart the threads does so. -/
theorem of_restarted (h : Held m) (hs : m.solvers[t]? = some s) (hturn : Turn m t s m')
    (hcount : m'.restartCount ≠ m.restartCount) :
    m.runningJobs = [] ∧ ∃ job todo previous, s = ⟨.restarting job, todo⟩ ∧
      m.setting = some previous ∧ previous ≠ job.threads := by
  cases hturn with
  | restart job todo =>
    obtain ⟨previous, stored, other⟩ := h.trusts t _ hs
    exact ⟨h.runningJobs_eq_nil ((h.writer_eq hs).2 rfl), job, todo, previous, rfl, stored, other⟩
  | _ => exact absurd rfl hcount

theorem of_returned (h : Held m) (hs : m.solvers[t]? = some s) (hturn : Turn m t s m') {u : Nat}
    {succeeded : Bool} (hhistory : m'.history = .returned u succeeded :: m.history) :
    ¬ m'.Holds u := by
  have hheld : Held m' := h.step hs hturn
  cases hturn with
  | unlock job todo =>
    obtain ⟨rfl, rfl⟩ := SolveMoment.returned.inj (List.cons.inj hhistory).1
    have hlt : t < m.solvers.length := (List.getElem?_eq_some_iff.1 hs).1
    rw [hheld.holds_iff (s := ⟨.idle, todo⟩) (List.getElem?_set_self hlt)]
    simp [Progress.reads, Progress.writes]
  | _ => simp [put, note, unlockRead, SharedScheduler.downgrade] at hhistory

/-- A solver that has the setting need not wait for another one. -/
theorem step?_isSome (h : Held m) (ht : m.Holds t) : (m.step? t).isSome = true := by
  obtain ⟨s, hs⟩ := h.solver_of_holds ht
  have hholds := (h.holds_iff hs).1 ht
  obtain ⟨p, todo⟩ := s
  unfold step?
  rw [hs]
  cases p with
  | idle | lockingToRead job | lockingToWrite job =>
    simp [Progress.reads, Progress.writes] at hholds
  | _ => rfl

end Held

end SharedScheduler

end MipDispatch.Engine
