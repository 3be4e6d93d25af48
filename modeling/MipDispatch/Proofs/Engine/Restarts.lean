import MipDispatch.Proofs.Engine.Scheduling

namespace MipDispatch.Engine

/-- How many settings in a list differ from the next one. -/
def changes : List (Option Nat) → Nat
  | x :: y :: l => (if x = y then 0 else 1) + changes (y :: l)
  | _ => 0

@[simp] theorem changes_self (x : Option Nat) (l : List (Option Nat)) :
    changes (x :: x :: l) = changes (x :: l) := by
  simp [changes]

theorem changes_of_ne {x y : Option Nat} (h : x ≠ y) (l : List (Option Nat)) :
    changes (x :: y :: l) = changes (y :: l) + 1 := by
  rw [changes, if_neg h, Nat.add_comm]

namespace Progress

def stores : Progress → Option (Option Nat)
  | storing job => some job.threads
  | _ => none

/-- Whether the solver stored a setting for which no run may have begun yet. -/
def begins : Progress → Bool
  | downgrading _ | ready _ => true
  | _ => false

theorem writes_of_stores {p : Progress} {threads : Option Nat} (h : p.stores = some threads) :
    p.writes = true := by
  cases p <;> first | rfl | cases h

theorem holds_of_begins {p : Progress} (h : p.begins = true) :
    p.reads = true ∨ p.writes = true := by
  cases p <;> simp_all [begins, reads, writes]

end Progress

namespace SharedScheduler

def begun (m : SharedScheduler) : List (Option Nat) :=
  m.history.filterMap fun | .runBegan _ threads => some threads | _ => none

/-- The restarts are counted by the runs that began, and the one for which the threads were
restarted last may be still to come. -/
structure Counted (m : SharedScheduler) : Prop where
  unset : m.setting = none → m.begun = []
  settled : ∀ threads : Option Nat, m.setting = some threads → m.begun.head? = some threads ∨
    ∃ (u : Nat) (s : Solver), m.solvers[u]? = some s ∧ s.progress.begins = true
  storing : ∀ (u : Nat) (s : Solver) (threads : Option Nat), m.solvers[u]? = some s →
    s.progress.stores = some threads → m.restartCount = changes (threads :: m.begun)
  stored : (∀ (u : Nat) (s : Solver), m.solvers[u]? = some s → s.progress.stores = none) →
    m.restartCount = changes (m.setting.toList ++ m.begun)

variable {m m' : SharedScheduler} {t : Nat} {s s' : Solver}

/-- While a solver has the setting and does not store, nobody does. -/
theorem Held.nobody_stores (h : Held m) (hs : m.solvers[t]? = some s) (ht : m.Holds t)
    (hno : s.progress.stores = none) (u : Nat) (v : Solver) (hv : m.solvers[u]? = some v) :
    v.progress.stores = none := by
  rw [Option.eq_none_iff_forall_ne_some]
  intro threads hstores
  have hw : m.writer = some u := (h.writer_eq hv).2 (Progress.writes_of_stores hstores)
  rcases ht with hmem | hwt
  · rw [h.readers_eq_nil hw] at hmem
    cases hmem
  · obtain rfl : u = t := Option.some_inj.1 (hw.symm.trans hwt)
    obtain rfl : s = v := Option.some_inj.1 (hs.symm.trans hv)
    rw [hno] at hstores
    cases hstores

namespace Counted

/-- One solver moves on and neither stores nor begins a run. -/
theorem move (h : Counted m) (hs : m.solvers[t]? = some s)
    (hsolvers : m'.solvers = m.solvers.set t s') (hsetting : m'.setting = m.setting)
    (hcount : m'.restartCount = m.restartCount) (hbegun : m'.begun = m.begun)
    (hstores : s.progress.stores = none) (hstores' : s'.progress.stores = none)
    (hbegins : s.progress.begins = true → s'.progress.begins = true) : Counted m' := by
  -- All four facts are about some solver or other: this one, of which the hypotheses speak, or one
  -- that did not move.
  have hat := solvers_set hs hsolvers
  have hself : m'.solvers[t]? = some s' := (hat t).trans (if_pos rfl)
  have hother {u : Nat} (hu : t ≠ u) : m'.solvers[u]? = m.solvers[u]? := (hat u).trans (if_neg hu)
  refine ⟨?_, fun threads hthreads => ?_, fun u v threads hv hvs => ?_, fun hnone => ?_⟩
  · rw [hsetting, hbegun]
    exact h.unset
  · rw [hsetting] at hthreads
    rw [hbegun]
    refine (h.settled threads hthreads).imp_right ?_
    rintro ⟨u, v, hv, hvb⟩
    by_cases hu : t = u
    · subst hu
      obtain rfl : s = v := Option.some_inj.1 (hs.symm.trans hv)
      exact ⟨t, s', hself, hbegins hvb⟩
    · exact ⟨u, v, (hother hu).trans hv, hvb⟩
  · rw [hcount, hbegun]
    by_cases hu : t = u
    · subst hu
      obtain rfl : s' = v := Option.some_inj.1 (hself.symm.trans hv)
      rw [hstores'] at hvs
      cases hvs
    · exact h.storing u v threads ((hother hu).symm.trans hv) hvs
  · rw [hcount, hbegun, hsetting]
    refine h.stored fun u v hv => ?_
    by_cases hu : t = u
    · subst hu
      obtain rfl : s = v := Option.some_inj.1 (hs.symm.trans hv)
      exact hstores
    · exact hnone u v ((hother hu).trans hv)

theorem of_storing (hheld : Held m) {job : Job} {todo : List Job}
    (hs : m.solvers[t]? = some ⟨.storing job, todo⟩) (unset : m.setting = none → m.begun = [])
    (settled : ∀ threads, m.setting = some threads → m.begun.head? = some threads)
    (count : m.restartCount = changes (job.threads :: m.begun)) : Counted m := by
  refine ⟨unset, fun threads hthreads => .inl (settled threads hthreads),
    fun u v threads hv hvs => ?_, fun hnone => ?_⟩
  · have hw : m.writer = some t := (hheld.writer_eq hs).2 rfl
    have hwu : m.writer = some u := (hheld.writer_eq hv).2 (Progress.writes_of_stores hvs)
    obtain rfl : t = u := Option.some_inj.1 (hw.symm.trans hwu)
    obtain rfl := Option.some_inj.1 (hs.symm.trans hv)
    obtain rfl : job.threads = threads := Option.some_inj.1 hvs
    exact count
  · cases hnone t _ hs

theorem of_stored (hheld : Held m) (hs : m.solvers[t]? = some s) (ht : m.Holds t)
    (hno : s.progress.stores = none) {threads : Option Nat} (hsetting : m.setting = some threads)
    (settled : m.begun.head? = some threads ∨ s.progress.begins = true)
    (count : m.restartCount = changes (threads :: m.begun)) : Counted m := by
  have hnobody := hheld.nobody_stores hs ht hno
  refine ⟨fun hn => ?_, fun threads' hthreads => ?_, fun u v threads' hv hvs => ?_, fun _ => ?_⟩
  · rw [hsetting] at hn
    cases hn
  · obtain rfl : threads = threads' := Option.some_inj.1 (hsetting.symm.trans hthreads)
    exact settled.imp_right fun hb => ⟨t, s, hs, hb⟩
  · rw [hnobody u v hv] at hvs
    cases hvs
  · rw [hsetting]
    exact count

/-- While one solver writes and has not stored, the setting is that of the latest run. -/
theorem head_of_writing (h : Counted m) (hheld : Held m) (hs : m.solvers[t]? = some s)
    (hw : m.writer = some t) (hno : s.progress.begins = false) (threads : Option Nat)
    (hthreads : m.setting = some threads) : m.begun.head? = some threads := by
  refine (h.settled threads hthreads).resolve_right ?_
  rintro ⟨u, v, hv, hb⟩
  by_cases hu : t = u
  · subst hu
    obtain rfl : s = v := Option.some_inj.1 (hs.symm.trans hv)
    rw [hno] at hb
    cases hb
  · obtain ⟨hread, hwrite⟩ := hheld.others_hold_nothing hw hv hu
    exact (Progress.holds_of_begins hb).elim hread hwrite

theorem step (h : Counted m) (hheld : Held m) (hs : m.solvers[t]? = some s)
    (hturn : Turn m t s m') : Counted m' := by
  have hheld' : Held m' := hheld.step hs hturn
  have hlt : t < m.solvers.length := (List.getElem?_eq_some_iff.1 hs).1
  have hself (s' : Solver) : (m.solvers.set t s')[t]? = some s' := List.getElem?_set_self hlt
  cases hturn with
  | mayStore job todo fits =>
    have hw : m.writer = some t := (hheld.writer_eq hs).2 rfl
    have hcount := h.stored (hheld.nobody_stores hs (.inr hw) rfl)
    refine of_storing hheld' (hself _) h.unset (h.head_of_writing hheld hs hw rfl) ?_
    change m.restartCount = changes (job.threads :: m.begun)
    rcases fits with hn | hp
    · -- nothing ran before the first setting was stored
      rw [hcount, hn, h.unset hn]
      rfl
    · rw [hcount, hp]
      rfl
  | restart job todo =>
    have hw : m.writer = some t := (hheld.writer_eq hs).2 rfl
    have hcount := h.stored (hheld.nobody_stores hs (.inr hw) rfl)
    obtain ⟨previous, hprevious, other⟩ := hheld.trusts t _ hs
    have hhead := h.head_of_writing hheld hs hw rfl
    obtain ⟨l, hl⟩ : ∃ l, m.begun = previous :: l :=
      List.head?_eq_some_iff.1 (hhead previous hprevious)
    refine of_storing hheld' (hself _) h.unset hhead ?_
    change m.restartCount + 1 = changes (job.threads :: m.begun)
    rw [hcount, hprevious, hl, changes_of_ne other.symm]
    exact congrArg (· + 1) (changes_self previous l)
  | store job todo =>
    have hw : m.writer = some t := (hheld.writer_eq hs).2 rfl
    exact of_stored hheld' (hself _) (.inr hw) rfl rfl (.inr rfl) (h.storing t _ _ hs rfl)
  | run job todo =>
    have ht : m.Holds t := (hheld.holds_iff hs).2 (.inl rfl)
    have hcount := h.stored (hheld.nobody_stores hs ht rfl)
    have hsetting : m.setting = some job.threads := hheld.trusts t _ hs
    refine of_stored hheld' (hself _) ht rfl hsetting (.inl rfl) ?_
    change m.restartCount = changes (job.threads :: job.threads :: m.begun)
    rw [hcount, hsetting, changes_self]
    rfl
  | _ => exact h.move hs rfl rfl rfl rfl rfl rfl (by simp [Progress.begins])

theorem start (programs : List (List Job)) : Counted (SharedScheduler.start none programs) := by
  refine ⟨fun _ => rfl, fun threads h => (by cases h), fun u s threads hs hstores => ?_,
    fun _ => rfl⟩
  simp only [SharedScheduler.start, List.getElem?_map, Option.map_eq_some_iff] at hs
  obtain ⟨todo, _, rfl⟩ := hs
  cases hstores

end Counted

theorem counted_run (programs : List (List Job)) (turns : List Nat) :
    Counted ((start none programs).run turns) := by
  have hkeeps := run_keeps (P := fun m => Held m ∧ Counted m)
    (fun _ _ _ _ h hs hturn => ⟨h.1.step hs hturn, h.2.step h.1 hs hturn⟩)
    ⟨.start none programs, .start programs⟩ turns
  exact hkeeps.2

/-- The restarts up to a time when no solve is under way are the changes of the setting from one run
to the next. -/
theorem restartCount_eq (programs : List (List Job)) (turns : List Nat)
    (hidle : ∀ s ∈ ((start none programs).run turns).solvers, s.progress = .idle) :
    ((start none programs).run turns).restartCount =
      changes ((start none programs).run turns).begun := by
  have h := counted_run programs turns
  have hat {u : Nat} {s : Solver} (hs : ((start none programs).run turns).solvers[u]? = some s) :
      s.progress = .idle := hidle s (List.mem_of_getElem? hs)
  have hcount := h.stored fun u s hs => by
    rw [hat hs]
    rfl
  cases hsetting : ((start none programs).run turns).setting with
  | none =>
    rw [hsetting] at hcount
    exact hcount
  | some threads =>
    have hhead := (h.settled threads hsetting).resolve_right fun ⟨u, s, hs, hb⟩ => by
      rw [hat hs] at hb
      cases hb
    obtain ⟨l, hl⟩ := List.head?_eq_some_iff.1 hhead
    rw [hcount, hsetting, hl]
    exact changes_self threads l

end SharedScheduler

end MipDispatch.Engine
