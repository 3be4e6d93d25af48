import MipDispatch.Proofs.Engine.Scheduling

namespace MipDispatch.Engine.SharedScheduler

variable {m m' m'' : SharedScheduler} {t : Nat} {s : Solver} {job : Job} {todo : List Job}

theorem step?_of_turn (hs : m.solvers[t]? = some s) (hturn : Turn m t s m') :
    m.step? t = some m' := by
  unfold step?
  rw [hs]
  -- The guards of a turn are the conditions that `step?` looks at; what is left is that a solver
  -- which advances has been put in its place.
  cases hturn with
  | begin job todo => rfl
  | lockToRead job todo free =>
    have hlock : m.lockToRead? t = some { m with readers := t :: m.readers } := by
      simp [lockToRead?, free]
    dsimp only
    rw [hlock]
    exact congrArg some (advance_eq_put (m := { m with readers := t :: m.readers }) hs _)
  | agree job todo same =>
    dsimp only
    rw [if_pos same, advance_eq_put hs]
  | differ job todo other =>
    dsimp only
    rw [if_neg other, advance_eq_put hs]
  | release job todo =>
    dsimp only
    rw [advance_eq_put (m := m.unlockRead t) hs]
  | lockToWrite job todo free unread =>
    have hlock : m.lockToWrite? t = some { m with writer := some t } := by
      simp [lockToWrite?, free, unread]
    dsimp only
    rw [hlock]
    exact congrArg some (advance_eq_put (m := { m with writer := some t }) hs _)
  | mustRestart job todo previous stored other =>
    dsimp only
    rw [if_pos (needsRestart_iff.2 ⟨previous, stored, other⟩), advance_eq_put hs]
  | mayStore job todo fits =>
    have hno : ¬ m.needsRestart job = true := by
      rw [needsRestart_iff]
      rintro ⟨previous, stored, other⟩
      rcases fits with hn | hp
      · rw [hn] at stored
        cases stored
      · exact other (Option.some_inj.1 (stored.symm.trans hp))
    dsimp only
    rw [if_neg hno, advance_eq_put hs]
  | store job todo =>
    dsimp only
    rw [advance_eq_put (m := { m with setting := some job.threads }) hs]
  | downgrade job todo =>
    dsimp only
    rw [advance_eq_put (m := m.downgrade t) hs]
  | unlock job todo =>
    dsimp only
    rw [advance_eq_put (m := m.unlockRead t) hs]
  | restart job todo | run job todo | finish job todo =>
    dsimp only
    rw [advance_eq_put hs]

def Leads (t : Nat) (m m' : SharedScheduler) : Prop := ∃ n, m.run (List.replicate n t) = m'

theorem Leads.trans (h : Leads t m m') (h' : Leads t m' m'') : Leads t m m'' := by
  obtain ⟨n, rfl⟩ := h
  obtain ⟨n', rfl⟩ := h'
  exact ⟨n + n', by rw [List.replicate_add, run_append]⟩

theorem put_self (hs : m.solvers[t]? = some s) : m.put t s = m := by
  obtain ⟨hlt, rfl⟩ := List.getElem?_eq_some_iff.1 hs
  simp [put, List.set_getElem_self]

theorem leads_of_turn {s s' : Solver} (hlt : t < m.solvers.length)
    (hturn : Turn (m.put t s) t s m'') (hm : m'' = m'.put t s') :
    Leads t (m.put t s) (m'.put t s') := by
  refine ⟨1, ?_⟩
  change ((m.put t s).step? t).getD (m.put t s) = m'.put t s'
  rw [step?_of_turn (List.getElem?_set_self hlt) hturn, ← hm]
  rfl

/-- What is seen of a run and the return of its solve, the latest first. -/
def runMoments (t : Nat) (job : Job) : List SolveMoment :=
  [.returned t job.succeeds, .runEnded t job.succeeds, .runBegan t job.threads]

/-- With the setting in force the solve runs and returns. -/
theorem leads_from_ready (hlt : t < m.solvers.length) (job : Job) (todo : List Job) :
    Leads t (m.put t ⟨.ready job, todo⟩)
      ({ m with
        readers := m.readers.erase t
        history := runMoments t job ++ m.history }.put t ⟨.idle, todo⟩) := by
  let begun := m.note (.runBegan t job.threads)
  let ended := begun.note (.runEnded t job.succeeds)
  have hrun : Leads t (m.put t ⟨.ready job, todo⟩) (begun.put t ⟨.running job, todo⟩) :=
    leads_of_turn hlt (.run job todo) (by simp [put, note, begun])
  have hfinish : Leads t (begun.put t ⟨.running job, todo⟩) (ended.put t ⟨.unlocking job, todo⟩) :=
    leads_of_turn hlt (.finish job todo) (by simp [put, note, ended])
  refine (hrun.trans hfinish).trans (leads_of_turn hlt (.unlock job todo) ?_)
  simp [put, note, unlockRead, runMoments, begun, ended]

/-- The setting is stored and then held along with others, and the solve runs and returns. -/
theorem leads_from_storing (hlt : t < m.solvers.length) (hr : m.readers = []) (job : Job)
    (todo : List Job) :
    Leads t (m.put t ⟨.storing job, todo⟩)
      ({ m with
        setting := some job.threads
        writer := none
        history := runMoments t job ++ m.history }.put t ⟨.idle, todo⟩) := by
  let stored := { m with setting := some job.threads }
  have hstore : Leads t (m.put t ⟨.storing job, todo⟩) (stored.put t ⟨.downgrading job, todo⟩) :=
    leads_of_turn hlt (.store job todo) (by simp [put, stored])
  have hdowngrade : Leads t (stored.put t ⟨.downgrading job, todo⟩)
      ((stored.downgrade t).put t ⟨.ready job, todo⟩) :=
    leads_of_turn hlt (.downgrade job todo) (by simp [put, SharedScheduler.downgrade])
  have hready := leads_from_ready (m := stored.downgrade t) hlt job todo
  simpa [stored, SharedScheduler.downgrade, hr] using (hstore.trans hdowngrade).trans hready

def restartMoments (m : SharedScheduler) (t : Nat) (job : Job) : List SolveMoment :=
  if m.needsRestart job then [.restarted t] else []

/-- With the setting for itself the solver restarts the threads if it must, and goes on from
there. -/
theorem leads_from_rechecking (hlt : t < m.solvers.length) (hr : m.readers = []) (job : Job)
    (todo : List Job) :
    Leads t (m.put t ⟨.rechecking job, todo⟩)
      ({ m with
        setting := some job.threads
        writer := none
        history := runMoments t job ++ (m.restartMoments t job ++ m.history) }.put t
          ⟨.idle, todo⟩) := by
  by_cases other : m.needsRestart job = true
  · obtain ⟨previous, stored, hne⟩ := needsRestart_iff.1 other
    have hmust : Leads t (m.put t ⟨.rechecking job, todo⟩) (m.put t ⟨.restarting job, todo⟩) :=
      leads_of_turn hlt (.mustRestart job todo previous stored hne) (by simp [put])
    have hrestart : Leads t (m.put t ⟨.restarting job, todo⟩)
        ((m.note (.restarted t)).put t ⟨.storing job, todo⟩) :=
      leads_of_turn hlt (.restart job todo) (by simp [put, note])
    have hstoring := leads_from_storing (m := m.note (.restarted t)) hlt hr job todo
    simpa [note, restartMoments, other] using hmust.trans (hrestart.trans hstoring)
  · have hmay : Leads t (m.put t ⟨.rechecking job, todo⟩) (m.put t ⟨.storing job, todo⟩) :=
      leads_of_turn hlt (.mayStore job todo (fits_of_not_needsRestart other)) (by simp [put])
    have hstoring := leads_from_storing hlt hr job todo
    simpa [restartMoments, other] using hmay.trans hstoring

/-- One solve of a solver that has the turns to itself while nobody else has the setting. -/
theorem leads_alone (hs : m.solvers[t]? = some ⟨.idle, job :: todo⟩) (hw : m.writer = none)
    (hr : m.readers = []) :
    Leads t m
      ({ m with
        setting := some job.threads
        history := runMoments t job ++ (m.restartMoments t job ++ m.history) }.put t
          ⟨.idle, todo⟩) := by
  have hlt : t < m.solvers.length := (List.getElem?_eq_some_iff.1 hs).1
  let reading := { m with readers := t :: m.readers }
  let writing := { m with writer := some t }
  have hbegin : Leads t (m.put t ⟨.idle, job :: todo⟩) (m.put t ⟨.lockingToRead job, todo⟩) :=
    leads_of_turn hlt (.begin job todo) (by simp [put])
  rw [put_self hs] at hbegin
  have hread : Leads t (m.put t ⟨.lockingToRead job, todo⟩)
      (reading.put t ⟨.comparing job, todo⟩) :=
    leads_of_turn hlt (.lockToRead job todo hw) (by simp [put, reading])
  refine hbegin.trans (hread.trans ?_)
  by_cases same : m.setting = some job.threads
  · have hno : m.restartMoments t job = [] := by simp [restartMoments, needsRestart, same]
    have hagree : Leads t (reading.put t ⟨.comparing job, todo⟩)
        (reading.put t ⟨.ready job, todo⟩) :=
      leads_of_turn hlt (.agree job todo same) (by simp [put])
    have hready := leads_from_ready (m := reading) hlt job todo
    simpa [reading, hno, ← same] using hagree.trans hready
  · have hdiffer : Leads t (reading.put t ⟨.comparing job, todo⟩)
        (reading.put t ⟨.releasing job, todo⟩) :=
      leads_of_turn hlt (.differ job todo same) (by simp [put])
    have hrelease : Leads t (reading.put t ⟨.releasing job, todo⟩)
        (m.put t ⟨.lockingToWrite job, todo⟩) :=
      leads_of_turn hlt (.release job todo) (by simp [put, unlockRead, reading])
    have hwrite : Leads t (m.put t ⟨.lockingToWrite job, todo⟩)
        (writing.put t ⟨.rechecking job, todo⟩) :=
      leads_of_turn hlt (.lockToWrite job todo hw hr) (by simp [put, writing])
    have hrecheck := leads_from_rechecking (m := writing) hlt hr job todo
    have hend := hdiffer.trans (hrelease.trans (hwrite.trans hrecheck))
    -- the lock is given back as it was
    simpa [writing, restartMoments, needsRestart, ← hw] using hend

end MipDispatch.Engine.SharedScheduler
