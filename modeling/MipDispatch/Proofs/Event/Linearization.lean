import MipDispatch.Proofs.Event.Serial
import MipDispatch.Proofs.Event.Turns

namespace MipDispatch

def Stage.phase (t : Nat) : Stage → Phase
  | idle => .settled []
  | asking => .opened .ask
  | lockingToListen l | flagging l => .opened (.listen l)
  | checking build | lockingToPublish build | looking build | building _ build =>
    .opened (.publish build)
  | replacing _ | unlocking => .settled [.ended t]
  | delivering l e => .settled [.deliveryEnded t l e, .ended t]

namespace SharedChannel

variable {m m' : SharedChannel} {t : Nat} {w w' : Worker}

def phase (m : SharedChannel) (u : Nat) : Phase :=
  match m.workers[u]? with
  | none => .settled []
  | some w => w.stage.phase u

theorem phase_eq (hw : m.workers[t]? = some w) : m.phase t = w.stage.phase t := by
  rw [phase, hw]

theorem phase_set (hw : m.workers[t]? = some w) (hworkers : m'.workers = m.workers.set t w') :
    m'.phase = Function.update m.phase t (w'.stage.phase t) := by
  funext u
  rw [phase, workers_set hw hworkers]
  by_cases hu : t = u
  · subst hu
    rw [if_pos rfl, Function.update_self]
  · rw [if_neg hu, Function.update_of_ne (Ne.symm hu)]
    rfl

theorem serial_of_set {c : Channel} {order : List Operation} (hw : m.workers[t]? = some w)
    (hworkers : m'.workers = m.workers.set t w')
    (s : Serial c m'.history (Function.update m.phase t (w'.stage.phase t)) order) :
    Serial c m'.history m'.phase order := by
  rw [phase_set hw hworkers]
  exact s

/-- Some order of the operations so far is kept, or added to, by each step. -/
theorem serial_step {c : Channel} {order : List Operation}
    (s : Serial c m.history m.phase order) (hguarded : Guarded m (c.afterAll order))
    (hw : m.workers[t]? = some w) (hturn : Turn m t w m') :
    ∃ order', Serial c m'.history m'.phase order' ∧
      c.afterAll order' = w.stage.counting (c.afterAll order) := by
  have hphase := phase_eq hw
  have hsees := hguarded.sees t w hw
  have hsame : m.phase = Function.update m.phase t (w.stage.phase t) := by
    rw [← hphase, Function.update_eq_self]
  -- The order grows in the turns that decide what an operation does to the channel or hears of it:
  -- the answer, the flag, the skip, the look under the lock. The other ones carry on with
  -- operations that have their places, or are not seen at all.
  cases hturn with
  | begin op todo =>
    have hfirst : (firstStage op).phase t = .opened op := by cases op <;> rfl
    have s' := s.begin hphase op
    rw [← hfirst] at s'
    exact ⟨order, serial_of_set hw rfl s', rfl⟩
  | answer todo =>
    have hcourse : (c.afterAll order).course t .ask = [.answered t m.channel.present] := by
      rw [hguarded.flag]
      rfl
    obtain ⟨o, hop, _, s'⟩ := s.settle_note hphase hcourse rfl rfl (iff_of_true rfl rfl) rfl
    refine ⟨_, serial_of_set hw rfl s', ?_⟩
    rw [Channel.afterAll_observe, Channel.afterAll_concat, hop]
    rfl
  | flag l todo =>
    obtain ⟨o, hop, _, s'⟩ := s.settle hphase
    refine ⟨_, serial_of_set hw rfl s', ?_⟩
    rw [Channel.afterAll_concat, hop]
    rfl
  | skip build todo absent =>
    have hcourse : (c.afterAll order).course t (.publish build) = [.ended t] := by
      have hpresent := hguarded.flag.symm.trans absent
      simp [Channel.course, hpresent]
    obtain ⟨o, hop, _, s'⟩ := s.settle_note hphase hcourse rfl rfl (iff_of_true rfl rfl) rfl
    refine ⟨_, serial_of_set hw rfl s', ?_⟩
    rw [Channel.afterAll_observe, Channel.afterAll_concat, hop]
    rfl
  | lookInVain build todo absent =>
    have hcourse : (c.afterAll order).course t (.publish build) = [.ended t] :=
      Channel.course_publish_of_none (hsees ▸ absent) t build
    obtain ⟨o, hop, _, s'⟩ := s.settle hphase
    rw [hcourse] at s'
    refine ⟨_, serial_of_set hw rfl s', ?_⟩
    rw [Channel.afterAll_concat, hop]
    rfl
  | fail l crash todo =>
    have hcourse : (c.afterAll order).course t (.publish (.error crash)) =
        [.built t (.error crash), .ended t] :=
      Channel.course_publish_of_some hguarded.consistent (hsees.1 ▸ hsees.2) t _
    obtain ⟨o, hop, _, s'⟩ := s.settle_note hphase hcourse rfl rfl (by simp [Moment.closes]) rfl
    refine ⟨_, serial_of_set hw rfl s', ?_⟩
    rw [Channel.afterAll_observe, Channel.afterAll_concat, hop]
    rfl
  | build l e todo =>
    have hcourse : (c.afterAll order).course t (.publish (.ok e)) =
        [.built t (.ok e), .deliveryBegan t l e, .deliveryEnded t l e, .ended t] :=
      Channel.course_publish_of_some hguarded.consistent (hsees.1 ▸ hsees.2) t _
    obtain ⟨o, hop, hothers, s'⟩ :=
      s.settle_note hphase hcourse rfl rfl (by simp [Moment.closes]) rfl
    -- The delivery begins in the same turn, before another operation can be settled.
    have s'' := s'.note ⟨Function.update_self .., rfl, rfl, by simp [Moment.closes]⟩
      fun _ => ⟨_, _, List.map_append .., hothers⟩
    rw [Function.update_idem] at s''
    refine ⟨_, serial_of_set hw rfl s'', ?_⟩
    rw [Channel.afterAll_observe, Channel.afterAll_observe, Channel.afterAll_concat, hop]
    rfl
  | deliver l e todo =>
    have s' := s.note ⟨hphase, rfl, rfl, by simp [Moment.closes]⟩ fun hd => (by cases hd)
    exact ⟨_, serial_of_set hw rfl s', Channel.afterAll_observe ..⟩
  | unlock todo =>
    have s' := s.note ⟨hphase, rfl, rfl, by simp [Moment.closes]⟩ fun hd => (by cases hd)
    exact ⟨_, serial_of_set hw rfl s', Channel.afterAll_observe ..⟩
  | _ =>
    refine ⟨order, serial_of_set hw rfl ?_, rfl⟩
    rw [hsame] at s
    exact s

theorem serial_start (c : Channel) (programs : List (List ChannelOp)) :
    Serial c [] (start c programs).phase [] := by
  have hphase : (start c programs).phase = fun _ => .settled [] := by
    funext u
    simp only [phase, start, List.getElem?_map]
    cases programs[u]? <;> rfl
  rw [hphase]
  exact .nothing c

theorem linearized_run {c : Channel} (hc : c.Consistent) (programs : List (List ChannelOp))
    (turns : List Nat) :
    let m := (start c programs).run turns
    Apart m ∧ ∃ order, Serial c m.history m.phase order ∧ Guarded m (c.afterAll order) := by
  refine run_keeps (P := fun m => Apart m ∧ ∃ order, Serial c m.history m.phase order ∧
    Guarded m (c.afterAll order)) (fun m m' t w h hw hturn => ?_)
    ⟨.start c programs, [], serial_start c programs, .start hc programs⟩ turns
  obtain ⟨hapart, order, s, hguarded⟩ := h
  obtain ⟨order', s', hleft⟩ := serial_step s hguarded hw hturn
  exact ⟨hapart.step hguarded hw hturn, order', s', hleft ▸ hguarded.step hw hturn⟩

/-- Whatever turns threads get that share a channel, their operations might have been made one after
the other, in an order that agrees with their times: each is answered, builds its event and delivers
it as it would on the channel that those before it leave. A delivery that begins after a listener
was set is to that listener or to one set later. No operation delivers twice, and one that begins
after a listener was set, with no other being set or removed meanwhile, delivers to it. Nothing that
happens is outside all operations, and building events and delivering them overlap neither with each
other nor with themselves. -/
theorem linearizable (listener : Option Listener) (programs : List (List ChannelOp))
    (turns : List Nat) :
    let c := Channel.idle.listen listener
    let m := (start c programs).run turns
    let os := operations m.history
    (∃ order, Linearizes c os order ∧ (m.owner = none → m.channel = c.afterAll order) ∧
      ∀ b ∈ order, ∀ place t l e, (place, .deliveryBegan t l e) ∈ b.seen →
        ∀ o ∈ order, ∀ x stop, o.op = .listen x → o.stop = some stop → stop < place →
          x = some l ∧ [o, b].Sublist order ∨
            ∃ r, r.op = .listen (some l) ∧ [o, r, b].Sublist order) ∧
    (∀ o ∈ os, o.deliveries.length ≤ 1) ∧
    (∀ o ∈ os, ∀ b ∈ os, ∀ x e start stop, o.op = .listen (some x) → o.stop = some start →
      b.op = .publish (.ok e) → start < b.start → b.stop = some stop →
      (∀ r ∈ os, ∀ l, r.op = .listen l → r ≠ o →
        (∃ p, r.stop = some p ∧ p < o.start) ∨ stop < r.start) →
      b.deliveries = [(x, e)]) ∧
    (∀ place y, m.history.reverse[place]? = some y → y.opens = false →
      ∃ o ∈ os, (place, y) ∈ o.seen) ∧
    (∀ (t u : Nat) (v w : Worker), m.workers[t]? = some v → m.workers[u]? = some w →
      v.stage.serves = true → w.stage.serves = true → t = u) ∧
    m.mostAtOnce ≤ 1 ∧
    ∀ (c : Channel) (t : Nat) (build : Except Crash Event),
      ((c.course t (.publish build)).filterMap Moment.delivery?).flatMap
        (fun d => Channel.deliver d.1 d.2) = (c.publishWith fun _ => build).trace := by
  intro c m os
  obtain ⟨hapart, order, s, hguarded⟩ :=
    linearized_run (Channel.listen_consistent Channel.idle listener) programs turns
  have h : Linearizes c os order := s.linearizes
  refine ⟨⟨order, h, hguarded.free, ?_⟩, fun o ho => h.deliveries_le_one ho, ?_,
    s.tracked.recorded, ?_, hapart.most, Channel.course_publish⟩
  · intro b hb place t l e hseen o ho x stop hop hstop hlt
    exact h.of_delivery hb hseen ho hop hstop hlt
  · intro o ho b hb x e start stop hop hostop hpublish hbegan hbstop halone
    exact h.deliveries_eq ho hop hostop hb hpublish hbegan hbstop halone
  · intro t u v w hv hw hserves hserves'
    exact hguarded.eq_of_holds hv hw (Stage.holds_of_serves hserves)
      (Stage.holds_of_serves hserves')

/-- An event that is published too early for a listener is lost on it, and the next one reaches
it. -/
theorem linearizable_late_listener :
    let e := Event.of "a" "b"
    let l := Listener.recorder "l"
    let programs := [[.listen (some l)], [.publish (.ok e), .publish (.ok e)]]
    let m := (start (Channel.idle.listen none) programs).run
      [0, 1, 1, 0, 0, 0, 0, 1, 1, 1, 1, 1, 1, 1]
    ∃ a ∈ operations m.history, ∃ b ∈ operations m.history, a.op = .publish (.ok e) ∧
      b.op = .publish (.ok e) ∧ a.deliveries = [] ∧ b.deliveries = [(l, e)] := by
  intro e l programs m
  let o : Operation := ⟨0, .listen (some l), 0, [(3, .ended 0)], some 3⟩
  let a : Operation := ⟨1, .publish (.ok e), 1, [(2, .ended 1)], some 2⟩
  let b : Operation := ⟨1, .publish (.ok e), 4, [(5, .built 1 (.ok e)), (6, .deliveryBegan 1 l e),
    (7, .deliveryEnded 1 l e), (8, .ended 1)], some 8⟩
  have hos : operations m.history = [o, a, b] := by
    -- what the event and the listener are makes no difference
    clear_value e l
    dsimp only [m, programs, o, a, b]
    cbv
  have ho : o ∈ operations m.history := by simp [hos]
  have ha : a ∈ operations m.history := by simp [hos]
  have hb : b ∈ operations m.history := by simp [hos]
  have hbegan : 3 < b.start := Nat.lt_succ_self 3
  have halone : ∀ r ∈ operations m.history, ∀ x, r.op = .listen x → r ≠ o →
      (∃ p, r.stop = some p ∧ p < o.start) ∨ 8 < r.start := by
    intro r hr x hop hne
    rw [hos] at hr
    simp only [List.mem_cons, List.not_mem_nil, or_false] at hr
    rcases hr with rfl | rfl | rfl
    · exact absurd rfl hne
    · cases hop
    · cases hop
  have hdelivers := (linearizable none programs
    [0, 1, 1, 0, 0, 0, 0, 1, 1, 1, 1, 1, 1, 1]).2.2.1
  refine ⟨a, ha, b, hb, rfl, rfl, rfl, ?_⟩
  exact hdelivers o ho b hb l e 3 8 rfl rfl rfl hbegan rfl halone

/-- A listener that is being removed hears the publication that got the lock first, and not the one
that waits for it. -/
example :
    let e := Event.of "a" "b"
    let programs := [[.publish (.ok e)], [.listen none], [.publish (.ok e)]]
    let m := (start (Channel.idle.listen (some (.recorder "l"))) programs).run
      [0, 0, 1, 2, 2, 0, 1, 0, 0, 2, 0, 0, 1, 1, 1, 1, 2, 2, 2]
    m.deliveryCount = 1 ∧ m.mostAtOnce = 1 ∧ m.channel.present = false := by
  decide

end SharedChannel

end MipDispatch
