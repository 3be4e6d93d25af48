import MipDispatch.Event.SharedChannel
import Mathlib.Data.List.Basic

namespace MipDispatch

namespace Stage

def holds : Stage → Bool
  | flagging _ | replacing _ | looking _ | building .. | delivering .. | unlocking => true
  | idle | asking | lockingToListen _ | checking _ | lockingToPublish _ => false

def serves : Stage → Bool
  | building .. | delivering .. => true
  | _ => false

def delivers : Stage → Bool
  | delivering .. => true
  | _ => false

/-- What a thread that has come this far knows of the channel `c`. Once the flag is set for a
listener the channel counts as having that listener, though it is yet to be put there. -/
def Sees (c counts : Channel) : Stage → Prop
  | flagging _ | looking _ | delivering .. | unlocking => c = counts
  | replacing l => counts = c.listen l
  | building l _ => c = counts ∧ c.listener = some l
  | idle | asking | lockingToListen _ | checking _ | lockingToPublish _ => True

def counting (c : Channel) : Stage → Channel
  | flagging l => c.listen l
  | _ => c

theorem holds_of_delivers {stage : Stage} (h : stage.delivers = true) : stage.holds = true := by
  cases stage <;> first | rfl | cases h

theorem holds_of_serves {stage : Stage} (h : stage.serves = true) : stage.holds = true := by
  cases stage <;> first | rfl | cases h

theorem sees_of_not_holds {stage : Stage} (h : stage.holds = false) (c counts : Channel) :
    stage.Sees c counts := by
  cases stage <;> trivial

end Stage

namespace SharedChannel

def put (m : SharedChannel) (t : Nat) (w : Worker) : SharedChannel :=
  { m with workers := m.workers.set t w }

def flag (m : SharedChannel) (l : Option Listener) : SharedChannel :=
  { m with channel := { m.channel with present := l.isSome } }

def replace (m : SharedChannel) (l : Option Listener) : SharedChannel :=
  { m with channel := { m.channel with listener := l } }

def setOwner (m : SharedChannel) (owner : Option Nat) : SharedChannel := { m with owner }

inductive Turn (m : SharedChannel) (t : Nat) : Worker → SharedChannel → Prop where
  | begin (op : ChannelOp) (todo : List ChannelOp) :
    Turn m t ⟨.idle, op :: todo⟩ ((m.put t ⟨firstStage op, todo⟩).note (.began t op))
  | answer (todo : List ChannelOp) :
    Turn m t ⟨.asking, todo⟩ ((m.put t ⟨.idle, todo⟩).note (.answered t m.channel.present))
  | lockToListen (l : Option Listener) (todo : List ChannelOp) (free : m.owner = none) :
    Turn m t ⟨.lockingToListen l, todo⟩ ((m.setOwner (some t)).put t ⟨.flagging l, todo⟩)
  | flag (l : Option Listener) (todo : List ChannelOp) :
    Turn m t ⟨.flagging l, todo⟩ ((m.flag l).put t ⟨.replacing l, todo⟩)
  | replace (l : Option Listener) (todo : List ChannelOp) :
    Turn m t ⟨.replacing l, todo⟩ ((m.replace l).put t ⟨.unlocking, todo⟩)
  | pass (build : Except Crash Event) (todo : List ChannelOp) (present : m.channel.present = true) :
    Turn m t ⟨.checking build, todo⟩ (m.put t ⟨.lockingToPublish build, todo⟩)
  | skip (build : Except Crash Event) (todo : List ChannelOp) (absent : m.channel.present = false) :
    Turn m t ⟨.checking build, todo⟩ ((m.put t ⟨.idle, todo⟩).note (.ended t))
  | lockToPublish (build : Except Crash Event) (todo : List ChannelOp) (free : m.owner = none) :
    Turn m t ⟨.lockingToPublish build, todo⟩ ((m.setOwner (some t)).put t ⟨.looking build, todo⟩)
  | lookInVain (build : Except Crash Event) (todo : List ChannelOp)
      (absent : m.channel.listener = none) :
    Turn m t ⟨.looking build, todo⟩ (m.put t ⟨.unlocking, todo⟩)
  | look (build : Except Crash Event) (l : Listener) (todo : List ChannelOp)
      (present : m.channel.listener = some l) :
    Turn m t ⟨.looking build, todo⟩ (m.put t ⟨.building l build, todo⟩)
  | fail (l : Listener) (crash : Crash) (todo : List ChannelOp) :
    Turn m t ⟨.building l (.error crash), todo⟩
      ((m.put t ⟨.unlocking, todo⟩).note (.built t (.error crash)))
  | build (l : Listener) (e : Event) (todo : List ChannelOp) :
    Turn m t ⟨.building l (.ok e), todo⟩
      (((m.put t ⟨.delivering l e, todo⟩).note (.built t (.ok e))).note (.deliveryBegan t l e))
  | deliver (l : Listener) (e : Event) (todo : List ChannelOp) :
    Turn m t ⟨.delivering l e, todo⟩ ((m.put t ⟨.unlocking, todo⟩).note (.deliveryEnded t l e))
  | unlock (todo : List ChannelOp) :
    Turn m t ⟨.unlocking, todo⟩ (((m.setOwner none).put t ⟨.idle, todo⟩).note (.ended t))

variable {m m' : SharedChannel} {t : Nat} {w w' : Worker}

theorem setStage_eq_put (hw : m.workers[t]? = some w) (stage : Stage) :
    m.setStage t stage = m.put t ⟨stage, w.todo⟩ := by
  have hset : m.workers.modify t (fun w => { w with stage }) = m.workers.set t ⟨stage, w.todo⟩ := by
    rw [List.modify_eq_set_getElem?, hw]
    rfl
  rw [setStage, hset]
  rfl

theorem lock?_eq_some (hw : m.workers[t]? = some w) {stage : Stage}
    (h : m.lock? t stage = some m') :
    m.owner = none ∧ m' = (m.setOwner (some t)).put t ⟨stage, w.todo⟩ := by
  unfold lock? at h
  cases howner : m.owner with
  | none =>
    rw [howner] at h
    refine ⟨rfl, ?_⟩
    rw [← Option.some_inj.1 h]
    exact setStage_eq_put (m := m.setOwner (some t)) hw stage
  | some u =>
    rw [howner] at h
    cases h

theorem turn_of_step? (h : m.step? t = some m') : ∃ w, m.workers[t]? = some w ∧ Turn m t w m' := by
  unfold step? at h
  cases hw : m.workers[t]? with
  | none => simp [hw] at h
  | some w =>
    refine ⟨w, rfl, ?_⟩
    rw [hw] at h
    obtain ⟨stage, todo⟩ := w
    -- what changes the channel or its owner leaves the threads, so `hw` serves there too
    cases stage with
    | idle =>
      cases todo with
      | nil => cases h
      | cons op todo =>
        cases h
        exact .begin op todo
    | asking =>
      cases h
      rw [setStage_eq_put hw]
      exact .answer todo
    | lockingToListen l =>
      obtain ⟨free, rfl⟩ := lock?_eq_some hw h
      exact .lockToListen l todo free
    | flagging l =>
      cases h
      change Turn m t _ ((m.flag l).setStage t (.replacing l))
      rw [setStage_eq_put (m := m.flag l) hw]
      exact .flag l todo
    | replacing l =>
      cases h
      change Turn m t _ ((m.replace l).setStage t .unlocking)
      rw [setStage_eq_put (m := m.replace l) hw]
      exact .replace l todo
    | checking build =>
      dsimp only at h
      split at h
      · cases h
        rw [setStage_eq_put hw]
        exact .pass build todo ‹_›
      · cases h
        rw [setStage_eq_put hw]
        exact .skip build todo (Bool.eq_false_iff.2 ‹_›)
    | lockingToPublish build =>
      obtain ⟨free, rfl⟩ := lock?_eq_some hw h
      exact .lockToPublish build todo free
    | looking build =>
      dsimp only at h
      cases hl : m.channel.listener with
      | none =>
        rw [hl] at h
        cases h
        rw [setStage_eq_put hw]
        exact .lookInVain build todo hl
      | some l =>
        rw [hl] at h
        cases h
        rw [setStage_eq_put hw]
        exact .look build l todo hl
    | building l build =>
      cases build with
      | error crash =>
        cases h
        rw [setStage_eq_put hw]
        exact .fail l crash todo
      | ok e =>
        cases h
        rw [setStage_eq_put hw]
        exact .build l e todo
    | delivering l e =>
      cases h
      rw [setStage_eq_put hw]
      exact .deliver l e todo
    | unlocking =>
      cases h
      change Turn m t _ (((m.setOwner none).setStage t .idle).note (.ended t))
      rw [setStage_eq_put (m := m.setOwner none) hw]
      exact .unlock todo

theorem workers_set (hw : m.workers[t]? = some w) (hworkers : m'.workers = m.workers.set t w')
    (u : Nat) : m'.workers[u]? = if t = u then some w' else m.workers[u]? := by
  have hlt : t < m.workers.length := (List.getElem?_eq_some_iff.1 hw).1
  rw [hworkers, List.getElem?_set]
  simp [hlt]

theorem run_keeps {P : SharedChannel → Prop}
    (hturn : ∀ (m m' : SharedChannel) (t : Nat) (w : Worker),
      P m → m.workers[t]? = some w → Turn m t w m' → P m') (h : P m) (turns : List Nat) :
    P (m.run turns) := by
  induction turns generalizing m with
  | nil => exact h
  | cons t turns ih =>
    have hone : P ((m.step? t).getD m) := by
      cases hstep : m.step? t with
      | none => exact h
      | some m' =>
        obtain ⟨w, hw, hm'⟩ := turn_of_step? hstep
        exact hturn m m' t w h hw hm'
    exact ih hone

/-- Which thread has the lock, and how the channel differs from the one that it counts as: not at
all while nobody has the lock, and never in the flag. -/
structure Guarded (m : SharedChannel) (counts : Channel) : Prop where
  owner : ∀ u : Nat, m.owner = some u ↔ ∃ w, m.workers[u]? = some w ∧ w.stage.holds = true
  consistent : counts.Consistent
  flag : m.channel.present = counts.present
  free : m.owner = none → m.channel = counts
  sees : ∀ (u : Nat) (w : Worker), m.workers[u]? = some w → w.stage.Sees m.channel counts

namespace Guarded

variable {counts counts' : Channel}

theorem owner_iff (h : Guarded m counts) (hw : m.workers[t]? = some w) :
    m.owner = some t ↔ w.stage.holds = true := by
  rw [h.owner, hw]
  simp

/-- Two threads that have the lock are one. -/
theorem eq_of_holds (h : Guarded m counts) {u : Nat} {v : Worker} (hw : m.workers[t]? = some w)
    (hv : m.workers[u]? = some v) (hwh : w.stage.holds = true) (hvh : v.stage.holds = true) :
    t = u := by
  have ht : m.owner = some t := (h.owner_iff hw).2 hwh
  have hu : m.owner = some u := (h.owner_iff hv).2 hvh
  exact Option.some_inj.1 (ht.symm.trans hu)

/-- One thread moves on. The channel changes at most while it has the lock. -/
theorem set (h : Guarded m counts) (hw : m.workers[t]? = some w)
    (hworkers : m'.workers = m.workers.set t w')
    (owner : ∀ u, m'.owner = some u ↔ if t = u then w'.stage.holds = true else m.owner = some u)
    (consistent : counts'.Consistent) (flag : m'.channel.present = counts'.present)
    (free : m'.owner = none → m'.channel = counts') (sees : w'.stage.Sees m'.channel counts')
    (kept : m'.channel = m.channel ∧ counts' = counts ∨ m.owner = some t) :
    Guarded m' counts' := by
  have hat := workers_set hw hworkers
  refine ⟨fun u => ?_, consistent, flag, free, fun u v hv => ?_⟩
  · rw [owner, hat]
    by_cases hu : t = u
    · simp [hu]
    · simpa [hu] using h.owner u
  · rw [hat] at hv
    by_cases hu : t = u
    · rw [if_pos hu, Option.some_inj] at hv
      exact hv ▸ sees
    rw [if_neg hu] at hv
    rcases kept with ⟨hchannel, hcounts⟩ | ht
    · rw [hchannel, hcounts]
      exact h.sees u v hv
    -- without the lock there is nothing to see
    have hnot : v.stage.holds = false := by
      rw [← Bool.not_eq_true, ← h.owner_iff hv, ht, Option.some_inj]
      exact hu
    exact Stage.sees_of_not_holds hnot _ _

/-- One thread moves on without taking the lock or letting go of it. -/
theorem move (h : Guarded m counts) (hw : m.workers[t]? = some w)
    (hworkers : m'.workers = m.workers.set t w') (howner : m'.owner = m.owner)
    (hholds : w'.stage.holds = w.stage.holds) (consistent : counts'.Consistent)
    (flag : m'.channel.present = counts'.present) (sees : w'.stage.Sees m'.channel counts')
    (kept : m'.channel = m.channel ∧ counts' = counts ∨ m.owner = some t) :
    Guarded m' counts' := by
  refine h.set hw hworkers (fun u => ?_) consistent flag (fun hfree => ?_) sees kept
  · rw [howner]
    by_cases hu : t = u
    · subst hu
      rw [if_pos rfl, hholds, h.owner_iff hw]
    · rw [if_neg hu]
  · rw [howner] at hfree
    rcases kept with ⟨hchannel, hcounts⟩ | ht
    · rw [hchannel, hcounts]
      exact h.free hfree
    · rw [hfree] at ht
      cases ht

theorem lock (h : Guarded m counts) (hw : m.workers[t]? = some w)
    (hworkers : m'.workers = m.workers.set t w') (hfree : m.owner = none)
    (howner : m'.owner = some t) (hchannel : m'.channel = m.channel)
    (hholds : w'.stage.holds = true) (sees : w'.stage.Sees counts counts) : Guarded m' counts := by
  have hcounts : m'.channel = counts := hchannel.trans (h.free hfree)
  refine h.set hw hworkers (fun u => ?_) h.consistent (congrArg _ hcounts) (fun _ => hcounts)
    (hcounts ▸ sees) (.inl ⟨hchannel, rfl⟩)
  rw [howner, hfree, hholds, Option.some_inj]
  simp

theorem unlock (h : Guarded m counts) (hw : m.workers[t]? = some w)
    (hworkers : m'.workers = m.workers.set t w') (hholds : w.stage.holds = true)
    (howner : m'.owner = none) (hchannel : m'.channel = counts)
    (hholds' : w'.stage.holds = false) : Guarded m' counts := by
  have ht : m.owner = some t := (h.owner_iff hw).2 hholds
  refine h.set hw hworkers (fun u => ?_) h.consistent (congrArg _ hchannel) (fun _ => hchannel)
    (Stage.sees_of_not_holds hholds' _ _) (.inr ht)
  rw [howner, ht, hholds', Option.some_inj]
  simp

theorem step (h : Guarded m counts) (hw : m.workers[t]? = some w) (hturn : Turn m t w m') :
    Guarded m' (w.stage.counting counts) := by
  have hsees : w.stage.Sees m.channel counts := h.sees t w hw
  have hsame : m.channel = m.channel ∧ counts = counts ∨ m.owner = some t := .inl ⟨rfl, rfl⟩
  -- Only the turns that write the flag or put the listener in its place change the channel, or
  -- what it counts as, and both have the lock.
  cases hturn with
  | begin op todo =>
    have hholds : (firstStage op).holds = false := by cases op <;> rfl
    exact h.move hw rfl rfl hholds h.consistent h.flag (Stage.sees_of_not_holds hholds _ _) hsame
  | answer todo => exact h.move hw rfl rfl rfl h.consistent h.flag trivial hsame
  | lockToListen l todo free => exact h.lock hw rfl free rfl rfl rfl rfl
  | flag l todo =>
    have ht : m.owner = some t := (h.owner_iff hw).2 rfl
    exact h.move hw rfl rfl rfl (Channel.listen_consistent counts l) rfl rfl (.inr ht)
  | replace l todo =>
    have ht : m.owner = some t := (h.owner_iff hw).2 rfl
    have hpresent : m.channel.present = l.isSome := h.flag.trans (congrArg Channel.present hsees)
    have hchannel : (m.replace l).channel = counts := by
      change (⟨l, m.channel.present⟩ : Channel) = counts
      rw [hpresent, hsees]
      rfl
    exact h.move hw rfl rfl rfl h.consistent h.flag hchannel (.inr ht)
  | pass build todo present => exact h.move hw rfl rfl rfl h.consistent h.flag trivial hsame
  | skip build todo absent => exact h.move hw rfl rfl rfl h.consistent h.flag trivial hsame
  | lockToPublish build todo free => exact h.lock hw rfl free rfl rfl rfl rfl
  | lookInVain build todo absent => exact h.move hw rfl rfl rfl h.consistent h.flag hsees hsame
  | look build l todo present =>
    exact h.move hw rfl rfl rfl h.consistent h.flag ⟨hsees, present⟩ hsame
  | fail l crash todo => exact h.move hw rfl rfl rfl h.consistent h.flag hsees.1 hsame
  | build l e todo => exact h.move hw rfl rfl rfl h.consistent h.flag hsees.1 hsame
  | deliver l e todo => exact h.move hw rfl rfl rfl h.consistent h.flag hsees hsame
  | unlock todo => exact h.unlock hw rfl rfl rfl hsees rfl

theorem start {c : Channel} (hc : c.Consistent) (programs : List (List ChannelOp)) :
    Guarded (SharedChannel.start c programs) c := by
  have hidle (u : Nat) (w : Worker) (hw : (SharedChannel.start c programs).workers[u]? = some w) :
      w.stage.holds = false := by
    simp only [SharedChannel.start, List.getElem?_map, Option.map_eq_some_iff] at hw
    obtain ⟨todo, _, rfl⟩ := hw
    rfl
  refine ⟨fun u => iff_of_false (Option.some_ne_none u).symm ?_, hc, rfl, fun _ => rfl,
    fun u w hw => Stage.sees_of_not_holds (hidle u w hw) _ _⟩
  rintro ⟨w, hw, hholds⟩
  rw [hidle u w hw] at hholds
  cases hholds

end Guarded

def overlaps (m : SharedChannel) : Nat × Nat := m.history.reverse.foldl overlap (0, 0)

theorem overlaps_note (m : SharedChannel) (x : Moment) :
    (m.note x).overlaps = overlap m.overlaps x := by
  unfold overlaps note
  rw [List.reverse_cons, List.foldl_append]
  rfl

structure Apart (m : SharedChannel) : Prop where
  one : ∀ (u : Nat) (v : Worker), m.workers[u]? = some v → v.stage.delivers = true →
    m.overlaps.1 = 1
  none : (∀ (u : Nat) (v : Worker), m.workers[u]? = some v → v.stage.delivers = false) →
    m.overlaps.1 = 0
  most : m.overlaps.2 ≤ 1

namespace Apart

theorem move (h : Apart m) (hw : m.workers[t]? = some w)
    (hworkers : m'.workers = m.workers.set t w') (hoverlaps : m'.overlaps = m.overlaps)
    (hstage : w.stage.delivers = false) (hstage' : w'.stage.delivers = false) : Apart m' := by
  have hat := workers_set hw hworkers
  refine ⟨fun u v hv hdel => ?_, fun hno => ?_, hoverlaps ▸ h.most⟩
  · rw [hat] at hv
    rw [hoverlaps]
    by_cases hu : t = u
    · rw [if_pos hu, Option.some_inj] at hv
      rw [← hv, hstage'] at hdel
      cases hdel
    · rw [if_neg hu] at hv
      exact h.one u v hv hdel
  · rw [hoverlaps]
    refine h.none fun u v hv => ?_
    by_cases hu : t = u
    · subst hu
      obtain rfl : w = v := Option.some_inj.1 (hw.symm.trans hv)
      exact hstage
    · exact hno u v ((hat u).trans ((if_neg hu).trans hv))

theorem step {counts : Channel} (h : Apart m) (hguarded : Guarded m counts)
    (hw : m.workers[t]? = some w) (hturn : Turn m t w m') : Apart m' := by
  have hlt : t < m.workers.length := (List.getElem?_eq_some_iff.1 hw).1
  have hholds {u : Nat} {v : Worker} (hwh : w.stage.holds = true) (hv : m.workers[u]? = some v)
      (hdel : v.stage.delivers = true) : t = u :=
    hguarded.eq_of_holds hw hv hwh (Stage.holds_of_delivers hdel)
  cases hturn with
  | begin op todo =>
    refine h.move hw rfl ?_ rfl ?_
    · rw [overlaps_note]
      rfl
    · cases op <;> rfl
  | build l e todo =>
    -- nobody else has the lock, so nothing was under way
    have hzero : m.overlaps.1 = 0 := h.none fun u v hv => by
      rw [← Bool.not_eq_true]
      intro hdel
      obtain rfl := hholds rfl hv hdel
      obtain rfl := Option.some_inj.1 (hw.symm.trans hv)
      cases hdel
    have hoverlaps : (((m.put t ⟨.delivering l e, todo⟩).note (.built t (.ok e))).note
        (.deliveryBegan t l e)).overlaps = (1, max m.overlaps.2 1) := by
      rw [overlaps_note, overlaps_note]
      change (m.overlaps.1 + 1, max m.overlaps.2 (m.overlaps.1 + 1)) = _
      rw [hzero]
    refine ⟨fun u v _ _ => congrArg Prod.fst hoverlaps, fun hno => ?_, ?_⟩
    · cases hno t _ (List.getElem?_set_self hlt)
    · rw [hoverlaps]
      exact Nat.max_le.2 ⟨h.most, Nat.le_refl 1⟩
  | deliver l e todo =>
    have hoverlaps : ((m.put t ⟨.unlocking, todo⟩).note (.deliveryEnded t l e)).overlaps =
        (0, m.overlaps.2) := by
      rw [overlaps_note]
      change (m.overlaps.1 - 1, m.overlaps.2) = _
      rw [h.one t _ hw rfl]
    refine ⟨fun u v hv hdel => ?_, fun _ => congrArg Prod.fst hoverlaps, ?_⟩
    · change (m.workers.set t ⟨.unlocking, todo⟩)[u]? = some v at hv
      by_cases hu : t = u
      · subst hu
        rw [List.getElem?_set_self hlt, Option.some_inj] at hv
        rw [← hv] at hdel
        cases hdel
      · rw [List.getElem?_set_ne hu] at hv
        exact absurd (hholds rfl hv hdel) hu
    · rw [hoverlaps]
      exact h.most
  | answer todo | skip build todo absent | fail l crash todo | unlock todo =>
    refine h.move hw rfl ?_ rfl rfl
    rw [overlaps_note]
    rfl
  | _ => exact h.move hw rfl rfl rfl rfl

theorem start (c : Channel) (programs : List (List ChannelOp)) :
    Apart (SharedChannel.start c programs) := by
  refine ⟨fun u v hv hdel => ?_, fun _ => rfl, Nat.zero_le 1⟩
  simp only [SharedChannel.start, List.getElem?_map, Option.map_eq_some_iff] at hv
  obtain ⟨todo, _, rfl⟩ := hv
  cases hdel

end Apart

end SharedChannel

end MipDispatch
