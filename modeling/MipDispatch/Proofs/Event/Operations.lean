import MipDispatch.Event.SharedChannel
import Mathlib.Data.List.Induction
import Mathlib.Data.List.Nodup

namespace MipDispatch

namespace Moment

def thread : Moment → Nat
  | began t _ | answered t _ | built t _ | deliveryBegan t .. | deliveryEnded t .. | ended t => t

def opens : Moment → Bool
  | began .. => true
  | _ => false

def closes : Moment → Bool
  | answered .. | ended _ => true
  | _ => false

def delivery? : Moment → Option (Listener × Event)
  | deliveryBegan _ l e => some (l, e)
  | _ => none

def delivers (x : Moment) : Bool := x.delivery?.isSome

end Moment

/-- An operation as far as it has come, with the places in the history. -/
structure Operation where
  thread : Nat
  op : ChannelOp
  start : Nat
  /-- What happened on its thread since it began. -/
  seen : List (Nat × Moment)
  stop : Option Nat

namespace Operation

def observe (x : Moment) (place : Nat) (o : Operation) : Operation :=
  if o.thread = x.thread ∧ o.stop = none then
    { o with seen := o.seen ++ [(place, x)], stop := if x.closes then some place else none }
  else o

def moments (o : Operation) : List Moment := o.seen.map Prod.snd

def deliveries (o : Operation) : List (Listener × Event) := o.moments.filterMap Moment.delivery?

/-- The first operation began, and made its deliveries, before the second one ended. -/
def MayPrecede (a b : Operation) : Prop :=
  ∀ s, b.stop = some s → a.start < s ∧ ∀ y ∈ a.seen, y.2.delivers = true → y.1 < s

variable {o : Operation} {x : Moment} {place : Nat}

theorem observe_pending (hthread : o.thread = x.thread) (hstop : o.stop = none) :
    o.observe x place =
      { o with seen := o.seen ++ [(place, x)], stop := if x.closes then some place else none } :=
  if_pos ⟨hthread, hstop⟩

theorem observe_other (h : ¬ (o.thread = x.thread ∧ o.stop = none)) : o.observe x place = o :=
  if_neg h

@[simp] theorem observe_thread (o : Operation) (x : Moment) (place : Nat) :
    (o.observe x place).thread = o.thread := by
  unfold observe
  split <;> rfl

@[simp] theorem observe_op (o : Operation) (x : Moment) (place : Nat) :
    (o.observe x place).op = o.op := by
  unfold observe
  split <;> rfl

@[simp] theorem observe_start (o : Operation) (x : Moment) (place : Nat) :
    (o.observe x place).start = o.start := by
  unfold observe
  split <;> rfl

theorem observe_stop_eq_none : (o.observe x place).stop = none ↔
    o.stop = none ∧ (o.thread = x.thread → x.closes = false) := by
  by_cases h : o.thread = x.thread ∧ o.stop = none
  · rw [observe_pending h.1 h.2]
    cases hx : x.closes <;> simp [h.1, h.2]
  · rw [observe_other h]
    exact ⟨fun hs => ⟨hs, fun ht => absurd ⟨ht, hs⟩ h⟩, And.left⟩

theorem mem_observe_seen {y : Nat × Moment} (hy : y ∈ (o.observe x place).seen) :
    y ∈ o.seen ∨ y = (place, x) := by
  unfold observe at hy
  split at hy
  · simpa using hy
  · exact .inl hy

theorem seen_subset_observe : o.seen ⊆ (o.observe x place).seen := by
  unfold observe
  split
  · exact List.subset_append_left ..
  · exact fun _ => id

/-- What happens later does not change which operation may precede which, if only the last one of
all makes a delivery. -/
theorem MayPrecede.observe {a b : Operation} (h : a.MayPrecede b) (hstart : a.start < place)
    (hseen : ∀ y ∈ a.seen, y.1 < place)
    (hx : x.delivers = true → ¬ (a.thread = x.thread ∧ a.stop = none)) :
    (a.observe x place).MayPrecede (b.observe x place) := by
  have hmem {y : Nat × Moment} (hy : y ∈ (a.observe x place).seen) (hdel : y.2.delivers = true) :
      y ∈ a.seen := by
    by_cases hxd : x.delivers = true
    · rwa [observe_other (hx hxd)] at hy
    · rcases mem_observe_seen hy with hy | rfl
      · exact hy
      · exact absurd hdel hxd
  intro s hs
  rw [observe_start]
  have hcases : b.stop = some s ∨ s = place := by
    unfold Operation.observe at hs
    split at hs
    · split at hs
      · exact .inr (Option.some_inj.1 hs).symm
      · cases hs
    · exact .inl hs
  rcases hcases with hb | rfl
  · exact ⟨(h s hb).1, fun y hy hdel => (h s hb).2 y (hmem hy hdel) hdel⟩
  · exact ⟨hstart, fun y hy hdel => hseen y (hmem hy hdel)⟩

end Operation

/-- The operations that began, in the order in which they began, from what happened, the latest
first. -/
def operations : List Moment → List Operation
  | [] => []
  | .began t op :: h => operations h ++ [⟨t, op, h.length, [], none⟩]
  | x :: h => (operations h).map (·.observe x h.length)

section Operations

variable {h : List Moment} {x : Moment}

theorem operations_note (hx : x.opens = false) (h : List Moment) :
    operations (x :: h) = (operations h).map (·.observe x h.length) := by
  cases x <;> first | rfl | cases hx

theorem of_mem_operations {o : Operation} (ho : o ∈ operations (x :: h)) :
    (∃ o' ∈ operations h, o = o' ∨ o = o'.observe x h.length) ∨
      o.start = h.length ∧ o.seen = [] := by
  cases hx : x.opens with
  | true =>
    cases x with
    | began t op =>
      rcases List.mem_append.1 ho with ho | ho
      · exact .inl ⟨o, ho, .inl rfl⟩
      · rw [List.mem_singleton.1 ho]
        exact .inr ⟨rfl, rfl⟩
    | _ => cases hx
  | false =>
    rw [operations_note hx] at ho
    obtain ⟨o', ho', rfl⟩ := List.mem_map.1 ho
    exact .inl ⟨o', ho', .inr rfl⟩

theorem start_lt (h : List Moment) : ∀ o ∈ operations h, o.start < h.length := by
  induction h with
  | nil => exact fun o ho => (by cases ho)
  | cons x h ih =>
    intro o ho
    rw [List.length_cons]
    rcases of_mem_operations ho with ⟨o', ho', rfl | rfl⟩ | ⟨hstart, _⟩
    · have hlt := ih o ho'
      omega
    · have hlt := ih o' ho'
      rw [Operation.observe_start]
      omega
    · omega

theorem place_lt (h : List Moment) : ∀ o ∈ operations h, ∀ y ∈ o.seen, y.1 < h.length := by
  induction h with
  | nil => exact fun o ho => (by cases ho)
  | cons x h ih =>
    intro o ho y hy
    rw [List.length_cons]
    rcases of_mem_operations ho with ⟨o', ho', rfl | rfl⟩ | ⟨_, hseen⟩
    · have hlt := ih o ho' y hy
      omega
    · rcases Operation.mem_observe_seen hy with hy | rfl
      · have hlt := ih o' ho' y hy
        omega
      · omega
    · rw [hseen] at hy
      cases hy

theorem map_start_observe (os : List Operation) (x : Moment) (place : Nat) :
    (os.map (·.observe x place)).map (·.start) = os.map (·.start) := by
  simp

/-- No two operations begin at the same place. -/
theorem starts_nodup (h : List Moment) : ((operations h).map (·.start)).Nodup := by
  induction h with
  | nil => exact List.nodup_nil
  | cons x h ih =>
    cases hx : x.opens with
    | true =>
      cases x with
      | began t op =>
        have hfresh : h.length ∉ (operations h).map (·.start) := by
          intro hmem
          obtain ⟨o, ho, heq⟩ := List.mem_map.1 hmem
          have hlt := start_lt h o ho
          omega
        rw [operations, List.map_append]
        exact ih.append (List.nodup_singleton _) (by simpa using hfresh)
      | _ => cases hx
    | false =>
      rw [operations_note hx, map_start_observe]
      exact ih

theorem eq_of_start {a b : Operation} (ha : a ∈ operations h) (hb : b ∈ operations h)
    (hstart : a.start = b.start) : a = b :=
  List.inj_on_of_nodup_map (starts_nodup h) ha hb hstart

end Operations

namespace Channel

def after (c : Channel) : ChannelOp → Channel
  | .listen l => c.listen l
  | .ask | .publish _ => c

def course (c : Channel) (t : Nat) : ChannelOp → List Moment
  | .listen _ => [.ended t]
  | .ask => [.answered t c.hasListener]
  | .publish build =>
    match (if c.present then c.listener else none), build with
    | none, _ => [.ended t]
    | some _, .error crash => [.built t (.error crash), .ended t]
    | some l, .ok e => [.built t (.ok e), .deliveryBegan t l e, .deliveryEnded t l e, .ended t]

theorem course_publish_of_none {c : Channel} (hlistener : c.listener = none) (t : Nat)
    (build : Except Crash Event) : c.course t (.publish build) = [.ended t] := by
  simp [course, hlistener]

theorem course_publish_of_some {c : Channel} (hc : c.Consistent) {l : Listener}
    (hlistener : c.listener = some l) (t : Nat) (build : Except Crash Event) :
    c.course t (.publish build) = match build with
      | .error crash => [.built t (.error crash), .ended t]
      | .ok e => [.built t (.ok e), .deliveryBegan t l e, .deliveryEnded t l e, .ended t] := by
  have hpresent : c.present = true := by
    rw [hc, hlistener]
    rfl
  cases build <;> simp [course, hlistener, hpresent]

theorem course_ne_nil (c : Channel) (t : Nat) (op : ChannelOp) : c.course t op ≠ [] := by
  cases op with
  | publish build =>
    dsimp only [course]
    split <;> exact List.cons_ne_nil _ _
  | _ => exact List.cons_ne_nil _ _

theorem deliveries_course (c : Channel) (t : Nat) (op : ChannelOp) :
    ((c.course t op).filterMap Moment.delivery?).length ≤ 1 := by
  cases op with
  | publish build =>
    dsimp only [course]
    split
    · exact Nat.zero_le 1
    · exact Nat.zero_le 1
    · exact Nat.le_refl 1
  | _ => exact Nat.zero_le 1

/-- A delivery is the publication of an event, to the listener in place. -/
theorem of_deliveryBegan_mem_course {c : Channel} {t u : Nat} {op : ChannelOp} {l : Listener}
    {e : Event} (h : .deliveryBegan u l e ∈ c.course t op) :
    op = .publish (.ok e) ∧ c.listener = some l := by
  cases op with
  | publish build =>
    dsimp only [course] at h
    split at h
    · simp at h
    · simp at h
    · rename_i l' e' hlistener
      have hsame : u = t ∧ l = l' ∧ e = e' := by simpa using h
      rw [hsame.2.1, hsame.2.2]
      refine ⟨rfl, ?_⟩
      split at hlistener
      · exact hlistener
      · cases hlistener
  | _ => simp [course] at h

/-- The deliveries of a publication on the channel alone are those of `publishWith`. -/
theorem course_publish (c : Channel) (t : Nat) (build : Except Crash Event) :
    ((c.course t (.publish build)).filterMap Moment.delivery?).flatMap (fun d => deliver d.1 d.2) =
      (c.publishWith fun _ => build).trace := by
  unfold course publishWith
  cases c.present with
  | false => rfl
  | true =>
    cases c.listener with
    | none => rfl
    | some l =>
      cases build with
      | error crash => rfl
      | ok e => exact List.append_nil _

end Channel

/-- Each operation takes the course that it takes alone on the channel that those before it leave,
`ahead` being what is still to come of those under way. -/
def Follows (ahead : Nat → List Moment) : Channel → List Operation → Prop
  | _, [] => True
  | c, o :: os =>
    o.moments ++ (if o.stop = none then ahead o.thread else []) = c.course o.thread o.op ∧
      Follows ahead (c.after o.op) os

def Channel.afterAll (c : Channel) (os : List Operation) : Channel :=
  os.foldl (fun c o => c.after o.op) c

section Follows

variable {ahead ahead' : Nat → List Moment}

theorem follows_append {c : Channel} {xs ys : List Operation} :
    Follows ahead c (xs ++ ys) ↔ Follows ahead c xs ∧ Follows ahead (c.afterAll xs) ys := by
  induction xs generalizing c with
  | nil => exact (iff_of_eq (true_and _)).symm
  | cons x xs ih =>
    rw [List.cons_append, Follows, Follows, ih, and_assoc]
    rfl

theorem Follows.map {f : Operation → Operation} {c : Channel} {os : List Operation}
    (h : Follows ahead c os)
    (hf : ∀ o ∈ os, (f o).thread = o.thread ∧ (f o).op = o.op ∧
      (f o).moments ++ (if (f o).stop = none then ahead' (f o).thread else []) =
        o.moments ++ if o.stop = none then ahead o.thread else []) :
    Follows ahead' c (os.map f) := by
  induction os generalizing c with
  | nil => trivial
  | cons o os ih =>
    obtain ⟨hthread, hop, hcourse⟩ := hf o (List.mem_cons_self ..)
    rw [List.map_cons, Follows, hcourse, hthread, hop]
    exact ⟨h.1, ih h.2 fun o' ho' => hf o' (List.mem_cons_of_mem _ ho')⟩

theorem Follows.congr {c : Channel} {os : List Operation} (h : Follows ahead c os)
    (hahead : ∀ o ∈ os, o.stop = none → ahead' o.thread = ahead o.thread) :
    Follows ahead' c os := by
  rw [← List.map_id os]
  refine h.map fun o ho => ⟨rfl, rfl, ?_⟩
  by_cases hstop : o.stop = none
  · simp [hahead o ho hstop]
  · simp [hstop]

theorem Channel.afterAll_append (c : Channel) (xs ys : List Operation) :
    c.afterAll (xs ++ ys) = (c.afterAll xs).afterAll ys := List.foldl_append ..

theorem Channel.afterAll_concat (c : Channel) (os : List Operation) (o : Operation) :
    c.afterAll (os ++ [o]) = (c.afterAll os).after o.op := Channel.afterAll_append ..

theorem Channel.afterAll_observe (c : Channel) (os : List Operation) (x : Moment) (place : Nat) :
    c.afterAll (os.map (·.observe x place)) = c.afterAll os := by
  unfold Channel.afterAll
  rw [List.foldl_map]
  simp

/-- The listener in the end was there before, or was set by one of the operations. -/
theorem Channel.afterAll_listener (c : Channel) (os : List Operation) :
    (c.afterAll os).listener = c.listener ∨ ∃ r ∈ os, r.op = .listen (c.afterAll os).listener := by
  induction os using List.reverseRecOn with
  | nil => exact .inl rfl
  | append_singleton os o ih =>
    rw [Channel.afterAll_concat]
    have hkept (heq : (c.afterAll os).after o.op = c.afterAll os) :
        ((c.afterAll os).after o.op).listener = c.listener ∨
          ∃ r ∈ os ++ [o], r.op = .listen ((c.afterAll os).after o.op).listener := by
      rw [heq]
      exact ih.imp_right fun ⟨r, hr, hop⟩ => ⟨r, List.mem_append_left _ hr, hop⟩
    cases hop : o.op with
    | listen l => exact .inr ⟨o, List.mem_append_right _ (List.mem_singleton_self o), hop⟩
    | ask =>
      rw [hop] at hkept
      exact hkept rfl
    | publish build =>
      rw [hop] at hkept
      exact hkept rfl

theorem Channel.afterAll_eq_self {c : Channel} {os : List Operation}
    (hos : ∀ r ∈ os, ∀ l, r.op ≠ .listen l) : c.afterAll os = c := by
  induction os using List.reverseRecOn with
  | nil => rfl
  | append_singleton os o ih =>
    rw [Channel.afterAll_concat, ih fun r hr => hos r (List.mem_append_left _ hr)]
    have ho := hos o (List.mem_append_right _ (List.mem_singleton_self o))
    cases hop : o.op with
    | listen l => exact absurd hop (ho l)
    | _ => rfl

/-- How one of the operations went, as far as it came. -/
theorem Follows.course_at {c : Channel} {xs ys : List Operation} {o : Operation}
    (h : Follows ahead c (xs ++ o :: ys)) :
    ∃ rest, o.moments ++ rest = (c.afterAll xs).course o.thread o.op ∧
      (o.stop ≠ none → rest = []) :=
  ⟨_, (follows_append.1 h).2.1, fun hstop => if_neg hstop⟩

end Follows

/-- The operations in an order in which they might have been made one after the other, which agrees
with the times at which they began and ended. Those that are still under way may be left out, if
nothing was seen of them. -/
structure Linearizes (c : Channel) (os order : List Operation) : Prop where
  nodup : order.Nodup
  subset : order ⊆ os
  complete : ∀ o ∈ os, o.stop ≠ none → o ∈ order
  unseen : ∀ o ∈ os, o ∉ order → o.seen = []
  mayPrecede : order.Pairwise Operation.MayPrecede
  follows : ∃ ahead, Follows ahead c order

namespace Linearizes

variable {c : Channel} {os order : List Operation} {a b o : Operation}

/-- An operation makes at most one delivery. -/
theorem deliveries_le_one (h : Linearizes c os order) (ho : o ∈ os) :
    o.deliveries.length ≤ 1 := by
  by_cases hmem : o ∈ order
  · obtain ⟨xs, ys, rfl⟩ := List.append_of_mem hmem
    obtain ⟨ahead, hfollows⟩ := h.follows
    obtain ⟨rest, hcourse, _⟩ := hfollows.course_at
    have hone := Channel.deliveries_course (c.afterAll xs) o.thread o.op
    rw [← hcourse, List.filterMap_append, List.length_append] at hone
    change (o.moments.filterMap Moment.delivery?).length ≤ 1
    omega
  · rw [Operation.deliveries, Operation.moments, h.unseen o ho hmem]
    exact Nat.zero_le 1

/-- What may not come after another operation comes before it. -/
theorem mem_of_not_mayPrecede {xs ys : List Operation} (h : Linearizes c os (xs ++ b :: ys))
    (ha : a ∈ xs ++ b :: ys) (hne : a ≠ b) (hnot : ¬ b.MayPrecede a) : a ∈ xs := by
  rcases List.mem_append.1 ha with ha | ha
  · exact ha
  rcases List.mem_cons.1 ha with ha | ha
  · exact absurd ha hne
  have hpairs := (List.pairwise_append.1 h.mayPrecede).2.1
  exact absurd (List.rel_of_pairwise_cons hpairs ha) hnot

/-- A delivery that begins after a listener was set is to that listener or to one that was set
later. -/
theorem of_delivery (h : Linearizes c os order) (hb : b ∈ order) {place t : Nat} {l : Listener}
    {e : Event} (hseen : (place, .deliveryBegan t l e) ∈ b.seen) (ho : o ∈ order)
    {x : Option Listener} (hop : o.op = .listen x) {stop : Nat} (hstop : o.stop = some stop)
    (hlt : stop < place) :
    x = some l ∧ [o, b].Sublist order ∨
      ∃ r, r.op = .listen (some l) ∧ [o, r, b].Sublist order := by
  obtain ⟨xs, ys, rfl⟩ := List.append_of_mem hb
  obtain ⟨ahead, hfollows⟩ := h.follows
  obtain ⟨rest, hcourse, _⟩ := hfollows.course_at
  have hmem : .deliveryBegan t l e ∈ (c.afterAll xs).course b.thread b.op := by
    rw [← hcourse]
    exact List.mem_append_left _ (List.mem_map_of_mem hseen)
  obtain ⟨hpublish, hlistener⟩ := Channel.of_deliveryBegan_mem_course hmem
  have hne : o ≠ b := by
    rintro rfl
    rw [hop] at hpublish
    cases hpublish
  have hnot : ¬ b.MayPrecede o := by
    intro hbo
    have hbefore : place < stop := (hbo stop hstop).2 _ hseen rfl
    omega
  obtain ⟨ks, ms, rfl⟩ := List.append_of_mem (h.mem_of_not_mayPrecede ho hne hnot)
  have hleft : c.afterAll (ks ++ o :: ms) = ((c.afterAll ks).listen x).afterAll ms := by
    rw [Channel.afterAll_append]
    exact congrArg (fun op => ((c.afterAll ks).after op).afterAll ms) hop
  rw [hleft] at hlistener
  have hlast : [b].Sublist (b :: ys) := List.singleton_sublist.2 (List.mem_cons_self ..)
  -- the listener in place is the one set by `o`, or the last one set since
  rcases Channel.afterAll_listener ((c.afterAll ks).listen x) ms with hsame | ⟨r, hr, hrop⟩
  · have hfirst : [o].Sublist (ks ++ o :: ms) := List.singleton_sublist.2 (by simp)
    exact .inl ⟨hsame.symm.trans hlistener, hfirst.append hlast⟩
  · have htail : [o, r].Sublist (o :: ms) := (List.singleton_sublist.2 hr).cons_cons o
    have hfirst : [o, r].Sublist (ks ++ o :: ms) := htail.trans (List.sublist_append_right ..)
    exact .inr ⟨r, hlistener ▸ hrop, hfirst.append hlast⟩

/-- A publication that begins after a listener was set delivers its event to that listener, unless
another one is set or it is removed in the meantime. -/
theorem deliveries_eq (h : Linearizes c os order) {x : Listener} {start stop : Nat} (ho : o ∈ os)
    (hop : o.op = .listen (some x)) (hostop : o.stop = some start) {e : Event}
    (hb : b ∈ os) (hpublish : b.op = .publish (.ok e)) (hbegan : start < b.start)
    (hbstop : b.stop = some stop)
    (halone : ∀ r ∈ os, ∀ l, r.op = .listen l → r ≠ o →
      (∃ p, r.stop = some p ∧ p < o.start) ∨ stop < r.start) :
    b.deliveries = [(x, e)] := by
  have hborder : b ∈ order := h.complete b hb (by simp [hbstop])
  have hoorder : o ∈ order := h.complete o ho (by simp [hostop])
  obtain ⟨xs, ys, rfl⟩ := List.append_of_mem hborder
  have hne : o ≠ b := by
    rintro rfl
    rw [hop] at hpublish
    cases hpublish
  have hnot : ¬ b.MayPrecede o := by
    intro hbo
    have hbefore : b.start < start := (hbo start hostop).1
    omega
  obtain ⟨ks, ms, rfl⟩ := List.append_of_mem (h.mem_of_not_mayPrecede hoorder hne hnot)
  obtain ⟨hpairs, _, hcross⟩ := List.pairwise_append.1 h.mayPrecede
  have hquiet (r : Operation) (hr : r ∈ ms) (l : Option Listener) : r.op ≠ .listen l := by
    intro hrop
    have hmem : r ∈ ks ++ o :: ms := by simp [hr]
    have hro : r ≠ o := by
      rintro rfl
      have hnodup := (List.nodup_append.1 (List.nodup_append.1 h.nodup).1).2.1
      exact (List.nodup_cons.1 hnodup).1 hr
    have hor : o.MayPrecede r := List.rel_of_pairwise_cons (List.pairwise_append.1 hpairs).2.1 hr
    have hrb : r.MayPrecede b := hcross r hmem b (List.mem_cons_self ..)
    -- being in between, it neither ended before `o` began nor began after `b` ended
    rcases halone r (h.subset (List.mem_append_left _ hmem)) l hrop hro with ⟨p, hp, hlt⟩ | hlt
    · have hbefore : o.start < p := (hor p hp).1
      omega
    · have hbefore : r.start < stop := (hrb stop hbstop).1
      omega
  have hleft : c.afterAll (ks ++ o :: ms) = (c.afterAll ks).listen (some x) := by
    rw [Channel.afterAll_append]
    change ((c.afterAll ks).after o.op).afterAll ms = _
    rw [hop, Channel.afterAll_eq_self hquiet]
    rfl
  obtain ⟨ahead, hfollows⟩ := h.follows
  obtain ⟨rest, hcourse, hrest⟩ := hfollows.course_at
  rw [hrest (by simp [hbstop]), List.append_nil, hleft, hpublish,
    Channel.course_publish_of_some (Channel.listen_consistent ..) rfl] at hcourse
  rw [Operation.deliveries, hcourse]
  rfl

end Linearizes

end MipDispatch
