import MipDispatch.Proofs.Event.Operations
import Mathlib.Logic.Function.Basic

namespace MipDispatch

/-- How far a thread has come with its operation: it is to be settled, or what remains is known. -/
inductive Phase where
  | opened (op : ChannelOp)
  | settled (ahead : List Moment)

namespace Phase

def ahead : Phase → List Moment
  | opened _ => []
  | settled ahead => ahead

def isSettled : Phase → Bool
  | opened _ => false
  | settled _ => true

end Phase

def Pending (h : List Moment) (t : Nat) (o : Operation) : Prop :=
  o ∈ operations h ∧ o.thread = t ∧ o.stop = none

structure Next (phase : Nat → Phase) (t : Nat) (x : Moment) (ahead : List Moment) : Prop where
  phase_eq : phase t = .settled (x :: ahead)
  thread : x.thread = t
  opens : x.opens = false
  closes : x.closes = true ↔ ahead = []

variable {c : Channel} {h : List Moment} {phase : Nat → Phase} {order : List Operation} {t u : Nat}
  {x : Moment} {ahead : List Moment} {op : ChannelOp} {o : Operation}

theorem pending_began :
    Pending (.began t op :: h) u o ↔ Pending h u o ∨ o = ⟨t, op, h.length, [], none⟩ ∧ u = t := by
  unfold Pending
  rw [operations, List.mem_append, List.mem_singleton]
  constructor
  · rintro ⟨ho | rfl, hrest⟩
    · exact .inl ⟨ho, hrest⟩
    · exact .inr ⟨rfl, hrest.1.symm⟩
  · rintro (⟨ho, hrest⟩ | ⟨rfl, rfl⟩)
    · exact ⟨.inl ho, hrest⟩
    · exact ⟨.inr rfl, rfl, rfl⟩

theorem pending_note (hx : x.opens = false) {o' : Operation} :
    Pending (x :: h) u o' ↔
      ∃ o, Pending h u o ∧ (u = x.thread → x.closes = false) ∧ o.observe x h.length = o' := by
  unfold Pending
  rw [operations_note hx, List.mem_map]
  constructor
  · rintro ⟨⟨o, ho, rfl⟩, hthread, hstop⟩
    rw [Operation.observe_thread] at hthread
    obtain ⟨hnone, hcloses⟩ := Operation.observe_stop_eq_none.1 hstop
    exact ⟨o, ⟨ho, hthread, hnone⟩, hthread ▸ hcloses, rfl⟩
  · rintro ⟨o, ⟨ho, rfl, hnone⟩, hcloses, rfl⟩
    exact ⟨⟨o, ho, rfl⟩, Operation.observe_thread ..,
      Operation.observe_stop_eq_none.2 ⟨hnone, hcloses⟩⟩

theorem Next.observe_other (n : Next phase t x ahead) (ho : o.thread ≠ t) (place : Nat) :
    o.observe x place = o :=
  Operation.observe_other fun hc => ho (hc.1.trans n.thread)

theorem Next.pending_other (n : Next phase t x ahead) (hu : u ≠ t) :
    Pending (x :: h) u o ↔ Pending h u o := by
  rw [pending_note n.opens]
  constructor
  · rintro ⟨o, ho, _, rfl⟩
    rwa [n.observe_other (ho.2.1 ▸ hu)]
  · intro ho
    exact ⟨o, ho, fun hx => absurd (hx.trans n.thread) hu, n.observe_other (ho.2.1 ▸ hu) _⟩

/-- What happens next takes the place behind everything before. -/
theorem of_getElem?_reverse_cons {y : Moment} {place : Nat}
    (hy : (x :: h).reverse[place]? = some y) :
    h.reverse[place]? = some y ∨ place = h.length ∧ y = x := by
  rw [List.reverse_cons, List.getElem?_append, List.length_reverse] at hy
  split at hy
  · exact .inl hy
  · obtain ⟨hlt, heq⟩ := List.getElem?_eq_some_iff.1 hy
    rw [List.length_singleton] at hlt
    refine .inr ⟨by omega, ?_⟩
    rw [← heq, List.getElem_singleton]

/-- The phases of the threads are those of their operations, and everything that happened is seen of
some operation. -/
structure Tracked (h : List Moment) (phase : Nat → Phase) : Prop where
  opened : ∀ (t : Nat) (op : ChannelOp), phase t = .opened op →
    ∃ o, o.op = op ∧ o.seen = [] ∧ ∀ o', Pending h t o' ↔ o' = o
  settled : ∀ (t : Nat) (ahead : List Moment), phase t = .settled ahead →
    (ahead ≠ [] ↔ ∃ o, Pending h t o)
  recorded : ∀ (place : Nat) (x : Moment), h.reverse[place]? = some x → x.opens = false →
    ∃ o ∈ operations h, (place, x) ∈ o.seen

namespace Tracked

theorem nothing : Tracked [] fun _ => .settled [] where
  opened t op hp := by cases hp
  settled t ahead hp := by
    cases hp
    exact iff_of_false (fun hne => hne rfl) fun ⟨o, ho⟩ => by cases ho.1
  recorded place x hx := by cases hx

theorem not_pending (s : Tracked h phase) (hphase : phase t = .settled []) (o : Operation) :
    ¬ Pending h t o := fun ho => (s.settled t [] hphase).2 ⟨o, ho⟩ rfl

theorem begin (s : Tracked h phase) (hphase : phase t = .settled []) (op : ChannelOp) :
    Tracked (.began t op :: h) (Function.update phase t (.opened op)) := by
  have hnone := s.not_pending hphase
  refine ⟨fun u op' hu => ?_, fun u ahead hu => ?_, fun place x hx hopens => ?_⟩
  · by_cases hut : u = t
    · subst hut
      rw [Function.update_self, Phase.opened.injEq] at hu
      refine ⟨⟨u, op, h.length, [], none⟩, hu, rfl, fun o' => ?_⟩
      rw [pending_began, or_iff_right (hnone o'), and_iff_left rfl]
    · rw [Function.update_of_ne hut] at hu
      obtain ⟨o, hop, hseen, ho⟩ := s.opened u op' hu
      refine ⟨o, hop, hseen, fun o' => ?_⟩
      rw [pending_began, or_iff_left fun hc => hut hc.2, ho]
  · by_cases hut : u = t
    · subst hut
      rw [Function.update_self] at hu
      cases hu
    · rw [Function.update_of_ne hut] at hu
      simp only [pending_began, hut, and_false, or_false]
      exact s.settled u ahead hu
  · rcases of_getElem?_reverse_cons hx with hx | ⟨_, rfl⟩
    · obtain ⟨o, ho, hseen⟩ := s.recorded place x hx hopens
      exact ⟨o, List.mem_append_left _ ho, hseen⟩
    · cases hopens

theorem settle (s : Tracked h phase) (hphase : phase t = .opened op) (hahead : ahead ≠ []) :
    Tracked h (Function.update phase t (.settled ahead)) := by
  refine ⟨fun u op' hu => ?_, fun u ahead' hu => ?_, s.recorded⟩
  · by_cases hut : u = t
    · subst hut
      rw [Function.update_self] at hu
      cases hu
    · rw [Function.update_of_ne hut] at hu
      exact s.opened u op' hu
  · by_cases hut : u = t
    · subst hut
      rw [Function.update_self, Phase.settled.injEq] at hu
      obtain ⟨o, _, _, ho⟩ := s.opened u op hphase
      exact iff_of_true (hu ▸ hahead) ⟨o, (ho o).2 rfl⟩
    · rw [Function.update_of_ne hut] at hu
      exact s.settled u ahead' hu

theorem note (s : Tracked h phase) (n : Next phase t x ahead) :
    Tracked (x :: h) (Function.update phase t (.settled ahead)) := by
  obtain ⟨o, ho⟩ := (s.settled t _ n.phase_eq).1 (List.cons_ne_nil _ _)
  refine ⟨fun u op hu => ?_, fun u ahead' hu => ?_, fun place y hy hopens => ?_⟩
  · by_cases hut : u = t
    · subst hut
      rw [Function.update_self] at hu
      cases hu
    · rw [Function.update_of_ne hut] at hu
      obtain ⟨o', hop, hseen, ho'⟩ := s.opened u op hu
      exact ⟨o', hop, hseen, fun o => (n.pending_other hut).trans (ho' o)⟩
  · by_cases hut : u = t
    · subst hut
      rw [Function.update_self, Phase.settled.injEq] at hu
      -- Its operation goes on just if this moment does not close it.
      rw [← hu, ne_eq, ← n.closes]
      constructor
      · intro hno
        exact ⟨_, (pending_note n.opens).2 ⟨o, ho, fun _ => Bool.eq_false_iff.2 hno, rfl⟩⟩
      · rintro ⟨o', ho'⟩
        obtain ⟨_, _, hno, _⟩ := (pending_note n.opens).1 ho'
        exact Bool.eq_false_iff.1 (hno n.thread.symm)
    · rw [Function.update_of_ne hut] at hu
      rw [s.settled u ahead' hu]
      exact exists_congr fun o' => (n.pending_other hut).symm
  · rw [operations_note n.opens]
    -- What happened before was seen by some operation then; what happens now is seen by the one
    -- that the thread has under way.
    rcases of_getElem?_reverse_cons hy with hy | ⟨rfl, rfl⟩
    · obtain ⟨o', ho', hseen⟩ := s.recorded place y hy hopens
      exact ⟨_, List.mem_map_of_mem ho', Operation.seen_subset_observe hseen⟩
    · refine ⟨_, List.mem_map_of_mem ho.1, ?_⟩
      rw [Operation.observe_pending (ho.2.1.trans n.thread.symm) ho.2.2]
      exact List.mem_append_right _ (List.mem_singleton_self _)

end Tracked

/-- The operations that are settled, in the order in which they were settled. -/
structure Serial (c : Channel) (h : List Moment) (phase : Nat → Phase) (order : List Operation) :
    Prop where
  tracked : Tracked h phase
  mem_iff : ∀ o : Operation, o ∈ order ↔
    o ∈ operations h ∧ (o.stop = none → (phase o.thread).isSettled = true)
  distinct : (order.map (·.start)).Nodup
  follows : Follows (fun t => (phase t).ahead) c order
  mayPrecede : order.Pairwise Operation.MayPrecede

namespace Serial

theorem nothing (c : Channel) : Serial c [] (fun _ => .settled []) [] where
  tracked := .nothing
  mem_iff o := iff_of_false List.not_mem_nil fun ho => by cases ho.1
  distinct := List.nodup_nil
  follows := trivial
  mayPrecede := .nil

theorem begin (s : Serial c h phase order) (hphase : phase t = .settled []) (op : ChannelOp) :
    Serial c (.began t op :: h) (Function.update phase t (.opened op)) order := by
  have hnone := s.tracked.not_pending hphase
  refine ⟨s.tracked.begin hphase op, fun o => ?_, s.distinct, ?_, s.mayPrecede⟩
  · rw [s.mem_iff]
    constructor
    · rintro ⟨ho, hsettled⟩
      refine ⟨List.mem_append_left _ ho, fun hstop => ?_⟩
      have hot : o.thread ≠ t := fun hot => hnone o ⟨ho, hot, hstop⟩
      rw [Function.update_of_ne hot]
      exact hsettled hstop
    · rintro ⟨ho, hsettled⟩
      rcases List.mem_append.1 ho with ho | ho
      · refine ⟨ho, fun hstop => ?_⟩
        have hot : o.thread ≠ t := fun hot => hnone o ⟨ho, hot, hstop⟩
        have hs := hsettled hstop
        rwa [Function.update_of_ne hot] at hs
      · rw [List.mem_singleton.1 ho] at hsettled
        have hs := hsettled rfl
        rw [Function.update_self] at hs
        cases hs
  · have hahead : (fun u => (Function.update phase t (.opened op) u).ahead) =
        fun u => (phase u).ahead := by
      funext u
      by_cases hut : u = t
      · subst hut
        rw [Function.update_self, hphase]
        rfl
      · rw [Function.update_of_ne hut]
    rw [hahead]
    exact s.follows

/-- An operation is settled. It is the last so far, and takes its course on the channel that the
others leave. -/
theorem settle (s : Serial c h phase order) (hphase : phase t = .opened op) :
    ∃ o, o.op = op ∧ (∀ a ∈ order, ¬ Pending h t a) ∧
      Serial c h (Function.update phase t (.settled ((c.afterAll order).course t op)))
        (order ++ [o]) := by
  obtain ⟨o, hop, hseen, hpending⟩ := s.tracked.opened t op hphase
  have ho : Pending h t o := (hpending o).2 rfl
  -- Those in the order that are still going on are settled, and this one is not, so it is new
  -- there.
  have hnot : o ∉ order := by
    rw [s.mem_iff, ho.2.1, hphase]
    exact fun hc => by cases hc.2 ho.2.2
  have hothers (a : Operation) (ha : a ∈ order) : ¬ Pending h t a := fun hp =>
    hnot ((hpending a).1 hp ▸ ha)
  refine ⟨o, hop, hothers, s.tracked.settle hphase (Channel.course_ne_nil _ _ _), fun o' => ?_,
    ?_, ?_, ?_⟩
  · rw [List.mem_append, List.mem_singleton, s.mem_iff]
    constructor
    · rintro (⟨ho', hsettled⟩ | rfl)
      · refine ⟨ho', fun hstop => ?_⟩
        by_cases hut : o'.thread = t
        · rw [hut, Function.update_self]
          rfl
        · rw [Function.update_of_ne hut]
          exact hsettled hstop
      · refine ⟨ho.1, fun _ => ?_⟩
        rw [ho.2.1, Function.update_self]
        rfl
    · rintro ⟨ho', hsettled⟩
      -- What this thread has under way is the operation that takes its place now.
      by_cases hot : o'.thread = t ∧ o'.stop = none
      · exact .inr ((hpending o').1 ⟨ho', hot⟩)
      · refine .inl ⟨ho', fun hstop => ?_⟩
        have hut : o'.thread ≠ t := fun hut => hot ⟨hut, hstop⟩
        have hs := hsettled hstop
        rwa [Function.update_of_ne hut] at hs
  · have hfresh : o.start ∉ order.map (·.start) := by
      intro hmem
      obtain ⟨o', ho', hstart⟩ := List.mem_map.1 hmem
      rw [eq_of_start ((s.mem_iff o').1 ho').1 ho.1 hstart] at ho'
      exact hnot ho'
    rw [List.map_append]
    exact s.distinct.append (List.nodup_singleton _) (by simpa using hfresh)
  · refine follows_append.2 ⟨s.follows.congr fun o' ho' hstop => ?_, ?_, trivial⟩
    · have hut : o'.thread ≠ t := fun hut =>
        hothers o' ho' ⟨((s.mem_iff o').1 ho').1, hut, hstop⟩
      rw [Function.update_of_ne hut]
    · dsimp only
      rw [Operation.moments, hseen, if_pos ho.2.2, ho.2.1, hop, Function.update_self]
      rfl
  -- It has not ended yet, so nothing has to come after it.
  · rw [List.pairwise_append]
    refine ⟨s.mayPrecede, List.pairwise_singleton _ _, fun a _ b hb p hp => ?_⟩
    rw [List.mem_singleton.1 hb, ho.2.2] at hp
    cases hp

theorem mem_note (s : Serial c h phase order) (n : Next phase t x ahead) (o' : Operation) :
    o' ∈ order.map (·.observe x h.length) ↔ o' ∈ operations (x :: h) ∧
      (o'.stop = none → (Function.update phase t (.settled ahead) o'.thread).isSettled = true) := by
  rw [operations_note n.opens, List.mem_map, List.mem_map]
  constructor
  · rintro ⟨o, ho, rfl⟩
    obtain ⟨hops, hsettled⟩ := (s.mem_iff o).1 ho
    refine ⟨⟨o, hops, rfl⟩, fun hstop => ?_⟩
    rw [Operation.observe_thread]
    by_cases hot : o.thread = t
    · rw [hot, Function.update_self]
      rfl
    · rw [Function.update_of_ne hot]
      exact hsettled (Operation.observe_stop_eq_none.1 hstop).1
  · rintro ⟨⟨o, hops, rfl⟩, hsettled⟩
    refine ⟨o, (s.mem_iff o).2 ⟨hops, fun hstop => ?_⟩, rfl⟩
    by_cases hot : o.thread = t
    · rw [hot, n.phase_eq]
      rfl
    · rw [n.observe_other hot, Function.update_of_ne hot] at hsettled
      exact hsettled hstop

theorem follows_note (s : Serial c h phase order) (n : Next phase t x ahead) :
    Follows (fun u => (Function.update phase t (.settled ahead) u).ahead) c
      (order.map (·.observe x h.length)) := by
  refine s.follows.map fun o _ => ⟨Operation.observe_thread .., Operation.observe_op .., ?_⟩
  rw [Operation.observe_thread]
  by_cases hot : o.thread = t
  · by_cases hstop : o.stop = none
    · rw [Operation.observe_pending (hot.trans n.thread.symm) hstop, hot, n.phase_eq,
        Function.update_self, if_pos hstop]
      -- what happened is the first of what was to come
      by_cases hno : ahead = []
      · simp [Operation.moments, n.closes.2 hno, hno, Phase.ahead]
      · simp [Operation.moments, mt n.closes.1 hno, Phase.ahead]
    · rw [Operation.observe_other fun hc => hstop hc.2, if_neg hstop, if_neg hstop]
  · rw [n.observe_other hot, Function.update_of_ne hot]

/-- Only the operation that was settled last may begin a delivery. -/
theorem mayPrecede_note (s : Serial c h phase order) (n : Next phase t x ahead)
    (hlast : x.delivers = true → ∃ os o, order = os ++ [o] ∧ ∀ a ∈ os, ¬ Pending h t a) :
    (order.map (·.observe x h.length)).Pairwise Operation.MayPrecede := by
  have hops {o : Operation} (ho : o ∈ order) : o ∈ operations h := ((s.mem_iff o).1 ho).1
  rw [List.pairwise_map]
  cases hdel : x.delivers with
  | true =>
    obtain ⟨os, o, rfl, hos⟩ := hlast hdel
    obtain ⟨hpairs, _, hends⟩ := List.pairwise_append.1 s.mayPrecede
    have hkeep {a b : Operation} (ha : a ∈ os) (hab : a.MayPrecede b) :
        (a.observe x h.length).MayPrecede (b.observe x h.length) := by
      have hmem := hops (List.mem_append_left _ ha)
      refine hab.observe (start_lt h a hmem) (place_lt h a hmem) fun _ hc => ?_
      exact hos a ha ⟨hmem, hc.1.trans n.thread, hc.2⟩
    rw [List.pairwise_append]
    refine ⟨hpairs.imp_of_mem fun ha _ => hkeep ha, List.pairwise_singleton _ _, ?_⟩
    exact fun a ha b hb => hkeep ha (hends a ha b hb)
  | false =>
    refine s.mayPrecede.imp_of_mem fun ha _ hab => ?_
    refine hab.observe (start_lt h _ (hops ha)) (place_lt h _ (hops ha)) fun hd => ?_
    rw [hdel] at hd
    cases hd

/-- The next thing in the course of a settled operation happens. A delivery begins before anything
else is settled. -/
theorem note (s : Serial c h phase order) (n : Next phase t x ahead)
    (hlast : x.delivers = true → ∃ os o, order = os ++ [o] ∧ ∀ a ∈ os, ¬ Pending h t a) :
    Serial c (x :: h) (Function.update phase t (.settled ahead))
      (order.map (·.observe x h.length)) where
  tracked := s.tracked.note n
  mem_iff := s.mem_note n
  distinct := map_start_observe order x h.length ▸ s.distinct
  follows := s.follows_note n
  mayPrecede := s.mayPrecede_note n hlast

/-- What happens does not open an operation again. -/
theorem not_pending_note (s : Serial c h phase order) (x : Moment) {os : List Operation}
    (hos : os ⊆ order) (hno : ∀ a ∈ os, ¬ Pending h t a) :
    ∀ a ∈ os.map (·.observe x h.length), ¬ Pending (x :: h) t a := by
  intro a' ha' hp
  obtain ⟨a, ha, rfl⟩ := List.mem_map.1 ha'
  have hops : a ∈ operations h := ((s.mem_iff a).1 (hos ha)).1
  have hthread : a.thread = t := (Operation.observe_thread ..).symm.trans hp.2.1
  exact hno a ha ⟨hops, hthread, (Operation.observe_stop_eq_none.1 hp.2.2).1⟩

/-- An operation is settled when the first thing in its course happens. -/
theorem settle_note (s : Serial c h phase order) (hphase : phase t = .opened op)
    (hcourse : (c.afterAll order).course t op = x :: ahead) (hthread : x.thread = t)
    (hx : x.opens = false) (hcloses : x.closes = true ↔ ahead = []) (hdel : x.delivers = false) :
    ∃ o : Operation, o.op = op ∧
      (∀ a ∈ order.map (·.observe x h.length), ¬ Pending (x :: h) t a) ∧
      Serial c (x :: h) (Function.update phase t (.settled ahead))
        ((order ++ [o]).map (·.observe x h.length)) := by
  obtain ⟨o, hop, hothers, s'⟩ := s.settle hphase
  rw [hcourse] at s'
  have hnote := s'.note ⟨Function.update_self .., hthread, hx, hcloses⟩ fun hd => by
    rw [hdel] at hd
    cases hd
  rw [Function.update_idem] at hnote
  exact ⟨o, hop, s'.not_pending_note x (List.subset_append_left ..) hothers, hnote⟩

theorem linearizes (s : Serial c h phase order) : Linearizes c (operations h) order where
  nodup := s.distinct.of_map
  subset o ho := ((s.mem_iff o).1 ho).1
  complete o ho hstop := (s.mem_iff o).2 ⟨ho, fun hn => absurd hn hstop⟩
  unseen o ho hno := by
    have hpending : o.stop = none ∧ (phase o.thread).isSettled ≠ true := by
      rw [s.mem_iff] at hno
      by_contra hc
      exact hno ⟨ho, fun hstop => not_not.1 fun hs => hc ⟨hstop, hs⟩⟩
    cases hphase : phase o.thread with
    | opened op =>
      obtain ⟨o', _, hseen, ho'⟩ := s.tracked.opened _ op hphase
      rw [(ho' o).1 ⟨ho, rfl, hpending.1⟩]
      exact hseen
    | settled ahead =>
      rw [hphase] at hpending
      exact absurd rfl hpending.2
  mayPrecede := s.mayPrecede
  follows := ⟨_, s.follows⟩

end Serial

end MipDispatch
