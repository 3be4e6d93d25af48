import MipDispatch.Event.Switchboard
import MipDispatch.Proofs.Event.Sequential
import Mathlib.Logic.Relation

namespace MipDispatch

inductive HandleCall where
  | connect
  | share (h : Nat)
  | use (h : Nat) (op : ChannelOp)

inductive HandleAnswer where
  | made (h : Nat)
  | listening
  | present (b : Bool)
  | published (p : Publication)

def HandleCall.handle? : HandleCall → Option Nat
  | .connect => none
  | .share h | .use h _ => some h

def HandleCall.origin? : HandleCall → Option (Option Nat)
  | .connect => some none
  | .share h => some (some h)
  | .use .. => none

namespace Switchboard

def serve (s : Switchboard) : HandleCall → HandleAnswer × Switchboard
  | .connect => (.made s.connect.1, s.connect.2)
  | .share h => (.made (s.share h).1, (s.share h).2)
  | .use h (.listen l) => (.listening, s.listen h l)
  | .use h .ask => (.present (s.hasListener h), s)
  | .use h (.publish build) => (.published (s.publishWith h fun _ => build), s)

def run (s : Switchboard) : List HandleCall → List HandleAnswer × Switchboard
  | [] => ([], s)
  | c :: cs =>
    let (answer, next) := s.serve c
    let (answers, last) := next.run cs
    (answer :: answers, last)

def slot (s : Switchboard) (h : Nat) : Nat := s.handles.getD h 0

theorem run_concat (s : Switchboard) (cs : List HandleCall) (c : HandleCall) :
    s.run (cs ++ [c]) =
      ((s.run cs).1 ++ [((s.run cs).2.serve c).1], ((s.run cs).2.serve c).2) := by
  induction cs generalizing s with
  | nil => rfl
  | cons c' cs ih =>
    simp only [List.cons_append, run, ih]

theorem run_length (s : Switchboard) (cs : List HandleCall) : (s.run cs).1.length = cs.length := by
  induction cs generalizing s with
  | nil => rfl
  | cons c cs ih => exact congrArg (· + 1) (ih _)

end Switchboard

/-- The handles that were made, each with the handle that it comes from. -/
def origins (calls : List HandleCall) : List (Option Nat) := calls.filterMap HandleCall.origin?

inductive Proper : List HandleCall → Prop
  | nil : Proper []
  | concat {calls : List HandleCall} {c : HandleCall} (earlier : Proper calls)
      (made : ∀ h ∈ c.handle?, h < (origins calls).length) : Proper (calls ++ [c])

/-- Handles are akin if they come from one another, be it by way of others. -/
def Akin (calls : List HandleCall) : Nat → Nat → Prop :=
  Relation.EqvGen fun g h => (origins calls)[h]? = some (some g)

open Classical in
noncomputable def uses (calls : List HandleCall) (h : Nat) : List ChannelOp :=
  calls.filterMap fun
    | .use g op => if Akin calls g h then some op else none
    | _ => none

noncomputable def current (calls : List HandleCall) (h : Nat) : Option Listener :=
  ((uses calls h).filterMap ChannelOp.setting?).getLast?.join

/-- The event is built and handed over once; if the listener fails on it, that is logged and goes no
further. -/
structure Delivers (p : Publication) (l : Listener) (e : Event) : Prop where
  built : p.built = true
  returned : p.crash = none
  once : p.trace.deliveries = [⟨l.name, e, l.fails e⟩]
  lost : l.fails e = true → ∃ r, p.trace.log = [r] ∧ r.level = .warn ∧
    ("event_type", .text e.kind) ∈ r.fields ∧ ("backend", .text e.backend) ∈ r.fields
  heard : l.fails e = false → p.trace.log = []

inductive Answers (calls : List HandleCall) : HandleCall → HandleAnswer → Prop
  | connect : Answers calls .connect (.made (origins calls).length)
  | share (h : Nat) : Answers calls (.share h) (.made (origins calls).length)
  | listen (h : Nat) (l : Option Listener) : Answers calls (.use h (.listen l)) .listening
  | ask (h : Nat) : Answers calls (.use h .ask) (.present (current calls h).isSome)
  | unheard {h : Nat} (build : Except Crash Event) (nobody : current calls h = none) :
    Answers calls (.use h (.publish build)) (.published ⟨[], false, none⟩)
  | failed {h : Nat} {l : Listener} (crash : Crash) (listening : current calls h = some l) :
    Answers calls (.use h (.publish (.error crash))) (.published ⟨[], true, some crash⟩)
  | delivered {h : Nat} {l : Listener} {e : Event} {p : Publication}
      (listening : current calls h = some l) (delivers : Delivers p l e) :
    Answers calls (.use h (.publish (.ok e))) (.published p)

theorem Channel.delivers (l : Listener) (e : Event) : Delivers ⟨deliver l e, true, none⟩ l e := by
  have hlost : (lostRecord e).level = .warn ∧
      ("event_type", .text e.kind) ∈ (lostRecord e).fields ∧
      ("backend", .text e.backend) ∈ (lostRecord e).fields := by simp [lostRecord]
  cases hfails : l.fails e with
  | true =>
    have htrace : deliver l e = [.delivered ⟨l.name, e, true⟩, .logged (lostRecord e)] := by
      simp [deliver, hfails]
    refine ⟨rfl, rfl, by rw [hfails, htrace]; rfl, fun _ => ⟨lostRecord e, ?_, hlost⟩,
      fun h => absurd (hfails.symm.trans h) nofun⟩
    rw [htrace]
    rfl
  | false =>
    have htrace : deliver l e = [.delivered ⟨l.name, e, false⟩] := by simp [deliver, hfails]
    refine ⟨rfl, rfl, by rw [hfails, htrace]; rfl, fun h => absurd (hfails.symm.trans h) nofun,
      fun _ => ?_⟩
    rw [htrace]
    rfl

theorem lt_or_eq_of_lt_length {α : Type} {xs : List α} {x : α} {k : Nat}
    (hk : k < (xs ++ [x]).length) : k < xs.length ∨ k = xs.length := by
  rw [List.length_append, List.length_singleton] at hk
  omega

theorem origins_concat (calls : List HandleCall) (c : HandleCall) :
    origins (calls ++ [c]) = origins calls ++ c.origin?.toList := by
  rw [origins, List.filterMap_append]
  cases c <;> rfl

theorem Akin.concat {calls : List HandleCall} {g h : Nat} (hakin : Akin calls g h)
    (c : HandleCall) : Akin (calls ++ [c]) g h := by
  refine Relation.EqvGen.mono (fun g h horigin => ?_) g h hakin
  obtain ⟨hlt, _⟩ := List.getElem?_eq_some_iff.mp horigin
  rw [origins_concat, List.getElem?_append_left hlt]
  exact horigin

section Slots

variable {calls : List HandleCall} {s : Switchboard}

namespace Switchboard

def slotUses (s : Switchboard) (calls : List HandleCall) (k : Nat) : List ChannelOp :=
  calls.filterMap fun
    | .use g op => if s.slot g = k then some op else none
    | _ => none

theorem slotUses_concat_use (s : Switchboard) (calls : List HandleCall) (h k : Nat)
    (op : ChannelOp) : s.slotUses (calls ++ [.use h op]) k =
      s.slotUses calls k ++ if s.slot h = k then [op] else [] := by
  rw [slotUses, List.filterMap_append]
  by_cases hslot : s.slot h = k <;> simp [slotUses, hslot]

theorem slot_append {s : Switchboard} {g : Nat} (hg : g < s.handles.length)
    (channels : List Channel) (k : Nat) : slot ⟨channels, s.handles ++ [k]⟩ g = s.slot g := by
  rw [slot, slot, List.getD_eq_getElem?_getD, List.getD_eq_getElem?_getD,
    List.getElem?_append_left hg]

theorem slot_last (s : Switchboard) (channels : List Channel) (k : Nat) :
    slot ⟨channels, s.handles ++ [k]⟩ s.handles.length = k := by
  rw [slot, List.getD_eq_getElem?_getD, List.getElem?_concat_length]
  rfl

theorem serve_use (s : Switchboard) (h : Nat) (op : ChannelOp) : (s.serve (.use h op)).2 =
    { s with channels := s.channels.modify (s.slot h) (·.after op) } := by
  cases op with
  | listen l => rfl
  | ask | publish build =>
    change s = ⟨s.channels.modify (s.slot h) id, s.handles⟩
    rw [List.modify_id]

end Switchboard

open Switchboard

/-- The channels are what the calls have made of them, each by the handles that have it. -/
structure Slotted (calls : List HandleCall) (s : Switchboard) : Prop where
  made : s.handles.length = (origins calls).length
  used : ∀ g op, .use g op ∈ calls → g < s.handles.length
  inRange : ∀ h < s.handles.length, s.slot h < s.channels.length
  origin : ∀ g h, (origins calls)[h]? = some (some g) → g < s.handles.length ∧ s.slot g = s.slot h
  akin : ∀ g h, g < s.handles.length → h < s.handles.length → s.slot g = s.slot h → Akin calls g h
  channel : ∀ k < s.channels.length,
    s.channels[k]? = some (Channel.idle.afterOps (s.slotUses calls k))

namespace Slotted

theorem slot_eq (hs : Slotted calls s) {g h : Nat} (hakin : Akin calls g h) :
    s.slot g = s.slot h := by
  induction hakin with
  | rel g h horigin => exact (hs.origin g h horigin).2
  | refl => rfl
  | symm _ _ _ ih => exact ih.symm
  | trans _ _ _ _ _ ih ih' => exact ih.trans ih'

theorem empty : Slotted [] .empty :=
  ⟨rfl, nofun, nofun, nofun, nofun, nofun⟩

/-- A call that makes a handle leaves what the channels were used for. -/
theorem slotUses_make (hs : Slotted calls s) {c : HandleCall} (hc : c.origin? ≠ none)
    (channels : List Channel) (k j : Nat) :
    slotUses ⟨channels, s.handles ++ [k]⟩ (calls ++ [c]) j = s.slotUses calls j := by
  have hlast : slotUses ⟨channels, s.handles ++ [k]⟩ [c] j = [] := by
    cases c with
    | use h op => exact absurd rfl hc
    | connect | share h => rfl
  unfold slotUses at hlast ⊢
  rw [List.filterMap_append, hlast, List.append_nil]
  refine List.filterMap_congr fun c' hc' => ?_
  cases c' with
  | use g op => simp only [slot_append (hs.used g op hc')]
  | connect | share h => rfl

/-- One more handle on the channel at `k`, which is new unless the handle comes from another. -/
theorem make (hs : Slotted calls s) {c : HandleCall} {o : Option Nat} (hc : c.origin? = some o)
    {channels : List Channel} {k : Nat} (hlength : s.channels.length ≤ channels.length)
    (hk : k < channels.length) (horigin : ∀ g ∈ o, g < s.handles.length ∧ s.slot g = k)
    (hakin : ∀ g < s.handles.length, s.slot g = k → ∃ h ∈ o, Akin calls g h)
    (hchannel : ∀ j < channels.length,
      channels[j]? = some (Channel.idle.afterOps (s.slotUses calls j))) :
    Slotted (calls ++ [c]) ⟨channels, s.handles ++ [k]⟩ := by
  have horigins : origins (calls ++ [c]) = origins calls ++ [o] := by
    rw [origins_concat, hc]
    rfl
  have hnew : ∀ g < s.handles.length, s.slot g = k → Akin (calls ++ [c]) g s.handles.length := by
    intro g hg hslot
    -- the new handle has the channel of the one that it comes from, and so of all akin to that
    obtain ⟨h, rfl, hgh⟩ := hakin g hg hslot
    refine .trans _ _ _ (hgh.concat c) (.rel _ _ ?_)
    rw [horigins, hs.made, List.getElem?_concat_length]
  constructor
  case made => simp [horigins, hs.made]
  case used =>
    intro g op hmem
    rcases List.mem_append.mp hmem with hmem | hmem
    · exact Nat.lt_of_lt_of_le (hs.used g op hmem) (by simp)
    · rw [← List.mem_singleton.mp hmem] at hc
      cases hc
  case inRange =>
    intro h hh
    rcases lt_or_eq_of_lt_length hh with hh | rfl
    · rw [slot_append hh]
      exact Nat.lt_of_lt_of_le (hs.inRange h hh) hlength
    · rw [slot_last]
      exact hk
  case origin =>
    intro g h hgh
    rw [horigins] at hgh
    obtain ⟨hlt, _⟩ := List.getElem?_eq_some_iff.mp hgh
    rcases lt_or_eq_of_lt_length hlt with hh | rfl
    · rw [List.getElem?_append_left hh] at hgh
      obtain ⟨hg, hslot⟩ := hs.origin g h hgh
      rw [slot_append hg, slot_append (hs.made ▸ hh), hslot]
      exact ⟨Nat.lt_of_lt_of_le hg (by simp), rfl⟩
    · rw [List.getElem?_concat_length] at hgh
      obtain ⟨hg, hslot⟩ := horigin g (Option.some.inj hgh)
      rw [← hs.made, slot_append hg, slot_last, hslot]
      exact ⟨Nat.lt_of_lt_of_le hg (by simp), rfl⟩
  case akin =>
    intro g h hg hh hslot
    rcases lt_or_eq_of_lt_length hg with hg | rfl <;>
      rcases lt_or_eq_of_lt_length hh with hh | rfl
    · rw [slot_append hg, slot_append hh] at hslot
      exact (hs.akin g h hg hh hslot).concat c
    · rw [slot_append hg, slot_last] at hslot
      exact hnew g hg hslot
    · rw [slot_append hh, slot_last] at hslot
      exact .symm _ _ (hnew h hh hslot.symm)
    · exact .refl _
  case channel =>
    intro j hj
    rw [hs.slotUses_make (by simp [hc]), ← hchannel j hj]

theorem connect (hs : Slotted calls s) : Slotted (calls ++ [.connect]) s.connect.2 := by
  refine hs.make rfl (by simp) (by simp) nofun (fun g hg hslot => ?_) fun j hj => ?_
  · exact absurd hslot (Nat.ne_of_lt (hs.inRange g hg))
  · rcases lt_or_eq_of_lt_length hj with hj | rfl
    · rw [List.getElem?_append_left hj, hs.channel j hj]
    · -- no handle had the new channel before
      have hunused : s.slotUses calls s.channels.length = [] := by
        refine List.filterMap_eq_nil_iff.mpr fun c hc => ?_
        cases c with
        | use g op => exact if_neg (Nat.ne_of_lt (hs.inRange g (hs.used g op hc)))
        | connect | share h => rfl
      rw [List.getElem?_concat_length, hunused]
      rfl

theorem share (hs : Slotted calls s) {h : Nat} (hh : h < s.handles.length) :
    Slotted (calls ++ [.share h]) (s.share h).2 :=
  hs.make rfl (Nat.le_refl _) (hs.inRange h hh) (fun _ hg => Option.some.inj hg ▸ ⟨hh, rfl⟩)
    (fun g hg hslot => ⟨h, rfl, hs.akin g h hg hh hslot⟩) hs.channel

theorem use (hs : Slotted calls s) {h : Nat} (hh : h < s.handles.length) (op : ChannelOp) :
    Slotted (calls ++ [.use h op]) (s.serve (.use h op)).2 := by
  have horigins : origins (calls ++ [.use h op]) = origins calls := by
    rw [origins_concat]
    exact List.append_nil _
  rw [serve_use]
  refine ⟨?_, fun g op' hmem => ?_, fun g hg => ?_, ?_, fun g g' hg hg' hslot => ?_, fun k hk => ?_⟩
  · rw [horigins]
    exact hs.made
  · rcases List.mem_append.mp hmem with hmem | hmem
    · exact hs.used g op' hmem
    · cases List.mem_singleton.mp hmem
      exact hh
  · exact Nat.lt_of_lt_of_eq (hs.inRange g hg) (List.length_modify ..).symm
  · rw [horigins]
    exact hs.origin
  · exact (hs.akin g g' hg hg' hslot).concat _
  · rw [List.length_modify] at hk
    change (s.channels.modify _ _)[k]? = some (Channel.idle.afterOps (s.slotUses _ k))
    rw [List.getElem?_modify, hs.channel k hk, slotUses_concat_use]
    by_cases hslot : s.slot h = k
    · simp [hslot, Channel.afterOps_concat]
    · simp [hslot]

end Slotted

theorem slotted (hproper : Proper calls) : Slotted calls (Switchboard.empty.run calls).2 := by
  induction hproper with
  | nil => exact .empty
  | @concat calls c _ made ih =>
    rw [run_concat]
    cases c with
    | connect => exact ih.connect
    | share h => exact ih.share (ih.made ▸ made h rfl)
    | use h op => exact ih.use (ih.made ▸ made h rfl) op

namespace Slotted

theorem akin_iff (hs : Slotted calls s) {g h : Nat} (hg : g < s.handles.length)
    (hh : h < s.handles.length) : s.slot g = s.slot h ↔ Akin calls g h :=
  ⟨hs.akin g h hg hh, hs.slot_eq⟩

theorem uses_eq (hs : Slotted calls s) {h : Nat} (hh : h < s.handles.length) :
    uses calls h = s.slotUses calls (s.slot h) := by
  classical
  refine List.filterMap_congr fun c hc => ?_
  cases c with
  | use g op => exact if_congr (hs.akin_iff (hs.used g op hc) hh).symm rfl rfl
  | connect | share g => rfl

theorem channel_eq (hs : Slotted calls s) {h : Nat} (hh : h < s.handles.length) :
    s.channel h = Channel.idle.afterOps (uses calls h) := by
  rw [hs.uses_eq hh, Switchboard.channel, List.getD_eq_getElem?_getD]
  exact congrArg (·.getD .idle) (hs.channel (s.slot h) (hs.inRange h hh))

theorem channel_current (hs : Slotted calls s) {h : Nat} (hh : h < s.handles.length) :
    s.channel h = Channel.idle.listen (current calls h) := by
  rw [hs.channel_eq hh, Channel.afterOps_idle]
  rfl

theorem answers (hs : Slotted calls s) {c : HandleCall}
    (hc : ∀ h ∈ c.handle?, h < s.handles.length) : Answers calls c (s.serve c).1 := by
  cases c with
  | connect =>
    change Answers calls .connect (.made s.handles.length)
    rw [hs.made]
    exact .connect
  | share h =>
    change Answers calls (.share h) (.made s.handles.length)
    rw [hs.made]
    exact .share h
  | use h op =>
    -- A handle is used on the channel that the uses of all handles akin to it have left.
    have hchannel := hs.channel_current (hc h rfl)
    cases op with
    | listen l => exact .listen h l
    | ask =>
      change Answers calls (.use h .ask) (.present (s.channel h).present)
      rw [hchannel]
      exact .ask h
    | publish build =>
      change Answers calls (.use h (.publish build))
        (.published ((s.channel h).publishWith fun _ => build))
      rw [hchannel]
      cases hcurrent : current calls h with
      | none => exact .unheard build hcurrent
      | some l =>
        cases build with
        | error crash => exact .failed crash hcurrent
        | ok e => exact .delivered hcurrent (Channel.delivers l e)

end Slotted

/-- Each call is answered as after the calls before it. -/
theorem answered (hproper : Proper calls) {k : Nat} {c : HandleCall} (hc : calls[k]? = some c) :
    ∃ answer, (Switchboard.empty.run calls).1[k]? = some answer ∧
      Answers (calls.take k) c answer := by
  induction hproper with
  | nil => cases hc
  | @concat calls c' earlier made ih =>
    have hs := slotted earlier
    rw [run_concat]
    obtain ⟨hlt, _⟩ := List.getElem?_eq_some_iff.mp hc
    rcases lt_or_eq_of_lt_length hlt with hk | rfl
    · rw [List.getElem?_append_left hk] at hc
      rw [List.getElem?_append_left (by rwa [run_length]),
        List.take_append_of_le_length (Nat.le_of_lt hk)]
      exact ih hc
    · rw [List.getElem?_concat_length] at hc
      obtain rfl := Option.some.inj hc
      refine ⟨_, by rw [← run_length Switchboard.empty calls, List.getElem?_concat_length], ?_⟩
      rw [List.take_left]
      exact hs.answers fun h hh => hs.made ▸ made h hh

end Slots

/-- Handles share a channel just if they come from one another. Every call is answered as by slots
that hold the listener set last, and that is what the channels hold in the end. What was asked of a
channel through all its handles together, done by a thread in single steps, ends with the lock free
and the same listener, having delivered each event to the listener of its time. -/
theorem histories_match_slots (calls : List HandleCall) (hproper : Proper calls) :
    let answers := (Switchboard.empty.run calls).1
    let s := (Switchboard.empty.run calls).2
    let made := (origins calls).length
    answers.length = calls.length ∧
    (∀ k c, calls[k]? = some c →
      ∃ answer, answers[k]? = some answer ∧ Answers (calls.take k) c answer) ∧
    (∀ g < made, ∀ h < made, s.slot g = s.slot h ↔ Akin calls g h) ∧
    ∀ h < made, s.channel h = Channel.idle.listen (current calls h) ∧
      ∃ turns history, history.reverse.filterMap Moment.delivery? = heard none (uses calls h) ∧
        ∀ more, (SharedChannel.start .idle [uses calls h]).run (List.replicate (turns + more) 0) =
          .alone (s.channel h) [] history := by
  have hs := slotted hproper
  intro answers s made
  refine ⟨Switchboard.run_length _ calls, fun _ _ => answered hproper, fun g hg h hh => ?_,
    fun h hh => ?_⟩
  · exact hs.akin_iff (hs.made ▸ hg) (hs.made ▸ hh)
  · have hh : h < s.handles.length := hs.made ▸ hh
    obtain ⟨turns, history, hrun, hheard⟩ :=
      SharedChannel.run_alone Channel.idle_consistent (uses calls h) []
    refine ⟨hs.channel_current hh, turns, history, hheard, fun more => ?_⟩
    change (SharedChannel.alone .idle (uses calls h) []).run _ = _
    rw [List.replicate_add, SharedChannel.run_append, hrun, SharedChannel.run_alone_nil,
      hs.channel_eq hh]

/-- A listener set through a copy hears, and fails on, what is published through the original; a
builder that breaks off before leaves it in place, and a third handle has nothing to do with it. -/
theorem histories_match_slots_copy :
    let l : Listener := ⟨"l", fun _ => true⟩
    let e := Event.of "PRESOLVE" "highs"
    let calls : List HandleCall := [.connect, .share 0, .connect, .use 1 (.listen (some l)),
      .use 0 (.publish (.error .other)), .use 0 (.publish (.ok e))]
    Akin calls 0 1 ∧ ¬ Akin calls 0 2 ∧ current calls 0 = some l ∧ current calls 2 = none ∧
      ∃ p l', (Switchboard.empty.run calls).1[5]? = some (.published p) ∧ Delivers p l' e := by
  intro l e calls
  have hproper : Proper calls := by
    change Proper ([] ++ [.connect] ++ [.share 0] ++ [.connect] ++ [.use 1 (.listen (some l))] ++
      [.use 0 (.publish (.error .other))] ++ [.use 0 (.publish (.ok e))])
    refine .concat (.concat (.concat (.concat (.concat (.concat .nil ?_) ?_) ?_) ?_) ?_) ?_ <;>
      simp [HandleCall.handle?, origins, HandleCall.origin?]
  obtain ⟨_, hanswers, hslot, hchannel⟩ := histories_match_slots calls hproper
  have hcurrent : ∀ h < 3, ∀ l', ((Switchboard.empty.run calls).2.channel h).listener = l' →
      current calls h = l' := fun h hh l' hl' =>
    (congrArg Channel.listener (hchannel h hh).1).symm.trans hl'
  refine ⟨(hslot 0 (by decide) 1 (by decide)).mp rfl,
    fun hakin => absurd ((hslot 0 (by decide) 2 (by decide)).mpr hakin) (by decide),
    hcurrent 0 (by decide) _ rfl, hcurrent 2 (by decide) _ rfl, ?_⟩
  obtain ⟨answer, hanswer, hanswers⟩ := hanswers 5 _ rfl
  cases hanswers with
  | unheard build nobody => cases Option.some.inj hanswer
  | delivered listening delivers => exact ⟨_, _, hanswer, delivers⟩

end MipDispatch
