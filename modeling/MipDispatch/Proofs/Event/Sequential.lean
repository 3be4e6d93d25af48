import MipDispatch.Proofs.Event.Operations

namespace MipDispatch

def ChannelOp.setting? : ChannelOp → Option (Option Listener)
  | .listen l => some l
  | .ask | .publish _ => none

/-- The events that operations deliver, with the listeners that they go to, where `current` is
listening at first. -/
def heard (current : Option Listener) : List ChannelOp → List (Listener × Event)
  | [] => []
  | .listen l :: ops => heard l ops
  | .publish (.ok e) :: ops => current.toList.map (·, e) ++ heard current ops
  | .publish (.error _) :: ops | .ask :: ops => heard current ops

namespace Channel

def afterOps (c : Channel) (ops : List ChannelOp) : Channel := ops.foldl after c

variable {c : Channel}

theorem afterOps_concat (c : Channel) (ops : List ChannelOp) (op : ChannelOp) :
    c.afterOps (ops ++ [op]) = (c.afterOps ops).after op := List.foldl_append ..

theorem after_consistent (hc : c.Consistent) (op : ChannelOp) : (c.after op).Consistent := by
  cases op with
  | listen l => exact listen_consistent c l
  | _ => exact hc

/-- Only the last setting counts. -/
theorem afterOps_idle (ops : List ChannelOp) :
    idle.afterOps ops = idle.listen (ops.filterMap ChannelOp.setting?).getLast?.join := by
  induction ops using List.reverseRecOn with
  | nil => rfl
  | append_singleton ops op ih =>
    rw [afterOps_concat, ih, List.filterMap_append]
    cases op with
    | listen l => simp [after, listen, ChannelOp.setting?]
    | _ => simp [after, ChannelOp.setting?]

theorem heard_cons (hc : c.Consistent) (t : Nat) (op : ChannelOp) (ops : List ChannelOp) :
    heard c.listener (op :: ops) =
      (c.course t op).filterMap Moment.delivery? ++ heard (c.after op).listener ops := by
  cases op with
  | listen l => rfl
  | ask => rfl
  | publish build =>
    obtain ⟨listener, present⟩ := c
    obtain rfl : present = listener.isSome := hc
    cases listener <;> cases build <;> rfl

end Channel

namespace SharedChannel

def alone (c : Channel) (ops : List ChannelOp) (history : List Moment) : SharedChannel :=
  ⟨c, none, [⟨.idle, ops⟩], history⟩

variable {c : Channel}

/-- An operation goes from a free lock to a free lock. -/
theorem run_alone_op (hc : c.Consistent) (op : ChannelOp) (ops : List ChannelOp)
    (history : List Moment) : ∃ turns, (alone c (op :: ops) history).run (List.replicate turns 0) =
      alone (c.after op) ops ((.began 0 op :: c.course 0 op).reverse ++ history) := by
  cases op with
  | listen l => exact ⟨5, rfl⟩
  | ask => exact ⟨2, rfl⟩
  | publish build =>
    obtain ⟨listener, present⟩ := c
    obtain rfl : present = listener.isSome := hc
    cases listener with
    | none => exact ⟨2, rfl⟩
    | some l =>
      cases build with
      | error crash => exact ⟨6, rfl⟩
      | ok e => exact ⟨7, rfl⟩

theorem run_alone_nil (c : Channel) (history : List Moment) (turns : Nat) :
    (alone c [] history).run (List.replicate turns 0) = alone c [] history := by
  induction turns with
  | zero => rfl
  | succ turns ih => exact ih

theorem run_alone (hc : c.Consistent) (ops : List ChannelOp) (history : List Moment) :
    ∃ turns history', (alone c ops history).run (List.replicate turns 0) =
        alone (c.afterOps ops) [] history' ∧
      history'.reverse.filterMap Moment.delivery? =
        history.reverse.filterMap Moment.delivery? ++ heard c.listener ops := by
  induction ops generalizing c history with
  | nil => exact ⟨0, history, rfl, (List.append_nil _).symm⟩
  | cons op ops ih =>
    obtain ⟨first, hfirst⟩ := run_alone_op hc op ops history
    obtain ⟨rest, history', hrest, hheard⟩ := ih (Channel.after_consistent hc op)
      ((.began 0 op :: c.course 0 op).reverse ++ history)
    refine ⟨first + rest, history', ?_, ?_⟩
    · rw [List.replicate_add, run_append, hfirst, hrest]
      rfl
    · rw [hheard, Channel.heard_cons hc 0, List.reverse_append, List.reverse_reverse,
        List.filterMap_append, List.append_assoc]
      rfl

end SharedChannel

end MipDispatch
