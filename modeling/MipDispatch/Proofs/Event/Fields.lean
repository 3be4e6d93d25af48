import MipDispatch.Event.Basic
import MipDispatch.Proofs.LastWrite
import MipDispatch.Proofs.SortedMap
import MipDispatch.Proofs.Text.Order

namespace MipDispatch.Event

inductive Edit where
  | bounds (primal dual : Float)
  | insert (key : String) (value : Value)
  | field (key : String) (value : Value)

structure Recipe where
  kind : String
  backend : String
  edits : List Edit

def edit (e : Event) : Edit → Event
  | .bounds primal dual => e.withBounds primal dual
  | .insert key value => (e.insert key value).2
  | .field key value => e.field key value

def startKeys : List String := [kindKey, backendKey]

def boundKeys : List String := [primalKey, dualKey, gapKey]

def boundValue? (key : String) (bounds : Float × Float) : Option Value :=
  if key = gapKey then some (.real (progressGap bounds.1 bounds.2))
  else if key = dualKey then some (.real bounds.2)
  else if key = primalKey then some (.real bounds.1)
  else none

namespace Edit

def bounds? : Edit → Option (Float × Float)
  | bounds primal dual => some (primal, dual)
  | insert .. | field .. => none

def given? (key : String) : Edit → Option Value
  | bounds .. => none
  | insert k value | field k value => if key = k then some value else none

def written? (key : String) : Edit → Option Value
  | bounds primal dual => boundValue? key (primal, dual)
  | insert k value | field k value => if k ∉ reservedKeys ∧ key = k then some value else none

end Edit

namespace Recipe

def event (r : Recipe) : Event := r.edits.foldl edit (.of r.kind r.backend)

def bounds? (r : Recipe) : Option (Float × Float) := lastWrite? Edit.bounds? r.edits

def given? (r : Recipe) (key : String) : Option Value := lastWrite? (Edit.given? key) r.edits

end Recipe

theorem ext_get? {e e' : Event} (h : ∀ key, e.get? key = e'.get? key) : e = e' := by
  have hfields : e.fields = e'.fields := SortedMap.ext_get? h
  cases e
  cases e'
  cases hfields
  rfl

section Writers

variable (e : Event) (q : String)

theorem get?_of (kind backend : String) : (of kind backend).get? q =
    if q = backendKey then some (.text backend)
    else if q = kindKey then some (.text kind) else none := by
  simp [of, get?]

theorem get?_withBounds (primal dual : Float) : (e.withBounds primal dual).get? q =
    (boundValue? q (primal, dual)).elim (e.get? q) some := by
  unfold withBounds get? boundValue?
  simp only [SortedMap.get?_insert, Std.compare_eq_iff_eq]
  split_ifs <;> rfl

theorem get?_edit (x : Edit) : (e.edit x).get? q = (x.written? q).elim (e.get? q) some := by
  cases x with
  | bounds primal dual => exact get?_withBounds e q primal dual
  | insert key value | field key value =>
    refine (get?_insert e key q value).trans ?_
    unfold Edit.written?
    dsimp only
    split <;> rfl

theorem insert_of_reserved {key : String} (h : key ∈ reservedKeys) (value : Value) :
    e.insert key value = (false, e) := if_pos h

end Writers

section Labels

variable {key : String}

/-- Bounds leave the labels alone that others may write. -/
theorem boundValue?_of_not_reserved (h : key ∉ reservedKeys) (bounds : Float × Float) :
    boundValue? key bounds = none := by
  have hkeys : key ≠ gapKey ∧ key ≠ dualKey ∧ key ≠ primalKey := by
    simp only [reservedKeys, List.mem_cons, List.not_mem_nil, not_or] at h
    tauto
  simp [boundValue?, hkeys]

theorem boundValue?_of_bound (h : key ∈ boundKeys) :
    ∃ f : Float × Float → Value, ∀ bounds, boundValue? key bounds = some (f bounds) := by
  simp only [boundKeys, List.mem_cons, List.not_mem_nil, or_false] at h
  rcases h with rfl | rfl | rfl
  · exact ⟨fun bounds => .real bounds.1, fun _ => rfl⟩
  · exact ⟨fun bounds => .real bounds.2, fun _ => rfl⟩
  · exact ⟨fun bounds => .real (progressGap bounds.1 bounds.2), fun _ => rfl⟩

theorem mem_reservedKeys_iff : key ∈ reservedKeys ↔ key ∈ startKeys ∨ key ∈ boundKeys :=
  List.mem_append (s := startKeys)

theorem not_start_of_bound (h : key ∈ boundKeys) : key ∉ startKeys := by
  simp only [boundKeys, List.mem_cons, List.not_mem_nil, or_false] at h
  rcases h with rfl | rfl | rfl <;> decide

/-- What is given for a label that is not reserved is put there. -/
theorem written?_of_not_reserved (h : key ∉ reservedKeys) :
    Edit.written? key = Edit.given? key := by
  funext x
  cases x with
  | bounds primal dual => exact boundValue?_of_not_reserved h (primal, dual)
  | insert k value | field k value =>
    have hkey : (k ∉ reservedKeys ∧ key = k) ↔ key = k :=
      and_iff_right_of_imp fun hk => hk ▸ h
    simp only [Edit.written?, Edit.given?, hkey]

/-- Bounds alone are put under a label that is reserved. -/
theorem written?_of_reserved (h : key ∈ reservedKeys) (x : Edit) :
    x.written? key = x.bounds?.bind (boundValue? key) := by
  cases x with
  | bounds primal dual => rfl
  | insert k value | field k value =>
    refine if_neg ?_
    rintro ⟨hk, rfl⟩
    exact hk h

end Labels

namespace Recipe

variable (r : Recipe) {key : String}

/-- Every label is as its last write has it, or else as it was at the start. -/
theorem get?_event (q : String) : r.event.get? q =
    (lastWrite? (Edit.written? q) r.edits).elim ((of r.kind r.backend).get? q) some :=
  foldl_lastWrite (get? · q) (fun e x => get?_edit e q x) r.edits _

theorem get?_event_start (h : key ∈ startKeys) :
    r.event.get? key = (of r.kind r.backend).get? key := by
  have hreserved : key ∈ reservedKeys := mem_reservedKeys_iff.2 (.inl h)
  have hbounds (bounds : Float × Float) : boundValue? key bounds = none := by
    rcases List.mem_pair.1 h with rfl | rfl <;> rfl
  rw [get?_event, lastWrite?_eq_none_iff.2]
  · rfl
  · intro x _
    rw [written?_of_reserved hreserved, Option.bind_eq_none_iff]
    exact fun bounds _ => hbounds bounds

theorem get?_event_later (h : key ∉ startKeys) :
    r.event.get? key = lastWrite? (Edit.written? key) r.edits := by
  obtain ⟨hkind, hbackend⟩ : key ≠ kindKey ∧ key ≠ backendKey := by simpa [startKeys] using h
  rw [get?_event, get?_of, if_neg hbackend, if_neg hkind]
  exact Option.elim_none_some id _

/-- A label of the bounds is as the last bounds have it. -/
theorem get?_event_bound {f : Float × Float → Value} (h : key ∈ boundKeys)
    (hf : ∀ bounds, boundValue? key bounds = some (f bounds)) :
    r.event.get? key = r.bounds?.map f := by
  have hwritten : Edit.written? key = fun x => x.bounds?.map f := by
    funext x
    rw [written?_of_reserved (mem_reservedKeys_iff.2 (.inr h)), funext hf]
    exact Option.map_eq_bind.symm
  rw [get?_event_later r (not_start_of_bound h), hwritten, lastWrite?_map_value]
  rfl

theorem get?_event_given (h : key ∉ reservedKeys) : r.event.get? key = r.given? key := by
  have hlater : key ∉ startKeys := fun hkey => h (mem_reservedKeys_iff.2 (.inl hkey))
  rw [get?_event_later r hlater, written?_of_not_reserved h]
  rfl

end Recipe

section Order

variable (e : Event)

theorem withBounds_insert (primal dual : Float) (key : String) (value : Value) :
    (e.withBounds primal dual).insert key value =
      ((e.insert key value).1, (e.insert key value).2.withBounds primal dual) := by
  -- a refused label changes neither side, and one that is taken is no label of the bounds
  by_cases hkey : key ∈ reservedKeys
  · rw [insert_of_reserved _ hkey, insert_of_reserved _ hkey]
  · refine Prod.ext (by simp only [insert_fst]) (ext_get? fun q => ?_)
    rw [get?_insert, get?_withBounds, get?_withBounds, get?_insert]
    by_cases hq : key ∉ reservedKeys ∧ q = key
    · rw [if_pos hq, if_pos hq, hq.2, boundValue?_of_not_reserved hq.1]
      rfl
    · rw [if_neg hq, if_neg hq]

theorem insert_insert_comm {key key' : String} (h : key ≠ key') (value value' : Value) :
    (e.insert key value).2.insert key' value' =
      ((e.insert key' value').1, ((e.insert key' value').2.insert key value).2) := by
  refine Prod.ext (by simp only [insert_fst]) (ext_get? fun q => ?_)
  simp only [get?_insert]
  by_cases hq : q = key
  · have hq' : q ≠ key' := hq ▸ h
    simp only [hq', and_false, if_false]
  · simp only [hq, and_false, if_false]

/-- The labels are listed in the order of their bytes. -/
theorem toList_pairwise :
    (e.toList.map (·.1)).Pairwise fun a b => Text.encode a < Text.encode b :=
  e.fields.keys_pairwise.imp fun h => Text.encode_lt (compareOfLessAndEq_eq_lt.1 h)

theorem mem_toList_iff {key : String} {value : Value} :
    (key, value) ∈ e.toList ↔ e.get? key = some value := SortedMap.get?_eq_some_iff.symm

end Order

/-- The labels that an event has: the kind and the backend, all those of the bounds once there are
any, and what was given for labels that are not reserved. -/
theorem mem_labels_iff (r : Recipe) (key : String) :
    key ∈ r.event.toList.map (·.1) ↔
      key ∈ startKeys ∨ (key ∈ boundKeys ∧ r.bounds?.isSome) ∨
        (key ∉ reservedKeys ∧ (r.given? key).isSome) := by
  have hlisted : key ∈ r.event.toList.map (·.1) ↔ (r.event.get? key).isSome := by
    rw [Option.isSome_iff_exists]
    exact SortedMap.mem_keys_iff
  rw [hlisted]
  by_cases hreserved : key ∈ reservedKeys
  · rcases mem_reservedKeys_iff.1 hreserved with hstart | hbound
    · refine iff_of_true ?_ (.inl hstart)
      rw [r.get?_event_start hstart]
      rcases List.mem_pair.1 hstart with rfl | rfl <;> rfl
    · obtain ⟨f, hf⟩ := boundValue?_of_bound hbound
      rw [r.get?_event_bound hbound hf, Option.isSome_map]
      simp [hbound, hreserved, not_start_of_bound hbound]
  · obtain ⟨hstart, hbound⟩ := not_or.1 (mt mem_reservedKeys_iff.2 hreserved)
    rw [r.get?_event_given hreserved]
    simp [hstart, hbound, hreserved]

/-- However an event was put together, its kind and backend are those it began with, its bounds and
gap are absent or those of the last bounds, and every other label has the last value that was given
for it. -/
theorem fields_are_last_writes :
    (∀ r : Recipe,
      let e := r.event
      e.kind = r.kind ∧ e.backend = r.backend ∧
        (e.get? primalKey, e.get? dualKey, e.get? gapKey) =
          r.bounds?.elim (none, none, none) (fun (primal, dual) =>
            (some (.real primal), some (.real dual), some (.real (progressGap primal dual)))) ∧
        (∀ key value, ((e.insert key value).1 = false ↔ key ∈ reservedKeys) ∧
          (key ∈ reservedKeys → (e.insert key value).2 = e)) ∧
        (∀ key, key ∉ reservedKeys → e.get? key = r.given? key) ∧
        (∀ key, key ∈ e.toList.map (·.1) ↔
          key ∈ startKeys ∨ (key ∈ boundKeys ∧ r.bounds?.isSome) ∨
            (key ∉ reservedKeys ∧ (r.given? key).isSome)) ∧
        (e.toList.map (·.1)).Pairwise (fun a b => Text.encode a < Text.encode b) ∧
        ∀ key value, (key, value) ∈ e.toList ↔ e.get? key = some value) ∧
    ∀ e : Event,
      (∀ primal dual key value, (e.withBounds primal dual).insert key value =
        ((e.insert key value).1, (e.insert key value).2.withBounds primal dual)) ∧
      ∀ key key' value value', key ≠ key' → (e.insert key value).2.insert key' value' =
        ((e.insert key' value').1, ((e.insert key' value').2.insert key value).2) := by
  refine ⟨fun r => ⟨?_, ?_, ?_, fun key value => ⟨?_, ?_⟩, fun key => r.get?_event_given,
    mem_labels_iff r, toList_pairwise r.event, fun key value => mem_toList_iff r.event⟩, fun e =>
    ⟨withBounds_insert e, fun key key' value value' h => insert_insert_comm e h value value'⟩⟩
  · rw [kind, r.get?_event_start (List.mem_cons_self ..)]
    rfl
  · rw [backend, r.get?_event_start (List.mem_cons_of_mem _ (List.mem_cons_self ..))]
    rfl
  -- Gap and bounds are written together and by nothing else, so one call decides all three.
  · rw [r.get?_event_bound (f := fun b => .real b.1) (by decide) fun _ => rfl,
      r.get?_event_bound (f := fun b => .real b.2) (by decide) fun _ => rfl,
      r.get?_event_bound (f := fun b => .real (progressGap b.1 b.2)) (by decide) fun _ => rfl]
    cases r.bounds? <;> rfl
  · simp only [insert_fst, decide_eq_false_iff_not, not_not]
  · intro h
    rw [insert_of_reserved _ h]

/-- Labels of the bounds are named before there are bounds and between two of them. -/
theorem fields_are_last_writes_forged :
    let r : Recipe := ⟨"PROGRESS", "stock", [.insert gapKey (.integer 1), .bounds 10 8,
      .field "nodes" (.integer 5), .insert primalKey (.text "none"), .bounds 4 3,
      .insert "nodes" (.integer 7), .field kindKey (.text "SOLVED")]⟩
    let e := r.event
    e.kind = "PROGRESS" ∧ (e.get? primalKey, e.get? dualKey, e.get? gapKey) =
        (some (.real 4), some (.real 3), some (.real (progressGap 4 3))) ∧
      "nodes" ∉ reservedKeys ∧ e.get? "nodes" = some (.integer 7) ∧
      dualKey ∈ reservedKeys ∧ (e.insert dualKey (.integer 0)).2 = e ∧
      "nodes" ≠ "depth" ∧ (e.insert "nodes" (.integer 8)).2.insert "depth" (.integer 2) =
        (true, ((e.insert "depth" (.integer 2)).2.insert "nodes" (.integer 8)).2) := by
  intro r e
  have hnodes : "nodes" ∉ reservedKeys := by decide
  have hdual : dualKey ∈ reservedKeys := by decide
  have hne : "nodes" ≠ "depth" := by decide
  obtain ⟨hevents, hcommute⟩ := fields_are_last_writes
  obtain ⟨hkind, _, hbounds, hinsert, hgiven, _⟩ := hevents r
  exact ⟨hkind, hbounds, hnodes, hgiven "nodes" hnodes, hdual,
    (hinsert dualKey (.integer 0)).2 hdual, hne,
    (hcommute e).2 "nodes" "depth" (.integer 8) (.integer 2) hne⟩

end MipDispatch.Event
