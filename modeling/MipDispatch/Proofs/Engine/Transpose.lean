import MipDispatch.Engine.Encoding
import MipDispatch.Proofs.Engine.Slices
import MipDispatch.Proofs.Problem.Staged

namespace MipDispatch

namespace ColumnMatrix

theorem addRow_getElem? (columns : List Column) (r : Nat) {entries : List (Nat × Float)}
    (h : entries.Pairwise fun a b => compare a.1 b.1 = .lt) (v : Nat) :
    (addRow columns r entries)[v]? =
      columns[v]?.map (· ++ ((SortedMap.lookup v entries).map (r, ·)).toList) := by
  induction entries generalizing columns with
  | nil => simp [addRow, SortedMap.lookup]
  | cons e rest ih =>
    obtain ⟨k, a⟩ := e
    have hrest := List.pairwise_cons.1 h
    have hstep := ih (columns.modify k (· ++ [(r, a)])) hrest.2
    rw [List.getElem?_modify] at hstep
    change (addRow (columns.modify k (· ++ [(r, a)])) r rest)[v]? = _
    rw [hstep]
    by_cases hkv : k = v
    · -- the keys that follow are larger, so this column gets no second entry of the row
      subst hkv
      have hnone : SortedMap.lookup k rest = none :=
        SortedMap.lookup_eq_none_of_below fun e he => hrest.1 e he
      cases columns[k]? <;> simp [SortedMap.lookup, hnone]
    · have hne : compare v k ≠ .eq := fun h => hkv (Nat.compare_eq_eq.1 h).symm
      cases columns[v]? <;> simp [SortedMap.lookup, hkv, hne]

theorem flatten_modify_length {columns : List Column} {k : Nat} (hk : k < columns.length)
    (e : Nat × Float) :
    (columns.modify k (· ++ [e])).flatten.length = columns.flatten.length + 1 := by
  induction columns generalizing k with
  | nil => cases hk
  | cons c cs ih =>
    cases k with
    | zero =>
      simp only [List.modify_zero_cons, List.flatten_cons, List.length_append,
        List.length_singleton]
      omega
    | succ k =>
      have := ih (Nat.lt_of_succ_lt_succ hk)
      simp only [List.modify_succ_cons, List.flatten_cons, List.length_append, this]
      omega

theorem addRow_length (columns : List Column) (r : Nat) (entries : List (Nat × Float)) :
    (addRow columns r entries).length = columns.length := by
  induction entries generalizing columns with
  | nil => rfl
  | cons e rest ih =>
    change (addRow (columns.modify e.1 (· ++ [(r, e.2)])) r rest).length = _
    rw [ih, List.length_modify]

theorem addRow_entryCount (columns : List Column) (r : Nat) {entries : List (Nat × Float)}
    (h : ∀ e ∈ entries, e.1 < columns.length) :
    (addRow columns r entries).flatten.length = columns.flatten.length + entries.length := by
  induction entries generalizing columns with
  | nil => rfl
  | cons e rest ih =>
    change (addRow (columns.modify e.1 (· ++ [(r, e.2)])) r rest).flatten.length = _
    rw [ih, flatten_modify_length (h e (List.mem_cons_self ..)), List.length_cons]
    · omega
    · intro e' he'
      rw [List.length_modify]
      exact h e' (List.mem_cons_of_mem _ he')

end ColumnMatrix

namespace Problem

def rowsOf (p : Problem) (v : Nat) : Column :=
  p.rows.zipIdx.filterMap fun t => (t.1.linear.get? v).map (t.2, ·)

def dealRows (columns : List Column) (rows : List (Constraint × Nat)) : List Column :=
  rows.foldl (fun cs t => ColumnMatrix.addRow cs t.2 t.1.linear.entries) columns

theorem dealRows_getElem? (columns : List Column) (rows : List (Constraint × Nat)) (v : Nat) :
    (dealRows columns rows)[v]? =
      columns[v]?.map (· ++ rows.filterMap fun t => (t.1.linear.get? v).map (t.2, ·)) := by
  induction rows generalizing columns with
  | nil => cases h : columns[v]? <;> simp [dealRows, h]
  | cons t rest ih =>
    change (dealRows (ColumnMatrix.addRow columns t.2 t.1.linear.entries) rest)[v]? = _
    rw [ih, ColumnMatrix.addRow_getElem? _ _ t.1.linear.ascending]
    cases columns[v]? with
    | none => rfl
    | some c =>
      change some ((c ++ ((t.1.linear.get? v).map (t.2, ·)).toList) ++ _) = some (c ++ _)
      rw [List.append_assoc]
      cases h : t.1.linear.get? v <;> simp [h]

theorem dealRows_entryCount (columns : List Column) {rows : List (Constraint × Nat)}
    (h : ∀ t ∈ rows, ∀ v ∈ t.1.linear.keys, v < columns.length) :
    (dealRows columns rows).flatten.length =
      columns.flatten.length + (rows.flatMap fun t => t.1.linear.entries).length := by
  induction rows generalizing columns with
  | nil => rfl
  | cons t rest ih =>
    change (dealRows (ColumnMatrix.addRow columns t.2 t.1.linear.entries) rest).flatten.length = _
    have hrow : ∀ e ∈ t.1.linear.entries, e.1 < columns.length := fun e he =>
      h t (List.mem_cons_self ..) e.1 (List.mem_map_of_mem he)
    rw [ih, ColumnMatrix.addRow_entryCount columns t.2 hrow, List.flatMap_cons, List.length_append]
    · exact Nat.add_assoc ..
    · intro t' ht' v hv
      rw [ColumnMatrix.addRow_length]
      exact h t' (List.mem_cons_of_mem _ ht') v hv

theorem rowColumns_eq (p : Problem) : p.rowColumns = (List.range p.size).map p.rowsOf := by
  apply List.ext_getElem?
  intro v
  change (dealRows (List.replicate p.size []) p.rows.zipIdx)[v]? = _
  rw [dealRows_getElem?, List.getElem?_replicate, List.getElem?_map]
  rcases Nat.lt_or_ge v p.size with hv | hv
  · rw [if_pos hv, List.getElem?_range hv]
    rfl
  · rw [if_neg (Nat.not_lt.2 hv), List.getElem?_eq_none (by simpa using hv)]
    rfl

theorem mem_rowsOf {p : Problem} {v r : Nat} {x : Float} :
    (r, x) ∈ p.rowsOf v ↔ ∃ c, p.rows[r]? = some c ∧ c.linear.get? v = some x := by
  rw [rowsOf, List.mem_filterMap]
  constructor
  · rintro ⟨⟨c, i⟩, hmem, hx⟩
    obtain ⟨y, hy, heq⟩ := Option.map_eq_some_iff.1 hx
    cases heq
    exact ⟨c, List.mk_mem_zipIdx_iff_getElem?.1 hmem, hy⟩
  · rintro ⟨c, hc, hx⟩
    refine ⟨(c, r), List.mk_mem_zipIdx_iff_getElem?.2 hc, ?_⟩
    rw [hx]
    rfl

theorem rowsOf_ascending (p : Problem) (v : Nat) :
    (p.rowsOf v).Pairwise fun a b => a.1 < b.1 := by
  have hidx : p.rows.zipIdx.Pairwise fun a b => a.2 < b.2 := by
    have := List.pairwise_lt_range' (s := 0) (n := p.rows.length)
    rw [← List.zipIdx_map_snd 0 p.rows, List.pairwise_map] at this
    exact this
  refine hidx.filterMap _ ?_
  intro a b hab x hx y hy
  obtain ⟨_, _, rfl⟩ := Option.map_eq_some_iff.1 hx
  obtain ⟨_, _, rfl⟩ := Option.map_eq_some_iff.1 hy
  exact hab

/-- Every stored coefficient has a place: the rows name only variables that are there. -/
theorem rowColumns_entryCount {p : Problem} (h : ∀ c ∈ p.rows, c.Within p.size) :
    p.rowColumns.flatten.length = (p.rows.flatMap fun c => c.linear.entries).length := by
  change (dealRows (List.replicate p.size []) p.rows.zipIdx).flatten.length = _
  rw [dealRows_entryCount]
  · have hentries : (p.rows.zipIdx.flatMap fun t => t.1.linear.entries) =
        p.rows.flatMap fun c => c.linear.entries := by
      have := congrArg (List.flatMap fun c => c.linear.entries) (List.zipIdx_map_fst 0 p.rows)
      rw [List.flatMap_map] at this
      exact this
    rw [hentries]
    simp
  · intro t ht v hv
    rw [List.length_replicate]
    have hmem : t.1 ∈ p.rows := List.fst_mem_of_mem_zipIdx ht
    exact (h t.1 hmem).1 v hv

end Problem

end MipDispatch
