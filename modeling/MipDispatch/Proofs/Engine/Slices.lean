import MipDispatch.Engine.Matrix

namespace MipDispatch.ColumnMatrix

/-- The entries from the start of column `c` to the start of column `c + 1`. After the last start
there is the end of the arrays. -/
def slice (m : ColumnMatrix) (c : Nat) : Column :=
  let first := m.start.getD c m.entryCount
  let next := m.start.getD (c + 1) m.entryCount
  ((m.index.zip m.value).drop first).take (next - first)

theorem mem_value_of_mem_slice {m : ColumnMatrix} {c : Nat} {e : Nat × Float}
    (he : e ∈ m.slice c) : e.2 ∈ m.value :=
  (List.of_mem_zip (List.mem_of_mem_drop (List.mem_of_mem_take he))).2

/-- The starts of `n` columns cut the arrays into consecutive pieces. -/
structure Tiles (m : ColumnMatrix) (n : Nat) : Prop where
  start_length : m.start.length = n
  start_first : ∀ x ∈ m.start.head?, x = 0
  start_ascending : m.start.Pairwise (· ≤ ·)
  start_bounded : ∀ x ∈ m.start, x ≤ m.entryCount
  value_length : m.value.length = m.entryCount

theorem offsets_length (k : Nat) (columns : List Column) :
    (offsets k columns).length = columns.length := by
  induction columns generalizing k with
  | nil => rfl
  | cons c cs ih => simp [offsets, ih]

theorem offsets_bounds (columns : List Column) {k x : Nat} (hx : x ∈ offsets k columns) :
    k ≤ x ∧ x ≤ k + columns.flatten.length := by
  induction columns generalizing k with
  | nil => cases hx
  | cons c cs ih =>
    rw [List.flatten_cons, List.length_append]
    rcases List.mem_cons.1 hx with rfl | hx
    · omega
    · have := ih hx
      omega

theorem offsets_ascending (k : Nat) (columns : List Column) :
    (offsets k columns).Pairwise (· ≤ ·) := by
  induction columns generalizing k with
  | nil => exact .nil
  | cons c cs ih =>
    refine List.pairwise_cons.2 ⟨fun x hx => ?_, ih (k + c.length)⟩
    have := (offsets_bounds cs hx).1
    omega

theorem offsets_getD (columns : List Column) {c : Nat} (hc : c ≤ columns.length) (k : Nat) :
    (offsets k columns).getD c (k + columns.flatten.length) =
      k + (columns.take c).flatten.length := by
  induction columns generalizing c k with
  | nil => simp [offsets]
  | cons d ds ih =>
    cases c with
    | zero => simp [offsets]
    | succ c =>
      have := ih (Nat.le_of_succ_le_succ hc) (k + d.length)
      simpa [offsets, Nat.add_assoc] using this

theorem entries_ofColumns (columns : List Column) :
    (ofColumns columns).index.zip (ofColumns columns).value = columns.flatten := by
  rw [ofColumns, List.zip_map', List.map_id'']
  intro _
  rfl

theorem entryCount_ofColumns (columns : List Column) :
    (ofColumns columns).entryCount = columns.flatten.length :=
  List.length_map ..

theorem ofColumns_tiles (columns : List Column) : (ofColumns columns).Tiles columns.length where
  start_length := offsets_length 0 columns
  start_first := by
    intro x hx
    cases columns with
    | nil => cases hx
    | cons c cs => exact (Option.some.inj hx).symm
  start_ascending := offsets_ascending 0 columns
  start_bounded := by
    intro x hx
    rw [entryCount_ofColumns]
    have := (offsets_bounds columns hx).2
    omega
  value_length := by
    rw [entryCount_ofColumns]
    exact List.length_map ..

theorem slice_ofColumns (columns : List Column) (c : Nat) :
    (ofColumns columns).slice c = columns.getD c [] := by
  have hstart {i : Nat} (hi : i ≤ columns.length) :
      (ofColumns columns).start.getD i (ofColumns columns).entryCount =
        (columns.take i).flatten.length := by
    have := offsets_getD columns hi 0
    rw [Nat.zero_add, Nat.zero_add] at this
    rw [entryCount_ofColumns]
    exact this
  rw [slice, entries_ofColumns]
  rcases Nat.lt_or_ge c columns.length with hc | hc
  · -- before the column stand the earlier ones, after it the later ones
    have hsplit : columns.flatten =
        (columns.take c).flatten ++ (columns[c] ++ (columns.drop (c + 1)).flatten) := by
      rw [← List.flatten_cons, ← List.drop_eq_getElem_cons hc, ← List.flatten_append,
        List.take_append_drop]
    have hnext : (columns.take (c + 1)).flatten.length =
        (columns.take c).flatten.length + columns[c].length := by
      rw [List.take_succ_eq_append_getElem hc, List.flatten_append, List.length_append]
      simp
    rw [hstart (Nat.le_of_lt hc), hstart hc, hnext, hsplit, List.drop_left, Nat.add_sub_cancel_left,
      List.take_left, List.getD_eq_getElem?_getD, List.getElem?_eq_getElem hc]
    rfl
  · have hfirst : (ofColumns columns).start.getD c (ofColumns columns).entryCount =
        columns.flatten.length := by
      have hlen : (ofColumns columns).start.length ≤ c := by
        rw [(ofColumns_tiles columns).start_length]
        exact hc
      rw [List.getD_eq_getElem?_getD, List.getElem?_eq_none hlen]
      exact entryCount_ofColumns columns
    rw [hfirst, List.drop_length, List.take_nil, List.getD_eq_getElem?_getD,
      List.getElem?_eq_none hc]
    rfl

section Generated

variable (f : Nat → Column) (n : Nat)

theorem slice_range (c : Nat) :
    (ofColumns ((List.range n).map f)).slice c = if c < n then f c else [] := by
  rw [slice_ofColumns, List.getD_eq_getElem?_getD, List.getElem?_map]
  split
  next hc =>
    rw [List.getElem?_range hc]
    rfl
  next hc =>
    rw [List.getElem?_eq_none (by simpa using hc)]
    rfl

theorem range_tiles : (ofColumns ((List.range n).map f)).Tiles n := by
  have := ofColumns_tiles ((List.range n).map f)
  rw [List.length_map, List.length_range] at this
  exact this

end Generated

end MipDispatch.ColumnMatrix
