import MipDispatch.Proofs.Engine.Transpose

namespace MipDispatch

/-- A model as a statement of a problem. The matrix is read off its arrays column by column. -/
structure Engine.Model.Encodes (m : Engine.Model) (p : Problem) : Prop where
  columns_length : m.columns.length = p.size
  column : ∀ (v : Nat) (k : VarKind), p.kinds[v]? = some k → m.columns[v]? = some
    { cost := p.objective.coefficient v
      bounds := k.bounds
      integral := k = .integer ∨ k = .binary }
  range : ∀ (v : Nat) (k : VarKind) (x : Engine.Variable), p.kinds[v]? = some k →
    m.columns[v]? = some x →
      x.bounds = if k = .binary then ⟨0, 1⟩ else ⟨-infinity, infinity⟩
  rows_length : m.rows.length = p.rows.length
  row : ∀ (r : Nat) (c : Constraint), p.rows[r]? = some c →
    m.rows[r]? = some (c.relation.bounds c.value)
  tiles : m.matrix.Tiles p.size
  entry : ∀ (v r : Nat) (x : Float), (r, x) ∈ m.matrix.slice v ↔
    ∃ c, p.rows[r]? = some c ∧ c.linear.contains v = true ∧ x = c.coefficient v
  ascending : ∀ v, (m.matrix.slice v).Pairwise fun a b => a.1 < b.1
  entryCount : m.matrix.entryCount = (p.rows.flatMap fun c => c.linear.entries).length

theorem VarKind.isIntegral_eq (k : VarKind) :
    k.isIntegral = decide (k = .integer ∨ k = .binary) := by
  cases k <;> rfl

theorem Constraint.linear_get?_iff {c : Constraint} {v : Nat} {x : Float} :
    c.linear.get? v = some x ↔ c.linear.contains v = true ∧ x = c.coefficient v := by
  rw [Constraint.coefficient, SparseTerms.coefficient, SortedMap.contains]
  cases c.linear.get? v with
  | none => simp
  | some y => simp [eq_comm]

namespace Problem

variable {p : Problem}

theorem column_toModel {v : Nat} {k : VarKind} (hk : p.kinds[v]? = some k) :
    p.toModel.columns[v]? = some ⟨p.objective.coefficient v, k.bounds, k.isIntegral⟩ := by
  have hkind : p.kinds.zipIdx[v]? = some (k, v) := by simp [hk]
  simp [toModel, hkind]

theorem slice_toModel (p : Problem) (v : Nat) :
    p.toModel.matrix.slice v = if v < p.size then p.rowsOf v else [] := by
  change (ColumnMatrix.ofColumns p.rowColumns).slice v = _
  rw [rowColumns_eq, ColumnMatrix.slice_range]

theorem mem_slice_toModel (h : ∀ c ∈ p.rows, c.Within p.size) {v r : Nat} {x : Float} :
    (r, x) ∈ p.toModel.matrix.slice v ↔
      ∃ c, p.rows[r]? = some c ∧ c.linear.contains v = true ∧ x = c.coefficient v := by
  simp only [← Constraint.linear_get?_iff, slice_toModel]
  split
  · exact mem_rowsOf
  next hv =>
    -- no row names a variable past the last one
    constructor
    · intro hmem
      cases hmem
    · rintro ⟨c, hc, hx⟩
      have hkey : v ∈ c.linear.keys := SortedMap.mem_keys_iff.2 ⟨x, hx⟩
      exact absurd ((h c (List.mem_of_getElem? hc)).1 v hkey) hv

theorem toModel_encodes (h : p.Staged) : p.toModel.Encodes p where
  columns_length := by simp [toModel, size]
  column := by
    intro v k hk
    rw [column_toModel hk, VarKind.isIntegral_eq]
  range := by
    intro v k x hk hx
    rw [column_toModel hk] at hx
    obtain rfl := Option.some_inj.1 hx
    cases k <;> rfl
  rows_length := by simp [toModel]
  row := by
    intro r c hc
    simp [toModel, hc, Constraint.bounds]
  -- Dealing out row after row comes to listing, for each variable, the rows that name it.
  tiles := by
    change (ColumnMatrix.ofColumns p.rowColumns).Tiles p.size
    rw [rowColumns_eq]
    exact ColumnMatrix.range_tiles p.rowsOf p.size
  entry := fun _ _ _ => mem_slice_toModel h.rows_within
  ascending := by
    intro v
    rw [slice_toModel]
    split
    · exact rowsOf_ascending p v
    · exact .nil
  entryCount := by
    change (ColumnMatrix.ofColumns p.rowColumns).entryCount = _
    rw [ColumnMatrix.entryCount_ofColumns]
    exact rowColumns_entryCount h.rows_within

end Problem

end MipDispatch
