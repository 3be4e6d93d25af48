namespace MipDispatch

/-- A finite map, listed by strictly ascending keys. -/
structure SortedMap (κ α : Type) [Ord κ] where
  entries : List (κ × α)
  ascending : entries.Pairwise fun a b => compare a.1 b.1 = .lt

namespace SortedMap

variable {κ α β : Type} [Ord κ]

/-- The entry for `k` is replaced where it stands, or put in its place in the order. -/
def insertEntry (k : κ) (a : α) : List (κ × α) → List (κ × α)
  | [] => [(k, a)]
  | (k', a') :: rest =>
    match compare k k' with
    | .lt => (k, a) :: (k', a') :: rest
    | .eq => (k, a) :: rest
    | .gt => (k', a') :: insertEntry k a rest

def eraseEntry (k : κ) (es : List (κ × α)) : List (κ × α) :=
  es.filter fun e => compare k e.1 ≠ .eq

def lookup (k : κ) : List (κ × α) → Option α
  | [] => none
  | (k', a) :: rest => if compare k k' = .eq then some a else lookup k rest

theorem mem_insertEntry {k : κ} {a : α} {es : List (κ × α)} {e : κ × α}
    (h : e ∈ insertEntry k a es) : e = (k, a) ∨ e ∈ es := by
  induction es with
  | nil => simpa [insertEntry] using h
  | cons x rest ih =>
    obtain ⟨k', a'⟩ := x
    simp only [insertEntry] at h
    split at h
    · simpa using h
    · rcases List.mem_cons.1 h with h | h
      · exact .inl h
      · exact .inr (List.mem_cons_of_mem _ h)
    · rcases List.mem_cons.1 h with h | h
      · exact .inr (h ▸ List.mem_cons_self ..)
      · rcases ih h with h | h
        · exact .inl h
        · exact .inr (List.mem_cons_of_mem _ h)

theorem insertEntry_ascending [Std.TransOrd κ] [Std.LawfulEqOrd κ] (k : κ) (a : α)
    {es : List (κ × α)} (h : es.Pairwise fun a b => compare a.1 b.1 = .lt) :
    (insertEntry k a es).Pairwise fun a b => compare a.1 b.1 = .lt := by
  induction es with
  | nil => simp [insertEntry]
  | cons x rest ih =>
    obtain ⟨k', a'⟩ := x
    have hx := List.pairwise_cons.1 h
    simp only [insertEntry]
    split
    next hlt =>
      refine List.pairwise_cons.2 ⟨fun e he => ?_, h⟩
      rcases List.mem_cons.1 he with rfl | he
      · exact hlt
      · exact Std.TransCmp.lt_trans hlt (hx.1 e he)
    next heq =>
      rw [Std.LawfulEqOrd.eq_of_compare heq]
      exact List.pairwise_cons.2 ⟨hx.1, hx.2⟩
    next hgt =>
      refine List.pairwise_cons.2 ⟨fun e he => ?_, ih hx.2⟩
      rcases mem_insertEntry he with rfl | he
      · exact Std.OrientedCmp.lt_of_gt hgt
      · exact hx.1 e he

def empty : SortedMap κ α := ⟨[], .nil⟩

instance : EmptyCollection (SortedMap κ α) := ⟨empty⟩

instance : Inhabited (SortedMap κ α) := ⟨∅⟩

instance [DecidableEq κ] [DecidableEq α] : DecidableEq (SortedMap κ α) := fun a b =>
  decidable_of_iff (a.entries = b.entries) <| by cases a; cases b; simp

/-- Entry by entry, values compared with their own `==`. -/
instance [BEq κ] [BEq α] : BEq (SortedMap κ α) := ⟨fun a b => a.entries == b.entries⟩

def insert [Std.TransOrd κ] [Std.LawfulEqOrd κ] (m : SortedMap κ α) (k : κ) (a : α) :
    SortedMap κ α :=
  ⟨insertEntry k a m.entries, insertEntry_ascending k a m.ascending⟩

def erase (m : SortedMap κ α) (k : κ) : SortedMap κ α :=
  ⟨eraseEntry k m.entries, m.ascending.filter _⟩

def get? (m : SortedMap κ α) (k : κ) : Option α := lookup k m.entries

def contains (m : SortedMap κ α) (k : κ) : Bool := (m.get? k).isSome

def keys (m : SortedMap κ α) : List κ := m.entries.map (·.1)

def values (m : SortedMap κ α) : List α := m.entries.map (·.2)

def size (m : SortedMap κ α) : Nat := m.entries.length

def isEmpty (m : SortedMap κ α) : Bool := m.entries.isEmpty

/-- Entries given later replace earlier ones with the same key. -/
def ofList [Std.TransOrd κ] [Std.LawfulEqOrd κ] (es : List (κ × α)) : SortedMap κ α :=
  es.foldl (fun m e => m.insert e.1 e.2) ∅

theorem lookup_eq_none_of_below {k : κ} {es : List (κ × α)}
    (h : ∀ e ∈ es, compare k e.1 = .lt) : lookup k es = none := by
  induction es with
  | nil => rfl
  | cons x rest ih =>
    obtain ⟨k', a'⟩ := x
    simp only [lookup, h (k', a') (List.mem_cons_self ..), reduceCtorEq, if_false]
    exact ih fun e he => h e (List.mem_cons_of_mem _ he)

theorem lookup_insertEntry [Std.TransOrd κ] [Std.LawfulEqOrd κ] (k q : κ) (a : α)
    (es : List (κ × α)) :
    lookup q (insertEntry k a es) = if compare q k = .eq then some a else lookup q es := by
  induction es with
  | nil => simp [insertEntry, lookup]
  | cons x rest ih =>
    obtain ⟨k', a'⟩ := x
    simp only [insertEntry]
    split
    · simp [lookup]
    next heq =>
      have := Std.LawfulEqOrd.eq_of_compare heq
      subst this
      by_cases hq : compare q k = .eq <;> simp [lookup, hq]
    next hgt =>
      have hne : compare q k' = .eq → compare q k ≠ .eq := fun h h' => by
        have := Std.LawfulEqOrd.eq_of_compare h
        have := Std.LawfulEqOrd.eq_of_compare h'
        subst_vars
        simp at hgt
      by_cases hq : compare q k' = .eq
      · simp [lookup, hq, hne hq]
      · simp [lookup, hq, ih]

theorem lookup_eraseEntry [Std.TransOrd κ] [Std.LawfulEqOrd κ] (k q : κ) (es : List (κ × α)) :
    lookup q (eraseEntry k es) = if compare q k = .eq then none else lookup q es := by
  induction es with
  | nil => simp [eraseEntry, lookup]
  | cons x rest ih =>
    obtain ⟨k', a'⟩ := x
    simp only [eraseEntry, ne_eq, decide_not] at ih
    simp only [eraseEntry, List.filter_cons, ne_eq, decide_not]
    by_cases hk : compare k k' = .eq
    · have := Std.LawfulEqOrd.eq_of_compare hk
      subst this
      by_cases hq : compare q k = .eq <;> simp [lookup, hq, ih]
    · have hne : compare q k' = .eq → compare q k ≠ .eq := fun h h' => by
        have := Std.LawfulEqOrd.eq_of_compare h
        have := Std.LawfulEqOrd.eq_of_compare h'
        subst_vars
        simp at hk
      by_cases hq : compare q k' = .eq
      · simp [lookup, hk, hq, hne hq]
      · simp [lookup, hk, hq, ih]

@[simp] theorem get?_empty (q : κ) : (∅ : SortedMap κ α).get? q = none := rfl

@[simp] theorem get?_insert [Std.TransOrd κ] [Std.LawfulEqOrd κ] (m : SortedMap κ α) (k q : κ)
    (a : α) : (m.insert k a).get? q = if compare q k = .eq then some a else m.get? q :=
  lookup_insertEntry ..

@[simp] theorem get?_erase [Std.TransOrd κ] [Std.LawfulEqOrd κ] (m : SortedMap κ α) (k q : κ) :
    (m.erase k).get? q = if compare q k = .eq then none else m.get? q :=
  lookup_eraseEntry ..

theorem ext_entries {m n : SortedMap κ α} (h : m.entries = n.entries) : m = n := by
  cases m; cases n; cases h; rfl

end SortedMap

end MipDispatch
