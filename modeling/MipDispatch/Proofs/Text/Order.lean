import MipDispatch.Proofs.Text.Utf8

namespace MipDispatch.Text

section Spells

variable {lead lead' : UInt8} {tail tail' : List UInt8} {n n' : Nat}

/-- Between which bytes the first one is, and between which numbers the character is, by how many
bytes follow. -/
theorem Spells.ranges (h : Spells lead tail n) :
    tail.length = 0 ∧ lead.toNat < 0x80 ∧ n < 0x80 ∨
      tail.length = 1 ∧ (0xc2 ≤ lead.toNat ∧ lead.toNat < 0xe0) ∧ 0x80 ≤ n ∧ n < 0x800 ∨
      tail.length = 2 ∧ (0xe0 ≤ lead.toNat ∧ lead.toNat < 0xf0) ∧ 0x800 ≤ n ∧ n < 0x10000 ∨
      tail.length = 3 ∧ 0xf0 ≤ lead.toNat ∧ 0x10000 ≤ n := by
  match tail with
  | [] => obtain ⟨_, _⟩ := spells_one.1 h; simp; omega
  | [b] => obtain ⟨_, _, _⟩ := spells_two.1 h; simp; omega
  | [b, d] => obtain ⟨_, hb, _, _⟩ := spells_three.1 h; split_ifs at hb <;> simp <;> omega
  | [b, d, e] => obtain ⟨_, hb, _, _, _⟩ := spells_four.1 h; split_ifs at hb <;> simp <;> omega
  | b :: d :: e :: f :: rest => exact absurd h.length_le (by simp)

theorem Spells.second_byte {b : UInt8} (h : Spells lead (b :: tail) n) :
    0x80 ≤ b.toNat ∧ b.toNat ≤ 0xbf := by
  match tail with
  | [] => exact (spells_two.1 h).2.1
  | [d] => obtain ⟨_, hb, _, _⟩ := spells_three.1 h; split_ifs at hb <;> omega
  | [d, e] => obtain ⟨_, hb, _, _, _⟩ := spells_four.1 h; split_ifs at hb <;> omega
  | d :: e :: f :: rest => exact absurd h.length_le (by simp)

/-- With as many bytes each, the first byte that differs decides between two characters. -/
theorem Spells.append_lt_of_length_eq (h : Spells lead tail n) (h' : Spells lead' tail' n')
    (hn : n < n') (hlength : tail.length = tail'.length) (rest rest' : List UInt8) :
    lead :: (tail ++ rest) < lead' :: (tail' ++ rest') := by
  -- The bytes are the digits of the number, the most significant one first.
  match tail, tail' with
  | [], [] =>
    rw [spells_one] at h h'
    simp only [List.nil_append, List.cons_lt_cons_iff, UInt8.lt_iff_toNat_lt, ← UInt8.toNat_inj]
    omega
  | [b], [b'] =>
    rw [spells_two] at h h'
    simp only [List.nil_append, List.cons_append, List.cons_lt_cons_iff, UInt8.lt_iff_toNat_lt,
      ← UInt8.toNat_inj]
    omega
  | [b, d], [b', d'] =>
    have hb := h.second_byte
    have hb' := h'.second_byte
    rw [spells_three] at h h'
    simp only [List.nil_append, List.cons_append, List.cons_lt_cons_iff, UInt8.lt_iff_toNat_lt,
      ← UInt8.toNat_inj]
    omega
  | [b, d, e], [b', d', e'] =>
    have hb := h.second_byte
    have hb' := h'.second_byte
    rw [spells_four] at h h'
    simp only [List.nil_append, List.cons_append, List.cons_lt_cons_iff, UInt8.lt_iff_toNat_lt,
      ← UInt8.toNat_inj]
    omega
  | b :: d :: e :: f :: tail, _ => exact absurd h.length_le (by simp)
  | _, b :: d :: e :: f :: tail => exact absurd h'.length_le (by simp)

theorem Spells.append_lt (h : Spells lead tail n) (h' : Spells lead' tail' n') (hn : n < n')
    (rest rest' : List UInt8) : lead :: (tail ++ rest) < lead' :: (tail' ++ rest') := by
  by_cases hlength : tail.length = tail'.length
  · exact h.append_lt_of_length_eq h' hn hlength rest rest'
  · -- the first byte tells how many there are, and larger numbers have more of them
    have hlead : lead.toNat < lead'.toNat := by
      have := h.ranges
      have := h'.ranges
      omega
    exact List.cons_lt_cons_iff.2 (.inl (UInt8.lt_iff_toNat_lt.2 hlead))

end Spells

theorem encodeChar_lt {c d : Char} (h : c < d) (rest rest' : List UInt8) :
    String.utf8EncodeChar c ++ rest < String.utf8EncodeChar d ++ rest' := by
  cases hc : String.utf8EncodeChar c with
  | nil => exact absurd hc String.utf8EncodeChar_ne_nil
  | cons lead tail =>
    cases hd : String.utf8EncodeChar d with
    | nil => exact absurd hd String.utf8EncodeChar_ne_nil
    | cons lead' tail' =>
      exact (utf8EncodeChar_eq_cons.1 hc).append_lt (utf8EncodeChar_eq_cons.1 hd) h rest rest'

theorem encodeChars_lt {cs ds : List Char} (h : cs < ds) :
    cs.flatMap String.utf8EncodeChar < ds.flatMap String.utf8EncodeChar := by
  -- the induction is on what the texts have in common, up to where they part
  induction h with
  | @nil d ds =>
    rw [List.flatMap_nil, List.flatMap_cons]
    cases hd : String.utf8EncodeChar d with
    | nil => exact absurd hd String.utf8EncodeChar_ne_nil
    | cons lead tail => exact .nil
  | cons _ ih =>
    rw [List.flatMap_cons, List.flatMap_cons]
    exact List.append_left_lt ih
  | rel hcd => exact encodeChar_lt hcd _ _

/-- Texts in order are in order of their bytes. -/
theorem encode_lt {s t : String} (h : s < t) : encode s < encode t := by
  rw [encode_eq_flatMap, encode_eq_flatMap]
  exact encodeChars_lt (String.lt_iff.1 h)

end MipDispatch.Text
