import Mathlib.Data.List.Forall2
import Mathlib.Tactic.SplitIfs
import MipDispatch.Text.Utf8

namespace MipDispatch.Text

def Within (range : UInt8 × UInt8) (b : UInt8) : Prop := range.1 ≤ b ∧ b ≤ range.2

theorem takeWithin_append {ranges : List (UInt8 × UInt8)} {tail : List UInt8}
    (h : List.Forall₂ Within ranges tail) (rest : List UInt8) :
    takeWithin ranges (tail ++ rest) = tail := by
  induction h with
  | nil => simp [takeWithin]
  | @cons range b ranges tail hb _ ih =>
    obtain ⟨low, high⟩ := range
    have hin : (decide (low ≤ b) && decide (b ≤ high)) = true := by simpa [Within] using hb
    rw [List.cons_append, takeWithin, if_pos hin, ih]

theorem takeWithin_complete {ranges : List (UInt8 × UInt8)} {bytes : List UInt8}
    (h : (takeWithin ranges bytes).length = ranges.length) :
    List.Forall₂ Within ranges (takeWithin ranges bytes) ∧ takeWithin ranges bytes <+: bytes := by
  induction ranges generalizing bytes with
  | nil => simp [takeWithin]
  | cons range ranges ih =>
    obtain ⟨low, high⟩ := range
    cases bytes with
    | nil => simp [takeWithin] at h
    | cons b bytes =>
      rw [takeWithin] at h ⊢
      split at h
      next hin =>
        rw [if_pos hin]
        obtain ⟨hrest, hprefix⟩ := ih (Nat.succ.inj h)
        exact ⟨.cons (by simpa [Within] using hin) hrest, List.cons_prefix_cons.2 ⟨rfl, hprefix⟩⟩
      · cases h

/-- By how many bytes follow. Only the first of them may have a narrower range. -/
theorem continuations_eq (lead : UInt8) : continuations lead =
    let any : UInt8 × UInt8 := (0x80, 0xbf)
    if lead.toNat < 0x80 then some []
    else if lead.toNat < 0xc2 then none
    else if lead.toNat < 0xe0 then some [any]
    else if lead.toNat < 0xf0 then
      some [(if lead.toNat = 0xe0 then 0xa0 else 0x80,
        if lead.toNat = 0xed then 0x9f else 0xbf), any]
    else if lead.toNat < 0xf5 then
      some [(if lead.toNat = 0xf0 then 0x90 else 0x80,
        if lead.toNat = 0xf4 then 0x8f else 0xbf), any, any]
    else none := by
  unfold continuations
  simp only [UInt8.lt_iff_toNat_lt, ← UInt8.toNat_inj, UInt8.reduceToNat]
  grind

/-- A lead byte and those after it make up a character, the one of this number. -/
def Spells (lead : UInt8) (tail : List UInt8) (n : Nat) : Prop :=
  ∃ ranges, continuations lead = some ranges ∧ List.Forall₂ Within ranges tail ∧
    codePoint lead tail = n

theorem spells_one {lead : UInt8} {n : Nat} :
    Spells lead [] n ↔ lead.toNat < 0x80 ∧ lead.toNat = n := by
  unfold Spells
  rw [continuations_eq]
  dsimp only
  split_ifs <;> simp [*, codePoint]

theorem spells_two {lead b : UInt8} {n : Nat} :
    Spells lead [b] n ↔ (0xc2 ≤ lead.toNat ∧ lead.toNat < 0xe0) ∧
      (0x80 ≤ b.toNat ∧ b.toNat ≤ 0xbf) ∧ lead.toNat % 32 * 64 + b.toNat % 64 = n := by
  unfold Spells
  rw [continuations_eq]
  dsimp only
  split_ifs <;> simp [*, codePoint, Within, UInt8.le_iff_toNat_le] <;> omega

theorem spells_three {lead b d : UInt8} {n : Nat} :
    Spells lead [b, d] n ↔ (0xe0 ≤ lead.toNat ∧ lead.toNat < 0xf0) ∧
      ((if lead.toNat = 0xe0 then 0xa0 else 0x80) ≤ b.toNat ∧
        b.toNat ≤ if lead.toNat = 0xed then 0x9f else 0xbf) ∧
      (0x80 ≤ d.toNat ∧ d.toNat ≤ 0xbf) ∧
      (lead.toNat % 16 * 64 + b.toNat % 64) * 64 + d.toNat % 64 = n := by
  unfold Spells
  rw [continuations_eq]
  dsimp only
  split_ifs <;> simp [*, codePoint, Within, UInt8.le_iff_toNat_le] <;> omega

theorem spells_four {lead b d e : UInt8} {n : Nat} :
    Spells lead [b, d, e] n ↔ (0xf0 ≤ lead.toNat ∧ lead.toNat < 0xf5) ∧
      ((if lead.toNat = 0xf0 then 0x90 else 0x80) ≤ b.toNat ∧
        b.toNat ≤ if lead.toNat = 0xf4 then 0x8f else 0xbf) ∧
      (0x80 ≤ d.toNat ∧ d.toNat ≤ 0xbf) ∧ (0x80 ≤ e.toNat ∧ e.toNat ≤ 0xbf) ∧
      ((lead.toNat % 8 * 64 + b.toNat % 64) * 64 + d.toNat % 64) * 64 + e.toNat % 64 = n := by
  unfold Spells
  rw [continuations_eq]
  dsimp only
  split_ifs <;> simp [*, codePoint, Within, UInt8.le_iff_toNat_le] <;> omega

theorem Spells.length_le {lead : UInt8} {tail : List UInt8} {n : Nat} (h : Spells lead tail n) :
    tail.length ≤ 3 := by
  obtain ⟨ranges, hranges, htail, -⟩ := h
  rw [← htail.length_eq]
  rw [continuations_eq] at hranges
  grind

/-- No surrogate and nothing beyond the last character can be written. -/
theorem Spells.isValidChar {lead : UInt8} {tail : List UInt8} {n : Nat}
    (h : Spells lead tail n) : n.isValidChar := by
  unfold Nat.isValidChar
  match tail with
  | [] => obtain ⟨_, _⟩ := spells_one.1 h; omega
  | [b] => obtain ⟨_, _, _⟩ := spells_two.1 h; omega
  | [b, d] => obtain ⟨_, hb, _, _⟩ := spells_three.1 h; split_ifs at hb <;> omega
  | [b, d, e] => obtain ⟨_, hb, _, _, _⟩ := spells_four.1 h; split_ifs at hb <;> omega
  | b :: d :: e :: f :: rest => exact absurd h.length_le (by simp)

theorem toUInt8_eq {m : Nat} (h : m < 256) {b : UInt8} : m.toUInt8 = b ↔ m = b.toNat := by
  rw [← UInt8.toNat_inj]
  exact Eq.congr_left (Nat.mod_eq_of_lt h)

theorem utf8EncodeChar_eq_cons {c : Char} {lead : UInt8} {tail : List UInt8} :
    String.utf8EncodeChar c = lead :: tail ↔ Spells lead tail c.toNat := by
  have hvalid : c.val.toNat.isValidChar := c.valid
  unfold Nat.isValidChar at hvalid
  unfold String.utf8EncodeChar Char.toNat
  dsimp only
  generalize c.val.toNat = n at *
  -- how many bytes follow the first decides between which numbers the character is
  match tail with
  | b :: d :: e :: f :: rest =>
    refine iff_of_false ?_ fun h => absurd h.length_le (by simp)
    split_ifs <;> simp
  | [] =>
    rw [spells_one]
    split_ifs <;> simp (disch := omega) only [List.cons.injEq, reduceCtorEq, toUInt8_eq, and_true,
      and_false, false_iff] <;> omega
  | [b] =>
    rw [spells_two]
    split_ifs <;> simp (disch := omega) only [List.cons.injEq, reduceCtorEq, toUInt8_eq, and_true,
      and_false, false_iff] <;> omega
  | [b, d] =>
    rw [spells_three]
    split_ifs <;> simp (disch := omega) only [List.cons.injEq, reduceCtorEq, toUInt8_eq, and_true,
      and_false, false_iff] <;> omega
  | [b, d, e] =>
    rw [spells_four]
    split_ifs <;> simp (disch := omega) only [List.cons.injEq, reduceCtorEq, toUInt8_eq, and_true,
      and_false, false_iff] <;> omega

theorem toNat_ofNat {n : Nat} (h : n.isValidChar) : (Char.ofNat n).toNat = n := by
  rw [Char.ofNat, dif_pos h]
  rfl

theorem firstPiece_of_spells {lead : UInt8} {tail : List UInt8} {c : Char}
    (h : Spells lead tail c.toNat) (rest : List UInt8) :
    firstPiece lead (tail ++ rest) = (.char c, tail.length) := by
  obtain ⟨ranges, hranges, htail, hcode⟩ := h
  simp only [firstPiece, hranges, takeWithin_append htail, htail.length_eq, if_true, hcode,
    Char.ofNat_toNat]

theorem spells_of_firstPiece {lead : UInt8} {rest : List UInt8} {c : Char} {used : Nat}
    (h : firstPiece lead rest = (.char c, used)) :
    ∃ tail, Spells lead tail c.toNat ∧ rest = tail ++ rest.drop used := by
  unfold firstPiece at h
  cases hranges : continuations lead with
  | none => simp [hranges] at h
  | some ranges =>
    simp only [hranges] at h
    split at h
    next hlength =>
      obtain ⟨htail, hprefix⟩ := takeWithin_complete hlength
      obtain ⟨hc, rfl⟩ : Char.ofNat _ = c ∧ _ = used := by simpa using h
      have hspells : Spells lead (takeWithin ranges rest) _ := ⟨ranges, hranges, htail, rfl⟩
      refine ⟨_, hc ▸ (toNat_ofNat hspells.isValidChar).symm ▸ hspells, ?_⟩
      exact (List.prefix_iff_eq_append.1 hprefix).symm
    · simp at h

theorem pieces_encodeChar (c : Char) (rest : List UInt8) :
    pieces (String.utf8EncodeChar c ++ rest) = .char c :: pieces rest := by
  cases hc : String.utf8EncodeChar c with
  | nil => exact absurd hc String.utf8EncodeChar_ne_nil
  | cons lead tail =>
    rw [List.cons_append, pieces, firstPiece_of_spells (utf8EncodeChar_eq_cons.1 hc)]
    simp only [List.drop_left]

theorem pieces_eq_map {bytes : List UInt8} {cs : List Char} :
    pieces bytes = cs.map .char ↔ bytes = cs.flatMap String.utf8EncodeChar := by
  constructor
  · intro h
    induction bytes using pieces.induct generalizing cs with
    | case1 => simp_all [pieces]
    | case2 lead rest piece used hfirst ih =>
      rw [pieces, hfirst] at h
      cases cs with
      | nil => cases h
      | cons c cs =>
        obtain ⟨rfl, hrest⟩ := List.cons.inj h
        obtain ⟨tail, hspells, hsplit⟩ := spells_of_firstPiece hfirst
        rw [List.flatMap_cons, utf8EncodeChar_eq_cons.2 hspells, ← ih hrest, List.cons_append,
          ← hsplit]
  · rintro rfl
    induction cs with
    | nil => simp [pieces]
    | cons c cs ih => rw [List.flatMap_cons, pieces_encodeChar, ih, List.map_cons]

theorem mapM_char? {ps : List Piece} {cs : List Char} :
    ps.mapM Piece.char? = some cs ↔ ps = cs.map .char := by
  induction ps generalizing cs with
  | nil => cases cs <;> simp
  | cons p ps ih =>
    cases p with
    | broken bytes => cases cs <;> simp [Piece.char?]
    | char c =>
      cases cs with
      | nil => simp [Piece.char?, Option.bind_eq_some_iff]
      | cons d cs => simp [Piece.char?, Option.bind_eq_some_iff, ih, and_comm]

theorem encode_eq_flatMap (s : String) : encode s = s.toList.flatMap String.utf8EncodeChar := by
  conv => lhs; rw [← String.ofList_toList (s := s)]
  exact List.toList_data_toByteArray

/-- Decoding and encoding undo each other. -/
theorem decode?_eq_some {bytes : List UInt8} {s : String} :
    decode? bytes = some s ↔ bytes = encode s := by
  rw [encode_eq_flatMap, ← pieces_eq_map, ← mapM_char?, decode?, Option.map_eq_some_iff]
  constructor
  · rintro ⟨cs, hcs, rfl⟩
    rwa [String.toList_ofList]
  · intro h
    exact ⟨_, h, String.ofList_toList⟩

end MipDispatch.Text
