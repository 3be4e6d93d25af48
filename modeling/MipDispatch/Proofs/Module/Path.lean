import MipDispatch.Module.Path
import MipDispatch.Proofs.Text.Utf8

namespace MipDispatch.Path

theorem split_ne_nil (bytes : List UInt8) : split bytes ≠ [] := by
  cases bytes with
  | nil => simp [split]
  | cons b rest =>
    rw [split]
    split
    · simp
    · split <;> simp

theorem split_append_separator (before after : List UInt8) :
    split (before ++ separator :: after) = split before ++ split after := by
  induction before with
  | nil => simp [split]
  | cons b before ih =>
    rw [List.cons_append, split, split, ih]
    split
    · rfl
    · cases hparts : split before with
      | nil => exact absurd hparts (split_ne_nil before)
      | cons part parts => rfl

theorem split_eq_singleton {bytes : List UInt8} (h : separator ∉ bytes) :
    split bytes = [bytes] := by
  induction bytes with
  | nil => rfl
  | cons b bytes ih =>
    have hb : b ≠ separator := fun hb => h (hb ▸ List.mem_cons_self)
    rw [split, if_neg hb, ih fun hbytes => h (List.mem_cons_of_mem b hbytes)]

/-- Bytes that stand for a file of their own wherever they come last in a path. -/
structure Plain (part : List UInt8) : Prop where
  unbroken : separator ∉ part
  nonempty : part ≠ []
  not_dot : part ≠ Text.encode "."
  not_dots : part ≠ Text.encode ".."

theorem split_join (dir : Path) {file : String} (h : separator ∉ Text.encode file) :
    ∃ parts, split (dir.join file).bytes = parts ++ [Text.encode file] := by
  unfold join
  cases hlast : dir.bytes.getLast? with
  | none =>
    rw [List.getLast?_eq_none_iff.1 hlast]
    exact ⟨[], split_eq_singleton h⟩
  | some b =>
    by_cases hb : b = separator
    · subst hb
      obtain ⟨init, hinit⟩ := List.getLast?_eq_some_iff.1 hlast
      refine ⟨split init, ?_⟩
      simp only [if_true, hinit, List.append_nil, List.append_assoc, List.singleton_append]
      rw [split_append_separator, split_eq_singleton h]
    · refine ⟨split dir.bytes, ?_⟩
      simp only [hb, if_false, List.append_assoc, List.singleton_append]
      rw [split_append_separator, split_eq_singleton h]

/-- The directory may be empty, end in separators, in dots or in bytes that are not text. -/
theorem fileName?_join (dir : Path) {file : String} (h : Plain (Text.encode file)) :
    (dir.join file).fileName? = some (Text.encode file) := by
  obtain ⟨parts, hparts⟩ := dir.split_join h.unbroken
  have hnamed : [Text.encode file].filter (fun part => part ≠ [] ∧ part ≠ Text.encode ".") =
      [Text.encode file] := by simp [h.nonempty, h.not_dot]
  unfold fileName?
  dsimp only
  rw [hparts, List.filter_append, hnamed, List.getLast?_concat]
  simp [h.not_dots]

example : ((⟨[0xff, 0x2f, 0x2e, 0x2e]⟩ : Path).join "a.so").fileName? = some (Text.encode "a.so") :=
  by decide +kernel

theorem fileText?_eq_some {path : Path} {file : String} :
    path.fileText? = some file ↔ path.fileName? = some (Text.encode file) := by
  unfold fileText?
  rw [Option.bind_eq_some_iff]
  simp only [Text.decode?_eq_some]
  exact exists_eq_right

end MipDispatch.Path
