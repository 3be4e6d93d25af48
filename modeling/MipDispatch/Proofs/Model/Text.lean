import MipDispatch.Model.Constraint
import MipDispatch.Model.Objective
import MipDispatch.Proofs.Decimal.Layout
import MipDispatch.Proofs.Model.Terms

namespace MipDispatch

/-- The parts between the stars. -/
abbrev Word := List (List Char)

def Word.chars (w : Word) : List Char := ['*'].intercalate w

def lineChars (ws : List Word) : List Char := [' '].intercalate (ws.map Word.chars)

def lineWords (cs : List Char) : List Word := (cs.splitOn ' ').map (List.splitOn '*')

structure Word.Legible (w : Word) : Prop where
  nonempty : w ≠ []
  unbroken : ∀ p ∈ w, ' ' ∉ p ∧ '*' ∉ p

section Line

theorem mem_intercalate {α : Type} {c x : α} {ls : List (List α)} (h : c ∈ [x].intercalate ls) :
    c = x ∨ ∃ l ∈ ls, c ∈ l := by
  induction ls with
  | nil => cases h
  | cons l ls ih =>
    rcases eq_or_ne ls [] with rfl | hne
    · exact .inr ⟨l, List.mem_cons_self, by simpa using h⟩
    · rw [List.intercalate_cons_of_ne_nil hne, List.mem_append, List.mem_append,
        List.mem_singleton] at h
      rcases h with (h | h) | h
      · exact .inr ⟨l, List.mem_cons_self, h⟩
      · exact .inl h
      · rcases ih h with h | ⟨l', hl', h⟩
        · exact .inl h
        · exact .inr ⟨l', List.mem_cons_of_mem _ hl', h⟩

theorem Word.Legible.blank_not_mem {w : Word} (h : w.Legible) : ' ' ∉ w.chars := by
  intro hmem
  rcases mem_intercalate hmem with heq | ⟨p, hp, hmem⟩
  · exact absurd heq (by decide)
  · exact (h.unbroken p hp).1 hmem

theorem lineWords_lineChars {ws : List Word} (hne : ws ≠ []) (h : ∀ w ∈ ws, w.Legible) :
    lineWords (lineChars ws) = ws := by
  have hblank : ∀ l ∈ ws.map Word.chars, ' ' ∉ l :=
    List.forall_mem_map.2 fun w hw => (h w hw).blank_not_mem
  have hword : ∀ w ∈ ws, w.chars.splitOn '*' = w := fun w hw =>
    List.splitOn_intercalate '*' (fun p hp => ((h w hw).unbroken p hp).2) (h w hw).nonempty
  rw [lineWords, lineChars, List.splitOn_intercalate ' ' hblank (by simpa using hne), List.map_map]
  exact (List.map_congr_left hword).trans (List.map_id ws)

/-- Terms have a blank after each of them. -/
theorem lineChars_append {α : Type} {text : α → String} {word : α → Word}
    (h : ∀ a, (text a).toList = (word a).chars ++ [' ']) (as : List α) {ws : List Word}
    (hne : ws ≠ []) :
    lineChars (as.map word ++ ws) = (String.join (as.map text)).toList ++ lineChars ws := by
  rw [String.toList_join]
  induction as with
  | nil => rfl
  | cons a as ih =>
    have hrest : (as.map word ++ ws).map Word.chars ≠ [] := by simp [hne]
    rw [List.map_cons, List.map_cons, List.flatMap_cons, h, List.append_assoc, ← ih]
    exact List.intercalate_cons_of_ne_nil hrest

end Line

section Terms

def numberPart (x : Float) : List Char := (Decimal.bareText x).toList

def idPart (v : Nat) : List Char := (Decimal.natText v).toList

theorem numberPart_injective : Function.Injective numberPart := fun _ _ h =>
  Decimal.bareText_injective (String.toList_injective h)

theorem idPart_injective : Function.Injective idPart := fun _ _ h =>
  Nat.repr_inj.1 (String.toList_injective h)

theorem numberPart_unbroken (x : Float) : ' ' ∉ numberPart x ∧ '*' ∉ numberPart x := by
  constructor <;>
  · intro hmem
    rcases Decimal.mem_bareText hmem with hdigit | hletter
    · exact absurd hdigit (by decide)
    · exact absurd hletter (by decide)

theorem idPart_unbroken (v : Nat) : ' ' ∉ idPart v ∧ '*' ∉ idPart v := by
  have hdigits : idPart v = Nat.toDigits 10 v := Nat.toList_repr
  rw [hdigits]
  constructor <;>
  · intro hmem
    exact absurd (Nat.isDigit_of_mem_toDigits (by decide) (by decide) hmem) (by decide)

def linearWord (t : Float × Nat) : Word := [numberPart t.1, idPart t.2]

def productWord (t : VarPair × Float) : Word :=
  [numberPart t.2, idPart t.1.low, idPart t.1.high]

def termWords (linear : List (Float × Nat)) (quadratic : QuadraticTerms) : List Word :=
  linear.map linearWord ++ quadratic.entries.map productWord

theorem linearWord_injective : Function.Injective linearWord := by
  rintro ⟨x, v⟩ ⟨x', v'⟩ h
  simp only [linearWord, List.cons.injEq, and_true] at h
  rw [numberPart_injective h.1, idPart_injective h.2]

theorem productWord_injective : Function.Injective productWord := by
  rintro ⟨⟨low, high, hle⟩, x⟩ ⟨⟨low', high', hle'⟩, x'⟩ h
  simp only [productWord, List.cons.injEq, and_true] at h
  obtain ⟨hx, hlow, hhigh⟩ := h
  obtain rfl := numberPart_injective hx
  obtain rfl := idPart_injective hlow
  obtain rfl := idPart_injective hhigh
  rfl

theorem toList_linearTermText (t : Float × Nat) :
    (linearTermText t.1 t.2).toList = (linearWord t).chars ++ [' '] := by
  simp [linearTermText, linearWord, Word.chars, numberPart, idPart, List.intercalate]

theorem toList_quadraticTermText (t : VarPair × Float) :
    (quadraticTermText t).toList = (productWord t).chars ++ [' '] := by
  simp [quadraticTermText, productWord, Word.chars, numberPart, idPart, List.intercalate]

theorem termWords_legible (linear : List (Float × Nat)) (quadratic : QuadraticTerms) :
    ∀ w ∈ termWords linear quadratic, w.Legible := by
  intro w hw
  rcases List.mem_append.1 hw with hw | hw
  · obtain ⟨t, _, rfl⟩ := List.mem_map.1 hw
    refine ⟨List.cons_ne_nil _ _, ?_⟩
    simp [linearWord, numberPart_unbroken, idPart_unbroken]
  · obtain ⟨t, _, rfl⟩ := List.mem_map.1 hw
    refine ⟨List.cons_ne_nil _ _, ?_⟩
    simp [productWord, numberPart_unbroken, idPart_unbroken]

theorem lineChars_termWords (linear : List (Float × Nat)) (quadratic : QuadraticTerms)
    {ws : List Word} (hne : ws ≠ []) : lineChars (termWords linear quadratic ++ ws) =
      (String.join (linear.map fun t => linearTermText t.1 t.2)).toList ++
        ((QuadraticTerms.text quadratic).toList ++ lineChars ws) := by
  have hrest : quadratic.entries.map productWord ++ ws ≠ [] := by simp [hne]
  rw [termWords, List.append_assoc, lineChars_append toList_linearTermText _ hrest,
    lineChars_append toList_quadraticTermText _ hne]
  rfl

/-- Linear terms are words of two parts, and products are words of three. -/
theorem termWords_inj {linear linear' : List (Float × Nat)} {quadratic quadratic' : QuadraticTerms}
    (h : termWords linear quadratic = termWords linear' quadratic') :
    linear = linear' ∧ quadratic = quadratic' := by
  have hlinear (linear : List (Float × Nat)) (quadratic : QuadraticTerms) :
      (termWords linear quadratic).filter (·.length = 2) = linear.map linearWord := by
    have htwo : ∀ w ∈ linear.map linearWord, decide (w.length = 2) = true :=
      List.forall_mem_map.2 fun _ _ => rfl
    have hthree : ∀ w ∈ quadratic.entries.map productWord, ¬ decide (w.length = 2) = true :=
      List.forall_mem_map.2 fun _ _ => Bool.false_ne_true
    rw [termWords, List.filter_append, List.filter_eq_self.2 htwo, List.filter_eq_nil_iff.2 hthree,
      List.append_nil]
  have hwords : linear.map linearWord = linear'.map linearWord := by
    rw [← hlinear linear quadratic, h, hlinear]
  rw [termWords, termWords, hwords] at h
  have hentries := List.map_injective_iff.2 productWord_injective (List.append_cancel_left h)
  exact ⟨List.map_injective_iff.2 linearWord_injective hwords,
    SparseTerms.ext_get? fun q => congrArg (SortedMap.lookup q) hentries⟩

end Terms

theorem legible_singleton {p : List Char} (h : ' ' ∉ p ∧ '*' ∉ p) : Word.Legible [p] :=
  ⟨List.cons_ne_nil _ _, fun _ hp => List.mem_singleton.1 hp ▸ h⟩

namespace Constraint

def words (c : Constraint) : List Word :=
  termWords (c.linear.entries.map Prod.swap) c.quadratic ++
    [[c.relation.symbol.toList], [numberPart c.value]]

theorem toList_text (c : Constraint) : c.text.toList = lineChars c.words := by
  rw [words, lineChars_termWords _ _ (List.cons_ne_nil _ _), List.map_map]
  simp [text, LinearTerms.text, lineChars, Word.chars, numberPart, List.intercalate,
    Function.comp_def]

theorem lineWords_text (c : Constraint) : lineWords c.text.toList = c.words := by
  have hsymbol : ' ' ∉ c.relation.symbol.toList ∧ '*' ∉ c.relation.symbol.toList := by
    cases c.relation <;> decide
  rw [toList_text]
  refine lineWords_lineChars (by simp [words]) fun w hw => ?_
  rcases List.mem_append.1 hw with hw | hw
  · exact termWords_legible _ _ w hw
  · simp only [List.mem_cons, List.not_mem_nil, or_false] at hw
    rcases hw with rfl | rfl
    · exact legible_singleton hsymbol
    · exact legible_singleton (numberPart_unbroken _)

end Constraint

namespace Objective

def words (o : Objective) : List Word :=
  [o.sense.name.toList] :: (termWords o.linear.zipIdx o.quadratic ++
    [[['+']], [numberPart o.constant]])

theorem toList_text (o : Objective) : o.text.toList = lineChars o.words := by
  have hrest : (termWords o.linear.zipIdx o.quadratic ++
      [[['+']], [numberPart o.constant]]).map Word.chars ≠ [] := by simp
  rw [words, lineChars, List.map_cons, List.intercalate_cons_of_ne_nil hrest, ← lineChars,
    lineChars_termWords _ _ (List.cons_ne_nil _ _)]
  simp [text, lineChars, Word.chars, numberPart, List.intercalate]

theorem lineWords_text (o : Objective) : lineWords o.text.toList = o.words := by
  have hsense : ' ' ∉ o.sense.name.toList ∧ '*' ∉ o.sense.name.toList := by
    cases o.sense <;> decide
  rw [toList_text]
  refine lineWords_lineChars (List.cons_ne_nil _ _) fun w hw => ?_
  rcases List.mem_cons.1 hw with rfl | hw
  · exact legible_singleton hsense
  rcases List.mem_append.1 hw with hw | hw
  · exact termWords_legible _ _ w hw
  · simp only [List.mem_cons, List.not_mem_nil, or_false] at hw
    rcases hw with rfl | rfl
    · exact legible_singleton (by decide)
    · exact legible_singleton (numberPart_unbroken _)

end Objective

theorem Relation.symbol_injective : Function.Injective Relation.symbol := by
  intro r r' h
  cases r <;> cases r'
  case atMost.atMost | atLeast.atLeast | equal.equal => rfl
  all_goals exact absurd h (by decide)

theorem Sense.name_injective : Function.Injective Sense.name := by
  intro s s' h
  cases s <;> cases s'
  case minimize.minimize | maximize.maximize => rfl
  all_goals exact absurd h (by decide)

theorem Constraint.words_injective : Function.Injective Constraint.words := by
  intro c c' h
  -- however many terms there are, relation and value are the last two words
  obtain ⟨hterms, hend⟩ := List.append_inj' h rfl
  obtain ⟨hlinear, hquadratic⟩ := termWords_inj hterms
  simp only [List.cons.injEq, and_true] at hend
  obtain ⟨hsymbol, hvalue⟩ := hend
  have hentries := List.map_injective_iff.2 Prod.swap_injective hlinear
  rw [Constraint.mk.injEq]
  exact ⟨SparseTerms.ext_get? fun v => congrArg (SortedMap.lookup v) hentries, hquadratic,
    Relation.symbol_injective (String.toList_injective hsymbol), numberPart_injective hvalue⟩

theorem Objective.words_injective : Function.Injective Objective.words := by
  intro o o' h
  obtain ⟨hsense, hrest⟩ := List.cons.inj h
  obtain ⟨hterms, hend⟩ := List.append_inj' hrest rfl
  obtain ⟨hzipped, hquadratic⟩ := termWords_inj hterms
  simp only [List.cons.injEq, and_true, true_and] at hsense hend
  -- ids are positions here, so the coefficients alone give the list back
  have hlinear : o.linear = o'.linear := by
    rw [← List.zipIdx_map_fst 0 o.linear, hzipped, List.zipIdx_map_fst]
  rw [Objective.mk.injEq]
  exact ⟨Sense.name_injective (String.toList_injective hsense), numberPart_injective hend,
    hlinear, hquadratic⟩

/-- Rows have the same text just if they have the same terms, relation and value, and objectives
just if they have the same sense, dense coefficients, products and constant. Equal numbers are
identical here, so a zero and its negative have different texts, and nothing is asked of the texts
of numbers: `Decimal.bareText_injective` and `Decimal.mem_bareText` are all that is used of them. -/
theorem texts_tell_apart :
    (∀ c c' : Constraint, c.text = c'.text ↔
      c.linear = c'.linear ∧ c.quadratic = c'.quadratic ∧ c.relation = c'.relation ∧
        c.value = c'.value) ∧
    ∀ o o' : Objective, o.text = o'.text ↔
      o.sense = o'.sense ∧ o.linear = o'.linear ∧ o.size = o'.size ∧
        o.quadratic = o'.quadratic ∧ o.constant = o'.constant := by
  refine ⟨fun c c' => ⟨fun h => ?_, ?_⟩, fun o o' => ⟨fun h => ?_, ?_⟩⟩
  · have hwords : c.words = c'.words := by rw [← c.lineWords_text, ← c'.lineWords_text, h]
    obtain rfl := Constraint.words_injective hwords
    exact ⟨rfl, rfl, rfl, rfl⟩
  · rintro ⟨hlinear, hquadratic, hrelation, hvalue⟩
    rw [Constraint.text, hlinear, hquadratic, hrelation, hvalue, ← Constraint.text]
  · have hwords : o.words = o'.words := by rw [← o.lineWords_text, ← o'.lineWords_text, h]
    obtain rfl := Objective.words_injective hwords
    exact ⟨rfl, rfl, rfl, rfl, rfl⟩
  · rintro ⟨hsense, hlinear, -, hquadratic, hconstant⟩
    rw [Objective.text, hsense, hlinear, hquadratic, hconstant, ← Objective.text]

theorem texts_tell_apart_lookalikes :
    (Constraint.empty.setLinear 12 1).text ≠ (Constraint.empty.setLinear 2 11).text ∧
    (Constraint.empty.setLinear 1 1).text ≠ (Constraint.empty.setQuadratic 1 1 1).text ∧
    ((Objective.zero 1).withConstant (-0)).text ≠ (Objective.zero 1).text := by
  refine ⟨fun h => ?_, fun h => ?_, fun h => ?_⟩
  · obtain ⟨hlinear, -⟩ := (texts_tell_apart.1 _ _).1 h
    exact absurd (congrArg (fun m : LinearTerms => m.keys) hlinear) (by decide)
  · obtain ⟨hlinear, -⟩ := (texts_tell_apart.1 _ _).1 h
    exact absurd (congrArg (fun m : LinearTerms => m.keys) hlinear) (by decide)
  · obtain ⟨-, -, -, -, hconstant⟩ := (texts_tell_apart.2 _ _).1 h
    exact absurd (congrArg Float.toBits hconstant) (by decide)

end MipDispatch
