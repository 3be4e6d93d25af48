import MipDispatch.Decimal.Layout
import MipDispatch.Proofs.Decimal.Shortest

namespace MipDispatch.Decimal

section Bits

open Float.Model Float.Model.UnpackedFloat

theorem toNat_unpackMantissa (bits : UInt64) :
    (@unpackMantissa Format.binary64 bits.toBitVec).toNat = bits.toNat % 2 ^ 52 := by
  change (bits.toBitVec.extractLsb 51 0).toNat = _
  rw [BitVec.extractLsb_toNat]
  simp

theorem toNat_unpackExponent (bits : UInt64) :
    (@unpackExponent Format.binary64 bits.toBitVec).toNat = bits.toNat / 2 ^ 52 % 2 ^ 11 := by
  change (bits.toBitVec.extractLsb 62 52).toNat = _
  rw [BitVec.extractLsb_toNat, Nat.shiftRight_eq_div_pow]
  simp

namespace Class

def Regular : Class → Prop
  | notANumber | infinite _ | zero _ => True
  | nonzero _ b => b.Regular

theorem ofBits_eq (bits : UInt64) : ofBits bits =
    let fraction : Nat := bits.toNat % 2 ^ 52
    let power : Nat := bits.toNat / 2 ^ 52 % 2 ^ 11
    let negative := decide (2 ^ 63 ≤ bits.toNat)
    if power = 2047 then if fraction = 0 then .infinite negative else .notANumber
    else if power = 0 then
      if fraction = 0 then .zero negative else .nonzero negative ⟨fraction, -1074, false⟩
    else .nonzero negative ⟨2 ^ 52 + fraction, power - 1075, fraction = 0 ∧ 1 < power⟩ := rfl

theorem regular_of_subnormal {fraction : Nat} (hpos : fraction ≠ 0) (hlt : fraction < 2 ^ 52) :
    Binary.Regular ⟨fraction, -1074, false⟩ where
  stored := ⟨hlt.trans (by decide), le_rfl, fun _ => rfl⟩
  positive := Nat.pos_of_ne_zero hpos
  narrowBelow_iff := iff_of_false Bool.false_ne_true fun h => hlt.ne h.1

theorem regular_of_normal {fraction power : Nat} (hlt : fraction < 2 ^ 52) (hpower : power ≠ 0) :
    Binary.Regular ⟨2 ^ 52 + fraction, power - 1075, fraction = 0 ∧ 1 < power⟩ where
  stored := ⟨by dsimp only; omega, by dsimp only; omega, by dsimp only; omega⟩
  positive := Nat.add_pos_left (by decide) _
  narrowBelow_iff := by
    rw [decide_eq_true_iff]
    dsimp only
    omega

theorem regular_ofBits (bits : UInt64) : (ofBits bits).Regular := by
  have hlt : bits.toNat % 2 ^ 52 < 2 ^ 52 := Nat.mod_lt _ (by decide)
  rw [ofBits_eq]
  dsimp only
  split_ifs with hspecial hfraction hpower hfraction
  · trivial
  · trivial
  · trivial
  · exact regular_of_subnormal hfraction hlt
  · exact regular_of_normal hlt hpower

theorem toBits_of_notANumber {x : Float} (h : ofBits x.toBits = .notANumber) :
    x.toBits.toBitVec = packedNaN .binary64 := by
  rw [ofBits_eq] at h
  dsimp only at h
  split_ifs at h with hpower hfraction
  refine x.toModel.valid.eq_packedNaN (BitVec.eq_of_toNat_eq ?_) fun hzero => hfraction ?_
  · exact (toNat_unpackExponent x.toBits).trans hpower
  · rw [← toNat_unpackMantissa]
    exact congrArg BitVec.toNat hzero

theorem toNat_eq_of_ofBits_eq {x y : UInt64} (hx : ofBits x ≠ .notANumber)
    (h : ofBits x = ofBits y) : x.toNat = y.toNat := by
  have hlt := x.toNat_lt
  have hlt' := y.toNat_lt
  rw [ofBits_eq] at hx
  rw [ofBits_eq, ofBits_eq] at h
  dsimp only at h hx
  split_ifs at h hx <;> simp at h hx <;> omega

/-- There is one float only that is not a number, and the others are told apart by their class. -/
theorem ofBits_toBits_injective : Function.Injective fun x : Float => ofBits x.toBits := by
  intro x y h
  have hbits : x.toBits = y.toBits := by
    by_cases hx : ofBits x.toBits = .notANumber
    · apply UInt64.toBitVec_inj.1
      rw [toBits_of_notANumber hx, toBits_of_notANumber (h.symm.trans hx)]
    · exact UInt64.toNat_inj.1 (toNat_eq_of_ofBits_eq hx h)
  obtain ⟨⟨bits, hvalid⟩⟩ := x
  obtain ⟨⟨bits', hvalid'⟩⟩ := y
  cases hbits
  rfl

end Class

end Bits

section Read

/-- The number that digits stand for, with a point between two of them or without one. -/
def reading (cs : List Char) : ℚ :=
  let fraction := (cs.dropWhile (· ≠ '.')).drop 1
  Nat.ofDigitChars 10 (cs.takeWhile (· ≠ '.') ++ fraction) 0 / 10 ^ fraction.length

theorem reading_unbroken {ds : List Char} (h : '.' ∉ ds) : reading ds = Nat.ofDigitChars 10 ds 0 := by
  have hds : ∀ c ∈ ds, decide (c ≠ '.') = true := fun c hc =>
    decide_eq_true (ne_of_mem_of_not_mem hc h)
  simp only [reading]
  rw [List.takeWhile_eq_self_iff.2 hds, List.dropWhile_eq_nil_iff.2 hds]
  simp

theorem reading_point (whole fraction : List Char) (h : '.' ∉ whole) :
    reading (whole ++ '.' :: fraction) =
      Nat.ofDigitChars 10 (whole ++ fraction) 0 / 10 ^ fraction.length := by
  have hwhole : ∀ c ∈ whole, decide (c ≠ '.') = true := fun c hc =>
    decide_eq_true (ne_of_mem_of_not_mem hc h)
  simp only [reading]
  rw [List.takeWhile_append_of_pos hwhole, List.dropWhile_append_of_pos hwhole]
  simp

theorem reading_positional {ds : List Char} (h : '.' ∉ ds) (scale : Int) :
    reading (positional "" ds scale).toList = Nat.ofDigitChars 10 ds 0 * 10 ^ scale := by
  unfold positional
  dsimp only
  split
  next hscale =>
    obtain ⟨n, rfl⟩ := Int.eq_ofNat_of_zero_le hscale
    have hunbroken : '.' ∉ ds ++ List.replicate n '0' := by
      simp [h]
    simp only [String.append_empty, String.toList_ofList, Int.toNat_natCast]
    rw [reading_unbroken hunbroken, Nat.ofDigitChars_append, Nat.ofDigitChars_replicate_zero]
    push_cast
    rw [zpow_natCast, mul_comm]
  next hscale =>
    obtain ⟨k, rfl⟩ : ∃ k : Nat, scale = -k := ⟨scale.natAbs, by omega⟩
    rw [zpow_neg, zpow_natCast, ← div_eq_mul_inv]
    split
    next hwhole =>
      -- the point is between two digits
      have hlength : (ds.drop (ds.length + -(k : Int)).toNat).length = k := by
        rw [List.length_drop]
        omega
      rw [String.toList_ofList, reading_point _ _ fun hmem => h (List.mem_of_mem_take hmem), hlength,
        List.take_append_drop]
    next hwhole =>
      have hlength : (List.replicate (-(ds.length + -(k : Int))).toNat '0' ++ ds).length = k := by
        rw [List.length_append, List.length_replicate]
        omega
      rw [String.toList_ofList]
      refine (reading_point ['0'] _ (by decide)).trans ?_
      rw [hlength, Nat.ofDigitChars_append, Nat.ofDigitChars_append,
        Nat.ofDigitChars_replicate_zero]
      rfl

def kept (ds : List Char) : List Char := (ds.reverse.dropWhile (· = '0')).reverse

theorem kept_append_zeros (ds : List Char) :
    kept ds ++ List.replicate (ds.length - (kept ds).length) '0' = ds := by
  let zeros := (ds.reverse.takeWhile (· = '0')).reverse
  have hsplit : kept ds ++ zeros = ds := by
    rw [kept, ← List.reverse_append, List.takeWhile_append_dropWhile, List.reverse_reverse]
  have hzeros : zeros = List.replicate zeros.length '0' := by
    apply List.eq_replicate_of_mem
    intro c hc
    simpa using List.mem_takeWhile_imp (List.mem_reverse.1 hc)
  have hlength : ds.length - (kept ds).length = zeros.length := by
    rw [← congrArg List.length hsplit, List.length_append, Nat.add_sub_cancel_left]
  rw [hlength, ← hzeros, hsplit]

theorem point_not_mem_toDigits (n : Nat) : '.' ∉ Nat.toDigits 10 n := fun hmem =>
  absurd (Nat.isDigit_of_mem_toDigits (by decide) (by decide) hmem) (by decide)

theorem Digits.bare_text (d : Digits) : d.text .bare =
    positional "" (kept (Nat.toDigits 10 d.digits))
      (d.scale + ((Nat.toDigits 10 d.digits).length -
        (kept (Nat.toDigits 10 d.digits)).length : Nat)) := rfl

/-- The text of a decimal stands for it. -/
theorem Digits.reading_text (d : Digits) : reading (d.text .bare).toList = d.value := by
  have hsplit := kept_append_zeros (Nat.toDigits 10 d.digits)
  have hpoint : '.' ∉ kept (Nat.toDigits 10 d.digits) := fun hmem =>
    point_not_mem_toDigits d.digits (hsplit ▸ List.mem_append_left _ hmem)
  have hdigits : Nat.ofDigitChars 10 (Nat.toDigits 10 d.digits) 0 = d.digits :=
    Nat.ofDigitChars_ten_toDigits
  rw [← hsplit, Nat.ofDigitChars_append, Nat.ofDigitChars_replicate_zero] at hdigits
  rw [bare_text, reading_positional hpoint, value, zpow_add₀ (by norm_num), zpow_natCast]
  generalize kept (Nat.toDigits 10 d.digits) = ds at hdigits
  rw [← Nat.cast_inj (R := ℚ)] at hdigits
  rw [← hdigits]
  push_cast
  ring

theorem kept_subset (ds : List Char) : kept ds ⊆ ds := fun c hc => by
  rw [← kept_append_zeros ds]
  exact List.mem_append_left _ hc

/-- Digits and points are all there is in a positional text of digits. -/
theorem mem_positional {ds : List Char} (h : ∀ c ∈ ds, c.isDigit) {scale : Int} {c : Char}
    (hc : c ∈ (positional "" ds scale).toList) : c.isDigit ∨ c = '.' := by
  have hzero (n : Nat) (hc : c ∈ List.replicate n '0') : c.isDigit := by
    rw [List.eq_of_mem_replicate hc]
    decide
  unfold positional at hc
  dsimp only at hc
  split_ifs at hc
  · rw [String.append_empty, String.toList_ofList, List.mem_append] at hc
    exact .inl (hc.elim (h c) (hzero _))
  · rw [String.toList_ofList, List.mem_append, List.mem_cons] at hc
    rcases hc with hc | hc | hc
    · exact .inl (h c (List.mem_of_mem_take hc))
    · exact .inr hc
    · exact .inl (h c (List.mem_of_mem_drop hc))
  · rw [String.toList_ofList, List.mem_cons, List.mem_cons, List.mem_append] at hc
    rcases hc with hc | hc | hc | hc
    · exact .inl (hzero 1 (List.mem_singleton.2 hc))
    · exact .inr hc
    · exact .inl (hzero _ hc)
    · exact .inl (h c hc)

theorem Digits.mem_text {d : Digits} {c : Char} (hc : c ∈ (d.text .bare).toList) :
    c.isDigit ∨ c = '.' := by
  rw [bare_text] at hc
  refine mem_positional (fun c hc => ?_) hc
  exact Nat.isDigit_of_mem_toDigits (by decide) (by decide) (kept_subset _ hc)

end Read

section Class

/-- What a text without a sign stands for: nothing, infinity or a number. -/
def readMagnitude (cs : List Char) : Option (WithTop ℚ) :=
  if 'N' ∈ cs then none else if 'i' ∈ cs then some ⊤ else some (reading cs : ℚ)

namespace Class

variable {k k' : Class}

def isNegative : Class → Bool
  | notANumber => false
  | infinite negative | zero negative | nonzero negative _ => negative

def magnitudeText : Class → String
  | notANumber => "NaN"
  | infinite _ => "inf"
  | zero _ => "0"
  | nonzero _ b => b.shortest.text .bare

def magnitude : Class → Option (WithTop ℚ)
  | notANumber => none
  | infinite _ => some ⊤
  | zero _ => some (0 : ℚ)
  | nonzero _ b => some (b.shortest.value : ℚ)

theorem bare_text (k : Class) : k.text .bare = sign k.isNegative ++ k.magnitudeText := by
  cases k with
  | notANumber | infinite negative | nonzero negative b => rfl
  | zero negative => exact String.append_empty

theorem mem_magnitudeText {c : Char} (hc : c ∈ k.magnitudeText.toList) :
    c.isDigit ∨ c ∈ ['.', 'N', 'a', 'i', 'n', 'f'] := by
  cases k with
  | notANumber | infinite negative =>
    simp [magnitudeText] at hc ⊢
    tauto
  | zero negative =>
    obtain rfl : c = '0' := by simpa [magnitudeText] using hc
    exact .inl rfl
  | nonzero negative b =>
    rcases Digits.mem_text hc with hdigit | rfl
    · exact .inl hdigit
    · exact .inr (List.mem_cons_self ..)

theorem readMagnitude_text (k : Class) : readMagnitude k.magnitudeText.toList = k.magnitude := by
  cases k with
  | notANumber | infinite negative => simp [readMagnitude, magnitudeText, magnitude]
  | zero negative =>
    have hzero : reading ['0'] = 0 := by simp [reading_unbroken, Nat.ofDigitChars_cons]
    simp [readMagnitude, magnitudeText, magnitude, hzero]
  | nonzero negative b =>
    have hletter (c : Char) (hdigit : c.isDigit = false) (hpoint : c ≠ '.') :
        c ∉ (b.shortest.text .bare).toList := by
      intro hc
      rcases Digits.mem_text hc with h | h
      · rw [hdigit] at h
        cases h
      · exact hpoint h
    change readMagnitude (b.shortest.text .bare).toList = _
    rw [readMagnitude, if_neg (hletter 'N' (by decide) (by decide)),
      if_neg (hletter 'i' (by decide) (by decide)), Digits.reading_text]
    rfl

theorem eq_of_magnitude_eq (hk : k.Regular) (hk' : k'.Regular)
    (hsign : k.isNegative = k'.isNegative) (h : k.magnitude = k'.magnitude) : k = k' := by
  cases k <;> cases k'
  case notANumber.notANumber => rfl
  case infinite.infinite => exact congrArg infinite hsign
  case zero.zero => exact congrArg zero hsign
  case zero.nonzero _ _ b' =>
    have hvalue : 0 = b'.shortest.value := WithTop.coe_inj.1 (Option.some.inj h)
    exact absurd hvalue (Binary.Regular.shortest_pos hk').ne
  case nonzero.zero _ b _ =>
    have hvalue : b.shortest.value = 0 := WithTop.coe_inj.1 (Option.some.inj h)
    exact absurd hvalue (Binary.Regular.shortest_pos hk).ne'
  case nonzero.nonzero negative b negative' b' =>
    obtain rfl : negative = negative' := hsign
    have hvalue : b.shortest.value = b'.shortest.value := WithTop.coe_inj.1 (Option.some.inj h)
    exact congrArg (nonzero negative) (Binary.eq_of_shortest_eq hk hk' hvalue)
  -- what is left are magnitudes of two kinds
  all_goals simp [magnitude] at h

theorem minus_not_mem_magnitudeText (k : Class) : '-' ∉ k.magnitudeText.toList := fun hc =>
  (mem_magnitudeText hc).elim (absurd · (by decide)) (absurd · (by decide))

/-- A minus is in front of negative numbers only, so it tells the sign. -/
theorem sign_append_inj {negative negative' : Bool} {s s' : String} (hs : '-' ∉ s.toList)
    (hs' : '-' ∉ s'.toList) (h : sign negative ++ s = sign negative' ++ s') :
    negative = negative' ∧ s = s' := by
  have hminus (s : String) : '-' ∈ (sign true ++ s).toList := by simp [sign]
  have hempty (s : String) : sign false ++ s = s := String.empty_append
  cases negative <;> cases negative'
  case false.false => exact ⟨rfl, by rwa [hempty, hempty] at h⟩
  case false.true => exact absurd (hminus s') (by rwa [← h, hempty])
  case true.false => exact absurd (hminus s) (by rwa [h, hempty])
  case true.true => exact ⟨rfl, (String.append_right_inj _).1 h⟩

theorem bare_text_inj (hk : k.Regular) (hk' : k'.Regular) (h : k.text .bare = k'.text .bare) :
    k = k' := by
  rw [bare_text, bare_text] at h
  obtain ⟨hsign, hmagnitude⟩ :=
    sign_append_inj k.minus_not_mem_magnitudeText k'.minus_not_mem_magnitudeText h
  apply eq_of_magnitude_eq hk hk' hsign
  rw [← readMagnitude_text, ← readMagnitude_text, hmagnitude]

end Class

/-- Different numbers have different texts, also if they differ in the sign of a zero only. -/
theorem bareText_injective : Function.Injective bareText := by
  intro x y h
  apply Class.ofBits_toBits_injective
  exact Class.bare_text_inj (Class.regular_ofBits _) (Class.regular_ofBits _) h

theorem mem_bareText {x : Float} {c : Char} (hc : c ∈ (bareText x).toList) :
    c.isDigit ∨ c ∈ ['-', '.', 'N', 'a', 'i', 'n', 'f'] := by
  rw [bareText, Class.bare_text, String.toList_append, List.mem_append] at hc
  rcases hc with hc | hc
  · unfold sign at hc
    split at hc
    · obtain rfl : c = '-' := by simpa using hc
      exact .inr (List.mem_cons_self ..)
    · simp at hc
  · exact (Class.mem_magnitudeText hc).imp_right (List.mem_cons_of_mem _)

end Class

end MipDispatch.Decimal
