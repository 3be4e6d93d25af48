import MipDispatch.Model.Variable
import MipDispatch.Proofs.Number.Exact

namespace MipDispatch

open Float.Model Float.Model.UnpackedFloat

def IsWhole (x : Float) : Prop := ∃ k : Int, exactValue x = k

/-- Whole numbers with at most as many digits as a mantissa are stored without a loss. -/
theorem round_natural {n : Nat} (hpos : 0 < n) (hlt : n < 2 ^ 53) (s : Sign) :
    ∃ (m : Nat) (e : Int) (hm : 0 < m), Stored m e ∧ e ≤ 971 ∧ (m : ℚ) * 2 ^ e = n ∧
      UnpackedFloat.round .binary64 s n 0 = .finite s m e hm := by
  have hlog : n.log2 < 53 := (Nat.log2_lt (Nat.ne_of_gt hpos)).2 hlt
  let k := 52 - n.log2
  have htarget : Format.binary64.targetExponent (totalExponent n 0) = -k := by
    change max (n.log2 + 1 + 0 - 53 : Int) (-1074) = -(k : Int)
    omega
  have hm : 0 < 2 ^ k * n := Nat.mul_pos (Nat.two_pow_pos k) hpos
  have hstored : Stored (2 ^ k * n) (-k) := by
    have hlog2 := log2_shifted hpos k
    have hk : k + n.log2 = 52 := by omega
    rw [hk] at hlog2
    refine ⟨(Nat.log2_lt hm.ne').1 (by omega), by omega, fun hsmall => ?_⟩
    have := (Nat.log2_lt hm.ne').2 hsmall
    omega
  refine ⟨2 ^ k * n, -k, hm, hstored, by omega, ?_, ?_⟩
  · push_cast
    rw [zpow_neg, zpow_natCast]
    field_simp
  · have hround := hstored.round hm s 0
    rw [Nat.pow_zero, Nat.one_mul, Nat.cast_zero, Int.sub_zero] at hround
    unfold UnpackedFloat.round decreaseExponent
    rw [htarget]
    dsimp only
    have hamount : ((0 : Int) - -k).toNat = k := by omega
    rw [hamount, Nat.shiftLeft_eq, Nat.mul_comm, Int.zero_sub]
    exact hround

theorem exactValue_natural {n : Nat} (hlt : n < 2 ^ 53) (s : Sign) :
    let y := Float.ofModel (.pack (UnpackedFloat.round .binary64 s n 0))
    y.isFinite = true ∧ exactValue y = s.apply n := by
  intro y
  rcases Nat.eq_zero_or_pos n with rfl | hpos
  · have hround : UnpackedFloat.round .binary64 s 0 0 = .zero s := by cases s <;> rfl
    have hback : y.toModel.unpack = .zero s := by
      change (Float.Model.pack (UnpackedFloat.round .binary64 s 0 0)).unpack = _
      rw [hround]
      cases s <;> rfl
    refine ⟨congrArg UnpackedFloat.isFinite hback, (congrArg unpackedValue hback).trans ?_⟩
    cases s <;> exact Int.cast_zero.symm
  · obtain ⟨m, e, hm, hstored, hfits, hvalue, hround⟩ := round_natural hpos hlt s
    have hback : y.toModel.unpack = .finite s m e hm := by
      change (Float.Model.pack (UnpackedFloat.round .binary64 s n 0)).unpack = _
      rw [hround, hstored.unpack_pack hfits]
    refine ⟨congrArg UnpackedFloat.isFinite hback, ?_⟩
    calc exactValue y = ((s.apply m : Int) : ℚ) * 2 ^ e := congrArg unpackedValue hback
      _ = s.apply n := by rw [apply_cast s m, apply_cast s n, mul_assoc, hvalue]

section Nearest

variable {s : Sign} {m : Nat} {e : Int} {hm : 0 < m}

theorem unpackedValue_finite : unpackedValue (.finite s m e hm) = ((s.apply m : Int) : ℚ) * 2 ^ e :=
  rfl

/-- A number with digits below the point is whole just if they are zeros. -/
theorem dvd_of_whole {k : Nat} {n : Int} (h : unpackedValue (.finite s m (.negSucc k) hm) = n) :
    2 ^ (k + 1) ∣ m := by
  have hn : ((s.apply m : Int) : ℚ) = n * 2 ^ (k + 1) := by
    rw [unpackedValue_finite, zpow_negSucc] at h
    rw [← h]
    simp
  have hn : s.apply m = n * (2 ^ (k + 1) : Nat) := by exact_mod_cast hn
  have habs : (s.apply m).natAbs = m := by cases s <;> simp [Sign.apply]
  rw [← habs, hn, Int.natAbs_mul]
  exact Dvd.intro_left _ rfl

theorem half_shiftRight (m k : Nat) :
    (m + 1 <<< k) >>> (k + 1) = (m + 2 ^ k) / 2 ^ (k + 1) := by
  rw [Nat.shiftRight_eq_div_pow, Nat.one_shiftLeft]

theorem half_shiftRight_lt (hlt : m < 2 ^ 53) (k : Nat) : (m + 1 <<< k) >>> (k + 1) < 2 ^ 53 := by
  have hpow := Nat.two_pow_pos k
  have hdouble : 2 ^ (k + 1) = 2 * 2 ^ k := by ring
  rw [half_shiftRight, Nat.div_lt_iff_lt_mul (Nat.two_pow_pos _), hdouble]
  omega

theorem half_shiftRight_of_dvd (w k : Nat) : (2 ^ (k + 1) * w + 1 <<< k) >>> (k + 1) = w := by
  have hhalf : 2 ^ k < 2 ^ (k + 1) := Nat.pow_lt_pow_right (by decide) (by omega)
  rw [half_shiftRight, Nat.mul_add_div (Nat.two_pow_pos _), Nat.div_eq_of_lt hhalf, Nat.add_zero]

theorem nearestWhole_spec {x : Float} (hx : x.isFinite = true) :
    (nearestWhole x).isFinite = true ∧ IsWhole (nearestWhole x) ∧
      (IsWhole x → exactValue (nearestWhole x) = exactValue x) := by
  cases hunpack : x.toModel.unpack with
  | infinity s | notANumber =>
    change x.toModel.unpack.isFinite = true at hx
    rw [hunpack] at hx
    cases hx
  | zero s =>
    have hsame : nearestWhole x = x := by
      unfold nearestWhole
      rw [hunpack]
    rw [hsame]
    exact ⟨hx, ⟨0, congrArg unpackedValue hunpack⟩, fun _ => rfl⟩
  | finite s m e hm =>
    have hvalue : exactValue x = unpackedValue (.finite s m e hm) := congrArg unpackedValue hunpack
    -- Without a negative exponent there are no digits below the point.
    cases e with
    | ofNat k =>
      have hsame : nearestWhole x = x := by
        unfold nearestWhole
        rw [hunpack]
      rw [hsame]
      refine ⟨hx, ⟨s.apply m * 2 ^ k, ?_⟩, fun _ => rfl⟩
      rw [hvalue, unpackedValue_finite, Int.ofNat_eq_natCast, zpow_natCast]
      push_cast
      rfl
    | negSucc k =>
      have hshifted := half_shiftRight_lt (stored_of_unpack hunpack).mantissa_lt k
      obtain ⟨hfinite, hexact⟩ := exactValue_natural hshifted s
      have hnearest : nearestWhole x = .ofModel (.pack (UnpackedFloat.round .binary64 s
          ((m + 1 <<< k) >>> (k + 1)) 0)) := by
        unfold nearestWhole
        rw [hunpack]
      rw [← hnearest] at hfinite hexact
      refine ⟨hfinite, ⟨_, hexact⟩, fun ⟨n, hn⟩ => ?_⟩
      -- If the number was whole, the digits that are shifted out are zeros and nothing is rounded.
      obtain ⟨w, rfl⟩ := dvd_of_whole (hvalue.symm.trans hn)
      rw [half_shiftRight_of_dvd] at hexact
      have hpow : (2 : ℚ) ^ (k + 1) ≠ 0 := by positivity
      calc exactValue (nearestWhole x) = ((s.apply 1 : Int) : ℚ) * w :=
          hexact.trans (apply_cast s w)
        _ = ((s.apply (2 ^ (k + 1) * w : Nat) : Int) : ℚ) * 2 ^ (Int.negSucc k) := by
          rw [apply_cast s (_ * w), zpow_negSucc]
          push_cast
          field_simp
        _ = exactValue x := hvalue.symm

end Nearest

end MipDispatch
