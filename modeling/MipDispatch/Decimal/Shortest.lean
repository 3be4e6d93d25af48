namespace MipDispatch.Decimal

/-- The positive number `mantissa * 2 ^ exponent`. Right after a power of two the next number
below is only half as far away as the next one above. -/
structure Binary where
  mantissa : Nat
  exponent : Int
  narrowBelow : Bool
  deriving DecidableEq

/-- The decimal `digits * 10 ^ scale`. -/
structure Digits where
  digits : Nat
  scale : Int
  deriving DecidableEq

inductive Class where
  | notANumber
  | infinite (negative : Bool)
  | zero (negative : Bool)
  | nonzero (negative : Bool) (magnitude : Binary)
  deriving DecidableEq

def Class.ofBits (bits : UInt64) : Class :=
  let n : Nat := bits.toNat
  let fraction := n % Nat.pow 2 52
  let power : Nat := n / Nat.pow 2 52 % Nat.pow 2 11
  let negative : Bool := Nat.pow 2 63 ≤ n
  if power = 2047 then if fraction = 0 then .infinite negative else .notANumber
  else if power = 0 then
    if fraction = 0 then .zero negative else .nonzero negative ⟨fraction, -1074, false⟩
  else .nonzero negative ⟨Nat.pow 2 52 + fraction, power - 1075, fraction = 0 ∧ 1 < power⟩

namespace Binary

/-- A quarter of the last binary place and a decimal place of weight `10 ^ scale`, both as whole
numbers of one common unit. -/
def commonUnits (b : Binary) (scale : Int) : Nat × Nat :=
  (Nat.pow 2 (b.exponent - 2).toNat * Nat.pow 10 (-scale).toNat,
    Nat.pow 10 scale.toNat * Nat.pow 2 (2 - b.exponent).toNat)

/-- Whether `digits * 10 ^ scale` rounds to this number: it lies within half the distance to the
neighbours, the ends counting when the mantissa is even. -/
def Reads (b : Binary) (d : Digits) : Prop :=
  let (quarter, place) := b.commonUnits d.scale
  let low := (4 * b.mantissa - if b.narrowBelow then 1 else 2) * quarter
  let high := (4 * b.mantissa + 2) * quarter
  let point := d.digits * place
  if b.mantissa % 2 = 0 then low ≤ point ∧ point ≤ high else low < point ∧ point < high

instance (b : Binary) (d : Digits) : Decidable (b.Reads d) := by
  unfold Reads; exact inferInstanceAs (Decidable (ite _ _ _))

/-- The two multiples of `10 ^ scale` next to this number that read back as it, the nearer one
first and the upper one first when both are equally near. -/
def neighbours (b : Binary) (scale : Int) : List Digits :=
  let (quarter, place) := b.commonUnits scale
  let value := 4 * b.mantissa * quarter
  let below := value / place
  let order :=
    if 2 * value < (2 * below + 1) * place then [below, below + 1] else [below + 1, below]
  (order.map (Digits.mk · scale)).filter fun d => b.Reads d

def leadingPower (b : Binary) : Int :=
  let num := b.mantissa * Nat.pow 2 b.exponent.toNat
  let den := Nat.pow 2 (-b.exponent).toNat
  let guess : Int := (Nat.toDigits 10 num).length - (Nat.toDigits 10 den).length
  if num * Nat.pow 10 (-guess).toNat < den * Nat.pow 10 guess.toNat then guess - 1 else guess

/-- The first of the grids with 1, 2, … 17 digits that has a point reading back as the number. -/
def shortest (b : Binary) : Digits :=
  let power := b.leadingPower
  let found := (List.range 17).findSome? fun n : Nat => (b.neighbours (power - n)).head?
  found.getD ⟨b.mantissa, 0⟩

end Binary

end MipDispatch.Decimal
