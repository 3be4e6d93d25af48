import MipDispatch.Decimal.Shortest

namespace MipDispatch.Decimal

structure Layout where
  /-- What a whole number ends in. -/
  wholeEnd : String
  /-- Whether a number with this power of ten for its leading digit is written with an exponent. -/
  scientific : Int → Bool

def Layout.bare : Layout := ⟨"", fun _ => false⟩

def Layout.full : Layout := ⟨".0", fun power => power < -4 || 16 ≤ power⟩

def natText (n : Nat) : String := n.repr

def intText (n : Int) : String := if n < 0 then "-" ++ natText n.natAbs else natText n.natAbs

def positional (wholeEnd : String) (digits : List Char) (scale : Int) : String :=
  let whole := digits.length + scale
  if 0 ≤ scale then String.ofList (digits ++ List.replicate scale.toNat '0') ++ wholeEnd
  else if 0 < whole then
    String.ofList (digits.take whole.toNat ++ '.' :: digits.drop whole.toNat)
  else String.ofList ('0' :: '.' :: (List.replicate (-whole).toNat '0' ++ digits))

def scientific (digits : List Char) (power : Int) : String :=
  let body := match digits with
    | d :: e :: rest => d :: '.' :: e :: rest
    | short => short
  String.ofList body ++ "e" ++ intText power

def Digits.text (layout : Layout) (d : Digits) : String :=
  let digits := Nat.toDigits 10 d.digits
  let kept := (digits.reverse.dropWhile (· = '0')).reverse
  let scale := d.scale + (digits.length - kept.length : Nat)
  let power := kept.length + scale - 1
  if layout.scientific power then MipDispatch.Decimal.scientific kept power
  else positional layout.wholeEnd kept scale

def sign (negative : Bool) : String := if negative then "-" else ""

def Class.text (layout : Layout) : Class → String
  | .notANumber => "NaN"
  | .infinite negative => sign negative ++ "inf"
  | .zero negative => sign negative ++ "0" ++ layout.wholeEnd
  | .nonzero negative magnitude => sign negative ++ magnitude.shortest.text layout

/-- The form used inside messages: `1`, `-0`, `0.0000001`, `10000000000000000`. -/
def bareText (x : Float) : String := (Class.ofBits x.toBits).text .bare

/-- The form used for values on their own: `1.0`, `-0.0`, `1e-7`, `1e16`. -/
def fullText (x : Float) : String := (Class.ofBits x.toBits).text .full

/-- The number nearest to `mantissa * 10 ^ scale`. Beyond the range of numbers only the sign of the
scale matters, so that no huge power is ever worked out. -/
def nearest (mantissa : Nat) (scale : Int) : Float :=
  let power := (Nat.toDigits 10 mantissa).length + scale
  if mantissa = 0 ∨ power < -400 then 0
  else if 400 < power then 1 / 0
  else Float.ofScientific mantissa (scale < 0) scale.natAbs

def digitValue (c : Char) : Nat :=
  if c.isDigit then c.toNat - '0'.toNat
  else if 'a' ≤ c ∧ c ≤ 'f' then c.toNat - 'a'.toNat + 10
  else c.toNat - 'A'.toNat + 10

def ofDigits (base : Nat) (digits : List Char) : Nat :=
  digits.foldl (fun n c => n * base + digitValue c) 0

end MipDispatch.Decimal
