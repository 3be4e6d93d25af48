import MipDispatch.Decimal.Layout
import MipDispatch.Toml.Tree

namespace MipDispatch.Toml

/-- Digits of a base, single underscores allowed between them; the digits without underscores. -/
def digits? (isDigit : Char → Bool) : List Char → Option (List Char)
  | [] => none
  | [c] => if isDigit c then some [c] else none
  | c :: '_' :: rest => if isDigit c then (digits? isDigit rest).map (c :: ·) else none
  | c :: rest => if isDigit c then (digits? isDigit rest).map (c :: ·) else none

def signed : List Char → Bool × List Char
  | '-' :: rest => (true, rest)
  | '+' :: rest => (false, rest)
  | cs => (false, cs)

def negateIf (negative : Bool) (n : Nat) : Int := if negative then -(n : Int) else n

/-- Decimal digits without a zero in front. -/
def wholeDigits? (cs : List Char) : Option (List Char) :=
  (digits? Char.isDigit cs).filter fun ds => ds = ['0'] ∨ ds.head? ≠ some '0'

def isOctal (c : Char) : Bool := '0' ≤ c && c ≤ '7'

def isBinary (c : Char) : Bool := c = '0' || c = '1'

def isHex (c : Char) : Bool :=
  c.isDigit || ('a' ≤ c && c ≤ 'f') || ('A' ≤ c && c ≤ 'F')

def integer? (cs : List Char) : Option Int :=
  let n := match cs with
    | '0' :: 'x' :: rest => (digits? isHex rest).map fun ds => (Decimal.ofDigits 16 ds : Int)
    | '0' :: 'o' :: rest => (digits? isOctal rest).map fun ds => (Decimal.ofDigits 8 ds : Int)
    | '0' :: 'b' :: rest => (digits? isBinary rest).map fun ds => (Decimal.ofDigits 2 ds : Int)
    | cs =>
      let (negative, cs) := signed cs
      (wholeDigits? cs).map fun ds => negateIf negative (Decimal.ofDigits 10 ds)
  n.filter fun n => -9223372036854775808 ≤ n ∧ n ≤ 9223372036854775807

def exponent? : List Char → Option Int
  | [] => some 0
  | e :: rest =>
    if e = 'e' ∨ e = 'E' then
      let (negative, cs) := signed rest
      (digits? Char.isDigit cs).map fun ds => negateIf negative (Decimal.ofDigits 10 ds)
    else none

def isExponentMark (c : Char) : Bool := c = 'e' || c = 'E'

/-- A number with a fraction or an exponent. One that is too large for any number is refused, one
that is too far below all of them is taken as minus infinity. -/
def decimal? (cs : List Char) : Option Float := do
  let (negative, cs) := signed cs
  let mantissa := cs.takeWhile fun c => !isExponentMark c
  let tail := cs.dropWhile fun c => !isExponentMark c
  let whole ← wholeDigits? (mantissa.takeWhile (· ≠ '.'))
  let fraction ← match mantissa.dropWhile (· ≠ '.') with
    | [] => if tail.isEmpty then none else some []
    | _ :: rest => digits? Char.isDigit rest
  let exponent ← exponent? tail
  let x := Decimal.nearest (Decimal.ofDigits 10 (whole ++ fraction)) (exponent - fraction.length)
  if negative then some (-x) else if x.isInf then none else some x

def special? (cs : List Char) : Option Float :=
  let (negative, word) := signed cs
  let x : Option Float := match word with
    | ['i', 'n', 'f'] => some (1 / 0)
    | ['n', 'a', 'n'] => some (0 / 0)
    | _ => none
  x.map fun x => if negative then -x else x

def boolean? : List Char → Option Bool
  | ['t', 'r', 'u', 'e'] => some true
  | ['f', 'a', 'l', 's', 'e'] => some false
  | _ => none

def fixed? (n : Nat) (low high : Nat) (cs : List Char) : Bool :=
  cs.length == n && cs.all Char.isDigit &&
    low ≤ Decimal.ofDigits 10 cs && Decimal.ofDigits 10 cs ≤ high

def daysIn (year month : Nat) : Nat :=
  if month = 2 then
    if year % 4 = 0 ∧ (year % 100 ≠ 0 ∨ year % 400 = 0) then 29 else 28
  else if month ∈ [4, 6, 9, 11] then 30 else 31

def isDate (cs : List Char) : Bool :=
  cs.length == 10 && cs[4]? == some '-' && cs[7]? == some '-' &&
    fixed? 4 0 9999 (cs.take 4) && fixed? 2 1 12 ((cs.drop 5).take 2) &&
    fixed? 2 1 (daysIn (Decimal.ofDigits 10 (cs.take 4))
      (Decimal.ofDigits 10 ((cs.drop 5).take 2))) (cs.drop 8)

def isTime (cs : List Char) : Bool :=
  cs[2]? == some ':' && cs[5]? == some ':' && fixed? 2 0 23 (cs.take 2) &&
    fixed? 2 0 59 ((cs.drop 3).take 2) && fixed? 2 0 60 ((cs.drop 6).take 2) &&
    match cs.drop 8 with
    | [] => true
    | '.' :: rest => !rest.isEmpty && rest.all Char.isDigit
    | _ => false

def isOffset : List Char → Bool
  | ['Z'] | ['z'] => true
  | s :: cs => (s = '+' || s = '-') && cs.length == 5 && cs[2]? == some ':' &&
      fixed? 2 0 23 (cs.take 2) && fixed? 2 0 59 (cs.drop 3)
  | [] => false

def isTimeWithOffset (cs : List Char) : Bool :=
  let time := cs.takeWhile fun c => c.isDigit || c = ':' || c = '.'
  let offset := cs.dropWhile fun c => c.isDigit || c = ':' || c = '.'
  isTime time && (offset.isEmpty || isOffset offset)

def isMoment (cs : List Char) : Bool :=
  isDate cs || isTime cs ||
    (isDate (cs.take 10) && (cs[10]? == some 'T' || cs[10]? == some 't') &&
      isTimeWithOffset (cs.drop 11))

def scalar? (cs : List Char) : Option Value :=
  if isMoment cs then some (.date (String.ofList cs))
  else ((boolean? cs).map Value.boolean).or <| ((integer? cs).map Value.integer).or <|
    ((decimal? cs).or (special? cs)).map Value.real

def isScalarChar (c : Char) : Bool := c.isAlphanum || c ∈ ['+', '-', '_', '.', ':']

end MipDispatch.Toml
