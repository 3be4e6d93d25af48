import MipDispatch.Decimal.Layout
import MipDispatch.Text.Basic

namespace MipDispatch.Toml

def isSpace (c : Char) : Bool := c = ' ' || c = '\t'

def skipSpace (cs : List Char) : List Char := cs.dropWhile isSpace

def newline? : List Char → Option (List Char)
  | '\n' :: rest => some rest
  | '\r' :: '\n' :: rest => some rest
  | _ => none

def isPlain (c : Char) : Bool := c = '\t' || (' ' ≤ c && c ≤ '~') || 0x80 ≤ c.toNat

def codedChar? (digits : List Char) : Option Char :=
  let n := Decimal.ofDigits 16 digits
  let isHex (c : Char) : Bool := c.isDigit || ('a' ≤ c && c ≤ 'f') || ('A' ≤ c && c ≤ 'F')
  if digits.all isHex && n.isValidChar then some (Char.ofNat n) else none

def escape? : List Char → Option (Char × List Char)
  | 'b' :: rest => some ('\x08', rest)
  | 't' :: rest => some ('\t', rest)
  | 'n' :: rest => some ('\n', rest)
  | 'f' :: rest => some ('\x0c', rest)
  | 'r' :: rest => some ('\r', rest)
  | '"' :: rest => some ('"', rest)
  | '\\' :: rest => some ('\\', rest)
  | 'u' :: rest =>
    if rest.length < 4 then none else (codedChar? (rest.take 4)).map (·, rest.drop 4)
  | 'U' :: rest =>
    if rest.length < 8 then none else (codedChar? (rest.take 8)).map (·, rest.drop 8)
  | _ => none

def basic? : Nat → List Char → Option (List Char × List Char)
  | 0, _ => none
  | _ + 1, [] => none
  | fuel + 1, c :: rest =>
    if c = '"' then some ([], rest)
    else if c = '\\' then do
      let (d, rest) ← escape? rest
      let (ds, rest) ← basic? fuel rest
      pure (d :: ds, rest)
    else if isPlain c then do
      let (ds, rest) ← basic? fuel rest
      pure (c :: ds, rest)
    else none

/-- Text up to a single quote on the same line, every character for itself. -/
def literal? : List Char → Option (List Char × List Char)
  | [] => none
  | c :: rest =>
    if c = '\'' then some ([], rest)
    else if isPlain c then (literal? rest).map fun r => (c :: r.1, r.2)
    else none

def skipLines (fuel : Nat) (cs : List Char) : List Char :=
  match fuel with
  | 0 => cs
  | fuel + 1 =>
    match newline? (skipSpace cs) with
    | some rest => skipLines fuel rest
    | none => skipSpace cs

/-- Text over several lines up to three quotes `q`; one or two further quotes before these belong to
the text. Line ends count as one character each. With `escapes`, a backslash at the end of a line
swallows the blank space up to the next character. -/
def multiline? (q : Char) (escapes : Bool) : Nat → List Char → Option (List Char × List Char)
  | 0, _ => none
  | _ + 1, [] => none
  | fuel + 1, c :: rest =>
    if c = q then
      let quotes := (c :: rest).takeWhile (· = q)
      let rest := (c :: rest).dropWhile (· = q)
      if 5 < quotes.length then none
      else if 3 ≤ quotes.length then some (quotes.drop 3, rest)
      else (multiline? q escapes fuel rest).map fun r => (quotes ++ r.1, r.2)
    else if escapes ∧ c = '\\' then
      match newline? (skipSpace rest) with
      | some rest => multiline? q escapes fuel (skipLines rest.length rest)
      | none => do
        let (d, rest) ← escape? rest
        let (ds, rest) ← multiline? q escapes fuel rest
        pure (d :: ds, rest)
    else match newline? (c :: rest) with
      | some rest => (multiline? q escapes fuel rest).map fun r => ('\n' :: r.1, r.2)
      | none =>
        if isPlain c then (multiline? q escapes fuel rest).map fun r => (c :: r.1, r.2) else none

/-- A line end right after the opening quotes is no part of the text. -/
def skipFirstNewline (cs : List Char) : List Char := (newline? cs).getD cs

def quoted? (cs : List Char) : Option (List Char × List Char) :=
  match cs with
  | '"' :: '"' :: '"' :: rest => multiline? '"' true cs.length (skipFirstNewline rest)
  | '\'' :: '\'' :: '\'' :: rest => multiline? '\'' false cs.length (skipFirstNewline rest)
  | '"' :: rest => basic? cs.length rest
  | '\'' :: rest => literal? rest
  | _ => none

def isBareKeyChar (c : Char) : Bool := c.isAlphanum || c = '-' || c = '_'

def keyPart? (cs : List Char) : Option (String × List Char) :=
  match cs with
  | '"' :: rest => (basic? cs.length rest).map fun r => (String.ofList r.1, r.2)
  | '\'' :: rest => (literal? rest).map fun r => (String.ofList r.1, r.2)
  | cs =>
    let bare := cs.takeWhile isBareKeyChar
    if bare.isEmpty then none else some (String.ofList bare, cs.dropWhile isBareKeyChar)

/-- The number of parts that a key, or of brackets that a value, must stay below. -/
def depthLimit : Nat := 80

def key? : Nat → List Char → Option ((List String × String) × List Char)
  | 0, _ => none
  | parts + 1, cs => do
    let (part, rest) ← keyPart? (skipSpace cs)
    match skipSpace rest with
    | '.' :: rest =>
      let ((path, last), rest) ← key? parts rest
      pure ((part :: path, last), rest)
    | rest => pure (([], part), rest)

def hexDigits (width n : Nat) : List Char :=
  let ds := Nat.toDigits 16 n
  List.replicate (width - ds.length) '0' ++ ds

/-- Quotes, backslashes and all that may not stand in text as it is are written as escapes. -/
def writtenChar (c : Char) : List Char :=
  if c = '"' ∨ c = '\\' then ['\\', c]
  else if c < ' ' ∨ c = '\x7f' then '\\' :: 'u' :: hexDigits 4 c.toNat
  else [c]

def writtenText (s : String) : String :=
  "\"" ++ String.ofList (s.toList.flatMap writtenChar) ++ "\""

/-- Numbers without a value are written in lower case. -/
def writtenReal (x : Float) : String := if x.isNaN then "nan" else Decimal.fullText x

def writtenLine (key value : String) : String := key ++ " = " ++ value ++ "\n"

end MipDispatch.Toml
