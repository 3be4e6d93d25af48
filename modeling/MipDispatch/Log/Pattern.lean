import MipDispatch.Decimal.Layout
import MipDispatch.Text.Basic
import MipDispatch.Text.Letter

namespace MipDispatch.Log.Pattern

structure Mode where
  caseless : Bool
  unicode : Bool
  /-- White space and comments count for nothing. -/
  spaced : Bool

namespace Mode

def plain : Mode := ⟨false, true, false⟩

def matchesLiterals (m : Mode) : Bool := !(m.caseless && m.unicode)

def set (m : Mode) (on : Bool) : Char → Mode
  | 'i' => { m with caseless := on }
  | 'u' => { m with unicode := on }
  | 'x' => { m with spaced := on }
  | _ => m

end Mode

/-- Drop white space and comments from the front; `inComment` until the end of the line. -/
def dropSpace (inComment : Bool) : List Char → List Char
  | [] => []
  | c :: cs =>
    if inComment then dropSpace (c ≠ '\n') cs
    else if Text.isBlank c then dropSpace false cs
    else if c = '#' then dropSpace true cs
    else c :: cs

def Mode.skip (m : Mode) (cs : List Char) : List Char := if m.spaced then dropSpace false cs else cs

/-- One element: a character, a set of characters, or a condition on the place. -/
inductive Element where
  | literal (c : Char)
  | set
  | edge

def isHex (c : Char) : Bool :=
  c.isDigit || ('a' ≤ c && c ≤ 'f') || ('A' ≤ c && c ≤ 'F')

def hexDigits? (m : Mode) : (count : Nat) → List Char → Option (List Char × List Char)
  | 0, cs => some ([], cs)
  | count + 1, cs =>
    match m.skip cs with
    | [] => none
    | c :: rest =>
      if isHex c then (hexDigits? m count rest).map fun (digits, rest) => (c :: digits, rest)
      else none

def coded? (m : Mode) (count : Nat) (cs : List Char) : Option (Element × List Char) :=
  (hexDigits? m count cs).bind fun (digits, rest) =>
    let n := Decimal.ofDigits 16 digits
    if n.isValidChar then some (.literal (Char.ofNat n), rest) else none

def control? : Char → Option Char
  | 'a' => some '\x07'
  | 'f' => some '\x0c'
  | 'n' => some '\n'
  | 'r' => some '\r'
  | 't' => some '\t'
  | 'v' => some '\x0b'
  | _ => none

def escape? (m : Mode) : List Char → Option (Element × List Char)
  | [] => none
  | c :: rest =>
    if c ∈ ['d', 's', 'w'] then if m.unicode then none else some (.set, rest)
    else if c ∈ ['b', 'B', '<', '>'] then if m.unicode then none else some (.edge, rest)
    else if c ∈ ['A', 'z'] then some (.edge, rest)
    else if c = 'x' then
      (coded? m 2 rest).filter fun
        | (.literal c, _) => m.unicode || c.toNat ≤ 0x7f
        | _ => false
    else if c = 'u' then coded? m 4 rest
    else if c = 'U' then coded? m 8 rest
    else if c.isAlphanum || 0x7f < c.toNat then (control? c).map fun c => (.literal c, rest)
    else some (.literal c, rest)

/-! ## Sets in brackets -/

def asciiClasses : List String :=
  ["alnum", "alpha", "ascii", "blank", "cntrl", "digit", "graph", "lower", "print", "punct",
   "space", "upper", "word", "xdigit"]

def asciiClass? : List Char → Option (Bool × List Char)
  | ':' :: cs =>
    let negated := cs.head? = some '^'
    let cs := if negated then cs.tail else cs
    let name := cs.takeWhile (· ≠ ':')
    match cs.drop name.length with
    | ':' :: ']' :: rest =>
      if asciiClasses.contains (String.ofList name) then some (negated, rest) else none
    | _ => none
  | _ => none

def setMember? (m : Mode) : List Char → Option (Element × List Char)
  | [] => none
  | '\\' :: rest => escape? m rest
  | c :: rest => some (.literal c, rest)

def Element.inSet (m : Mode) : Element → Bool
  | literal c => m.unicode || c.toNat ≤ 0x7f
  | set => true
  | edge => false

/-- The character after a hyphen that decides whether it makes a range. Where white space counts for
nothing it is passed over, and so is the sign of a comment, but not the comment. -/
def afterHyphen (m : Mode) (cs : List Char) : Option Char :=
  if m.spaced then
    match cs.dropWhile Text.isBlank with
    | '#' :: rest => (rest.dropWhile Text.isBlank).head?
    | rest => rest.head?
  else cs.head?

def afterRange? (m : Mode) (cs : List Char) : Option (List Char) := do
  let (first, rest) ← setMember? m cs
  let rest := m.skip rest
  if rest.head? = some '-' ∧ afterHyphen m rest.tail ≠ some ']' ∧
      afterHyphen m rest.tail ≠ some '-' then
    let (last, rest) ← setMember? m (m.skip rest.tail)
    match first, last with
    | .literal a, .literal b =>
      if a ≤ b && first.inSet m && last.inSet m then some rest else none
    | _, _ => none
  else if first.inSet m then some rest else none

/-- How deep a whole goes, given how deep each of its parts goes. A single part is the whole. -/
def joined : List Nat → Nat
  | [] => 0
  | [d] => d
  | ds => ds.foldl max 0 + 1

structure SetPlace where
  /-- How deep the members since the last operator go. -/
  members : List Nat
  /-- How deep the set before the last operator goes. -/
  before : Option Nat
  /-- At the front hyphens stand for themselves, and a closing bracket does as the first member. -/
  front : Bool

namespace SetPlace

def opened : SetPlace := ⟨[], none, true⟩

def depth (p : SetPlace) : Nat :=
  match p.before with
  | none => joined p.members
  | some d => max d (joined p.members) + 1

def add (p : SetPlace) (d : Nat) : SetPlace := ⟨d :: p.members, p.before, false⟩

def operate (p : SetPlace) : SetPlace := ⟨[], some p.depth, false⟩

end SetPlace

/-- What follows the bracket of a set and the sign of its complement. -/
def afterOpening? (m : Mode) (cs : List Char) : Option (List Char) :=
  match m.skip cs with
  | '^' :: rest => if m.unicode then some rest else none
  | rest => some rest

/-- How deep a set goes and what follows it, read on from a place within it. -/
def afterSet? (m : Mode) :
    (fuel : Nat) → (around : List SetPlace) → SetPlace → List Char → Option (Nat × List Char)
  | 0, _, _, _ => none
  | fuel + 1, around, p, cs =>
    let literal (front : Bool) (rest : List Char) :=
      if m.matchesLiterals then afterSet? m fuel around { p.add 0 with front } rest else none
    match m.skip cs with
    | [] => none
    | '[' :: rest =>
      match asciiClass? rest with
      | some (negated, rest) => if negated && !m.unicode then none else literal false rest
      | none => (afterOpening? m rest).bind (afterSet? m fuel (p :: around) .opened)
    | ']' :: rest =>
      if p.front && p.members.isEmpty then literal false rest
      else match around with
        | [] => some (p.depth + 1, rest)
        | outer :: around => afterSet? m fuel around (outer.add (p.depth + 1)) rest
    | '-' :: rest =>
      if p.front then literal true rest
      else if rest.head? = some '-' then afterSet? m fuel around p.operate rest.tail
      else (afterRange? m ('-' :: rest)).bind (literal false)
    | '&' :: '&' :: rest => afterSet? m fuel around p.operate rest
    | '~' :: '~' :: rest => afterSet? m fuel around p.operate rest
    | cs => (afterRange? m cs).bind (literal false)

/-! ## Groups -/

/-- What an opening parenthesis begins: a group, perhaps with a name, or a change of mode. -/
inductive Opening where
  | group (m : Mode)
  | named (name : List Char)
  | change (m : Mode)

/-- The mode after its letters, each at most once; those after a hyphen are switched off. -/
def switched? (m : Mode) (letters : List Char) : Option Mode :=
  let on := letters.takeWhile (· ≠ '-')
  let off := (letters.drop on.length).tail
  let all := on ++ off
  if letters.getLast? ≠ some '-' && all.all (['i', 'm', 's', 'U', 'u', 'R', 'x'].contains ·)
      && all.eraseDups.length = all.length then
    some (off.foldl (·.set false ·) (on.foldl (·.set true ·) m))
  else none

def isName (cs : List Char) : Bool :=
  cs.head?.any (fun c => c = '_' || Text.isLetter c) &&
    cs.all fun c => ['_', '.', '[', ']'].contains c || Text.isLetterOrNumber c

def name? (cs : List Char) : Option (Opening × List Char) :=
  let name := cs.takeWhile (· ≠ '>')
  match cs.drop name.length with
  | [] => none
  | _ :: rest => if isName name then some (.named name, rest) else none

def opening? (m : Mode) : List Char → Option (Opening × List Char)
  | '?' :: 'P' :: '<' :: rest => name? rest
  | '?' :: '<' :: rest => name? rest
  | '?' :: rest =>
    let letters := rest.takeWhile fun c => c ≠ ':' && c ≠ ')'
    match rest.drop letters.length with
    | ':' :: rest => (switched? m letters).map fun m => (.group m, rest)
    | _ :: rest =>
      if letters.isEmpty then none else (switched? m letters).map fun m => (.change m, rest)
    | [] => none
  | cs => some (.group m, cs)

/-! ## Whole patterns -/

/-- Sets, groups, repetitions, alternatives and sequences may stand in each other so deep. -/
def maxDepth : Nat := 250

structure Place where
  mode : Mode
  /-- How deep the parts since the last bar go, latest first. -/
  parts : List Nat
  /-- How deep the alternatives before it go. -/
  alternatives : List Nat
  /-- Whether the latest part can be repeated. -/
  repeatable : Bool

namespace Place

def opened (m : Mode) : Place := ⟨m, [], [], false⟩

def depth (p : Place) : Nat := joined (joined p.parts :: p.alternatives)

def add (p : Place) (d : Nat) : Place := { p with parts := d :: p.parts, repeatable := true }

def change (p : Place) (m : Mode) : Place :=
  { p with mode := m, parts := 0 :: p.parts, repeatable := false }

def bar (p : Place) : Place :=
  { p with parts := [], alternatives := joined p.parts :: p.alternatives, repeatable := false }

def repeated? (p : Place) : Option Place :=
  match p.parts with
  | d :: ds => if p.repeatable then some { p with parts := (d + 1) :: ds } else none
  | [] => none

end Place

/-- Whether a pattern can go on with these characters. A count of repetitions in braces cannot be
written in a filter. -/
def endsWith : (fuel : Nat) → (around : List Place) → (names : List (List Char)) → Place →
    List Char → Bool
  | 0, _, _, _, _ => false
  | fuel + 1, around, names, p, cs =>
    let m := p.mode
    let next (p : Place) (rest : List Char) := endsWith fuel around names p rest
    match m.skip cs with
    | [] => around.isEmpty && p.depth ≤ maxDepth
    | '(' :: rest =>
      match opening? m (m.skip rest) with
      | none => false
      | some (.change mode, rest) => next (p.change mode) rest
      | some (.group mode, rest) => endsWith fuel (p :: around) names (.opened mode) rest
      | some (.named name, rest) =>
        !names.contains name && endsWith fuel (p :: around) (name :: names) (.opened m) rest
    | ')' :: rest =>
      match around with
      | [] => false
      | outer :: around => endsWith fuel around names (outer.add (p.depth + 1)) rest
    | '|' :: rest => next p.bar rest
    | '[' :: rest =>
      match (afterOpening? m rest).bind (afterSet? m fuel [] .opened) with
      | none => false
      | some (d, rest) => next (p.add d) rest
    | '\\' :: rest =>
      match escape? m rest with
      | none => false
      | some (.literal _, rest) => m.matchesLiterals && next (p.add 0) rest
      | some (_, rest) => next (p.add 0) rest
    | '{' :: _ => false
    | c :: rest =>
      if c ∈ ['*', '+', '?'] then
        match p.repeated? with
        | none => false
        | some p => next p (if rest.head? = some '?' then rest.tail else rest)
      else if c = '.' then m.unicode && next (p.add 0) rest
      else if c = '^' || c = '$' then next (p.add 0) rest
      else m.matchesLiterals && next (p.add 0) rest

/-- Whether a text is a regular expression. Values are compared within spans only and no record is
written in one, so all that counts is whether the text can be read. There are no tables of letters:
in Unicode mode `\d`, `\s`, `\w`, `\p`, the edges of words and literals without regard to case are
refused, and without it whatever can match a byte that is not ASCII. -/
def isPattern (cs : List Char) : Bool := endsWith (cs.length + 1) [] [] (.opened .plain) cs

end MipDispatch.Log.Pattern
