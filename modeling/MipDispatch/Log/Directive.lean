import MipDispatch.Decimal.Layout
import MipDispatch.Log.Pattern
import MipDispatch.Log.Record
import MipDispatch.Text.Basic
import MipDispatch.Text.Letter

namespace MipDispatch.Log

/-- The most detailed level let through; none at all at zero. -/
abbrev Detail := Nat

def numberedDetail? (cs : List Char) : Option Detail :=
  let digits := if cs.head? = some '+' then cs.tail else cs
  let n := Decimal.ofDigits 10 digits
  if !digits.isEmpty && digits.all Char.isDigit && n ≤ Level.trace.detail then some n else none

/-- A level by its name in any case, or by its number. -/
def detail? (s : String) : Option Detail :=
  match s.map Char.toLower with
  | "off" => some 0
  | "error" => some Level.error.detail
  | "warn" => some Level.warn.detail
  | "info" => some Level.info.detail
  | "debug" => some Level.debug.detail
  | "trace" => some Level.trace.detail
  | _ => numberedDetail? s.toList

/-- What is written `target[span{field=value}]=level`, each part optional. The records that it is
about are let through up to a level. -/
structure Directive where
  /-- The beginning of the targets it is about; empty for all. -/
  target : String
  /-- The field that a record must have, if any. -/
  field : Option String
  /-- Whether it is about what happens within a span. No record is written in one. -/
  withinSpan : Bool
  detail : Detail

/-! ## Values -/

def isUnsignedNumber (cs : List Char) : Bool :=
  let mantissa := cs.takeWhile fun c => c ≠ 'e' && c ≠ 'E'
  let whole := mantissa.takeWhile Char.isDigit
  let fraction := mantissa.drop whole.length
  let exponent := (cs.drop mantissa.length).tail
  let places := if exponent.head? = some '+' ∨ exponent.head? = some '-' then exponent.tail
    else exponent
  let isFinite := (fraction.isEmpty || fraction.head? = some '.') &&
    (whole ++ fraction.tail).all Char.isDigit && !(whole ++ fraction.tail).isEmpty &&
    (mantissa.length = cs.length || (!places.isEmpty && places.all Char.isDigit))
  isFinite || ["inf", "infinity", "nan"].contains (String.ofList (cs.map Char.toLower))

/-- A value is a number or a pattern. Numbers without a plus sign are patterns as well. -/
def isValue (cs : List Char) : Bool :=
  Pattern.isPattern cs || (cs.head? = some '+' && isUnsignedNumber cs.tail)

inductive ReadFault where
  | unreadable
  /-- A cut falls within a character. The process does not survive that. -/
  | brokenCharacter
  deriving DecidableEq

namespace Directive

/-- What a directive asks for besides the target: a field, or a place within a span. -/
structure Scope where
  field : Option String
  withinSpan : Bool

/-- A field's name, perhaps with a value, which only spans are compared with. What follows the value
after another equals sign is passed over. -/
def Scope.ofField (cs : List Char) : Except ReadFault Scope :=
  let name := cs.takeWhile (· ≠ '=')
  let value := (cs.drop name.length).tail.takeWhile (· ≠ '=')
  if isValue value then .ok ⟨some (String.ofList name), name.length < cs.length⟩
  else .error .unreadable

/-- How a directive can begin: like a path of names, or without a target with the bracket. -/
def beginsWith (c : Char) : Bool := ['-', ':', '_', '['].contains c || Text.isLetterOrNumber c

/-- One word is a level for all records, or else a target of which everything is let through. -/
def ofWord (word : String) : Directive :=
  match detail? word with
  | some d => ⟨"", none, false, d⟩
  | none => ⟨word, none, false, Level.trace.detail⟩

/-- A text and the part of it within the white space at its ends. Parts of a directive are found in
the core and cut out of the whole at the same distances from the beginning, in bytes: white space
behind belongs to the last part, white space in front shifts every part. -/
structure Source where
  whole : List Char
  core : List Char

namespace Source

def of (s : String) : Source := ⟨s.toList, (Text.trim s).toList⟩

def onward (t : Source) (rest : List Char) : Except ReadFault (List Char) :=
  match Text.dropBytes? (Text.utf8Length t.core - Text.utf8Length rest) t.whole with
  | some cs => .ok cs
  | none => .error .brokenCharacter

def cut (t : Source) (part rest : List Char) : Except ReadFault (List Char) := do
  match Text.takeBytes? (Text.utf8Length part) (← t.onward rest) with
  | some cs => return cs
  | none => throw .brokenCharacter

end Source

def braces (t : Source) (cs : List Char) : Except ReadFault (Scope × List Char) := do
  let field := cs.takeWhile (· ≠ '}')
  match cs.drop field.length with
  | [] => throw .unreadable
  | _ :: rest =>
    let written ← t.cut field cs
    if written.isEmpty then throw .unreadable
    let scope ← Scope.ofField written
    match rest with
    | ']' :: rest => return (scope, rest)
    | _ => throw .unreadable

/-- The brackets after their opening: the name of a span, a field in braces, or both; and what
follows them. A field alone is a condition on records too. -/
def brackets (t : Source) (cs : List Char) : Except ReadFault (Scope × List Char) := do
  let name := cs.takeWhile fun c => c ≠ ']' && c ≠ '{'
  match cs.drop name.length with
  | [] => throw .unreadable
  | mark :: rest =>
    let written ← t.cut name cs
    if mark = ']' then return (⟨none, true⟩, rest)
    let (scope, rest) ← braces t rest
    return (⟨scope.field, scope.withinSpan || !written.isEmpty⟩, rest)

def level (t : Source) : List Char → Except ReadFault Detail
  | [] => .ok Level.trace.detail
  | '=' :: rest => do
    let word ← t.onward rest
    if word.isEmpty then return Level.trace.detail
    match detail? (String.ofList word) with
    | some d => return d
    | none => throw .unreadable
  | _ => .error .unreadable

def parse (s : String) : Except ReadFault Directive := do
  let t := Source.of s
  let target := t.core.takeWhile fun c => c ≠ '=' && c ≠ '['
  if !t.core.head?.any beginsWith then throw .unreadable
  match t.core.drop target.length with
  | [] => return ofWord s
  | mark :: rest =>
    let written ← t.cut target t.core
    let (scope, rest) ← if mark = '[' then brackets t rest else pure (⟨none, false⟩, mark :: rest)
    return ⟨String.ofList written, scope.field, scope.withinSpan, ← level t rest⟩

def covers (d : Directive) (r : Record) : Bool :=
  !d.withinSpan && d.target.toList.isPrefixOf r.source.target.toList &&
    d.field.all r.fieldNames.contains

/-- Whether `d` decides rather than `e` where both cover a record: the one with the longer target,
then the one with a field, then the one whose field is later in the alphabet. -/
def outranks (d e : Directive) : Bool :=
  if d.target.length ≠ e.target.length then e.target.length < d.target.length
  else match d.field, e.field with
    | some a, some b => b < a
    | some _, none => true
    | none, _ => false

end Directive

end MipDispatch.Log
