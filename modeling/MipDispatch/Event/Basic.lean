import MipDispatch.Decimal.Layout
import MipDispatch.SortedMap

namespace MipDispatch

/-- The gap between two bounds, in percent of the primal one. The denominator carries the spacing of
the numbers at one, so that a zero primal bound divides too. -/
def progressGap (primal dual : Float) : Float :=
  100 * (dual - primal).abs / (Float.ofBits 0x3cb0000000000000 + primal.abs)

namespace Event

inductive Value where
  | text (s : String)
  | integer (n : Int)
  | real (x : Float)
  deriving BEq, Inhabited

namespace Value

def maxInteger : Nat := 9223372036854775807

/-- A count, held at the largest integer when it is larger. -/
def count (n : Nat) : Value := .integer (min n maxInteger)

def text? : Value → Option String
  | text s => some s
  | integer _ | real _ => none

def number? : Value → Option Float
  | text _ => none
  | integer n => some (Float.ofInt n)
  | real x => some x

def display : Value → String
  | text s => s
  | integer n => Decimal.intText n
  | real x => Decimal.bareText x

end Value

def kindKey : String := "event_type"
def backendKey : String := "backend"
def primalKey : String := "primalbound"
def dualKey : String := "dualbound"
def gapKey : String := "gap"

/-- The labels that only `Event.of` and `Event.withBounds` write. -/
def reservedKeys : List String := [kindKey, backendKey, primalKey, dualKey, gapKey]

end Event

structure Event where
  fields : SortedMap String Event.Value
  deriving BEq, Inhabited

namespace Event

def of (kind backend : String) : Event :=
  ⟨((∅ : SortedMap String Value).insert kindKey (.text kind)).insert backendKey (.text backend)⟩

def withBounds (e : Event) (primal dual : Float) : Event :=
  ⟨((e.fields.insert primalKey (.real primal)).insert dualKey (.real dual)).insert gapKey
    (.real (progressGap primal dual))⟩

/-- Add a field, and say whether it was added: reserved labels are refused. -/
def insert (e : Event) (key : String) (value : Value) : Bool × Event :=
  if key ∈ reservedKeys then (false, e) else (true, ⟨e.fields.insert key value⟩)

def field (e : Event) (key : String) (value : Value) : Event := (e.insert key value).2

def get? (e : Event) (key : String) : Option Value := e.fields.get? key

def kind (e : Event) : String := ((e.get? kindKey).bind Value.text?).getD ""

def backend (e : Event) : String := ((e.get? backendKey).bind Value.text?).getD ""

def gap? (e : Event) : Option Float := (e.get? gapKey).bind Value.number?

/-- Labels and values by the byte order of the labels. -/
def toList (e : Event) : List (String × Value) := e.fields.entries

theorem get?_insert (e : Event) (key q : String) (v : Value) :
    (e.insert key v).2.get? q =
      if key ∉ reservedKeys ∧ q = key then some v else e.get? q := by
  unfold insert get?
  by_cases h : key ∈ reservedKeys <;> simp [h]

@[simp] theorem insert_fst (e : Event) (key : String) (v : Value) :
    (e.insert key v).1 = decide (key ∉ reservedKeys) := by
  unfold insert
  by_cases h : key ∈ reservedKeys <;> simp [h]

def size (e : Event) : Nat := e.fields.size

def isEmpty (e : Event) : Bool := e.fields.isEmpty

end Event

end MipDispatch
