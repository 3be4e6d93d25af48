namespace MipDispatch

def infinity : Float := 1 / 0

structure Bounds where
  lower : Float
  upper : Float

namespace Bounds

def free : Bounds := ⟨-infinity, infinity⟩

def unit : Bounds := ⟨0, 1⟩

def admits (b : Bounds) (slack x : Float) : Bool := b.lower - slack ≤ x && x ≤ b.upper + slack

end Bounds

inductive VarKind where
  | continuous
  | integer
  | binary
  deriving DecidableEq, Inhabited

namespace VarKind

def isIntegral : VarKind → Bool
  | continuous => false
  | integer | binary => true

def bounds : VarKind → Bounds
  | binary => .unit
  | continuous | integer => .free

def name : VarKind → String
  | continuous => "Continuous"
  | integer => "Integer"
  | binary => "Binary"

def key : VarKind → String
  | continuous => "continuous"
  | integer => "integer"
  | binary => "binary"

def ofKey? : String → Option VarKind
  | "continuous" => some continuous
  | "integer" => some integer
  | "binary" => some binary
  | _ => none

@[simp] theorem ofKey?_key (k : VarKind) : ofKey? k.key = some k := by cases k <;> rfl

end VarKind

open Float.Model

/-- The nearest whole number, halves away from zero. What comes to zero keeps its sign, and so does
everything that has no digits below the point. -/
def nearestWhole (x : Float) : Float :=
  match x.toModel.unpack with
  | .finite sign m (.negSucc k) _ =>
    -- there are `k + 1` digits below the point, and the half is the first of them
    .ofModel (.pack (UnpackedFloat.round .binary64 sign ((m + 1 <<< k) >>> (k + 1)) 0))
  | .finite _ _ (.ofNat _) _ | .infinity _ | .notANumber | .zero _ => x

end MipDispatch
