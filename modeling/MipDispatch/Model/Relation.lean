import MipDispatch.Model.Variable
import MipDispatch.Text.Basic

namespace MipDispatch

inductive Relation where
  | atMost
  | atLeast
  | equal
  deriving DecidableEq, Inhabited

structure UnknownRelation where
  text : String
  deriving DecidableEq

def UnknownRelation.message (e : UnknownRelation) : String :=
  "unknown relation " ++ Text.quoted e.text ++ ", expected one of <=, >=, =, =="

namespace Relation

def symbol : Relation → String
  | atMost => "<="
  | atLeast => ">="
  | equal => "=="

def name : Relation → String
  | atMost => "LessEqual"
  | atLeast => "GreaterEqual"
  | equal => "Equal"

def key : Relation → String
  | atMost => "less_equal"
  | atLeast => "greater_equal"
  | equal => "equal"

def ofKey? : String → Option Relation
  | "less_equal" => some atMost
  | "greater_equal" => some atLeast
  | "equal" => some equal
  | _ => none

def parse (s : String) : Except UnknownRelation Relation :=
  match Text.trim s with
  | "<=" | "LessEqual" => .ok atMost
  | ">=" | "GreaterEqual" => .ok atLeast
  | "=" | "==" | "Equal" => .ok equal
  | other => .error ⟨other⟩

def bounds (r : Relation) (value : Float) : Bounds :=
  match r with
  | atMost => ⟨-infinity, value⟩
  | atLeast => ⟨value, infinity⟩
  | equal => ⟨value, value⟩

/-- Whether `sum` breaks the comparison. Nothing compares with a sum that is not a number except
that it differs from everything. -/
def brokenBy (r : Relation) (sum value : Float) : Bool :=
  match r with
  | atMost => value < sum
  | atLeast => sum < value
  | equal => sum != value

@[simp] theorem ofKey?_key (r : Relation) : ofKey? r.key = some r := by cases r <;> rfl

end Relation

end MipDispatch
