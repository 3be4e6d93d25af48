import MipDispatch.Error

namespace MipDispatch

def elementAt {α : Type} (xs : List α) (i : Nat) : Except Crash α :=
  match xs[i]? with
  | some x => .ok x
  | none => .error (.indexOutOfBounds xs.length i)

def changeAt {α : Type} (xs : List α) (i : Nat) (f : α → α) : Except Crash (List α) :=
  if i < xs.length then .ok (xs.modify i f) else .error (.indexOutOfBounds xs.length i)

structure Solution where
  values : List Float
  value : Float
  time : Float
  deriving BEq, Inhabited

namespace Solution

def zero (n : Nat) : Solution := ⟨List.replicate n 0, 0, 0⟩

def size (s : Solution) : Nat := s.values.length

def isEmpty (s : Solution) : Bool := s.values.isEmpty

/-- Cut values off the end, or append zeros. -/
def resize (s : Solution) (n : Nat) : Solution :=
  { s with values := s.values.take n ++ List.replicate (n - s.size) 0 }

def valueOf (s : Solution) (v : Nat) : Except Crash Float := elementAt s.values v

def setValueOf (s : Solution) (v : Nat) (x : Float) : Except Crash Solution :=
  (changeAt s.values v fun _ => x).map fun values => { s with values }

@[simp] theorem size_resize (s : Solution) (n : Nat) : (s.resize n).size = n := by
  simp [resize, size]; omega

end Solution

end MipDispatch
