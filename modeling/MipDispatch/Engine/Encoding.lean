import MipDispatch.Engine.Call
import MipDispatch.Problem

namespace MipDispatch

namespace Engine

/-- The largest number that the engine takes as an index or a count. -/
def indexLimit : Nat := 2147483647

def quiet : List Call :=
  [.option "output_flag" (.flag false), .option "log_to_console" (.flag false)]

end Engine

namespace Problem

def rowColumns (p : Problem) : List Column :=
  p.rows.zipIdx.foldl (fun cs t => ColumnMatrix.addRow cs t.2 t.1.linear.entries)
    (List.replicate p.size [])

def toModel (p : Problem) : Engine.Model where
  columns := p.kinds.zipIdx.map fun t => ⟨p.objective.coefficient t.2, t.1.bounds, t.1.isIntegral⟩
  rows := p.rows.map Constraint.bounds
  matrix := .ofColumns p.rowColumns

end Problem

namespace QuadraticTerms

/-- The entry of a product in a matrix `Q` whose form is `x Q x / 2`: squares count twice. -/
def hessianEntry (t : VarPair × Float) : Nat × Float :=
  (t.1.high, if t.1.low = t.1.high then 2 * t.2 else t.2)

/-- Deal terms out to the given columns, each taking the terms of its own that come next. -/
def deal : List Nat → List (VarPair × Float) → List Column
  | [], _ => []
  | c :: cs, terms =>
    (terms.takeWhile (·.1.low = c)).map hessianEntry :: deal cs (terms.dropWhile (·.1.low = c))

def hessianColumns (n : Nat) (terms : QuadraticTerms) : List Column :=
  deal (List.range n) terms.entries

/-- Every index and count that the engine is given, in the order in which they are worked out. -/
def hessianNumbers (n : Nat) (columns : List Column) : List Nat :=
  (columns.zip (ColumnMatrix.offsets 0 columns)).flatMap (fun t => t.2 :: t.1.map (·.1)) ++
    [n, columns.flatten.length]

def hessian (n : Nat) (terms : QuadraticTerms) : Except SolveError ColumnMatrix :=
  let columns := hessianColumns n terms
  match (hessianNumbers n columns).find? (Engine.indexLimit < ·) with
  | some k => .error (.invalidProblem (.beyondIndexRange k))
  | none => .ok (.ofColumns columns)

end QuadraticTerms

def Tuning.options (t : Tuning) : List Engine.Call :=
  (if t.verbose then [.option "output_flag" (.flag true)] else Engine.quiet) ++
    t.timeLimit.toList.map (.option "time_limit" <| .real ·) ++
    t.relativeGap.toList.map (.option "mip_rel_gap" <| .real ·) ++
    t.absoluteGap.toList.map (.option "mip_abs_gap" <| .real ·) ++
    t.threads.toList.map (.option "threads" <| .whole <| min · Engine.indexLimit)

end MipDispatch
