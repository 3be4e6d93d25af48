import MipDispatch.Problem
import MipDispatch.Text.Basic

namespace MipDispatch

/-- Zero is optimal when no row is violated there. A time limit of zero is used up at once. -/
structure ZeroPoint where
  name : String
  reportsEvents : Bool
  kinds : List VarKind
  objective : Objective
  rows : ConstraintList
  timeLimit : Option Float
  gap : Option (Float × Bool)
  threads : Nat
  verbose : Bool
  channel : Channel

namespace ZeroPoint

def named (name : String) (reportsEvents : Bool) : ZeroPoint :=
  ⟨name, reportsEvents, [], .zero 0, [], none, none, 0, false, .idle⟩

def capabilities (z : ZeroPoint) : Capabilities := ⟨false, true, z.reportsEvents⟩

def declare (z : ZeroPoint) (n : Nat) (kind : VarKind) (overrides : KindOverrides) :
    Step ZeroPoint :=
  .done { z with kinds := Problem.kindsOf n kind overrides, objective := .zero n, rows := [] }

def setObjective (z : ZeroPoint) (o : Objective) : Step ZeroPoint :=
  match z.capabilities.checkObjective z.name o with
  | .error e => .refuse e z
  | .ok () => .done { z with objective := o }

def setConstraints (z : ZeroPoint) (cs : ConstraintList) : Step ZeroPoint :=
  match cs.forM (z.capabilities.checkConstraint z.name) with
  | .error e => .refuse e z
  | .ok () => .done { z with rows := cs }

def addConstraint (z : ZeroPoint) (c : Constraint) : Step ZeroPoint :=
  match z.capabilities.checkConstraint z.name c with
  | .error e => .refuse e z
  | .ok () => .done { z with rows := z.rows ++ [c] }

def tune (z : ZeroPoint) : TuningCall → ZeroPoint
  | .timeLimit seconds => { z with timeLimit := some seconds }
  | .gap gap absolute => { z with gap := some (gap, absolute) }
  | .threads n => { z with threads := n }
  | .verbose on => { z with verbose := on }

def gapText (gap : Float × Bool) : String :=
  "(" ++ Decimal.fullText gap.1 ++ ", " ++ Text.boolText gap.2 ++ ")"

def settings (z : ZeroPoint) : String :=
  "timeout=" ++ Text.optionText (z.timeLimit.map Decimal.fullText) ++
    " gap=" ++ Text.optionText (z.gap.map gapText) ++
    " threads=" ++ Decimal.natText z.threads ++ " verbose=" ++ Text.boolText z.verbose

def solved (name : String) (value : Float) : Event :=
  ((Event.of "SOLVED" name).withBounds value value).field "nodes" (.integer 1)

def solve (z : ZeroPoint) (h : Host) (s : Solution) : SolveRun ZeroPoint :=
  let zero := Solution.zero z.kinds.length
  if z.timeLimit == some 0 then ⟨.ok ⟨.timeLimitInfeasible, z.settings⟩, z, s, h, []⟩
  else if z.rows.any (·.isViolated zero) then ⟨.ok ⟨.infeasible, z.settings⟩, z, s, h, []⟩
  else
    let value := z.objective.evaluate zero.values
    ⟨.ok ⟨.optimal, z.settings⟩, z, { zero with value }, h, z.channel.publish (solved z.name value)⟩

instance : Backend ZeroPoint where
  name := name
  capabilities := capabilities
  declare := declare
  demand _ n _ := n * Room.floatBytes
  setObjective := setObjective
  setConstraints := setConstraints
  addConstraint := addConstraint
  tune := tune
  listen z listener := .done { z with channel := z.channel.listen listener }
  hasListener z := z.channel.hasListener
  solve := solve

end ZeroPoint

inductive Inert where
  | inert

namespace Inert

def name : String := "bare"

def capabilities : Capabilities := ⟨false, false, false⟩

def accept (b : Inert) (check : Except SolveError Unit) : Step Inert := ⟨check, b, []⟩

instance : Backend Inert where
  name _ := name
  capabilities _ := capabilities
  declare b _ _ _ := .done b
  setObjective b o := b.accept (capabilities.checkObjective name o)
  setConstraints b _ := .done b
  addConstraint b c := b.accept (capabilities.checkConstraint name c)
  tune b _ := b
  solve b h s := ⟨.ok ⟨.error, "bare backend cannot solve"⟩, b, s, h, []⟩

end Inert

end MipDispatch
