import MipDispatch.Problem
import MipDispatch.Proofs.LastWrite

namespace MipDispatch

namespace TuningCall

def timeLimit? : TuningCall → Option Float
  | .timeLimit seconds => some seconds
  | .gap .. | .threads _ | .verbose _ => none

def gap? (absolute : Bool) : TuningCall → Option Float
  | .gap width isAbsolute => if isAbsolute = absolute then some width else none
  | .timeLimit _ | .threads _ | .verbose _ => none

def threads? : TuningCall → Option Nat
  | .threads n => some n
  | .timeLimit _ | .gap .. | .verbose _ => none

def verbose? : TuningCall → Option Bool
  | .verbose on => some on
  | .timeLimit _ | .gap .. | .threads _ => none

def last? {α : Type} (arg : TuningCall → Option α) (calls : List TuningCall) : Option α :=
  (calls.filterMap arg).getLast?

end TuningCall

namespace Tuning

open TuningCall

def after (calls : List TuningCall) : Tuning := calls.foldl apply default

variable (calls : List TuningCall)

end Tuning

end MipDispatch
