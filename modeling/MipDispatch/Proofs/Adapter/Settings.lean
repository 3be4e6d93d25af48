import MipDispatch.Proofs.Adapter.Handover
import MipDispatch.Proofs.Adapter.Parts
import MipDispatch.Proofs.Adapter.Threads

namespace MipDispatch.Engine

def Call.setting? (name : String) : Call → Option OptionValue
  | .option n value => if n = name then some value else none
  | .passModel _ | .setSense _ | .passHessian .. | .resetScheduler | .run => none

/-- What an option is set to after calls: the last value it was given. -/
def inForce (name : String) (calls : List Call) : Option OptionValue :=
  (calls.filterMap (Call.setting? name)).getLast?

theorem inForce_append (name : String) (xs ys : List Call) :
    inForce name (xs ++ ys) = (inForce name ys).or (inForce name xs) :=
  lastWrite?_append (Call.setting? name) xs ys

theorem inForce_eq_none {name : String} {calls : List Call} (h : ∀ c ∈ calls, c.option? = none) :
    inForce name calls = none := by
  refine lastWrite?_eq_none_iff.2 fun c hc => ?_
  cases c with
  | option n value => cases h _ hc
  | _ => rfl

def optionNames : List String :=
  ["output_flag", "log_to_console", "time_limit", "mip_rel_gap", "mip_abs_gap", "threads"]

open TuningCall in
/-- The options in force after calls on the engine are those that tuning calls left set, and the
engine prints if the last of them asked for it. -/
structure Obeys (told : List Call) (calls : List TuningCall) : Prop where
  timeLimit : inForce "time_limit" told = (last? timeLimit? calls).map .real
  relativeGap : inForce "mip_rel_gap" told = (last? (gap? false) calls).map .real
  absoluteGap : inForce "mip_abs_gap" told = (last? (gap? true) calls).map .real
  threads : inForce "threads" told =
    ((last? threads? calls).filter (0 < ·)).map fun n => .whole (min n indexLimit)
  verbose : inForce "output_flag" told = some (.flag ((last? verbose? calls).getD false))
  console : inForce "log_to_console" told = some (.flag false)
  others : ∀ name ∉ optionNames, inForce name told = none

theorem Obeys.append {told rest : List Call} {calls : List TuningCall} (hobey : Obeys told calls)
    (hrest : ∀ c ∈ rest, c.option? = none) : Obeys (told ++ rest) calls := by
  have hsame (name : String) : inForce name (told ++ rest) = inForce name told := by
    rw [inForce_append, inForce_eq_none hrest, Option.none_or]
  constructor <;> simp only [hsame]
  · exact hobey.timeLimit
  · exact hobey.relativeGap
  · exact hobey.absoluteGap
  · exact hobey.threads
  · exact hobey.verbose
  · exact hobey.console
  · exact hobey.others

namespace Adapter

variable {a : Adapter}

end Adapter

end MipDispatch.Engine
