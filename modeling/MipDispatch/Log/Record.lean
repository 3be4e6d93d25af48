namespace MipDispatch.Log

/-- From the most to the least serious. -/
inductive Level where
  | error
  | warn
  | info
  | debug
  | trace
  deriving DecidableEq

namespace Level

def name : Level → String
  | error => "ERROR"
  | warn => "WARN"
  | info => "INFO"
  | debug => "DEBUG"
  | trace => "TRACE"

def detail : Level → Nat
  | error => 1
  | warn => 2
  | info => 3
  | debug => 4
  | trace => 5

end Level

inductive Source where
  | resolver
  | engine
  | session
  | events
  deriving DecidableEq

def Source.target : Source → String
  | resolver => "mipbridge::solver::factory"
  | engine => "mipbridge::solver::highs_solver"
  | session => "mipbridge::application::solver"
  | events => "mipbridge::domain::events"

inductive Field where
  | text (s : String)
  | number (n : Nat)
  | seconds (x : Float)

structure Record where
  source : Source
  level : Level
  message : String
  fields : List (String × Field)

/-- The message counts as a field. -/
def Record.fieldNames (r : Record) : List String := "message" :: r.fields.map Prod.fst

end MipDispatch.Log
