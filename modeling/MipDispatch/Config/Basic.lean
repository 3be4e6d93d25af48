import MipDispatch.Backend.Contract
import MipDispatch.Module.Resolver
import MipDispatch.Toml.Document
import MipDispatch.Toml.Quoted

namespace MipDispatch

structure LogConfig where
  level : String
  format : String
  deriving BEq, DecidableEq

namespace LogConfig

def default : LogConfig := ⟨"info", "pretty"⟩

instance : Inhabited LogConfig := ⟨default⟩

end LogConfig

structure Config where
  engine : EngineChoice
  searchDir : Option Path
  timeLimit : Option Float
  gap : Option Float
  absoluteGap : Bool
  threads : Option Nat
  verbose : Bool
  logging : LogConfig
  deriving BEq

inductive ConfigFault where
  | timeLimit (x : Float)
  | gap (x : Float)
  | other (message : String)

def ConfigFault.message : ConfigFault → String
  | timeLimit x =>
    "time_limit must be a non-negative number of seconds, got " ++ Decimal.bareText x
  | gap x => "gap_tolerance must be non-negative, got " ++ Decimal.bareText x
  | other message => message

inductive FileFault where
  | missing
  | notText

def FileFault.message : FileFault → String
  | missing => "No such file or directory (os error 2)"
  | notText => "stream did not contain valid UTF-8"

inductive ConfigError where
  | file (fault : FileFault)
  /-- The text is not well formed, or a value has the wrong type. -/
  | malformed
  | invalid (fault : ConfigFault)

def ConfigError.message : ConfigError → String
  | file fault => "IO error: " ++ fault.message
  | malformed => "TOML parse error"
  | invalid fault => "Invalid configuration: " ++ fault.message

namespace Config

def default : Config := ⟨.any, none, none, none, false, none, false, .default⟩

instance : Inhabited Config := ⟨default⟩

def withEngine (c : Config) (engine : EngineChoice) : Config := { c with engine }

def withSearchDir (c : Config) (dir : Path) : Config := { c with searchDir := some dir }

def withTimeLimit (c : Config) (seconds : Float) : Config := { c with timeLimit := some seconds }

def withGap (c : Config) (gap : Float) (absolute : Bool) : Config :=
  { c with gap := some gap, absoluteGap := absolute }

def isUsable (x : Float) : Bool := x.isFinite && !(x < 0)

def validate (c : Config) : Except ConfigError Unit :=
  match c.timeLimit.filter (!isUsable ·), c.gap.filter (!isUsable ·) with
  | some x, _ => .error (.invalid (.timeLimit x))
  | none, some x => .error (.invalid (.gap x))
  | none, none => .ok ()

/-- The tuning calls of a configuration. Verbosity is always set, the rest only when given. -/
def tuningCalls (c : Config) : List TuningCall :=
  c.timeLimit.toList.map .timeLimit ++ c.gap.toList.map (.gap · c.absoluteGap) ++
    c.threads.toList.map .threads ++ [.verbose c.verbose]

def apply {β : Type} [Backend β] (c : Config) (b : β) : β := c.tuningCalls.foldl Backend.tune b

def resolvedSearchDir (c : Config) (e : Environment) : Path := c.searchDir.getD e.searchDir

end Config

end MipDispatch
