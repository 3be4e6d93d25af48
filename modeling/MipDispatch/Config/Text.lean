import MipDispatch.Config.Basic

namespace MipDispatch

namespace Toml.Value

def text? : Value → Option String
  | .text s => some s
  | _ => none

def boolean? : Value → Option Bool
  | .boolean b => some b
  | _ => none

def real? : Value → Option Float
  | .real x => some x
  | .integer n => some (Float.ofInt n)
  | _ => none

def word? : Value → Option Nat
  | .integer n => if 0 ≤ n ∧ n ≤ 4294967295 then some n.toNat else none
  | _ => none

def isHollow : Value → Bool
  | .array vs => vs.isEmpty
  | .table _ es => es.isEmpty
  | .tables ts => ts.isEmpty
  | _ => false

end Toml.Value

namespace Config

open Toml

/-- By its word, or as a table with that word for its only key and nothing under it. -/
def engine? : Value → Option EngineChoice
  | .text s => EngineChoice.ofKey? s
  | .table _ [(key, v)] => if v.isHollow then EngineChoice.ofKey? key else none
  | _ => none

def read {α : Type} (es : Entries) (key : String) (as? : Value → Option α) (absent : α) :
    Option α :=
  match es.get? key with
  | none => some absent
  | some v => as? v

/-- By keys, or as a sequence of the level and the format. A date or time counts as a table with
none of the keys. -/
def logging? : Value → Option LogConfig
  | .table _ es => do
    let level ← read es "level" Value.text? LogConfig.default.level
    let format ← read es "format" Value.text? LogConfig.default.format
    pure ⟨level, format⟩
  | .array [] => some .default
  | .array [level] => do pure ⟨← level.text?, LogConfig.default.format⟩
  | .array (level :: format :: _) => do pure ⟨← level.text?, ← format.text?⟩
  | .date _ => some .default
  | _ => none

def ofEntries? (es : Entries) : Option Config := do
  let engine ← read es "backend" engine? default.engine
  let searchDir ← read es "search_dir" (fun v => v.text?.map (some <| Path.ofString ·)) none
  let timeLimit ← read es "time_limit" (fun v => v.real?.map some) none
  let gap ← read es "gap_tolerance" (fun v => v.real?.map some) none
  let absoluteGap ← read es "absolute_gap" Value.boolean? false
  let threads ← read es "num_threads" (fun v => v.word?.map some) none
  let verbose ← read es "verbose" Value.boolean? false
  let logging ← read es "logging" logging? .default
  pure ⟨engine, searchDir, timeLimit, gap, absoluteGap, threads, verbose, logging⟩

def parse (s : String) : Except ConfigError Config :=
  match (Toml.read? s).bind ofEntries? with
  | some c => .ok c
  | none => .error .malformed

def load (file : Option (List UInt8)) : Except ConfigError Config := do
  let bytes ← match file with
    | some bytes => pure bytes
    | none => throw (.file .missing)
  let text ← match Text.decode? bytes with
    | some text => pure text
    | none => throw (.file .notText)
  let c ← parse text
  c.validate
  pure c

def render? (c : Config) : Option String := do
  let dir ← match c.searchDir with
    | none => some ""
    | some p => (Text.decode? p.bytes).map fun s => writtenLine "search_dir" (writtenText s)
  let real (key : String) (x : Option Float) : String :=
    (x.map fun x => writtenLine key (writtenReal x)).getD ""
  pure <| writtenLine "backend" (writtenText c.engine.key) ++ dir ++
    real "time_limit" c.timeLimit ++ real "gap_tolerance" c.gap ++
    writtenLine "absolute_gap" (Text.boolText c.absoluteGap) ++
    (c.threads.map fun n => writtenLine "num_threads" (Decimal.natText n)).getD "" ++
    writtenLine "verbose" (Text.boolText c.verbose) ++ "\n[logging]\n" ++
    writtenLine "level" (writtenText c.logging.level) ++
    writtenLine "format" (writtenText c.logging.format)

def roundTrips (c : Config) : Bool :=
  match c.render?.map parse with
  | some (.ok d) => d == c
  | _ => false

end Config

end MipDispatch
