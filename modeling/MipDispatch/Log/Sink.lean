import MipDispatch.Config.Basic
import MipDispatch.Log.Directive

namespace MipDispatch.Log

abbrev Filter := List Directive

namespace Filter

/-- Without any directive only errors are let through. -/
def ofDirectives (ds : List Directive) : Filter :=
  if ds.isEmpty then [⟨"", none, false, Level.error.detail⟩] else ds

def parts (s : String) : List String := (s.splitOn ",").filter (· ≠ "")

def readable? (s : String) : Except ReadFault (Option Directive) :=
  match Directive.parse s with
  | .ok d => .ok (some d)
  | .error .unreadable => .ok none
  | .error .brokenCharacter => .error .brokenCharacter

def parse (s : String) : Except ReadFault Filter :=
  ((parts s).mapM readable?).map fun ds => ofDirectives (ds.filterMap id)

def parseAll (s : String) : Except ReadFault Filter :=
  ((parts s).mapM Directive.parse).map ofDirectives

/-- Of two directives that cover a record, neither before the other, the later one decides. -/
def prefer (best : Option Directive) (d : Directive) : Option Directive :=
  match best with
  | none => some d
  | some b => if b.outranks d then some b else some d

def admitsRecord (f : Filter) (r : Record) : Bool :=
  match (f.filter (·.covers r)).foldl prefer none with
  | none => false
  | some d => r.level.detail ≤ d.detail

end Filter

end MipDispatch.Log

namespace MipDispatch

/-- The filter of a log configuration: the one given from outside if it can be read, else the
configured one. There is none if the process does not survive the reading. -/
def LogConfig.filter? (c : LogConfig) (override : Option String) : Option Log.Filter :=
  match override.map Log.Filter.parseAll with
  | some (.ok f) => some f
  | some (.error .brokenCharacter) => none
  | some (.error .unreadable) | none => (Log.Filter.parse c.level).toOption

namespace Log

structure Sink where
  filter : Filter
  /-- Whether a record is written with its message as data, not as a line of text. -/
  structured : Bool

def Sink.ofConfig? (c : LogConfig) (override : Option String) : Option Sink :=
  (c.filter? override).map fun filter => ⟨filter, c.format = "json"⟩

def install (current : Option Sink) (s : Sink) : Bool × Option Sink :=
  match current with
  | none => (true, some s)
  | some old => (false, some old)

def Sink.written (s : Sink) (rs : List Record) : List Record := rs.filter s.filter.admitsRecord

end Log

end MipDispatch
