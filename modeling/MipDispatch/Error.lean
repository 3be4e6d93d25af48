import MipDispatch.Decimal.Layout
import MipDispatch.Module.EngineChoice
import MipDispatch.Module.Path

namespace MipDispatch

inductive Crash where
  | indexOutOfBounds (length index : Nat)
  /-- A sequence that would take up more memory than can be addressed. -/
  | capacityOverflow
  | additionOverflow
  | text (message : String)
  | other
  deriving DecidableEq

def Crash.text? : Crash → Option String
  | indexOutOfBounds length index =>
    some ("index out of bounds: the len is " ++ Decimal.natText length ++ " but the index is " ++
      Decimal.natText index)
  | capacityOverflow => some "capacity overflow"
  | additionOverflow => some "attempt to add with overflow"
  | text message => some message
  | other => none

inductive ProblemPart where
  | objective
  | constraint
  deriving DecidableEq

def ProblemPart.name : ProblemPart → String
  | objective => "objective"
  | constraint => "constraint"

inductive ProblemFault where
  | undeclared (operation : String)
  | overrideOutOfRange (var declared : Nat)
  | outOfRange (part : ProblemPart) (var declared : Nat)
  | beyondIndexRange (n : Nat)
  | other (message : String)
  deriving DecidableEq

namespace ProblemFault

def onlyDeclared (n : Nat) : String := " but only " ++ Decimal.natText n ++ " variables declared"

def message : ProblemFault → String
  | undeclared operation => operation ++ " called before initialize"
  | overrideOutOfRange var n =>
    "type override for variable " ++ Decimal.natText var ++ onlyDeclared n
  | outOfRange part var n =>
    part.name ++ " references variable " ++ Decimal.natText var ++ onlyDeclared n
  | beyondIndexRange n => Decimal.natText n ++ " exceeds the HiGHS index range"
  | other message => message

end ProblemFault

inductive Feature where
  | events
  | quadraticObjective
  | quadraticConstraint
  | quadraticOverIntegers
  | other (name : String)
  deriving DecidableEq

def Feature.name : Feature → String
  | events => "event callbacks"
  | quadraticObjective => "quadratic objectives"
  | quadraticConstraint => "quadratic constraints"
  | quadraticOverIntegers => "quadratic objectives over integer variables"
  | other name => name

/-- A module that was tried in vain. -/
structure LoadAttempt where
  module : Path
  reason : String
  deriving DecidableEq

namespace LoadAttempt

def text (a : LoadAttempt) : String := a.module.display ++ " (" ++ a.reason ++ ")"

def listText : List LoadAttempt → String
  | [] => "no candidate modules"
  | attempts => "; ".intercalate (attempts.map text)

end LoadAttempt

/-- A place in a program's text. -/
structure CallSite where
  file : String
  line : Nat
  deriving DecidableEq

inductive SolveError where
  | invalidProblem (fault : ProblemFault)
  | unsupported (backend : String) (feature : Feature)
  | unresolved (choice : EngineChoice) (attempts : List LoadAttempt)
  | engineFailed (call : String) (site : CallSite) (detail : String)
  | executionFailed (message : String)
  | invalidConfig (message : String)
  deriving DecidableEq

def SolveError.message : SolveError → String
  | invalidProblem fault => "Invalid problem: " ++ fault.message
  | unsupported backend feature => backend ++ " does not support " ++ feature.name
  | unresolved choice attempts =>
    "No suitable solver backend available for preference " ++ choice.display ++ ", tried: " ++
      LoadAttempt.listText attempts
  | engineFailed call site detail =>
    call ++ " failed at " ++ site.file ++ ":" ++ Decimal.natText site.line ++ ": " ++ detail
  | executionFailed message => "Solver execution failed: " ++ message
  | invalidConfig message => "Invalid configuration: " ++ message

/-- Why a module yields no backend. -/
inductive LoadError where
  | notFound (path : Path)
  | missingEntry (path : Path) (symbol : String)
  | constructionFailed (path : Path) (cause : SolveError)
  | constructionCrashed (path : Path) (message : String)
  deriving DecidableEq

namespace LoadError

def message : LoadError → String
  | notFound path => "module not found: " ++ path.display
  | missingEntry path symbol => "entry point '" ++ symbol ++ "' missing in " ++ path.display
  | constructionFailed path cause =>
    "construction failed in " ++ path.display ++ ": " ++ cause.message
  | constructionCrashed path message =>
    "construction panicked in " ++ path.display ++ ": " ++ message

def cause? : LoadError → Option SolveError
  | constructionFailed _ cause => some cause
  | notFound _ | missingEntry .. | constructionCrashed .. => none

end LoadError

/-- How a solve fails: it returns an error, or it breaks off. -/
inductive Failure where
  | error (e : SolveError)
  | crash (c : Crash)
  deriving DecidableEq

end MipDispatch
