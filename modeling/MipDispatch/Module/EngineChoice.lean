namespace MipDispatch

/-- An engine, or the first one available. -/
inductive EngineChoice where
  | any
  | highs
  | coinCbc
  deriving DecidableEq, Inhabited

namespace EngineChoice

/-- The engines tried for `any`, the preferred one first. -/
def priority : List EngineChoice := [highs, coinCbc]

def engines : EngineChoice → List EngineChoice
  | any => priority
  | highs => [highs]
  | coinCbc => [coinCbc]

def id : EngineChoice → String
  | any => "any"
  | highs => "highs"
  | coinCbc => "cbc"

def moduleFile (c : EngineChoice) : String := "mipbridge-backend-" ++ c.id ++ ".so"

def display : EngineChoice → String
  | any => "Any"
  | highs => "HiGHS"
  | coinCbc => "COIN-OR CBC"

def name : EngineChoice → String
  | any => "Any"
  | highs => "Highs"
  | coinCbc => "CoinCbc"

def key : EngineChoice → String
  | any => "any"
  | highs => "highs"
  | coinCbc => "coin_cbc"

def ofKey? : String → Option EngineChoice
  | "any" => some any
  | "highs" => some highs
  | "coin_cbc" => some coinCbc
  | _ => none

@[simp] theorem ofKey?_key (c : EngineChoice) : ofKey? c.key = some c := by cases c <;> rfl

theorem moduleFile_injective {c d : EngineChoice} (h : c.moduleFile = d.moduleFile) : c = d := by
  revert h; cases c <;> cases d <;> decide

end EngineChoice

end MipDispatch
