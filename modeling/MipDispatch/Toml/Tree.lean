namespace MipDispatch.Toml

/-- How a table came about. -/
inductive Origin where
  | header
  /-- On the way to a table with a header. -/
  | implied
  | dotted
  | inline
  deriving DecidableEq

inductive Value where
  | text (s : String)
  | integer (n : Int)
  | real (x : Float)
  | boolean (b : Bool)
  | date (written : String)
  | array (elements : List Value)
  | table (origin : Origin) (entries : List (String × Value))
  /-- The tables that headers in double brackets have added so far. -/
  | tables (elements : List (List (String × Value)))

abbrev Entries := List (String × Value)

def Entries.get? (es : Entries) (key : String) : Option Value := (es.find? (·.1 = key)).map (·.2)

/-- Put a value in the place of the one under `key`, or at the end. -/
def Entries.put (es : Entries) (key : String) (v : Value) : Entries :=
  if es.any (·.1 = key) then es.map fun e => if e.1 = key then (key, v) else e
  else es ++ [(key, v)]

/-- Change the table at the end of a path. Tables missing on the way are made. A path into an array
of tables goes on in its last table. A path of a dotted key does not enter tables that have a
header. The change is told how its table came about. -/
def changeAt (byDots : Bool) (here : Origin) (change : Origin → Entries → Option Entries) :
    List String → Entries → Option Entries
  | [], es => change here es
  | key :: path, es =>
    match es.get? key with
    | none =>
      let origin := if byDots then .dotted else .implied
      (changeAt byDots origin change path []).map fun sub => es.put key (.table origin sub)
    | some (.table origin sub) =>
      if origin = .inline ∨ byDots ∧ origin = .header then none
      else (changeAt byDots origin change path sub).map fun sub => es.put key (.table origin sub)
    | some (.tables elements) =>
      (changeAt byDots .header change path (elements.getLastD [])).map fun sub =>
        es.put key (.tables (elements.dropLast ++ [sub]))
    | some _ => none

/-- Add a value under the last of some dotted keys. All tables on the way must stem from dotted
keys. -/
def addValue (path : List String) (key : String) (v : Value) (here : Origin) (es : Entries) :
    Option Entries :=
  changeAt true here (fun origin es =>
    if origin = .dotted ↔ path.isEmpty then none
    else if (es.get? key).isSome then none
    else some (es ++ [(key, v)])) path es

/-- Open the table of a header. It must be new, or exist only on the way to others. -/
def openTable (path : List String) (key : String) (root : Entries) : Option Entries :=
  changeAt false .header (fun _ es =>
    match es.get? key with
    | none => some (es ++ [(key, .table .header [])])
    | some (.table .implied sub) => some (es.put key (.table .header sub))
    | some _ => none) path root

def openElement (path : List String) (key : String) (root : Entries) : Option Entries :=
  changeAt false .header (fun _ es =>
    match es.get? key with
    | none => some (es ++ [(key, .tables [[]])])
    | some (.tables elements) => some (es.put key (.tables (elements ++ [[]])))
    | some _ => none) path root

def inlineTable (pairs : List ((List String × String) × Value)) : Option Value :=
  (pairs.foldlM (fun es p => addValue p.1.1 p.1.2 p.2 .header es) []).map (.table .inline)

end MipDispatch.Toml
