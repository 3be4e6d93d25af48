namespace MipDispatch

abbrev Column := List (Nat × Float)

/-- Where each column starts, the row of each entry, and its value. -/
structure ColumnMatrix where
  start : List Nat
  index : List Nat
  value : List Float
  deriving BEq

namespace ColumnMatrix

/-- Where each column begins when the columns stand one after the other from position `k` on. -/
def offsets (k : Nat) : List Column → List Nat
  | [] => []
  | c :: cs => k :: offsets (k + c.length) cs

def ofColumns (columns : List Column) : ColumnMatrix where
  start := offsets 0 columns
  index := columns.flatten.map (·.1)
  value := columns.flatten.map (·.2)

def entryCount (m : ColumnMatrix) : Nat := m.index.length

/-- Entries cut into columns that begin at the given places; the last takes all that is left. -/
def cut : List Nat → Column → List Column
  | [], _ => []
  | [_], entries => [entries]
  | first :: next :: starts, entries =>
    entries.take (next - first) :: cut (next :: starts) (entries.drop (next - first))

def columns (m : ColumnMatrix) : List Column := cut m.start (m.index.zip m.value)

def column (m : ColumnMatrix) (c : Nat) : Column := m.columns.getD c []

/-- The entries of row `r` as columns and values, by ascending column. -/
def row (m : ColumnMatrix) (r : Nat) : List (Nat × Float) :=
  m.columns.zipIdx.flatMap fun t => (t.1.filter (·.1 = r)).map fun e => (t.2, e.2)

def addRow (columns : List Column) (r : Nat) (entries : List (Nat × Float)) : List Column :=
  entries.foldl (fun cs e => cs.modify e.1 (· ++ [(r, e.2)])) columns

end ColumnMatrix

end MipDispatch
