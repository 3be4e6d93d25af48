import MipDispatch.Toml.Quoted
import MipDispatch.Toml.Scalar

namespace MipDispatch.Toml

def comment? : List Char → Option (List Char)
  | '#' :: rest =>
    let after := rest.dropWhile isPlain
    if after.isEmpty || (newline? after).isSome then some after else none
  | _ => none

def skipBlank? : Nat → List Char → Option (List Char)
  | 0, cs => some cs
  | fuel + 1, cs =>
    match skipSpace cs with
    | '#' :: rest => (comment? ('#' :: rest)).bind (skipBlank? fuel)
    | '\r' :: rest => (newline? ('\r' :: rest)).bind (skipBlank? fuel)
    | '\n' :: rest => skipBlank? fuel rest
    | cs => some cs

/-- A date may be followed by a time after a single space. -/
def spacedTime? (date : List Char) : List Char → Option (Value × List Char)
  | ' ' :: c :: rest =>
    if isDate date && c.isDigit then
      let time := (c :: rest).takeWhile isScalarChar
      if isTimeWithOffset time then
        some (.date (String.ofList (date ++ ' ' :: time)), (c :: rest).dropWhile isScalarChar)
      else none
    else none
  | _ => none

def scalarAt? (cs : List Char) : Option (Value × List Char) :=
  let run := cs.takeWhile isScalarChar
  let rest := cs.dropWhile isScalarChar
  (spacedTime? run rest).or ((scalar? run).map (·, rest))

mutual

/-- A value at the front. The first number bounds the steps, the second the brackets inside one
another. -/
def value? : Nat → Nat → List Char → Option (Value × List Char)
  | 0, _, _ => none
  | fuel + 1, depth, cs =>
    match cs with
    | '"' :: _ | '\'' :: _ => (quoted? cs).map fun r => (.text (String.ofList r.1), r.2)
    | '[' :: rest =>
      if depth = 0 then none
      else do
        let (vs, rest) ← elements? fuel (depth - 1) rest
        pure (.array vs, rest)
    | '{' :: rest =>
      if depth = 0 then none
      else match skipSpace rest with
        | '}' :: rest => some (.table .inline [], rest)
        | rest => do
          let (pairs, rest) ← pairs? fuel (depth - 1) rest
          let table ← inlineTable pairs
          pure (table, rest)
    | cs => scalarAt? cs

/-- Values up to a closing bracket, with commas between them and perhaps one after the last. -/
def elements? : Nat → Nat → List Char → Option (List Value × List Char)
  | 0, _, _ => none
  | fuel + 1, depth, cs => do
    match ← skipBlank? cs.length cs with
    | ']' :: rest => pure ([], rest)
    | cs =>
      let (v, rest) ← value? fuel depth cs
      match ← skipBlank? rest.length rest with
      | ']' :: rest => pure ([v], rest)
      | ',' :: rest =>
        let (vs, rest) ← elements? fuel depth rest
        pure (v :: vs, rest)
      | _ => none

def pairs? : Nat → Nat → List Char → Option (List ((List String × String) × Value) × List Char)
  | 0, _, _ => none
  | fuel + 1, depth, cs => do
    let (key, rest) ← key? (depthLimit - 1) cs
    match rest with
    | '=' :: rest =>
      let (v, rest) ← value? fuel depth (skipSpace rest)
      match skipSpace rest with
      | '}' :: rest => pure ([(key, v)], rest)
      | ',' :: rest =>
        let (ps, rest) ← pairs? fuel depth rest
        pure ((key, v) :: ps, rest)
      | _ => none
    | _ => none

end

def lineEnd? (cs : List Char) : Option (List Char) :=
  let after := match skipSpace cs with
    | '#' :: rest => comment? ('#' :: rest)
    | rest => some rest
  after.bind fun rest => if rest.isEmpty then some [] else newline? rest

/-- The tree so far, and the table that the next keys belong to. -/
structure Draft where
  root : Entries
  current : List String

namespace Draft

def add (d : Draft) (key : List String × String) (v : Value) : Option Draft :=
  (changeAt false .header (fun here es => addValue key.1 key.2 v here es) d.current d.root).map
    fun root => { d with root }

/-- One line with a header or a key, and the characters after it. -/
def line? (d : Draft) (cs : List Char) : Option (Draft × List Char) :=
  match cs with
  | '[' :: '[' :: rest => do
    let ((path, last), rest) ← key? (depthLimit - 1) rest
    let rest ← match rest with
      | ']' :: ']' :: rest => lineEnd? rest
      | _ => none
    let root ← openElement path last d.root
    pure (⟨root, path ++ [last]⟩, rest)
  | '[' :: rest => do
    let ((path, last), rest) ← key? (depthLimit - 1) rest
    let rest ← match rest with
      | ']' :: rest => lineEnd? rest
      | _ => none
    let root ← openTable path last d.root
    pure (⟨root, path ++ [last]⟩, rest)
  | cs => do
    let (key, rest) ← key? (depthLimit - 1) cs
    match rest with
    | '=' :: rest =>
      let (v, rest) ← value? (rest.length + 1) (depthLimit - 1) (skipSpace rest)
      let rest ← lineEnd? rest
      let d ← d.add key v
      pure (d, rest)
    | _ => none

def lines? : Nat → Draft → List Char → Option Draft
  | 0, _, _ => none
  | fuel + 1, d, cs => do
    match ← skipBlank? cs.length cs with
    | [] => pure d
    | cs =>
      let (d, rest) ← d.line? cs
      lines? fuel d rest

end Draft

/-- The tree that a text describes. A byte order mark in front is skipped. -/
def read? (s : String) : Option Entries :=
  let cs := match s.toList with
    | '\ufeff' :: rest => rest
    | cs => cs
  (Draft.lines? (cs.length + 1) ⟨[], []⟩ cs).map (·.root)

end MipDispatch.Toml
