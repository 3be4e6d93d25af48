import MipDispatch.Text.Basic
import MipDispatch.Text.Utf8

namespace MipDispatch

/-- Nothing is normalised: joining appends, and the last component is read off the end. -/
structure Path where
  bytes : List UInt8
  deriving DecidableEq, Inhabited

namespace Path

def separator : UInt8 := 0x2f

def ofString (s : String) : Path := ⟨Text.encode s⟩

/-- The directory, a separator unless the directory is empty or ends in one, and the file name. -/
def join (dir : Path) (file : String) : Path :=
  let glue := match dir.bytes.getLast? with
    | none => []
    | some b => if b = separator then [] else [separator]
  ⟨dir.bytes ++ glue ++ Text.encode file⟩

def split : List UInt8 → List (List UInt8)
  | [] => [[]]
  | b :: rest =>
    if b = separator then [] :: split rest
    else match split rest with
      | part :: parts => (b :: part) :: parts
      | [] => [[b]]

/-- The last part that is neither empty nor a dot, unless that is two dots. -/
def fileName? (p : Path) : Option (List UInt8) :=
  let named := (split p.bytes).filter fun part => part ≠ [] ∧ part ≠ Text.encode "."
  named.getLast?.filter (· ≠ Text.encode "..")

def fileText? (p : Path) : Option String := p.fileName?.bind Text.decode?

/-- For messages: broken bytes are replaced. -/
def display (p : Path) : String := Text.decodeLossy p.bytes

def hexByte (b : UInt8) : String :=
  let digits := Nat.toDigits 16 (b.toNat / 16) ++ Nat.toDigits 16 (b.toNat % 16)
  String.ofList (digits.map Char.toUpper)

def quotedPiece : Text.Piece → String
  | .char c => Text.quotedChar c
  | .broken bytes => String.join (bytes.map fun b => "\\x" ++ hexByte b)

/-- Between quotes, with broken bytes by their number. -/
def quoted (p : Path) : String :=
  "\"" ++ String.join ((Text.pieces p.bytes).map quotedPiece) ++ "\""

end Path

end MipDispatch
