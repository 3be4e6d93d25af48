namespace MipDispatch.Text

/-- A part of a byte sequence: a character, or bytes that are not one. -/
inductive Piece where
  | char (c : Char)
  | broken (bytes : List UInt8)
  deriving DecidableEq

/-- The ranges that the bytes after a lead byte must fall in, or `none` if no character starts
with this byte. -/
def continuations (lead : UInt8) : Option (List (UInt8 × UInt8)) :=
  let any := (0x80, 0xbf)
  if lead < 0x80 then some []
  else if lead < 0xc2 then none
  else if lead < 0xe0 then some [any]
  else if lead = 0xe0 then some [(0xa0, 0xbf), any]
  else if lead = 0xed then some [(0x80, 0x9f), any]
  else if lead < 0xf0 then some [any, any]
  else if lead = 0xf0 then some [(0x90, 0xbf), any, any]
  else if lead < 0xf4 then some [any, any, any]
  else if lead = 0xf4 then some [(0x80, 0x8f), any, any]
  else none

def takeWithin : List (UInt8 × UInt8) → List UInt8 → List UInt8
  | (low, high) :: ranges, b :: rest =>
    if low ≤ b && b ≤ high then b :: takeWithin ranges rest else []
  | _, _ => []

def codePoint (lead : UInt8) (tail : List UInt8) : Nat :=
  let top := if tail.isEmpty then lead.toNat else lead.toNat % Nat.pow 2 (6 - tail.length)
  tail.foldl (fun n b => n * 64 + b.toNat % 64) top

/-- The first piece of bytes that begin with `lead`, and how many bytes after `lead` it has. -/
def firstPiece (lead : UInt8) (rest : List UInt8) : Piece × Nat :=
  match continuations lead with
  | none => (.broken [lead], 0)
  | some ranges =>
    let tail := takeWithin ranges rest
    if tail.length = ranges.length then (.char (Char.ofNat (codePoint lead tail)), tail.length)
    else (.broken (lead :: tail), tail.length)

def pieces : List UInt8 → List Piece
  | [] => []
  | lead :: rest =>
    let (piece, used) := firstPiece lead rest
    piece :: pieces (rest.drop used)
  termination_by bytes => bytes.length
  decreasing_by simp only [List.length_drop, List.length_cons]; omega

def Piece.char? : Piece → Option Char
  | .char c => some c
  | .broken _ => none

def decode? (bytes : List UInt8) : Option String :=
  ((pieces bytes).mapM Piece.char?).map String.ofList

/-- The text with one replacement character for each broken piece. -/
def decodeLossy (bytes : List UInt8) : String :=
  String.ofList ((pieces bytes).map fun p => p.char?.getD '\ufffd')

def encode (s : String) : List UInt8 := s.toUTF8.data.toList

end MipDispatch.Text
