import ScriptEval.Text.Digits
import ScriptEval.Text.Quoted

/-!
# Text in UTF-8

Decoding of bytes, and of files. A byte sequence that is no text is reported at the first byte that cannot be part
of one.

A file is read in pieces of `pieceSize` bytes. Positions are counted from the start of a piece, an unfinished
character at the end of one being put in front of the next; so the position of a character that is unfinished at the
end of the file is 0.
-/

namespace ScriptEval.Text

/-- Why bytes are no text, with the positions of the first bytes that are at fault. -/
structure Utf8Fault where
  first : Nat
  count : Nat
  /-- The first byte at fault. -/
  byte : UInt8
  reason : String
  deriving DecidableEq, Repr

/-- The report of a fault. -/
def Utf8Fault.message (f : Utf8Fault) : Text :=
  "'utf-8' codec can't decode ".toList
    ++ (if f.count = 1 then "byte 0x".toList ++ hex 2 f.byte.toNat ++ " in position ".toList ++ ofNat f.first
      else "bytes in position ".toList ++ ofNat f.first ++ '-' :: ofNat (f.first + f.count - 1))
    ++ ": ".toList ++ f.reason.toList

/-- The number of bytes of the character that starts with a byte, the bits of the byte that count, and the bounds of
the second byte. -/
def leadByte? (b : UInt8) : Option (Nat × Nat × UInt8 × UInt8) :=
  if b < 0x80 then some (1, b.toNat, 0x80, 0xbf)
  else if b < 0xc2 then none
  else if b < 0xe0 then some (2, b.toNat % 32, 0x80, 0xbf)
  else if b < 0xf0 then some (3, b.toNat % 16, if b = 0xe0 then 0xa0 else 0x80, if b = 0xed then 0x9f else 0xbf)
  else if b < 0xf5 then some (4, b.toNat % 8, if b = 0xf0 then 0x90 else 0x80, if b = 0xf4 then 0x8f else 0xbf)
  else none

/-- What the bytes of a character after the first one are. -/
inductive Tail
  | complete (code : Nat) (rest : List UInt8)
  /-- The bytes end before the character does. -/
  | unfinished
  /-- After so many bytes comes one that cannot. -/
  | broken (good : Nat)

/-- Reads so many bytes of a character, the next one within bounds. -/
def readTail (low high : UInt8) (code good : Nat) : (count : Nat) → List UInt8 → Tail
  | 0, bytes => .complete code bytes
  | _ + 1, [] => .unfinished
  | count + 1, b :: bytes =>
    if low ≤ b ∧ b ≤ high then readTail 0x80 0xbf (64 * code + b.toNat % 64) (good + 1) count bytes
    else .broken good

/-- Whether bytes are the first two of a surrogate. They cannot be part of a text, but that is reported only once it is
clear that nothing follows them in the same piece. -/
def isSurrogateStart : List UInt8 → Bool
  | [a, b] => a == 0xed && 0xa0 ≤ b && b ≤ 0xbf
  | _ => false

/-- Decodes as many bytes as make up whole characters, the first one being at `position`; the rest is an unfinished
character. -/
def decodePart : (most : Nat) → (position : Nat) → List UInt8 → Text → Except Utf8Fault (Text × List UInt8)
  | 0, _, bytes, done => .ok (done.reverse, bytes)
  | _, _, [], done => .ok (done.reverse, [])
  | most + 1, position, b :: bytes, done =>
    match leadByte? b with
    | none => .error ⟨position, 1, b, "invalid start byte"⟩
    | some (size, bits, low, high) =>
      match readTail low high bits 0 (size - 1) bytes with
      | .complete code rest => decodePart most (position + size) rest (Char.ofNat code :: done)
      | .unfinished => .ok (done.reverse, b :: bytes)
      | .broken good =>
        if isSurrogateStart (b :: bytes) then .ok (done.reverse, b :: bytes)
        else .error ⟨position, good + 1, b, "invalid continuation byte"⟩

/-- The text of an unfinished character at the end: there is none. -/
def finish : List UInt8 → (position : Nat) → Except Utf8Fault Text
  | [], _ => .ok []
  | b :: bytes, position =>
    if isSurrogateStart (b :: bytes) then .error ⟨position, 1, b, "invalid continuation byte"⟩
    else .error ⟨position, bytes.length + 1, b, "unexpected end of data"⟩

/-- Decodes bytes. -/
def decodeUtf8 (bytes : List UInt8) : Except Utf8Fault Text := do
  let (t, rest) ← decodePart bytes.length 0 bytes []
  return t ++ (← finish rest (bytes.length - rest.length))

/-- The number of bytes of a file that are read at a time. -/
def pieceSize : Nat := 8192

/-- Decodes the bytes of a file, `pending` being an unfinished character before them. -/
def decodePieces : (most : Nat) → (pending bytes : List UInt8) → Except Utf8Fault Text
  | 0, pending, _ => finish pending 0
  | most + 1, pending, bytes => do
    if bytes.isEmpty then finish pending 0
    else
      let piece := pending ++ bytes.take pieceSize
      let (t, rest) ← decodePart piece.length 0 piece []
      return t ++ (← decodePieces most rest (bytes.drop pieceSize))

/-- A text with every line break written as a line feed. -/
def plainBreaks : Text → Text
  | '\r' :: '\n' :: t => '\n' :: plainBreaks t
  | '\r' :: t => '\n' :: plainBreaks t
  | c :: t => c :: plainBreaks t
  | [] => []

/-- The text of a file. -/
def decodeFile (bytes : List UInt8) : Except Utf8Fault Text :=
  (decodePieces (bytes.length / pieceSize + 2) [] bytes).map plainBreaks

end ScriptEval.Text
