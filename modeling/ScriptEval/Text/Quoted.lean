import ScriptEval.Unicode.Printable
import ScriptEval.Text.Basic

/-!
# Quoted text

A text between quotation marks, on one line and printable: the mark itself and the backslash are escaped, and every
character that is not printable is written by its code point.
-/

namespace ScriptEval.Text

/-- The hexadecimal digits of `n`, in lower case, on `width` places (the lower ones if it needs more). -/
def hex : (width n : Nat) → Text
  | 0, _ => []
  | width + 1, n => hex width (n / 16) ++ [Nat.digitChar (n % 16)]

/-- How a character stands between `mark`s. -/
def escapeChar (mark c : Char) : Text :=
  let n := c.toNat
  if c = mark ∨ c = '\\' then ['\\', c]
  else if c = '\t' then ['\\', 't']
  else if c = '\n' then ['\\', 'n']
  else if c = '\r' then ['\\', 'r']
  else if Unicode.isPrintable c then [c]
  else if n < 0x100 then ['\\', 'x'] ++ hex 2 n
  else if n < 0x10000 then ['\\', 'u'] ++ hex 4 n
  else ['\\', 'U'] ++ hex 8 n

/-- The apostrophe, unless the text has apostrophes and no double quotation marks. -/
def quotationMark (t : Text) : Char :=
  if t.contains '\'' && !t.contains '"' then '"' else '\''

/-- A text between quotation marks. -/
def quoted (t : Text) : Text :=
  let mark := quotationMark t
  mark :: t.flatMap (escapeChar mark) ++ [mark]

/-- How a byte stands between `mark`s: a printable ASCII character by itself, all else by its number. -/
def escapeByte (mark : Char) (b : UInt8) : Text :=
  if b < 0x80 then escapeChar mark (Char.ofNat b.toNat) else ['\\', 'x'] ++ hex 2 b.toNat

/-- Bytes between quotation marks, with the letter `b` in front. -/
def quotedBytes (bytes : List UInt8) : Text :=
  let mark := quotationMark (bytes.map fun b => Char.ofNat b.toNat)
  'b' :: mark :: bytes.flatMap (escapeByte mark) ++ [mark]

end ScriptEval.Text
