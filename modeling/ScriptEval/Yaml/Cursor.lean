import ScriptEval.Text.Basic

/-!
# A place in a document

The text that is left of a document and where it starts. Lines end with a line feed, a next-line character or one of
the two Unicode separators; a byte-order mark takes no column.
-/

namespace ScriptEval.Yaml

/-- Whether a character ends a line. -/
def isBreak (c : Char) : Bool := c == '\n' || c == '\x85' || c == '\u2028' || c == '\u2029'

/-- Whether a line ends here, at a line break or the end of the document. -/
def endsLine : Option Char → Bool
  | none => true
  | some c => isBreak c

/-- Whether there is a space or the end of a line here. -/
def isSpaceOrEnd (c : Option Char) : Bool := c == some ' ' || endsLine c

/-- Whether there is a space, a tabulator or the end of a line here. -/
def isBlankOrEnd (c : Option Char) : Bool := c == some '\t' || isSpaceOrEnd c

structure Cursor where
  rest : Text
  index : Nat := 0
  line : Nat := 0
  column : Nat := 0
  deriving DecidableEq, Repr

namespace Cursor

/-- The character `n` places ahead. -/
def peek (c : Cursor) (n : Nat := 0) : Option Char := c.rest[n]?

/-- The cursor after the next character. -/
def next (c : Cursor) : Cursor :=
  match c.rest with
  | [] => c
  | ch :: rest =>
    if isBreak ch then { rest, index := c.index + 1, line := c.line + 1, column := 0 }
    else { rest, index := c.index + 1, line := c.line, column := if ch = '\ufeff' then c.column else c.column + 1 }

/-- The cursor after the next `n` characters. -/
def skip (c : Cursor) : Nat → Cursor
  | 0 => c
  | n + 1 => c.next.skip n

/-- The characters from here on that pass a test, and the cursor after them. -/
def span (c : Cursor) (p : Char → Bool) : Text × Cursor :=
  let taken := c.rest.takeWhile p
  (taken, c.skip taken.length)

/-- The cursor after the characters from here on that pass a test. -/
def skipWhile (c : Cursor) (p : Char → Bool) : Cursor := (c.span p).2

/-- The cursor at the end of the line. -/
def skipToLineEnd (c : Cursor) : Cursor := c.skipWhile (!isBreak ·)

/-- The line break here, as it counts in a text (a separator for itself, any other as a line feed), and the cursor
after it; without a break, the empty text. -/
def takeBreak (c : Cursor) : Text × Cursor :=
  match c.peek with
  | some ch =>
    if ch = '\u2028' ∨ ch = '\u2029' then ([ch], c.next)
    else if isBreak ch then (['\n'], c.next)
    else ([], c)
  | none => ([], c)

/-- Whether a line with a document mark, `---` or `...`, starts here. -/
def atMark (c : Cursor) (mark : Char) : Bool :=
  c.rest.take 3 == [mark, mark, mark] && isBlankOrEnd (c.peek 3)

/-- Whether one of the document marks starts here. -/
def atDocumentMark (c : Cursor) : Bool := c.atMark '-' || c.atMark '.'

end Cursor

end ScriptEval.Yaml
