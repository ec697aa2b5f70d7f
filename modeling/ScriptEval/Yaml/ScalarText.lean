import ScriptEval.Yaml.Cursor
import ScriptEval.Yaml.Token

/-!
# The text of scalars

How a scalar stands in a document, in its five styles, and the text that it denotes. All styles fold line breaks in
some way: a single break between two lines of text becomes a space, and of several breaks the first is dropped.
-/

namespace ScriptEval.Yaml

/-- The line breaks here, with the spaces between them, up to the next text; `none` at a document mark. -/
def foldedBreaks? (blank : Char → Bool) : (most : Nat) → Cursor → Option (Text × Cursor)
  | 0, c => some ([], c)
  | most + 1, c =>
    if c.atDocumentMark && c.column == 0 then none
    else
      let c := c.skipWhile blank
      match c.takeBreak with
      | ([], _) => some ([], c)
      | (lineBreak, c) => (foldedBreaks? blank most c).map fun (more, c) => (lineBreak ++ more, c)

/-- What a first line break and those after it fold to. -/
def fold (first more : Text) : Text :=
  if first ≠ ['\n'] then first ++ more else if more.isEmpty then [' '] else more

/-! ## Quoted scalars -/

/-- What a letter after a backslash stands for. -/
def escapes : List (Char × Char) :=
  [('0', '\x00'), ('a', '\x07'), ('b', '\x08'), ('t', '\t'), ('\t', '\t'), ('n', '\n'), ('v', '\x0b'), ('f', '\x0c'),
    ('r', '\r'), ('e', '\x1b'), (' ', ' '), ('"', '"'), ('\\', '\\'), ('/', '/'), ('N', '\x85'), ('_', '\xa0'),
    ('L', '\u2028'), ('P', '\u2029')]

/-- The letters that announce the number of a character, and the number of its hexadecimal digits. -/
def codeEscapes : List (Char × Nat) := [('x', 2), ('u', 4), ('U', 8)]

def isHexDigit (c : Char) : Bool := c.isDigit || ('a' ≤ c && c ≤ 'f') || ('A' ≤ c && c ≤ 'F')

/-- The number that hexadecimal digits denote. -/
def hexNumber (digits : Text) : Nat :=
  digits.foldl (fun n c => 16 * n + if c.isDigit then c.toNat - 48 else c.toLower.toNat - 87) 0

/-- An escape, after its backslash. A line break that is escaped joins two lines. -/
def scanEscape (most : Nat) (c : Cursor) : Except Fault (Text × Cursor) :=
  match c.peek with
  | none => .error .malformed
  | some ch =>
    match escapes.lookup ch, codeEscapes.lookup ch with
    | some meaning, _ => .ok ([meaning], c.next)
    | none, some count =>
      let digits := c.next.rest.take count
      if digits.length = count ∧ digits.all isHexDigit then
        let code := hexNumber digits
        if 0xd800 ≤ code ∧ code < 0xe000 then .error (.scalar .surrogate)
        else if code < 0x110000 then .ok ([Char.ofNat code], c.next.skip count)
        else .error (.scalar (.noSuchCharacter code))
      else .error .malformed
    | none, none =>
      if isBreak ch then
        match foldedBreaks? (fun ch => ch == ' ' || ch == '\t') most c.takeBreak.2 with
        | some r => .ok r
        | none => .error .malformed
      else .error .malformed

/-- The rest of a quoted scalar after its opening `mark`. -/
def scanQuoted (mark : Char) : (most : Nat) → Cursor → Text → Except Fault (Text × Cursor)
  | 0, _, _ => .error .malformed
  | most + 1, c, before =>
    match c.peek with
    | none => .error .malformed
    | some ch =>
      if ch = mark then
        if mark = '\'' ∧ c.peek 1 = some '\'' then scanQuoted mark most (c.skip 2) (before ++ ['\''])
        else .ok (before, c.next)
      else if ch = '\\' ∧ mark = '"' then
        match scanEscape most c.next with
        | .ok (t, c) => scanQuoted mark most c (before ++ t)
        | .error e => .error e
      else if ch = ' ' ∨ ch = '\t' ∨ isBreak ch then
        let (blanks, c) := c.span fun ch => ch == ' ' || ch == '\t'
        match c.takeBreak with
        | ([], c) => scanQuoted mark most c (before ++ blanks)
        | (first, c) =>
          match foldedBreaks? (fun ch => ch == ' ' || ch == '\t') most c with
          | some (more, c) => scanQuoted mark most c (before ++ fold first more)
          | none => .error .malformed
      else
        let (t, c) := c.span fun ch => ch != '\'' && ch != '"' && ch != '\\' && ch != ' ' && ch != '\t' && !isBreak ch
        if t.isEmpty then scanQuoted mark most c.next (before ++ [ch]) else scanQuoted mark most c (before ++ t)

/-! ## Plain scalars -/

/-- The part of a plain scalar on one line, without the blanks at its end; it ends before a colon that is followed by
a blank, and in a flow collection before the marks of it. -/
def plainLine (inFlow : Bool) : Text → Text
  | [] => []
  | ch :: rest =>
    let isFlowMark (c : Char) : Bool := ",[]\x7b\x7d".toList.contains c
    let colonEnds := ch == ':' && (isBlankOrEnd rest.head? || (inFlow && rest.head?.any isFlowMark))
    if ch == ' ' || ch == '\t' || isBreak ch || colonEnds || (inFlow && (ch == '?' || isFlowMark ch)) then []
    else ch :: plainLine inFlow rest

/-- A plain scalar. `indent` is that of the collection around it, and a line must be indented further to belong to
it. Also tells whether the scalar goes over a line break. -/
def scanPlain (inFlow : Bool) (indent : Int) : (most : Nat) → Cursor → (before gap : Text) → (broken : Bool) →
    (Text × Bool) × Cursor
  | 0, c, before, _, broken => ((before, broken), c)
  | most + 1, c, before, gap, broken =>
    let t := if c.peek = some '#' then [] else plainLine inFlow c.rest
    if t.isEmpty then ((before, broken), c)
    else
      let text := before ++ gap ++ t
      -- a key may stand only where no text came before it on its line
      let c := c.skip t.length
      let (blanks, c) := c.span (· == ' ')
      match c.takeBreak with
      | ([], c) =>
        if blanks.isEmpty || c.peek == some '#' then ((text, false), c) else scanPlain inFlow indent most c text blanks false
      | (first, c) =>
        match foldedBreaks? (· == ' ') most c with
        | none => ((text, true), c)
        | some (more, c) =>
          if c.peek == some '#' || (!inFlow && (c.column : Int) ≤ indent) then ((text, true), c)
          else scanPlain inFlow indent most c text (fold first more) true

/-! ## Block scalars -/

/-- What becomes of the line breaks at the end of a block scalar. -/
inductive Chomping
  | clip
  | strip
  | keep
  deriving DecidableEq, Repr

/-- The indicators of a block scalar, after its mark: what becomes of its end, and its indentation. -/
def scanBlockHeader (c : Cursor) : Except Fault ((Chomping × Option Nat) × Cursor) :=
  let chomping? (ch : Option Char) : Option Chomping :=
    if ch = some '+' then some .keep else if ch = some '-' then some .strip else none
  let digit? (ch : Option Char) : Option Nat := (ch.filter Char.isDigit).map fun d => d.toNat - 48
  let (chomping, increment, c) := match chomping? c.peek, digit? c.peek with
    | some m, _ => match digit? (c.peek 1) with
      | some n => (m, some n, c.skip 2)
      | none => (m, none, c.next)
    | none, some n => match chomping? (c.peek 1) with
      | some m => (m, some n, c.skip 2)
      | none => (.clip, some n, c.next)
    | none, none => (.clip, none, c)
  if increment = some 0 ∨ !isSpaceOrEnd c.peek then .error .malformed
  else
    let c := c.skipWhile (· == ' ')
    let c := if c.peek = some '#' then c.skipToLineEnd else c
    if endsLine c.peek then .ok ((chomping, increment), c.takeBreak.2) else .error .malformed

/-- The empty lines before a block scalar without given indentation, the greatest indentation among them and of its
first line. -/
def scanBlockIndent : (most : Nat) → Cursor → (widest : Nat) → (Text × Nat) × Cursor
  | 0, c, widest => (([], widest), c)
  | most + 1, c, widest =>
    let c := c.skipWhile (· == ' ')
    let widest := max widest c.column
    match c.takeBreak with
    | ([], c) => (([], widest), c)
    | (lineBreak, c) =>
      let ((more, widest), c) := scanBlockIndent most c widest
      ((lineBreak ++ more, widest), c)

/-- The empty lines here, and the cursor at the indentation of the next line or before. -/
def scanBlockBreaks (indent : Nat) : (most : Nat) → Cursor → Text × Cursor
  | 0, c => ([], c)
  | most + 1, c =>
    let c := c.skip (min (indent - c.column) (c.rest.takeWhile (· == ' ')).length)
    match c.takeBreak with
    | ([], c) => ([], c)
    | (lineBreak, c) =>
      let (more, c) := scanBlockBreaks indent most c
      (lineBreak ++ more, c)

/-- The lines of a block scalar from here on. `breaks` are the empty lines before. -/
def scanBlockLines (folded : Bool) (chomping : Chomping) (indent : Nat) : (most : Nat) → Cursor → (breaks : Text) →
    Text × Cursor
  | 0, c, _ => ([], c)
  | most + 1, c, breaks =>
    if c.column ≠ indent ∨ c.peek.isNone then
      (if chomping = .keep then breaks else [], c)
    else
      let isBlank (ch : Option Char) : Bool := ch == some ' ' || ch == some '\t'
      let startsText := !isBlank c.peek
      let (line, c) := c.span (!isBreak ·)
      let (lineBreak, c) := c.takeBreak
      let (breaks', c) := scanBlockBreaks indent c.rest.length c
      if c.column = indent ∧ c.peek.isSome then
        let joint :=
          if folded && lineBreak == ['\n'] && startsText && !isBlank c.peek then
            if breaks'.isEmpty then [' '] else []
          else lineBreak
        let (rest, c) := scanBlockLines folded chomping indent most c breaks'
        (breaks ++ line ++ joint ++ rest, c)
      else
        let ending := match chomping with
          | .strip => []
          | .clip => lineBreak
          | .keep => lineBreak ++ breaks'
        (breaks ++ line ++ ending, c)

/-- A block scalar, after its mark; `indent` is that of the collection around it. -/
def scanBlock (folded : Bool) (indent : Int) (c : Cursor) : Except Fault (Text × Cursor) := do
  let ((chomping, increment), c) ← scanBlockHeader c
  let least := max 1 (indent + 1).toNat
  match increment with
  | some n =>
    let (breaks, c) := scanBlockBreaks (least + n - 1) c.rest.length c
    return scanBlockLines folded chomping (least + n - 1) (c.rest.length + 1) c breaks
  | none =>
    let ((breaks, widest), c) := scanBlockIndent c.rest.length c 0
    return scanBlockLines folded chomping (max least widest) (c.rest.length + 1) c breaks

end ScriptEval.Yaml
