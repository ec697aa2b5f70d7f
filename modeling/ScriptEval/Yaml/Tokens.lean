import ScriptEval.Text.Utf8
import ScriptEval.Yaml.ScalarText

/-!
# From text to tokens

Reads a document as tokens. Two things take a view beyond the next token:

* *Indentation.* In block context the column of a token tells which collections go on and which end.
* *Simple keys.* A token may turn out to be the start of a key only when a colon follows later on its line. Up to then
  its place among the tokens is kept (`SimpleKey`), and the mark of the key is put in there.
-/

namespace ScriptEval.Yaml

/-- A token that may be the start of a key: its place among the tokens and in the text. It is required to be one when
it stands at the indentation of its mapping. -/
structure SimpleKey where
  number : Nat
  required : Bool
  index : Nat
  line : Nat
  column : Nat
  deriving DecidableEq, Repr

structure Scanner where
  cursor : Cursor
  tokens : Array Token := #[]
  /-- The number of flow collections around the cursor. -/
  flowLevel : Nat := 0
  /-- The column of the block collection around the cursor, -1 outside of all. -/
  indent : Int := -1
  /-- The columns of the collections around that one. -/
  indents : List Int := []
  /-- Whether a key may start here. -/
  keyAllowed : Bool := true
  /-- For each flow level, the last token that may be the start of a key. -/
  keys : List (Nat × SimpleKey) := []

namespace Scanner

def column (s : Scanner) : Int := s.cursor.column

def push (s : Scanner) (t : Token) : Scanner := { s with tokens := s.tokens.push t }

/-- The scanner after so many characters. -/
def skip (s : Scanner) (n : Nat) : Scanner := { s with cursor := s.cursor.skip n }

/-- Goes over spaces, comments and line breaks. -/
def skipLayout : (most : Nat) → Scanner → Scanner
  | 0, s => s
  | most + 1, s =>
    let c := if s.cursor.index = 0 ∧ s.cursor.peek = some '\ufeff' then s.cursor.next else s.cursor
    let c := c.skipWhile (· == ' ')
    let c := if c.peek = some '#' then c.skipToLineEnd else c
    match c.takeBreak with
    | ([], c) => { s with cursor := c }
    | (_, c) => skipLayout most { s with cursor := c, keyAllowed := s.keyAllowed || s.flowLevel == 0 }

/-! ## Simple keys -/

/-- The most characters of a simple key. -/
def keyLimit : Nat := 1024

/-- Drops the tokens that can no longer be the start of a key, as they are on another line or too far back. -/
def dropStaleKeys (s : Scanner) : Except Fault Scanner :=
  let stale (k : SimpleKey) : Bool := k.line != s.cursor.line || keyLimit < s.cursor.index - k.index
  if s.keys.any fun (_, k) => stale k && k.required then .error .malformed
  else .ok { s with keys := s.keys.filter fun (_, k) => !stale k }

/-- Drops the token of this flow level that may be the start of a key. -/
def dropKey (s : Scanner) : Except Fault Scanner :=
  if (s.keys.lookup s.flowLevel).any (·.required) then .error .malformed
  else .ok { s with keys := s.keys.filter (·.1 != s.flowLevel) }

/-- Takes down that the next token may be the start of a key. -/
def saveKey (s : Scanner) : Except Fault Scanner := do
  if !s.keyAllowed then return s
  let s ← s.dropKey
  let key : SimpleKey :=
    { number := s.tokens.size, required := s.flowLevel == 0 && s.indent == s.column, index := s.cursor.index,
      line := s.cursor.line, column := s.cursor.column }
  return { s with keys := (s.flowLevel, key) :: s.keys }

/-! ## Indentation -/

/-- Ends the block collections that are indented further than `column`. -/
def unwind (s : Scanner) (column : Int) : Scanner := if s.flowLevel = 0 then go s s.indents else s
where
  go (s : Scanner) : List Int → Scanner
    | [] => s
    | outer :: indents =>
      if column < s.indent then go { s.push .blockEnd with indent := outer, indents } indents else s

/-- Begins a block collection at `column` with the token `t` at place `number`, if it is indented further than the
one around it. -/
def begin (s : Scanner) (column : Int) (t : Token) (number : Nat) : Scanner :=
  if s.indent < column then
    { s with tokens := s.tokens.insertIdxIfInBounds number t, indent := column, indents := s.indent :: s.indents }
  else s

/-! ## Directives, tags and names -/

def isNameChar (c : Char) : Bool := c.isAlphanum || c == '-' || c == '_'

/-- Characters of tags and their prefixes. -/
def isTagChar (c : Char) : Bool := c.isAlphanum || "-;/?:@&=+$,_.!~*'()[]%".toList.contains c

/-- The text with its percent escapes read. -/
def readPercents : (most : Nat) → Text → Except Fault Text
  | 0, _ => .ok []
  | _, [] => .ok []
  | most + 1, '%' :: t =>
    let (bytes, rest) := octets most ('%' :: t)
    match bytes with
    | none => .error .malformed
    | some bytes => match Text.decodeUtf8 bytes with
      | .ok decoded => return decoded ++ (← readPercents most rest)
      | .error _ => .error .malformed
  | most + 1, c :: t => return c :: (← readPercents most t)
where
  /-- The bytes of the escapes at the start of a text and the text after them. -/
  octets : Nat → Text → Option (List UInt8) × Text
    | most + 1, '%' :: a :: b :: t =>
      if isHexDigit a && isHexDigit b then
        let (more, rest) := octets most t
        (more.map (UInt8.ofNat (hexNumber [a, b]) :: ·), rest)
      else (none, t)
    | _, '%' :: _ => (none, [])
    | _, t => (some [], t)

/-- The text of a tag or of the prefix of tags. -/
def scanTagText (c : Cursor) : Except Fault (Text × Cursor) := do
  let (t, after) := c.span isTagChar
  if t.isEmpty then throw .malformed
  return (← readPercents (t.length + 1) t, after)

/-- The handle of a tag: exclamation marks around a name, or one alone. -/
def scanHandle (c : Cursor) : Except Fault (Text × Cursor) :=
  if c.peek ≠ some '!' then .error .malformed
  else if c.peek 1 = some ' ' then .ok (['!'], c.next)
  else
    let (name, after) := c.next.span isNameChar
    if name.isEmpty ∧ after.peek ≠ some '!' then .error .malformed
    else if after.peek = some '!' then .ok ('!' :: name ++ ['!'], after.next)
    else .error .malformed

/-- A tag. -/
def scanTag (c : Cursor) : Except Fault (Token × Cursor) := do
  let (t, c) ←
    if c.peek 1 = some '<' then do
      let (suffix, after) ← scanTagText (c.skip 2)
      if after.peek ≠ some '>' then throw .malformed
      pure (Token.tag none suffix, after.next)
    else if isBlankOrEnd (c.peek 1) then pure (Token.tag none ['!'], c.next)
    else do
      let word := c.rest.tail.takeWhile fun ch => ch != ' ' && !isBreak ch
      let (handle, after) ← if word.contains '!' then scanHandle c else pure (['!'], c.next)
      let (suffix, after) ← scanTagText after
      pure (Token.tag (some handle) suffix, after)
  if isSpaceOrEnd c.peek then return (t, c) else throw .malformed

/-- The name of an anchor or an alias, after its mark. -/
def scanName (c : Cursor) : Except Fault (Text × Cursor) :=
  let (name, after) := c.span isNameChar
  if name.isEmpty then .error .malformed
  else if isBlankOrEnd after.peek ∨ (after.peek.any fun ch => "?:,]\x7d%@`".toList.contains ch) then .ok (name, after)
  else .error .malformed

/-- The rest of a line that may hold a comment only. -/
def scanLineRest (c : Cursor) : Except Fault Cursor :=
  let c := c.skipWhile (· == ' ')
  let c := if c.peek = some '#' then c.skipToLineEnd else c
  if endsLine c.peek then .ok c.takeBreak.2 else .error .malformed

/-- A number of the version directive. -/
def scanNumber (c : Cursor) : Except Fault (Nat × Cursor) :=
  let (digits, after) := c.span Char.isDigit
  if digits.isEmpty then .error .malformed
  else if digitLimit < digits.length then .error (.number (.tooManyDigits digits.length))
  else .ok (Text.toNat digits, after)

/-- A directive. -/
def scanDirective (c : Cursor) : Except Fault (Token × Cursor) := do
  let (name, c) := c.next.span isNameChar
  if name.isEmpty ∨ !isSpaceOrEnd c.peek then throw .malformed
  let (t, c) ←
    if name = "YAML".toList then do
      let (major, c) ← scanNumber (c.skipWhile (· == ' '))
      if c.peek ≠ some '.' then throw .malformed
      let (_, c) ← scanNumber c.next
      if !isSpaceOrEnd c.peek then throw .malformed
      pure (Token.version major, c)
    else if name = "TAG".toList then do
      let (handle, c) ← scanHandle (c.skipWhile (· == ' '))
      if c.peek ≠ some ' ' then throw .malformed
      let (tagPrefix, c) ← scanTagText (c.skipWhile (· == ' '))
      if !isSpaceOrEnd c.peek then throw .malformed
      pure (Token.tagPrefix handle tagPrefix, c)
    else pure (Token.otherDirective, c.skipToLineEnd)
  return (t, ← scanLineRest c)

/-! ## Steps -/

/-- A token that may start a key: an alias, an anchor, a tag or a scalar. -/
def pushScanned (s : Scanner) (scan : Cursor → Except Fault (Token × Cursor)) : Except Fault Scanner := do
  let s ← s.saveKey
  let (t, c) ← scan s.cursor
  return { s.push t with keyAllowed := false, cursor := c }

/-- Begins a flow collection. -/
def openFlow (s : Scanner) (t : Token) : Except Fault Scanner := do
  let s ← s.saveKey
  return { (s.push t).skip 1 with flowLevel := s.flowLevel + 1, keyAllowed := true }

/-- Ends a flow collection. -/
def closeFlow (s : Scanner) (t : Token) : Except Fault Scanner := do
  let s ← s.dropKey
  if s.flowLevel = 0 then throw .malformed
  return { (s.push t).skip 1 with flowLevel := s.flowLevel - 1, keyAllowed := false }

/-- A mark that begins an entry or a key of a block collection. -/
def pushMark (s : Scanner) (t collection : Token) (keyAfter : Bool) : Except Fault Scanner := do
  if s.flowLevel = 0 ∧ !s.keyAllowed then throw .malformed
  let s := if s.flowLevel = 0 then s.begin s.column collection s.tokens.size else s
  let s ← s.dropKey
  return { (s.push t).skip 1 with keyAllowed := keyAfter }

/-- The colon after a key. If a token was taken down as the possible start of one, the key begins there. -/
def pushValue (s : Scanner) : Except Fault Scanner := do
  match s.keys.lookup s.flowLevel with
  | some k =>
    let s := { s with tokens := s.tokens.insertIdxIfInBounds k.number .key,
                      keys := s.keys.filter (·.1 != s.flowLevel) }
    let s := if s.flowLevel = 0 then s.begin k.column .blockMapping k.number else s
    return { (s.push .value).skip 1 with keyAllowed := false }
  | none => pushMark s .value .blockMapping (s.flowLevel == 0)

/-- A line that begins or ends a document. -/
def pushDocumentMark (s : Scanner) (t : Token) : Except Fault Scanner := do
  let s ← (s.unwind (-1)).dropKey
  return { (s.push t).skip 3 with keyAllowed := false }

/-- Whether a plain scalar can start here. -/
def startsPlain (s : Scanner) : Bool :=
  match s.cursor.peek with
  | none => false
  | some ch =>
    !(isBlankOrEnd (some ch) || "-?:,[]\x7b\x7d#&*!|>'\"%@`".toList.contains ch)
      || (!isBlankOrEnd (s.cursor.peek 1) && (ch == '-' || (s.flowLevel == 0 && (ch == '?' || ch == ':'))))

/-- Scans the token at the cursor, where no layout is left and the collections that end here are ended. -/
def stepAt (s : Scanner) (ch : Char) : Except Fault Scanner := do
  let c := s.cursor
  let blankAfter := isBlankOrEnd (c.peek 1)
  if ch = '%' ∧ c.column = 0 then
    let s ← (s.unwind (-1)).dropKey
    let (t, c) ← scanDirective s.cursor
    return { s.push t with keyAllowed := false, cursor := c }
  if c.column = 0 ∧ c.atMark '-' then return ← s.pushDocumentMark .documentStart
  if c.column = 0 ∧ c.atMark '.' then return ← s.pushDocumentMark .documentEnd
  match ch with
  | '[' => s.openFlow .flowSequence
  | '\x7b' => s.openFlow .flowMapping
  | ']' => s.closeFlow .flowSequenceEnd
  | '\x7d' => s.closeFlow .flowMappingEnd
  | ',' =>
    let s ← s.dropKey
    return { (s.push .flowEntry).skip 1 with keyAllowed := true }
  | '*' => s.pushScanned fun c => (scanName c.next).map fun (name, c) => (.alias name, c)
  | '&' => s.pushScanned fun c => (scanName c.next).map fun (name, c) => (.anchor name, c)
  | '!' => s.pushScanned scanTag
  | '\'' | '"' =>
    s.pushScanned fun c =>
      (scanQuoted ch (c.rest.length + 1) c.next []).map fun (t, c) => (.scalar false t, c)
  | _ =>
    if ch = '-' ∧ blankAfter then s.pushMark .blockEntry .blockSequence true
    else if ch = '?' ∧ (s.flowLevel ≠ 0 ∨ blankAfter) then s.pushMark .key .blockMapping (s.flowLevel == 0)
    else if ch = ':' ∧ (s.flowLevel ≠ 0 ∨ blankAfter) then s.pushValue
    else if (ch = '|' ∨ ch = '>') ∧ s.flowLevel = 0 then
      let s ← s.dropKey
      let (t, c) ← scanBlock (ch == '>') s.indent s.cursor.next
      return { s.push (.scalar false t) with keyAllowed := true, cursor := c }
    else if s.startsPlain then
      let s ← s.saveKey
      let ((t, broken), c) := scanPlain (s.flowLevel != 0) s.indent (c.rest.length + 1) c [] [] false
      return { s.push (.scalar true t) with keyAllowed := broken, cursor := c }
    else throw .malformed

/-- All tokens from the cursor on. -/
def run : (most : Nat) → Scanner → Except Fault (List Token)
  | 0, _ => .error .malformed
  | most + 1, s => do
    let s ← (s.skipLayout (s.cursor.rest.length + 1)).dropStaleKeys
    let s := s.unwind s.column
    match s.cursor.peek with
    | none =>
      let s ← (s.unwind (-1)).dropKey
      return s.tokens.toList
    | some ch => run most (← s.stepAt ch)

end Scanner

/-- Whether a character may stand in a document: none but tabulators and line breaks of the control characters, and
none of the two non-characters at the end of the basic plane. -/
def isDocumentChar (c : Char) : Bool :=
  let n := c.toNat
  n == 9 || n == 10 || n == 13 || (0x20 ≤ n && n ≤ 0x7e) || n == 0x85 || (0xa0 ≤ n && n ≤ 0xfffd) || 0x10000 ≤ n

/-- The tokens of a document. -/
def tokens (t : Text) : Except Fault (List Token) :=
  if t.all isDocumentChar then Scanner.run (t.length + 2) { cursor := { rest := t } } else .error .malformed

end ScriptEval.Yaml
