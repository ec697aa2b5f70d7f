import ScriptEval.Pattern.Escape
import ScriptEval.Text.AnyDigits

/-!
# Reading patterns

The grammar of patterns, from the sequence of tokens to the tree of nodes: alternatives of sequences, repetition
signs after the item they repeat, and groups of all kinds.

Reading goes by recursion on a bound that the length of the pattern gives (`Node.read`): each step takes a token or
goes one level deeper into a group whose opening parenthesis was taken.
-/

namespace ScriptEval.Pattern

open ReadM

/-- Blanks that do not count in a verbose pattern. -/
def isLayout (c : Char) : Bool := c == ' ' || (9 ≤ c.toNat && c.toNat ≤ 13)

/-! ## Repetition signs -/

/-- The bounds of a repetition are below this. -/
def repetitionLimit : Nat := 4294967295

/-- A bound of a repetition, if it is given. -/
def readBound (digits : Text) : ReadM (Option Nat) := do
  if digits.isEmpty then return none
  if 4300 < digits.length then throw (.tooManyDigits digits.length)
  if repetitionLimit ≤ Text.toNat digits then throw .repetitionTooLarge
  return some (Text.toNat digits)

/-- The bounds between braces, after the opening one; nothing is taken if what follows are no bounds. -/
def readBounds? : ReadM (Option (Nat × Option Nat)) := do
  let start ← get
  if (← peek) = some ['\x7d'] then return none
  let low ← takeAll Char.isDigit
  let high ← if ← accept ',' then takeAll Char.isDigit else pure low
  if !(← accept '\x7d') then
    moveTo start.rest start.place
    return none
  let least := (← readBound low).getD 0
  let most ← readBound high
  if most.any (· < least) then failAt start.place "min repeat greater than max repeat"
  return some (least, most)

/-- The bounds that a repetition sign stands for; `none` for a brace that is no such sign. -/
def readQuantifier? (sign : Char) : ReadM (Option (Nat × Option Nat)) := do
  match sign with
  | '?' => return some (0, some 1)
  | '*' => return some (0, none)
  | '+' => return some (1, none)
  | _ => readBounds?

/-- How a repetition goes on, which a sign after its bounds says. -/
def readGreed : ReadM Greed := do
  if ← accept '?' then return .lazy
  if ← accept '+' then return .possessive
  return .greedy

/-- The repetition of the last of `items`, which are in reverse; `position` is that of the repetition sign. -/
def repeatLast (f : Flags) (position : Nat) (bounds : Nat × Option Nat) (items : List Item) : ReadM (List Item) := do
  match items with
  | [] | .anchor _ :: _ => failAt position "nothing to repeat"
  | .repetition _ :: _ => failAt position "multiple repeat"
  | .other n :: items =>
    return .repetition (.repeat bounds.1 bounds.2 (← readGreed) f.plain n) :: items

/-! ## Flags of groups -/

/-- The flag of a letter, as the flags with it alone. -/
def flag? : Char → Option Flags
  | 'i' => some { ignoreCase := true }
  | 'm' => some { multiline := true }
  | 's' => some { dotAll := true }
  | 'x' => some { verbose := true }
  | 'a' => some { ascii := true }
  | 't' => some { plain := true }
  | 'u' => some { unicode := true }
  | _ => none

/-- The letters of flags, the one for locales included, which texts do not admit. -/
def isFlagLetter (token : Text) : Bool :=
  match token with
  | [c] => c == 'L' || (flag? c).isSome
  | _ => false

namespace Flags

/-- The flags of both. -/
def union (a b : Flags) : Flags where
  ignoreCase := a.ignoreCase || b.ignoreCase
  multiline := a.multiline || b.multiline
  dotAll := a.dotAll || b.dotAll
  verbose := a.verbose || b.verbose
  ascii := a.ascii || b.ascii
  unicode := a.unicode || b.unicode
  plain := a.plain || b.plain

/-- Whether two sets of flags have one in common. -/
def meets (a b : Flags) : Bool :=
  (a.ignoreCase && b.ignoreCase) || (a.multiline && b.multiline) || (a.dotAll && b.dotAll)
    || (a.verbose && b.verbose) || (a.ascii && b.ascii) || (a.unicode && b.unicode) || (a.plain && b.plain)

/-- Flags with some turned on and others off. A kind of classes that is turned on replaces the other. -/
def turn (f on off : Flags) : Flags where
  ignoreCase := (f.ignoreCase || on.ignoreCase) && !off.ignoreCase
  multiline := (f.multiline || on.multiline) && !off.multiline
  dotAll := (f.dotAll || on.dotAll) && !off.dotAll
  verbose := (f.verbose || on.verbose) && !off.verbose
  ascii := on.ascii || (f.ascii && !on.unicode)
  unicode := on.unicode || (f.unicode && !on.ascii)
  plain := f.plain

end Flags

/-- Fails at a token that is no flag: a letter is an unknown one, all else is not what was expected. -/
def failFlag {α : Type} (token : Text) (expected : String) : ReadM α :=
  failBack token.length (match token with
    | [c] => if Unicode.isLetter c then "unknown flag".toList else expected.toList
    | _ => expected.toList)

/-- The flags to turn on, `token` being the next letter, and the character that ends them. -/
def readFlagsOn : (most : Nat) → Flags → (token : Text) → ReadM (Flags × Char)
  | 0, f, _ => return (f, ':')
  | most + 1, f, token => do
    let letter := token.headD ' '
    if letter = 'L' then failBack 0 "bad inline flags: cannot use 'L' flag with a str pattern".toList
    let f := f.union ((flag? letter).getD {})
    if f.ascii && f.unicode then
      failBack 0 "bad inline flags: flags 'a', 'u' and 'L' are incompatible".toList
    match ← take? with
    | none => failBack 0 "missing -, : or )".toList
    | some [')'] => return (f, ')')
    | some ['-'] => return (f, '-')
    | some [':'] => return (f, ':')
    | some token =>
      if isFlagLetter token then readFlagsOn most f token else failFlag token "missing -, : or )"

/-- The flags to turn off, `token` being the next letter, up to the colon. -/
def readFlagsOff : (most : Nat) → Flags → (token : Text) → ReadM Flags
  | 0, f, _ => return f
  | most + 1, f, token => do
    let letter := token.headD ' '
    if letter = 'L' ∨ letter = 'a' ∨ letter = 'u' then
      failBack 0 "bad inline flags: cannot turn off flags 'a', 'u' and 'L'".toList
    let f := f.union ((flag? letter).getD {})
    match ← take? with
    | none => failBack 0 "missing :".toList
    | some [':'] => return f
    | some token => if isFlagLetter token then readFlagsOff most f token else failFlag token "missing :"

/-- The flags of a group, `token` being the first letter or a minus: those to turn on and off in it, or `none` if they
are set for the whole pattern. -/
def readFlags (token : Text) : ReadM (Option (Flags × Flags)) := do
  let most := (← get).rest.length + 1
  let (on, ending) ← if token = ['-'] then pure ({}, '-') else readFlagsOn most {} token
  if ending = ')' then
    modify fun r => { r with flags := r.flags.union on }
    return none
  if on.plain then failBack 1 "bad inline flags: cannot turn on global flag".toList
  let off ← if ending = '-' then do
      match ← take? with
      | none => failBack 0 "missing flag".toList
      | some token => if isFlagLetter token then readFlagsOff most {} token else failFlag token "missing flag"
    else pure {}
  if off.plain then failBack 1 "bad inline flags: cannot turn off global flag".toList
  if on.meets off then failBack 1 "bad inline flags: flag turned on and off".toList
  return some (on, off)

/-! ## Names and numbers of groups -/

/-- Checks the name of a group, of which the last token taken is the end. -/
def checkName (name : Text) : ReadM Unit := do
  if !Unicode.isIdentifier name then
    failBack (name.length + 1) ("bad character in group name ".toList ++ Text.quoted name)

/-- The group of a name. -/
def groupNamed (name : Text) : ReadM Nat := do
  match (← get).names.lookup name with
  | some index => return index
  | none => failBack (name.length + 1) ("unknown group name ".toList ++ Text.quoted name)

/-- A reference to the group of a name, after the sign for it. -/
def readNamedReference (f : Flags) : ReadM Item := do
  let name ← takeUntil ')' "group name"
  checkName name
  let index ← groupNamed name
  match ← closedWidth? index with
  | none => failBack (name.length + 1) "cannot refer to an open group".toList
  | some width =>
    checkBehind index
    return .other (.backref index f.mode width)

/-- The greatest number of groups. -/
def groupLimit : Nat := 2147483647

/-- The group that a condition asks for, by name or by number. -/
def readCondition : ReadM Nat := do
  let name ← takeUntil ')' "group name"
  let index ← if Unicode.isIdentifier name then groupNamed name else byNumber name
  checkBehind index
  return index
where
  byNumber (name : Text) : ReadM Nat := do
    let back := name.length + 1
    let bad := "bad character in group name ".toList ++ Text.quoted name
    match Text.anyInteger? name with
    | none => failBack back bad
    | some (negative, digits) =>
      if 4300 < digits.length then failBack back bad
      let n := Text.fromDigits negative digits
      if n < 0 then failBack back bad
      if n = 0 then failBack back "bad group number".toList
      if groupLimit ≤ n.toNat then failBack back ("invalid group reference ".toList ++ Text.ofInt n)
      modify fun r =>
        if (r.asked.lookup n.toNat).isSome then r else { r with asked := r.asked ++ [(n.toNat, r.place - back)] }
      return n.toNat

/-- Takes tokens up to a closing parenthesis; `start` is the position of the opening one. -/
def skipComment (start : Nat) : (most : Nat) → ReadM Unit
  | 0 => return ()
  | most + 1 => do
    if (← peek).isNone then failAt start "missing ), unterminated comment"
    if (← take?) != some [')'] then skipComment start most

/-- Takes tokens up to the end of a line. -/
def skipLine : (most : Nat) → ReadM Unit
  | 0 => return ()
  | most + 1 => do
    match ← take? with
    | none => return ()
    | some ['\n'] => return ()
    | some _ => skipLine most

/-- Takes the closing parenthesis of a group; `start` is the position of the opening one. -/
def closeParenthesis (start : Nat) : ReadM Unit := do
  if !(← accept ')') then failAt start "missing ), unterminated subpattern"

/-- The character after the question mark of a group. -/
def takeOption : ReadM Text := do
  match ← take? with
  | some token => return token
  | none => failBack 0 "unexpected end of pattern".toList

/-- Fails at an unknown kind of group. -/
def failKind {α : Type} (back : Nat) (kind : Text) : ReadM α :=
  failBack back ("unknown extension ?".toList ++ kind)

/-- The kinds of groups that hold a pattern. -/
inductive GroupKind
  | capture (name : Option Text)
  | plain (on off : Flags)
  | atomic
  deriving DecidableEq, Repr

/-! ## The grammar -/

mutual

/-- Alternatives, up to the end or a closing parenthesis. The outermost ones go by the flags of the whole pattern. -/
def readAlternatives (outermost : Bool) (f : Flags) : (bound : Nat) → List Node → ReadM Node
  | 0, _ => return .empty
  | bound + 1, before => do
    let whole := (← get).flags
    let f := if outermost then whole else f
    let n ← readSequence (outermost && before.isEmpty) f bound []
    if ← accept '|' then readAlternatives outermost f bound (before ++ [n])
    else return .alternatives (before ++ [n])

/-- A sequence, up to a bar, the end or a closing parenthesis; `items` are those before, in reverse. Flags for the
whole pattern are admitted at its start (`atStart`). -/
def readSequence (atStart : Bool) (f : Flags) : (bound : Nat) → (items : List Item) → ReadM Node
  | 0, items => return .sequence (items.reverse.map Item.node)
  | bound + 1, items => do
    let position := (← get).place
    let literal (c : Char) : Item := .other (.test (.char f.mode c.toNat false))
    match ← peek with
    | none | some ['|'] | some [')'] | some [] => return .sequence (items.reverse.map Item.node)
    | some (c :: more) =>
      let _ ← take?
      if f.verbose && more.isEmpty && isLayout c then readSequence atStart f bound items
      else if f.verbose && c == '#' then
        skipLine (← get).rest.length
        readSequence atStart f bound items
      else match c with
        | '\\' => readSequence atStart f bound ((← readEscape f (more.headD '\\')) :: items)
        | '[' => readSequence atStart f bound ((← readSet f) :: items)
        | '*' | '+' | '?' | '\x7b' =>
          match ← readQuantifier? c with
          | none => readSequence atStart f bound (literal c :: items)
          | some bounds => readSequence atStart f bound (← repeatLast f position bounds items)
        | '.' => readSequence atStart f bound (.other (.test (.any f.dotAll)) :: items)
        | '^' => readSequence atStart f bound (.anchor (if f.multiline then .lineStart else .textStart) :: items)
        | '$' => readSequence atStart f bound (.anchor (if f.multiline then .lineEnd else .lastLineEnd) :: items)
        | '(' =>
          match ← readParenthesis (atStart && items.isEmpty) f position bound with
          | some item => readSequence atStart f bound (item :: items)
          | none =>
            let whole := (← get).flags
            readSequence atStart (if atStart then whole else f) bound items
        | c => readSequence atStart f bound (literal c :: items)

/-- What follows an opening parenthesis at `start`; `none` for a comment and for flags of the whole pattern. -/
def readParenthesis (flagsAdmitted : Bool) (f : Flags) (start : Nat) : (bound : Nat) → ReadM (Option Item)
  | 0 => return none
  | bound + 1 => do
    if !(← accept '?') then return some (← readGroup (.capture none) f start bound)
    match ← takeOption with
    | ['P'] =>
      if ← accept '<' then
        let name ← takeUntil '>' "group name"
        checkName name
        return some (← readGroup (.capture (some name)) f start bound)
      else if ← accept '=' then return some (← readNamedReference f)
      else
        let token ← takeOption
        failKind (token.length + 2) ('P' :: token)
    | [':'] => return some (← readGroup (.plain {} {}) f start bound)
    | ['>'] => return some (← readGroup .atomic f start bound)
    | ['#'] =>
      skipComment start ((← get).rest.length + 1)
      return none
    | ['='] =>
      let body ← readAlternatives false f bound []
      closeParenthesis start
      return some (.other (.lookAhead false body))
    | ['!'] =>
      let body ← readAlternatives false f bound []
      closeParenthesis start
      return some (.other (.lookAhead true body))
    | ['<'] =>
      let token ← takeOption
      if token ≠ ['='] ∧ token ≠ ['!'] then failKind (token.length + 2) ('<' :: token)
      let outer := (← get).groupsBefore
      modify fun r => { r with groupsBefore := some (outer.getD r.widths.length) }
      let body ← readAlternatives false f bound []
      modify fun r => { r with groupsBefore := outer }
      closeParenthesis start
      return some (.other (.lookBehind (token == ['!']) body.width body))
    | ['('] =>
      let index ← readCondition
      let yes ← readSequence false f bound []
      let no ← if ← accept '|' then readSequence false f bound [] else pure .empty
      if (← peek) = some ['|'] then failBack 0 "conditional backref with more than two branches".toList
      closeParenthesis start
      return some (.other (.conditional index yes no))
    | token =>
      if isFlagLetter token ∨ token = ['-'] then
        match ← readFlags token with
        | some (on, off) => return some (← readGroup (.plain on off) f start bound)
        | none =>
          if !flagsAdmitted then failAt start "global flags not at the start of the expression"
          return none
      else failKind (token.length + 1) token

/-- The pattern in a group and its closing parenthesis. -/
def readGroup (kind : GroupKind) (f : Flags) (start : Nat) : (bound : Nat) → ReadM Item
  | 0 => return .other .empty
  | bound + 1 => do
    match kind with
    | .capture name =>
      let index ← openGroup name
      let body ← readAlternatives false f bound []
      closeParenthesis start
      closeGroup index body.width
      return .other (.group index body)
    | .plain on off =>
      let body ← readAlternatives false (f.turn on off) bound []
      closeParenthesis start
      return .other body
    | .atomic =>
      let body ← readAlternatives false f bound []
      closeParenthesis start
      return .other (.atomic body)

end

/-- Checks what only the whole pattern shows: its flags, a parenthesis that closes nothing, and conditions on groups
that it does not have. -/
def checkWhole : ReadM Unit := do
  let r ← get
  if r.flags.ascii && r.flags.unicode then throw .conflictingFlags
  if !r.rest.isEmpty then failBack 0 "unbalanced parenthesis".toList
  match r.asked.find? fun (index, _) => r.widths.length < index with
  | some (index, position) => throw (.invalid ("invalid group reference ".toList ++ Text.ofNat index) (some position))
  | none => return ()

/-- The pattern that a text is. -/
def Node.read (t : Text) : Except Fault Node := do
  let whole : ReadM Node := do
    moveTo t 0
    let n ← readAlternatives true {} (4 * t.length + 8) []
    checkWhole
    return n
  let (n, _) ← whole.run { rest := t }
  n.check
  return n

end ScriptEval.Pattern
