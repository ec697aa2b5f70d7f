import ScriptEval.Pattern.Node
import ScriptEval.Text.Quoted

/-!
# The text of a pattern

A pattern is read in tokens: a character, or a backslash with the character after it. `Reading` is the state of the
reader: what is left of the text, and what the pattern has said so far of its groups and flags.

A backslash at the end of the text is a fault as soon as it is the next token, before anything else is made of what
stands before it.
-/

namespace ScriptEval.Pattern

/-- The flags of a pattern or a part of it. -/
structure Flags where
  ignoreCase : Bool := false
  multiline : Bool := false
  dotAll : Bool := false
  /-- Blanks and comments do not count. -/
  verbose : Bool := false
  /-- Classes and cases are those of ASCII. -/
  ascii : Bool := false
  /-- Classes and cases are those of Unicode; so they are without flags. -/
  unicode : Bool := false
  /-- Repetitions are read off without their rules. -/
  plain : Bool := false
  deriving DecidableEq, Repr

/-- How letter case counts under flags. -/
def Flags.mode (f : Flags) : CaseMode := if !f.ignoreCase then .exact else if f.ascii then .ascii else .full

structure Reading where
  /-- The text from the next token on. -/
  rest : Text
  /-- The position of the next token. -/
  place : Nat := 0
  /-- The flags set for the whole pattern. -/
  flags : Flags := {}
  /-- The widths of the groups, in order; that of a group that is still open is not known. -/
  widths : List (Option (Nat × Nat)) := []
  /-- The names of groups. -/
  names : List (Text × Nat) := []
  /-- Within looking behind, the number of groups that began before it. -/
  groupsBefore : Option Nat := none
  /-- Groups that conditions ask for by number, with the position where each was first asked for. -/
  asked : List (Nat × Nat) := []

/-- Reading a part of a pattern. -/
abbrev ReadM := StateT Reading (Except Fault)

namespace ReadM

/-- Fails at so many characters before the next token. -/
def failBack {α : Type} (back : Nat) (reason : Text) : ReadM α := do
  throw (.invalid reason (some ((← get).place - back)))

/-- Fails at a position. -/
def failAt {α : Type} (position : Nat) (reason : String) : ReadM α :=
  throw (.invalid reason.toList (some position))

/-- The first token of a text. -/
def firstToken : Text → Option Text
  | [] => none
  | '\\' :: c :: _ => some ['\\', c]
  | c :: _ => some [c]

/-- The next token, not taken. -/
def peek : ReadM (Option Text) := do return firstToken (← get).rest

/-- Goes to `rest` at `place`, where a token must start. -/
def moveTo (rest : Text) (place : Nat) : ReadM Unit := do
  if rest = ['\\'] then throw (.invalid "bad escape (end of pattern)".toList (some place))
  modify fun r => { r with rest, place }

/-- Takes the next token, if there is one. -/
def take? : ReadM (Option Text) := do
  let token ← peek
  let r ← get
  let length := (token.getD []).length
  moveTo (r.rest.drop length) (r.place + length)
  return token

/-- Takes the next token if it is this character. -/
def accept (c : Char) : ReadM Bool := do
  if (← peek) = some [c] then
    let _ ← take?
    return true
  else return false

/-- Takes at most `most` characters that pass a test. -/
def takeWhile (p : Char → Bool) : (most : Nat) → ReadM Text
  | 0 => return []
  | most + 1 => do
    match ← peek with
    | some [c] =>
      if p c then
        let _ ← take?
        return c :: (← takeWhile p most)
      else return []
    | _ => return []

/-- Takes all characters that pass a test. -/
def takeAll (p : Char → Bool) : ReadM Text := do takeWhile p (← get).rest.length

/-- Takes tokens up to a character and that character; `what` is what they make up. -/
def takeUntil (terminator : Char) (what : String) : ReadM Text := do go (← get).rest.length []
where
  go : (most : Nat) → (taken : Text) → ReadM Text
  | 0, taken => do
    let _ ← take?
    unterminated taken
  | most + 1, taken => do
    match ← take? with
    | none => unterminated taken
    | some token =>
      if token = [terminator] then
        if taken.isEmpty then failBack 1 ("missing ".toList ++ what.toList) else return taken
      else go most (taken ++ token)
  unterminated (taken : Text) : ReadM Text :=
    if taken.isEmpty then failBack 0 ("missing ".toList ++ what.toList)
    else failBack taken.length ("missing ".toList ++ terminator :: ", unterminated name".toList)

/-! ## Groups -/

/-- The width of a group that is closed. -/
def closedWidth? (index : Nat) : ReadM (Option (Nat × Nat)) := do
  let r ← get
  return if index = 0 then none else (r.widths[index - 1]?).join

/-- Begins a group and gives its number. -/
def openGroup (name : Option Text) : ReadM Nat := do
  let r ← get
  let index := r.widths.length + 1
  match name with
  | none => set { r with widths := r.widths ++ [none] }
  | some name =>
    match r.names.lookup name with
    | some old =>
      failBack (name.length + 1)
        ("redefinition of group name ".toList ++ Text.quoted name ++ " as group ".toList ++ Text.ofNat index
          ++ "; was group ".toList ++ Text.ofNat old)
    | none => set { r with widths := r.widths ++ [none], names := r.names ++ [(name, index)] }
  return index

def closeGroup (index : Nat) (width : Nat × Nat) : ReadM Unit :=
  modify fun r => { r with widths := r.widths.set (index - 1) (some width) }

/-- Within looking behind, only groups that were closed before it may be referred to. -/
def checkBehind (index : Nat) : ReadM Unit := do
  match (← get).groupsBefore with
  | none => return ()
  | some before =>
    if (← closedWidth? index).isNone then failBack 0 "cannot refer to an open group".toList
    if before < index then
      failBack 0 "cannot refer to group defined in the same lookbehind subpattern".toList

end ReadM

end ScriptEval.Pattern
