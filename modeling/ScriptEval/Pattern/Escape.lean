import ScriptEval.Pattern.Source
import ScriptEval.Unicode.Names

/-!
# Escapes and sets in patterns

What stands after a backslash, by itself and in a set between brackets, and the sets themselves.
-/

namespace ScriptEval.Pattern

open ReadM

/-- A node in a sequence, with what a repetition sign after it needs to know. -/
inductive Item
  /-- A test of a position, which cannot be repeated. -/
  | anchor (a : Anchor)
  /-- A repetition, which cannot be repeated once more. -/
  | repetition (n : Node)
  | other (n : Node)

def Item.node : Item → Node
  | anchor a => .anchor a
  | repetition n => n
  | other n => n

def isHexDigit (c : Char) : Bool := c.isDigit || ('a' ≤ c && c ≤ 'f') || ('A' ≤ c && c ≤ 'F')

def isOctalDigit (c : Char) : Bool := '0' ≤ c && c ≤ '7'

/-- The number that hexadecimal digits denote. -/
def hexNumber (digits : Text) : Nat :=
  digits.foldl (fun n c => 16 * n + if c.isDigit then c.toNat - 48 else c.toLower.toNat - 87) 0

/-- The number that octal digits denote. -/
def octalNumber (digits : Text) : Nat := digits.foldl (fun n c => 8 * n + (c.toNat - 48)) 0

/-- Fails at the start of an escape of which so much has been read. -/
def failEscape {α : Type} (kind : String) (escape : Text) : ReadM α :=
  failBack escape.length (kind.toList ++ ' ' :: escape)

/-- The characters that a letter after a backslash stands for. -/
def letterEscapes : List (Char × Nat) :=
  [('a', 7), ('f', 12), ('n', 10), ('r', 13), ('t', 9), ('v', 11), ('\\', 92)]

/-- The class that a letter after a backslash stands for, and whether it is its complement. -/
def classEscape? : Char → Option (Class × Bool)
  | 'd' => some (.digit, false)
  | 'D' => some (.digit, true)
  | 's' => some (.space, false)
  | 'S' => some (.space, true)
  | 'w' => some (.word, false)
  | 'W' => some (.word, true)
  | _ => none

/-- Numbers from here on are too large to be asked whether they are characters. -/
def characterLimit : Nat := 0x80000000

/-- The code point of so many hexadecimal digits. -/
def hexEscape (start : Text) (count : Nat) : ReadM Nat := do
  let digits ← takeWhile isHexDigit count
  let escape := start ++ digits
  if digits.length ≠ count then failEscape "incomplete escape" escape
  if characterLimit ≤ hexNumber digits then throw .characterTooLarge
  if 0x110000 ≤ hexNumber digits then failEscape "bad escape" escape
  return hexNumber digits

/-- The code point of a name between braces. -/
def nameEscape : ReadM Nat := do
  if !(← accept '\x7b') then failBack 0 ("missing ".toList ++ ['\x7b'])
  let name ← takeUntil '\x7d' "character name"
  match Unicode.named? name with
  | some n => return n
  | none => failBack (name.length + 4) ("undefined character name ".toList ++ Text.quoted name)

/-- The code point of octal digits, at most 255. -/
def octalEscape (escape : Text) : ReadM Nat := do
  let n := octalNumber (escape.drop 1)
  if 0o377 < n then
    failBack escape.length ("octal escape value ".toList ++ escape ++ " outside of range 0-0o377".toList)
  return n

/-- The code point of an escape that means the same everywhere, if `c` starts one. -/
def commonEscape? (c : Char) : ReadM (Option Nat) := do
  match c with
  | 'x' => return some (← hexEscape ['\\', c] 2)
  | 'u' => return some (← hexEscape ['\\', c] 4)
  | 'U' => return some (← hexEscape ['\\', c] 8)
  | 'N' => return some (← nameEscape)
  | _ => return none

/-- The code point of a character that needs no escape; letters of ASCII are kept for other uses. -/
def plainEscape (c : Char) : ReadM Nat := do
  if c.isAlpha then failEscape "bad escape" ['\\', c] else return c.toNat

/-- A reference to a group by number. The number may be of two digits, and three octal digits are a character. -/
def numberEscape (f : Flags) (c : Char) : ReadM Item := do
  let literal (n : Nat) : Item := .other (.test (.char f.mode n false))
  let second ← takeWhile Char.isDigit 1
  let escape := '\\' :: c :: second
  if isOctalDigit c && second.any isOctalDigit then
    let third ← takeWhile isOctalDigit 1
    if !third.isEmpty then return literal (← octalEscape (escape ++ third))
  let index := Text.toNat (c :: second)
  if (← get).widths.length < index then
    failBack (escape.length - 1) ("invalid group reference ".toList ++ Text.ofNat index)
  match ← closedWidth? index with
  | none => failBack escape.length "cannot refer to an open group".toList
  | some width =>
    checkBehind index
    return .other (.backref index f.mode width)

/-- What an escape outside of sets stands for; `c` is the character after the backslash. -/
def readEscape (f : Flags) (c : Char) : ReadM Item := do
  let literal (n : Nat) : Item := .other (.test (.char f.mode n false))
  match c with
  | 'A' => return .anchor .textStart
  | 'Z' => return .anchor .textEnd
  | 'b' => return .anchor (.wordBoundary false f.ascii)
  | 'B' => return .anchor (.wordBoundary true f.ascii)
  | '0' =>
    let digits ← takeWhile isOctalDigit 2
    return literal (octalNumber digits)
  | _ =>
    match classEscape? c, letterEscapes.lookup c with
    | some (k, complement), _ => return .other (.test (.set .exact [.kind k complement f.ascii] false))
    | none, some n => return literal n
    | none, none =>
      match ← commonEscape? c with
      | some n => return literal n
      | none => if c.isDigit then numberEscape f c else return literal (← plainEscape c)

/-! ## Sets -/

/-- What an escape in a set stands for. -/
def readSetEscape (f : Flags) (c : Char) : ReadM SetItem := do
  if c = 'b' then return .char 8
  match classEscape? c, letterEscapes.lookup c with
  | some (k, complement), _ => return .kind k complement f.ascii
  | none, some n => return .char n
  | none, none =>
    match ← commonEscape? c with
    | some n => return .char n
    | none =>
      if isOctalDigit c then
        let more ← takeWhile isOctalDigit 2
        return .char (← octalEscape ('\\' :: c :: more))
      else if c.isDigit then failEscape "bad escape" ['\\', c]
      else return .char (← plainEscape c)

/-- What a token in a set stands for. -/
def readSetToken (f : Flags) : Text → ReadM SetItem
  | ['\\', c] => readSetEscape f c
  | c :: _ => return .char c.toNat
  | [] => return .char 0

/-- The parts of a set up to its closing bracket; `start` is the position of the opening one. -/
def readSetItems (f : Flags) (start : Nat) : (most : Nat) → List SetItem → ReadM (List SetItem)
  | 0, _ => failAt start "unterminated character set"
  | most + 1, items => do
    match ← take? with
    | none => failAt start "unterminated character set"
    | some token =>
      if token = [']'] ∧ !items.isEmpty then return items
      let first ← readSetToken f token
      if ← accept '-' then
        match ← take? with
        | none => failAt start "unterminated character set"
        | some [']'] => return items ++ [first, .char '-'.toNat]
        | some endToken =>
          let last ← readSetToken f endToken
          match first, last with
          | .char a, .char b =>
            if b < a then badRange token endToken else readSetItems f start most (items ++ [.range a b])
          | _, _ => badRange token endToken
      else readSetItems f start most (items ++ [first])
where
  badRange (a b : Text) : ReadM (List SetItem) :=
    failBack (a.length + 1 + b.length) ("bad character range ".toList ++ a ++ '-' :: b)

/-- A set, after its opening bracket. -/
def readSet (f : Flags) : ReadM Item := do
  let start := (← get).place - 1
  let negated ← accept '^'
  let items ← readSetItems f start ((← get).rest.length + 1) []
  match items.eraseDups with
  | [.char c] => return .other (.test (.char f.mode c negated))
  | items => return .other (.test (.set f.mode items negated))

end ScriptEval.Pattern
