import ScriptEval.Text.Blank
import ScriptEval.Unicode.Fold
import ScriptEval.Unicode.Letters

/-!
# Character sets

What a pattern says of one character: that it is a given one, that it belongs to a class, or that it is in a set of
characters, ranges and classes. Characters of patterns are code points, since a pattern may name one that no text
holds. Without regard to case a character stands for all of its case class; in a set this goes for the code points of
the basic plane.
-/

namespace ScriptEval.Pattern

/-- How letter case counts in a comparison. -/
inductive CaseMode
  | exact
  /-- The case of ASCII letters does not count. -/
  | ascii
  /-- The case of no letter counts. -/
  | full
  deriving DecidableEq, Repr

namespace CaseMode

/-- The form in which characters are compared. -/
def lower : CaseMode → Nat → Nat
  | exact, n => n
  | ascii, n => if n < 128 then Unicode.simpleLower n else n
  | full, n => Unicode.simpleLower n

/-- All code points that count as equal to one of lower form `n`. -/
def sources : CaseMode → Nat → List Nat
  | exact, n => [n]
  | ascii, n => if 0x61 ≤ n ∧ n ≤ 0x7a then [n, n - 0x20] else [n]
  | full, n => Unicode.caseClass n

/-- Whether two code points count as equal. -/
def same (mode : CaseMode) (pattern subject : Nat) : Bool :=
  let a := mode.lower pattern
  let b := mode.lower subject
  a == b || (mode == full && (Unicode.variantsOf a).contains b)

end CaseMode

/-- Classes of characters, each with its complement. -/
inductive Class
  | digit
  | space
  | word
  deriving DecidableEq, Repr

/-- Whether a character belongs to a class, read for ASCII alone or for all of Unicode. -/
def Class.has (ascii : Bool) (c : Char) : Class → Bool
  | digit => if ascii then c.isDigit else (Unicode.decimalDigit? c).isSome
  | space => if ascii then c == ' ' || (9 ≤ c.toNat && c.toNat ≤ 13) else Text.isBlank c
  | word => c == '_' || if ascii then c.isAlphanum else Unicode.isAlphanumeric c

/-- A part of a set. -/
inductive SetItem
  | char (c : Nat)
  | range (first last : Nat)
  | kind (k : Class) (complement ascii : Bool)
  deriving DecidableEq, Repr

/-- The last code point of the basic plane. -/
def basicPlaneEnd : Nat := 0xffff

/-- Whether a character is in a part of a set; `n` is its lower form. -/
def SetItem.has (mode : CaseMode) (n : Nat) : SetItem → Bool
  | char c => if c ≤ basicPlaneEnd then mode.same c n else c == n
  | range first last =>
    if mode = .exact then first ≤ n && n ≤ last
    else
      let upper := Unicode.simpleUpper n
      (mode.sources n).any (fun s => first ≤ s && s ≤ min last basicPlaneEnd)
        || (basicPlaneEnd < last && ((first ≤ n && n ≤ last) || (first ≤ upper && upper ≤ last)))
  | kind k complement ascii => k.has ascii (Char.ofNat n) != complement

/-- A test of one character. -/
inductive CharTest
  /-- Any character; a line break only if `lineBreak`. -/
  | any (lineBreak : Bool)
  | char (mode : CaseMode) (c : Nat) (negated : Bool)
  | set (mode : CaseMode) (items : List SetItem) (negated : Bool)
  deriving DecidableEq, Repr

/-- Whether a character passes a test. -/
def CharTest.passes (c : Char) : CharTest → Bool
  | any lineBreak => lineBreak || c != '\n'
  | char mode p negated => mode.same p c.toNat != negated
  | set mode items negated => items.any (·.has mode (mode.lower c.toNat)) != negated

end ScriptEval.Pattern
