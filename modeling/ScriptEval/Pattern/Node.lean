import ScriptEval.Pattern.Charset
import ScriptEval.Pattern.Fault

/-!
# Patterns

The syntax of text patterns, read: tests of characters and positions, sequences and alternatives, repetitions, groups
and references to what they matched, and looking ahead and behind.

`Node.width` is the least and the greatest number of characters that a pattern matches. Looking behind needs one that
always matches the same number; `Node.check` finds the first place where this is not so.
-/

namespace ScriptEval.Pattern

/-- A test of a position in a text. -/
inductive Anchor
  | textStart
  /-- The end of the text. -/
  | textEnd
  /-- The end of the text, or a line break that is its last character. -/
  | lastLineEnd
  | lineStart
  | lineEnd
  /-- A place between a character of a word and one that is none, or for `inverted` any other place. -/
  | wordBoundary (inverted ascii : Bool)
  deriving DecidableEq, Repr

/-- How a repetition goes on. -/
inductive Greed
  /-- As often as possible, and less often if what follows does not match. -/
  | greedy
  /-- As seldom as possible, and more often if what follows does not match. -/
  | lazy
  /-- As often as possible, and no less. -/
  | possessive
  deriving DecidableEq, Repr

inductive Node
  | empty
  | test (t : CharTest)
  | anchor (a : Anchor)
  | seq (first second : Node)
  | alt (first second : Node)
  /-- Repeats `body`; no `max` means without end. `plain` tells that repetitions are read off without their rules,
  which is what the flag `t` asks for. -/
  | repeat (min : Nat) (max : Option Nat) (greed : Greed) (plain : Bool) (body : Node)
  /-- Keeps what `body` matches as group `index`. -/
  | group (index : Nat) (body : Node)
  /-- The first way in which `body` matches, and no other. -/
  | atomic (body : Node)
  | lookAhead (negated : Bool) (body : Node)
  /-- Looks at the characters before the place; `width` is the width of `body`. -/
  | lookBehind (negated : Bool) (width : Nat × Nat) (body : Node)
  /-- What group `index` has matched; `width` is the width of the group. -/
  | backref (index : Nat) (mode : CaseMode) (width : Nat × Nat)
  /-- One pattern if group `index` has matched, else another. -/
  | conditional (index : Nat) (yes no : Node)
  deriving DecidableEq, Repr, Inhabited

namespace Node

/-- Nodes one after the other. -/
def sequence : List Node → Node
  | [] => empty
  | [n] => n
  | n :: ns => seq n (sequence ns)

/-- The first of several nodes that matches. -/
def alternatives : List Node → Node
  | [] => empty
  | [n] => n
  | n :: ns => alt n (alternatives ns)

/-- The greatest width; what is longer counts as this. -/
def widthLimit : Nat := UInt64.size

/-- The least and the greatest number of characters that a pattern matches. -/
def width : Node → Nat × Nat
  | empty | anchor _ | lookAhead _ _ | lookBehind _ _ _ => (0, 0)
  | test _ => (1, 1)
  | seq a b => cap (a.width.1 + b.width.1, a.width.2 + b.width.2)
  | alt a b => (min a.width.1 b.width.1, max a.width.2 b.width.2)
  | .repeat least most _ _ body =>
    cap (body.width.1 * least, match most with
      | some n => body.width.2 * n
      | none => if body.width.2 = 0 then 0 else widthLimit)
  | group _ body | atomic body => body.width
  | backref _ _ w => w
  | conditional _ yes no => (min yes.width.1 no.width.1, max yes.width.2 no.width.2)
where
  cap (w : Nat × Nat) : Nat × Nat := (min w.1 widthLimit, min w.2 widthLimit)

/-- The most characters to look behind. -/
def behindLimit : Nat := UInt32.size - 1

/-- The fault of the first node that no text could be matched with. -/
def check : Node → Except Fault Unit
  | empty | test _ | anchor _ | backref _ _ _ => .ok ()
  | seq a b | alt a b | conditional _ a b => do a.check; b.check
  | .repeat _ _ greed plain body =>
    if plain then
      let name := match greed with
        | .greedy => "MAX_REPEAT"
        | .lazy => "MIN_REPEAT"
        | .possessive => "POSSESSIVE_REPEAT"
      .error (.invalid ("internal: unsupported template operator ".toList ++ name.toList))
    else body.check
  | group _ body | atomic body | lookAhead _ body => body.check
  | lookBehind _ (least, most) body =>
    if behindLimit < least then .error (.invalid "looks too much behind".toList)
    else if least ≠ most then .error (.invalid "look-behind requires fixed-width pattern".toList)
    else body.check

end Node

end ScriptEval.Pattern
