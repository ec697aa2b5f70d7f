import ScriptEval.Text.Digits

/-!
# Faults of patterns

Why a text is no pattern. A fault is reported with its position, and in a text of several lines with the line and
column as well.
-/

namespace ScriptEval.Pattern

inductive Fault
  /-- The text breaks a rule of patterns, at a position unless the fault is one of a whole part. -/
  | invalid (reason : Text) (position : Option Nat := none)
  /-- A bound of a repetition is too large. -/
  | repetitionTooLarge
  /-- The number of an escaped character is too large. -/
  | characterTooLarge
  /-- A bound of a repetition has too many digits to be read. -/
  | tooManyDigits (digits : Nat)
  /-- Flags at the start ask for both ASCII and Unicode classes. -/
  | conflictingFlags
  deriving DecidableEq, Repr

/-- The report of a broken rule in the pattern `source`. -/
def reportAt (source reason : Text) : Option Nat → Text
  | none => reason
  | some position =>
    let before := source.take position
    let column := (before.reverse.takeWhile (· != '\n')).length + 1
    reason ++ " at position ".toList ++ Text.ofNat position
      ++ if source.contains '\n' then
          " (line ".toList ++ Text.ofNat (before.count '\n' + 1) ++ ", column ".toList ++ Text.ofNat column ++ [')']
        else []

end ScriptEval.Pattern
