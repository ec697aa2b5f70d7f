import ScriptEval.Text.Blank
import ScriptEval.Unicode.Letters

/-!
# Integers in the digits of any script

A wider reading of integers than the decimal one: blanks around the number, a sign, digits of any script, and single
underscores between digits.
-/

namespace ScriptEval.Text

/-- The digits of a number: decimal digits of any script, single underscores between them. -/
def anyDigits? : Text → Option (List Nat)
  | [] => none
  | [c] => (Unicode.decimalDigit? c).map ([·])
  | c :: '_' :: rest => do return (← Unicode.decimalDigit? c) :: (← anyDigits? rest)
  | c :: rest => do return (← Unicode.decimalDigit? c) :: (← anyDigits? rest)

/-- The sign and the digits of an integer in the digits of any script. -/
def anyInteger? (t : Text) : Option (Bool × List Nat) :=
  let (negative, digits) := takeSign (strip t)
  (anyDigits? digits).map (negative, ·)

/-- The integer of a sign and digits. -/
def fromDigits (negative : Bool) (digits : List Nat) : Int :=
  let n : Nat := digits.foldl (fun n d => 10 * n + d) 0
  if negative then -n else n

end ScriptEval.Text
