import ScriptEval.Text.Basic

/-!
# Decimal digits

Natural numbers and integers in decimal. A decimal integer is an optional sign and at least one of the digits `0` to
`9`; leading zeros are allowed when reading and never written.
-/

namespace ScriptEval.Text

/-- The decimal digits of a natural number, without leading zeros. -/
def ofNat (n : Nat) : Text :=
  if n < 10 then [Nat.digitChar n] else ofNat (n / 10) ++ [Nat.digitChar (n % 10)]

/-- The decimal digits of an integer, with a sign if it is negative. -/
def ofInt : Int → Text
  | .ofNat n => ofNat n
  | .negSucc n => '-' :: ofNat (n + 1)

/-- The digits of `n` with zeros in front, at least `width` characters. -/
def ofNatPadded (width n : Nat) : Text :=
  let digits := ofNat n
  List.replicate (width - digits.length) '0' ++ digits

/-- The number that decimal digits denote. -/
def toNat (digits : Text) : Nat := digits.foldl (fun n c => 10 * n + (c.toNat - '0'.toNat)) 0

/-- The sign in front of a text (`true` for a minus) and the text after it. -/
def takeSign : Text → Bool × Text
  | '-' :: rest => (true, rest)
  | '+' :: rest => (false, rest)
  | t => (false, t)

/-- Whether a text is one decimal digit or more. -/
def isDigits (t : Text) : Bool := !t.isEmpty && t.all Char.isDigit

/-- Whether a text is a decimal integer. -/
def isInteger (t : Text) : Bool := isDigits (takeSign t).2

/-- The integer that a decimal integer denotes. -/
def toInt (t : Text) : Int :=
  match takeSign t with
  | (true, digits) => -(toNat digits)
  | (false, digits) => toNat digits

end ScriptEval.Text
