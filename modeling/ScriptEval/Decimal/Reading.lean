import ScriptEval.Text.Blank
import ScriptEval.Unicode.Letters

/-!
# Reading decimal numbers

The double nearest to a decimal number. Numbers beyond the range of doubles become infinite, and those below it zero.
-/

namespace ScriptEval.Decimal

/-- The double nearest to `digits · 10^exponent`. -/
def toFloat (digits : Nat) (exponent : Int) : Float :=
  let places := (Text.ofNat digits).length + exponent
  if digits = 0 ∨ places < -330 then 0.0
  else if 310 < places then 1.0 / 0.0
  else if 0 ≤ exponent then Float.ofScientific digits false exponent.toNat
  else Float.ofScientific digits true (-exponent).toNat

/-- The value of an exponent: digits, perhaps with a sign. -/
def exponent? (t : Text) : Option Int := if Text.isInteger t then some (Text.toInt t) else none

/-- The double that a number without a sign denotes: digits with or without a point in them, perhaps an exponent;
or one of the words for infinity and for what is no number. -/
def unsignedFloat? (t : Text) : Option Float :=
  let word := t.map Char.toLower
  if word = "inf".toList ∨ word = "infinity".toList then some (1.0 / 0.0)
  else if word = "nan".toList then some (0.0 / 0.0)
  else
    let (whole, rest) := t.span Char.isDigit
    let (fraction, rest) := match rest with
      | '.' :: rest => rest.span Char.isDigit
      | _ => ([], rest)
    if whole.isEmpty && fraction.isEmpty then none
    else
      let exponent : Option Int := match rest with
        | [] => some 0
        | e :: rest => if e = 'e' ∨ e = 'E' then exponent? rest else none
      exponent.map fun e => toFloat (Text.toNat (whole ++ fraction)) (e - fraction.length)

/-- The text with the digits of all scripts written as `0` to `9`. -/
def plainDigits (t : Text) : Text :=
  t.map fun c => match Unicode.decimalDigit? c with
    | some d => Nat.digitChar d
    | none => c

/-- The double that a number denotes; blanks around it and digits of any script are allowed. -/
def readFloat? (t : Text) : Option Float :=
  match Text.takeSign (plainDigits (Text.strip t)) with
  | (true, t) => (unsignedFloat? t).map fun x => -x
  | (false, t) => unsignedFloat? t

end ScriptEval.Decimal
