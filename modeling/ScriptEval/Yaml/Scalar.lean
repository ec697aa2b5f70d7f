import ScriptEval.Decimal.Reading
import ScriptEval.Text.AnyDigits
import ScriptEval.Unicode.Case
import ScriptEval.Yaml.Tag

/-!
# What scalars denote

`Tag.read` gives the datum that a scalar denotes under its tag. Scalars without a tag of their own always denote
something, dates that do not exist and very long numbers apart; those with a tag may break its rules.
-/

namespace ScriptEval.Yaml

namespace Scalar

/-- The words for yes and no. -/
def truthValues : List (Text × Bool) :=
  [("yes", true), ("no", false), ("true", true), ("false", false), ("on", true), ("off", false)].map
    fun (word, b) => (String.toList word, b)

def readBool (t : Text) : Except Fault Data :=
  let word := Unicode.lower t
  match truthValues.lookup word with
  | some b => .ok (.bool b)
  | none => .error (.scalar (.notBoolean word))

/-! ## Integers -/

/-- The value of a digit, letters counting from ten. -/
def digitValue? (c : Char) : Option Nat :=
  if 'a' ≤ c ∧ c ≤ 'z' then some (c.toNat - 87)
  else if 'A' ≤ c ∧ c ≤ 'Z' then some (c.toNat - 55)
  else Unicode.decimalDigit? c

/-- The letters after a zero that announce the base of a number. -/
def baseLetters : List (Nat × List Char) := [(2, ['b', 'B']), (8, ['o', 'O']), (16, ['x', 'X'])]

/-- The integer that a text denotes in a base, with a sign and a mark of the base if it has them. Decimal numbers are
limited in their digits. -/
def readBase (base : Nat) (t : Text) : Except NumberFault Int :=
  let (negative, unsigned) := Text.takeSign (Text.strip t)
  let digits := match unsigned with
    | '0' :: letter :: digits => if ((baseLetters.lookup base).getD []).contains letter then digits else unsigned
    | _ => unsigned
  match digits.mapM digitValue? with
  | some (d :: ds) =>
    if (d :: ds).all (· < base) then
      if base = 10 ∧ digitLimit < digits.length then .error (.tooManyDigits digits.length)
      else
        let n : Nat := (d :: ds).foldl (fun n d => base * n + d) 0
        .ok (if negative then -n else n)
    else .error (.notInteger base t)
  | _ => .error (.notInteger base t)

/-- A number in sixtieths from its parts, each counting sixty times the next. -/
def sixtieths (parts : List Int) : Int := parts.foldl (fun n part => 60 * n + part) 0

/-- An integer without its sign. -/
def readUnsigned : Text → Except Fault Int
  | [] => .error (.scalar .emptyNumber)
  | ['0'] => .ok 0
  | t =>
    let parts := Text.splitOn ':' t
    let read : Except NumberFault Int := match t with
      | '0' :: 'b' :: digits => readBase 2 digits
      | '0' :: 'x' :: digits => readBase 16 digits
      | '0' :: _ => readBase 8 t
      | _ => if parts.length = 1 then readBase 10 t else (parts.mapM (readBase 10)).map sixtieths
    read.mapError Fault.number

/-- The text without underscores and its sign: whether it is a minus, and the rest; a text of nothing but underscores
has none. -/
def unsigned (t : Text) : Except Fault (Bool × Text) :=
  let t := t.filter (· != '_')
  if t.isEmpty then .error (.scalar .emptyNumber) else .ok (Text.takeSign t)

def readInt (t : Text) : Except Fault Data := do
  let (negative, digits) ← unsigned t
  let n ← readUnsigned digits
  return .int (if negative then -n else n)

/-! ## Numbers with a decimal point -/

def readFloatPart (t : Text) : Except Fault Float :=
  match Decimal.readFloat? t with
  | some x => .ok x
  | none => .error (.number (.notNumber t))

/-- The sum of the parts of a number in sixtieths, the last one first. -/
def floatSixtieths (parts : List Float) : Float :=
  (parts.foldl (fun (sum, unit) part => (sum + part * Float.ofNat unit, 60 * unit)) ((0.0 : Float), 1)).1

def readFloat (t : Text) : Except Fault Data := do
  let (negative, digits) ← unsigned (Unicode.lower t)
  let parts := Text.splitOn ':' digits
  let x ← if digits = ".inf".toList then .ok (1.0 / 0.0)
    else if digits = ".nan".toList then .ok (0.0 / 0.0)
    else if parts.length = 1 then readFloatPart digits
    else (parts.mapM readFloatPart).map fun parts => floatSixtieths parts.reverse
  return .float (if negative then -x else x)

/-! ## Times -/

def readTimestamp (t : Text) : Except Fault Data :=
  match Timestamp.read? (Tag.withoutFinalBreak t) with
  | none => .error (.scalar .notTime)
  | some stamp =>
    let read := match stamp.time with
      | none => stamp.date.check.map Data.date
      | some time => (stamp.moment time).map Data.moment
    read.mapError fun why => .scalar (.noSuchTime why)

/-! ## Bytes -/

/-- The digits of the number system to base 64. -/
def base64Digits : Text := "ABCDEFGHIJKLMNOPQRSTUVWXYZabcdefghijklmnopqrstuvwxyz0123456789+/".toList

/-- The bytes of a text to base 64. `held` are the bits of the digits of the current group of four that are not yet
part of a byte, `place` the number of these digits, and `pads` that of the equals signs after them. Characters that are
no digits are passed over; equals signs end the text when they fill the group. -/
def decode64 (held place pads : Nat) : Text → Option (List UInt8)
  | [] => if place = 0 then some [] else none
  | c :: rest =>
    if c = '=' then
      if place < 2 then decode64 held place pads rest
      else if 4 ≤ place + pads + 1 then some []
      else decode64 held place (pads + 1) rest
    else match base64Digits.idxOf? c with
      | none => decode64 held place pads rest
      | some d =>
        let byte (n : Nat) : UInt8 := UInt8.ofNat n
        match place with
        | 0 => decode64 d 1 0 rest
        | 1 => (decode64 (d % 16) 2 0 rest).map (byte (4 * held + d / 16) :: ·)
        | 2 => (decode64 (d % 4) 3 0 rest).map (byte (16 * held + d / 4) :: ·)
        | _ => (decode64 0 0 0 rest).map (byte (64 * held + d) :: ·)

def readBinary (t : Text) : Except Fault Data :=
  if t.all (·.toNat < 128) then
    match decode64 0 0 0 t with
    | some bytes => .ok (.bytes bytes)
    | none => .error .malformed
  else .error .malformed

end Scalar

/-- The datum that a scalar denotes under a tag; the tags of collections and of marks denote none. -/
def Tag.read (tag : Tag) (content : Text) : Except Fault Data :=
  match tag with
  | .null => .ok .null
  | .bool => Scalar.readBool content
  | .int => Scalar.readInt content
  | .float => Scalar.readFloat content
  | .timestamp => Scalar.readTimestamp content
  | .text => .ok (.text content)
  | .binary => Scalar.readBinary content
  | _ => .error .malformed

end ScriptEval.Yaml
