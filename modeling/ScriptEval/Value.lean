import ScriptEval.Runtime
import ScriptEval.Text.Blank

/-!
# Values

A script value is an integer or a text. Functions read their arguments through three projections and never by kind:
`toText` (the digits of an integer), `toInt` (0 for text that is no decimal integer) and `toRawText` (text without
one pair of quotation marks around it). Integers of more than `digitLimit` digits have no text, and texts of more
digits no integer.
-/

namespace ScriptEval

inductive Value
  | int (n : Int)
  | text (t : Text)
  deriving DecidableEq, Repr

/-- The decimal text of an integer within the limit. -/
def writeInt (n : Int) : Except Failure Text := (Text.ofInt? n).mapError .number

theorem writeInt_eq (n : Int) :
    writeInt n =
      if digitLimit < (Text.ofNat n.natAbs).length then .error (.number .tooLong) else .ok (Text.ofInt n) := by
  rw [writeInt, Text.ofInt?]
  split <;> rfl

/-- The integer that a decimal integer within the limit denotes. Leading zeros count, the sign does not. -/
def readInt (t : Text) : Except Failure Int :=
  let digits := (Text.takeSign t).2.length
  if digitLimit < digits then .error (.number (.tooManyDigits digits)) else .ok (Text.toInt t)

/-- A text without one pair of quotation marks around it, if it has one. -/
def unquote (t : Text) : Text :=
  match t.head?, t.getLast? with
  | some a, some b => if 2 ≤ t.length ∧ a = b ∧ (a = '\'' ∨ a = '"') then t.tail.dropLast else t
  | _, _ => t

namespace Value

/-- The integer 1 or 0 that stands for a truth value. -/
def ofBool (b : Bool) : Value := int (if b then 1 else 0)

/-- The value of a datum: booleans are the integers 1 and 0, and all but integers becomes text. -/
def ofData (r : Runtime) : Data → Except Failure Value
  | .int n => .ok (int n)
  | .bool b => .ok (ofBool b)
  | d => return text (← r.toText d)

def isInt : Value → Bool
  | int _ => true
  | text _ => false

/-- The name of the kind of a value. -/
def kindName : Value → String
  | int _ => "int"
  | text _ => "text"

def toText : Value → Except Failure Text
  | int n => writeInt n
  | text t => .ok t

def toInt : Value → Except Failure Int
  | int n => .ok n
  | text t =>
    let stripped := Text.strip t
    if Text.isInteger stripped then readInt stripped else .ok 0

def toRawText (v : Value) : Except Failure Text := v.toText.map unquote

/-- A value with its kind, as reports show it. -/
def describe (v : Value) : Except Failure Text := do
  let content ← match v with
    | int n => writeInt n
    | text t => .ok (Text.quoted t)
  return "Value(".toList ++ content ++ ", ".toList ++ v.kindName.toList ++ [')']

end Value

end ScriptEval
