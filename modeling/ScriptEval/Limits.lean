import ScriptEval.Text.Digits
import ScriptEval.Text.Quoted

/-!
# Limits of numbers and texts

Integers have a text as long as it has at most `digitLimit` digits, and the same holds the other way round. A text has
at most `Text.sizeLimit` characters: `Text.repeat?` and `Text.append?` make texts within this limit.
-/

namespace ScriptEval

/-! ## Numbers -/

/-- The most digits an integer may have in text. -/
def digitLimit : Nat := 4300

/-- Limits of numbers in text. -/
inductive NumberFault
  /-- An integer of too many digits to write. -/
  | tooLong
  /-- A text of too many digits to read. -/
  | tooManyDigits (digits : Nat)
  /-- A text that is no integer in a base. -/
  | notInteger (base : Nat) (text : Text)
  /-- A text that is no number. -/
  | notNumber (text : Text)
  deriving DecidableEq, Repr

def NumberFault.message : NumberFault → Text
  | tooLong => limitText []
  | tooManyDigits digits => limitText (" value has ".toList ++ Text.ofNat digits ++ " digits;".toList)
  | notInteger base text =>
    "invalid literal for int() with base ".toList ++ Text.ofNat base ++ ": ".toList ++ (Text.quoted text).take 200
  | notNumber text => "could not convert string to float: ".toList ++ Text.quoted text
where
  limitText (detail : Text) : Text :=
    "Exceeds the limit (4300 digits) for integer string conversion".toList
      ++ (if detail.isEmpty then [';'] else ':' :: detail)
      ++ " use sys.set_int_max_str_digits() to increase the limit".toList

/-- The decimal text of an integer within the limit. -/
def Text.ofInt? (n : Int) : Except NumberFault Text :=
  if digitLimit < (Text.ofNat n.natAbs).length then .error .tooLong else .ok (Text.ofInt n)

/-! ## Texts -/

/-- Why there is no text as long as asked for. -/
inductive SizeFault
  /-- More copies of a text than can be counted. -/
  | count
  /-- Copies that are too long together. -/
  | copies
  /-- Two parts that are too long together. -/
  | parts
  deriving DecidableEq, Repr

def SizeFault.message : SizeFault → Text
  | count => "cannot fit 'int' into an index-sized integer".toList
  | copies => "repeated string is too long".toList
  | parts => "strings are too large to concat".toList

namespace Text

/-- The most characters of a text. -/
def sizeLimit : Nat := 0x7fffffffffffffff

/-- `n` copies of a text. -/
def copies (n : Nat) (t : Text) : Text := (List.replicate n t).flatten

/-- `n` copies of a text within the limit. -/
def repeat? (n : Nat) (t : Text) : Except SizeFault Text :=
  if sizeLimit < n then .error .count
  else if sizeLimit < n * t.length then .error .copies
  else .ok (copies n t)

/-- Two texts, one after the other, within the limit. -/
def append? (t u : Text) : Except SizeFault Text :=
  if sizeLimit < t.length + u.length then .error .parts else .ok (t ++ u)

end Text

end ScriptEval
