import ScriptEval.Yaml.Node
import ScriptEval.Yaml.ScalarText
import ScriptEval.Yaml.Timestamp

/-!
# Tags

A tag says what a node denotes. `Tag.ofScalar` finds the tag of an unquoted scalar without one by the form of its
content: truth values, numbers, time stamps and the empty value have forms of their own, and all else is text.
-/

namespace ScriptEval.Yaml

inductive Tag
  | null
  | bool
  | int
  | float
  | timestamp
  | text
  | binary
  | sequence
  | mapping
  | set
  | orderedPairs
  /-- The mark of a key whose value is merged into the mapping. -/
  | merge
  /-- The mark of a key whose value stands for the mapping where a scalar is needed. -/
  | value
  /-- A tag that denotes nothing here. -/
  | unknown
  deriving DecidableEq, Repr

namespace Tag

/-! ## The forms of unquoted scalars -/

/-- The words for yes and no, all in lower case, with a capital, or all in capitals. -/
def booleanWords : List Text :=
  ["yes", "Yes", "YES", "no", "No", "NO", "true", "True", "TRUE", "false", "False", "FALSE", "on", "On", "ON", "off",
    "Off", "OFF"].map String.toList

/-- The words for the empty value. -/
def nullWords : List Text := ["~", "null", "Null", "NULL"].map String.toList

def isDigitOrGap (c : Char) : Bool := c.isDigit || c == '_'

/-- Whether a text is a minute or a second: up to 59, with or without a zero in front. -/
def isSixtieth : Text → Bool
  | [c] => c.isDigit
  | [a, b] => '0' ≤ a && a ≤ '5' && b.isDigit
  | _ => false

/-- Whether a text without a sign is an integer: binary after `0b`, hexadecimal after `0x`, octal after `0`, else
decimal, or decimal with sixtieths after colons. -/
def isUnsignedInteger : Text → Bool
  | ['0'] => true
  | '0' :: 'b' :: digits => !digits.isEmpty && digits.all fun c => c == '0' || c == '1' || c == '_'
  | '0' :: 'x' :: digits => !digits.isEmpty && digits.all fun c => isHexDigit c || c == '_'
  | '0' :: digits => digits.all fun c => ('0' ≤ c && c ≤ '7') || c == '_'
  | t => match Text.splitOn ':' t with
    | first :: sixtieths => first.head?.any Char.isDigit && first.all isDigitOrGap && sixtieths.all isSixtieth
    | [] => false

def isInteger (t : Text) : Bool := isUnsignedInteger (Text.takeSign t).2

/-- Whether a text is nothing or an exponent, which needs a sign. -/
def isExponent : Text → Bool
  | [] => true
  | e :: sign :: digits => (e == 'e' || e == 'E') && (sign == '+' || sign == '-') && Text.isDigits digits
  | _ => false

/-- Whether a text goes on, after a decimal point, as a number does. -/
def isFraction (t : Text) : Bool := isExponent (t.dropWhile isDigitOrGap)

/-- Whether a text is a number with a decimal point. One that starts with the point has no sign. -/
def isFloat (t : Text) : Bool :=
  let unsigned := (Text.takeSign t).2
  let special := [".inf", ".Inf", ".INF"].map String.toList
  if special.contains unsigned ∨ ([".nan", ".NaN", ".NAN"].map String.toList).contains t then true
  else match Text.cutAtChar '.' unsigned with
    | (_, none) => false
    | ([], some fraction) => t.head? == some '.' && fraction.head?.any Char.isDigit && isFraction fraction
    | (whole, some fraction) =>
      match Text.splitOn ':' whole with
      | [digits] => digits.head?.any Char.isDigit && digits.all isDigitOrGap && isFraction fraction
      | first :: sixtieths =>
        first.head?.any Char.isDigit && first.all isDigitOrGap && sixtieths.all isSixtieth
          && fraction.all isDigitOrGap
      | [] => false

/-- The text without a line break at its end. -/
def withoutFinalBreak (t : Text) : Text := if t.getLast? = some '\n' then t.dropLast else t

/-- The tag of an unquoted scalar. -/
def ofScalar (content : Text) : Tag :=
  let t := withoutFinalBreak content
  if booleanWords.contains t then bool
  else if isFloat t then float
  else if isInteger t then int
  else if t = ['<', '<'] then merge
  else if nullWords.contains t ∨ content.isEmpty then null
  else if Timestamp.isTimestamp t then timestamp
  else if t = ['='] then value
  else if t = ['!'] ∨ t = ['&'] ∨ t = ['*'] then unknown
  else text

/-! ## Given tags -/

/-- The tags that are known, but for the prefix they share. -/
def names : List (String × Tag) :=
  [("null", null), ("bool", bool), ("int", int), ("float", float), ("timestamp", timestamp), ("str", text),
    ("binary", binary), ("seq", sequence), ("map", mapping), ("set", set), ("omap", orderedPairs),
    ("pairs", orderedPairs), ("merge", merge), ("value", value)]

def ofName (tag : Text) : Tag :=
  ((names.find? fun (name, _) => tag = "tag:yaml.org,2002:".toList ++ name.toList).map (·.2)).getD unknown

end Tag

/-- The tag of a node; `none` for an alias. -/
def Node.tag? : Node → Option Tag
  | .scalar (.given tag) _ | .sequence _ (.given tag) _ | .mapping _ (.given tag) _ => some (.ofName tag)
  | .scalar (.ofContent true) content => some (.ofScalar content)
  | .scalar (.ofContent false) _ => some .text
  | .sequence _ (.ofContent _) _ => some .sequence
  | .mapping _ (.ofContent _) _ => some .mapping
  | .anchored _ node => node.tag?
  | .alias _ => none

end ScriptEval.Yaml
