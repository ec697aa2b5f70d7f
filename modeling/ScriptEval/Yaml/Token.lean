import ScriptEval.Data

/-!
# Tokens of a document

The marks and scalars that a document is made of. The nesting that its indentation shows is made explicit: the start of a
block collection is a token, and so is its end. `Fault` is why a document cannot be read.
-/

namespace ScriptEval.Yaml

/-- Why a scalar of a document denotes nothing, though it stands there in due form. -/
inductive ScalarFault
  | noSuchCharacter (code : Nat)
  /-- Half of a character, which is in no text. -/
  | surrogate
  /-- A number without digits. -/
  | emptyNumber
  /-- A text that is no truth value. -/
  | notBoolean (text : Text)
  /-- A text that is no date or time. -/
  | notTime
  /-- A date or time that does not exist. -/
  | noSuchTime (why : Calendar.Fault)
  deriving DecidableEq, Repr

/-- The parts of times have these bounds. -/
def timeMessage : Calendar.Fault → Text
  | .year n => "year ".toList ++ Text.ofNat n ++ " is out of range".toList
  | .month => "month must be in 1..12".toList
  | .day => "day is out of range for month".toList
  | .hour => "hour must be in 0..23".toList
  | .minute => "minute must be in 0..59".toList
  | .second => "second must be in 0..59".toList
  | .offset seconds =>
    "offset must be a timedelta strictly between -timedelta(hours=24) and timedelta(hours=24), not ".toList
      ++ Data.writtenOffset seconds

def ScalarFault.message : ScalarFault → Text
  | noSuchCharacter code =>
    (if code < 0x80000000 then "chr() arg not in range(0x110000)" else "Python int too large to convert to C int").toList
  | surrogate => "surrogates not allowed".toList
  | emptyNumber => "string index out of range".toList
  | notBoolean text => Text.quoted text
  | notTime => "'NoneType' object has no attribute 'groupdict'".toList
  | noSuchTime why => timeMessage why

/-- The kind that a fault is reported as. -/
def ScalarFault.kind : ScalarFault → Text
  | noSuchCharacter code => (if code < 0x80000000 then "ValueError" else "OverflowError").toList
  | surrogate => "UnicodeEncodeError".toList
  | emptyNumber => "IndexError".toList
  | notBoolean _ => "KeyError".toList
  | notTime => "AttributeError".toList
  | noSuchTime _ => "ValueError".toList

inductive Fault
  /-- The text breaks a rule of documents. -/
  | malformed
  /-- A number in it cannot be read. -/
  | number (why : NumberFault)
  /-- Another scalar in it denotes nothing. -/
  | scalar (why : ScalarFault)
  deriving DecidableEq, Repr

inductive Token
  | version (major : Nat)
  | tagPrefix (handle tagPrefix : Text)
  | otherDirective
  | documentStart
  | documentEnd
  | blockSequence
  | blockMapping
  | blockEnd
  | flowSequence
  | flowSequenceEnd
  | flowMapping
  | flowMappingEnd
  | blockEntry
  | flowEntry
  | key
  | value
  | alias (name : Text)
  | anchor (name : Text)
  | tag (handle : Option Text) (suffix : Text)
  | scalar (plain : Bool) (content : Text)
  deriving DecidableEq, Repr

end ScriptEval.Yaml
