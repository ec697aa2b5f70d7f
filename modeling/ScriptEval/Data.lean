import ScriptEval.Calendar.Moment
import ScriptEval.Decimal.Shortest
import ScriptEval.Limits

/-!
# Data

What a decoded document holds: the empty value, booleans, numbers, texts, bytes, dates, and lists and mappings of
these. `Data.written` is the text of a datum as messages show it, which data with a very long integer in them do not
have. `Data.kindName` is the name of its kind, and `Data.isTruthy` tells the data that stand for "no" (zero and
everything empty) from all others.

A collection may contain itself. Such a collection is a `knot`, and `again` stands inside of it for the knot of that
number; where a knot comes up within itself, only its brackets are written.
-/

namespace ScriptEval

open Calendar

inductive Data
  | null
  | bool (b : Bool)
  | int (n : Int)
  | float (x : Float)
  | text (t : Text)
  | bytes (b : List UInt8)
  | date (d : Date)
  | moment (m : Moment)
  | list (items : List Data)
  | tuple (items : List Data)
  | mapping (entries : List (Data × Data))
  | set (members : List Data)
  /-- A collection that contains itself. -/
  | knot (id : Nat) (content : Data)
  /-- The place inside a knot where it comes up again, with its brackets. -/
  | again (id : Nat) (opening closing : Char)
  deriving Inhabited

namespace Data

/-- A datum that is no knot: the content of the knot if it is one. -/
def untied : Data → Data
  | knot _ content => content.untied
  | d => d

def kindName : Data → String
  | null => "NoneType"
  | bool _ => "bool"
  | int _ => "int"
  | float _ => "float"
  | text _ => "str"
  | bytes _ => "bytes"
  | date _ => "date"
  | moment _ => "datetime"
  | list _ => "list"
  | tuple _ => "tuple"
  | mapping _ => "dict"
  | set _ => "set"
  | knot _ content => content.kindName
  | again _ opening _ => if opening = '[' then "list" else "dict"

/-- Whether a datum stands for "yes": zero and everything empty do not. -/
def isTruthy : Data → Bool
  | null => false
  | bool b => b
  | int n => n != 0
  | float x => x != 0
  | text t => !t.isEmpty
  | bytes b => !b.isEmpty
  | list items | tuple items | set items => !items.isEmpty
  | mapping entries => !entries.isEmpty
  | knot _ content => content.isTruthy
  | date _ | moment _ | again .. => true

/-! ## The text of a datum -/

/-- How floating-point numbers are written. -/
def floatLayout : Decimal.FloatLayout := {}

/-- The parts of a date or a time as a call of a named constructor. -/
private def call (name : String) (parts : List Text) : Text :=
  name.toList ++ '(' :: Text.join ", ".toList parts ++ [')']

def writtenDate (d : Date) : Text := call "datetime.date" ([d.year, d.month, d.day].map Text.ofNat)

/-- A distance in time, as whole days (rounded down) and the seconds left. -/
def writtenOffset (seconds : Int) : Text :=
  let days := seconds.fdiv 86400
  let rest := seconds.fmod 86400
  call "datetime.timedelta"
    ((if days = 0 then [] else ["days=".toList ++ Text.ofInt days])
      ++ if rest = 0 then [] else ["seconds=".toList ++ Text.ofInt rest])

/-- Seconds and microseconds are left out from the end as long as they are zero. -/
def writtenMoment (m : Moment) : Text :=
  let t := m.time
  let finer :=
    if t.micro ≠ 0 then [t.second, t.micro] else if t.second ≠ 0 then [t.second] else []
  call "datetime.datetime"
    (([m.date.year, m.date.month, m.date.day, t.hour, t.minute] ++ finer).map Text.ofNat
      ++ match m.zone with
        | none => []
        | some z => ["tzinfo=".toList
            ++ if z.offset = 0 then "datetime.timezone.utc".toList
              else call "datetime.timezone" [writtenOffset z.offset]])

/-- What stands for a collection that comes up within itself. -/
def ellipsis (opening closing : Char) : Text := [opening, '.', '.', '.', closing]

/-- What stands for a knot that comes up within itself. -/
def knotEllipsis : Data → Text
  | list _ => ellipsis '[' ']'
  | _ => ellipsis '\x7b' '\x7d'

mutual

/-- The text of a datum inside the knots `outer`, texts in quotation marks. -/
def writtenIn (outer : List Nat) : Data → Except NumberFault Text
  | null => .ok "None".toList
  | bool b => .ok (if b then "True" else "False").toList
  | int n => Text.ofInt? n
  | float x => .ok (floatLayout.text x.toBits.toNat)
  | text t => .ok (Text.quoted t)
  | bytes b => .ok (Text.quotedBytes b)
  | date d => .ok (writtenDate d)
  | moment m => .ok (writtenMoment m)
  | list items => return '[' :: Text.join ", ".toList (← writtenAll outer items) ++ [']']
  | tuple [item] => return '(' :: (← writtenIn outer item) ++ ",)".toList
  | tuple items => return '(' :: Text.join ", ".toList (← writtenAll outer items) ++ [')']
  | mapping entries => return '\x7b' :: Text.join ", ".toList (← writtenEntries outer entries) ++ ['\x7d']
  | set [] => .ok "set()".toList
  | set members => return '\x7b' :: Text.join ", ".toList (← writtenAll outer members) ++ ['\x7d']
  | knot id content => if outer.contains id then .ok (knotEllipsis content) else writtenIn (id :: outer) content
  | again _ opening closing => .ok (ellipsis opening closing)

def writtenAll (outer : List Nat) : List Data → Except NumberFault (List Text)
  | [] => .ok []
  | d :: ds => return (← writtenIn outer d) :: (← writtenAll outer ds)

def writtenEntries (outer : List Nat) : List (Data × Data) → Except NumberFault (List Text)
  | [] => .ok []
  | (key, value) :: entries =>
    return ((← writtenIn outer key) ++ ": ".toList ++ (← writtenIn outer value)) :: (← writtenEntries outer entries)

end

/-- The text of a datum, texts in quotation marks. -/
def written (d : Data) : Except NumberFault Text := d.writtenIn []

/-! ## Mappings -/

/-- The value of a text key. -/
def entry? (key : String) (entries : List (Data × Data)) : Option Data :=
  entries.findSome? fun
    | (.text t, value) => if t = key.toList then some value else none
    | _ => none

end Data

end ScriptEval
