import ScriptEval.Calendar.Date
import ScriptEval.Text.Digits

/-!
# Moments

A reading of a clock: a date, a time of day to the microsecond, and the zone the clock stands in, if it is known.
The two standard time stamps are here: the one of mail headers (`mailStamp`) and the one of the Internet date and
time format (`internetStamp`).
-/

namespace ScriptEval.Calendar

structure TimeOfDay where
  hour : Nat := 0
  minute : Nat := 0
  second : Nat := 0
  micro : Nat := 0
  deriving DecidableEq, Repr

/-- A fixed distance from universal time, in seconds to the east, and the name it goes by if it has one. -/
structure Zone where
  offset : Int
  name : Option Text := none
  deriving DecidableEq, Repr

structure Moment where
  date : Date
  time : TimeOfDay := {}
  zone : Option Zone := none
  deriving DecidableEq, Repr

/-- Why a date or a time does not exist: the part of it that is out of its bounds. -/
inductive Fault
  | year (n : Nat)
  | month
  | day
  | hour
  | minute
  | second
  /-- An offset of a day or more, in seconds. -/
  | offset (seconds : Int)
  deriving DecidableEq, Repr

/-- Checks that a date exists. -/
def Date.check (d : Date) : Except Fault Date :=
  if d.year = 0 ∨ 9999 < d.year then .error (.year d.year)
  else if d.month = 0 ∨ 12 < d.month then .error .month
  else if d.day = 0 ∨ monthLength d.year d.month < d.day then .error .day
  else .ok d

/-- Checks that a moment exists. The offset of its zone is checked first, the time of day last. -/
def Moment.check (m : Moment) : Except Fault Moment := do
  match m.zone with
  | some z => if 86400 ≤ z.offset.natAbs then throw (.offset z.offset)
  | none => pure ()
  let _ ← m.date.check
  if 24 ≤ m.time.hour then throw .hour
  if 60 ≤ m.time.minute then throw .minute
  if 60 ≤ m.time.second then throw .second
  return m

namespace Zone

/-- The offset as a sign, hours and minutes, and seconds unless they are zero, `sep` between the parts. -/
def offsetText (sep : Text) (z : Zone) : Text :=
  let seconds := z.offset.natAbs
  let two := Text.ofNatPadded 2
  (if z.offset < 0 then ['-'] else ['+']) ++ two (seconds / 3600) ++ sep ++ two (seconds / 60 % 60)
    ++ if seconds % 60 = 0 then [] else sep ++ two (seconds % 60)

/-- The name of the zone; one without a name goes by its distance from universal time. -/
def label (z : Zone) : Text :=
  z.name.getD ("UTC".toList ++ if z.offset = 0 then [] else z.offsetText [':'])

end Zone

def weekdayNames : List String :=
  ["Monday", "Tuesday", "Wednesday", "Thursday", "Friday", "Saturday", "Sunday"]

def monthNames : List String :=
  ["January", "February", "March", "April", "May", "June", "July", "August", "September", "October", "November",
    "December"]

namespace Date

def weekdayName (d : Date) : Text := (weekdayNames.getD d.weekday "").toList

def monthName (d : Date) : Text := (monthNames.getD (d.month - 1) "").toList

end Date

namespace Moment

/-- The time of day, the parts separated by colons. -/
def clockText (m : Moment) : Text :=
  let two := Text.ofNatPadded 2
  two m.time.hour ++ ':' :: two m.time.minute ++ ':' :: two m.time.second

/-- The time stamp of mail headers. Without a zone the offset is written `-0000`. -/
def mailStamp (m : Moment) : Text :=
  m.date.weekdayName.take 3 ++ ", ".toList ++ Text.ofNatPadded 2 m.date.day ++ ' ' :: m.date.monthName.take 3
    ++ ' ' :: Text.ofNatPadded 4 m.date.year ++ ' ' :: m.clockText ++ ' '
    :: match m.zone with
      | some z => z.offsetText []
      | none => "-0000".toList

/-- The time stamp of the Internet date and time format. Microseconds are written unless they are zero, and the
offset if the zone is known. -/
def internetStamp (m : Moment) : Text :=
  Text.ofNatPadded 4 m.date.year ++ '-' :: Text.ofNatPadded 2 m.date.month ++ '-' :: Text.ofNatPadded 2 m.date.day
    ++ 'T' :: m.clockText
    ++ (if m.time.micro = 0 then [] else '.' :: Text.ofNatPadded 6 m.time.micro)
    ++ match m.zone with
      | some z => z.offsetText [':']
      | none => []

/-- The seconds from the start of 1970 to the moment, its date and time of day taken as universal time. -/
def unixSeconds (m : Moment) : Int :=
  86400 * ((m.date.dayNumber : Int) - Date.dayNumber ⟨1970, 1, 1⟩)
    + (3600 * m.time.hour + 60 * m.time.minute + m.time.second : Nat)

end Moment

end ScriptEval.Calendar
