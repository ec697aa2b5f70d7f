import ScriptEval.Calendar.Moment

/-!
# Dates and times in documents

A time stamp is a date, `2024-03-05`, or a date and a time of day, with a fraction of the second and a zone if they
are known: `2024-03-05 14:07:09.5 +1`. `Timestamp.read?` reads its parts, and `Timestamp.moment` makes the moment of
them if there is one.
-/

namespace ScriptEval.Yaml

/-- The parts of a time stamp as written. -/
structure Timestamp where
  date : Calendar.Date
  /-- Hour, minute, second and the digits of the fraction. -/
  time : Option (Nat × Nat × Nat × Text) := none
  /-- The distance from universal time in minutes. -/
  offset : Option Int := none
  deriving DecidableEq, Repr

namespace Timestamp

/-- At least `least` and at most `most` digits from the start of a text, and the text after them. -/
def takeDigits? (least most : Nat) (t : Text) : Option (Text × Text) :=
  let digits := (t.take most).takeWhile Char.isDigit
  if least ≤ digits.length then some (digits, t.drop digits.length) else none

/-- A number of `least` to `most` digits, and the text after it. -/
def takeNumber? (least most : Nat) (t : Text) : Option (Nat × Text) :=
  (takeDigits? least most t).map fun (digits, rest) => (Text.toNat digits, rest)

/-- The text after a character that it must start with. -/
def after? (c : Char) : Text → Option Text
  | [] => none
  | d :: rest => if d = c then some rest else none

def isGap (c : Char) : Bool := c == ' ' || c == '\t'

/-- The zone at the end of a time stamp: none, `Z`, or hours and perhaps minutes with a sign. -/
def readZone? (t : Text) : Option (Option Int) :=
  if t.isEmpty then some none
  else match t.dropWhile isGap with
    | ['Z'] => some (some 0)
    | sign :: rest => do
      guard (sign = '+' ∨ sign = '-')
      let (hours, rest) ← takeNumber? 1 2 rest
      let (minutes, rest) ← if rest.isEmpty then some (0, []) else takeNumber? 2 2 (← after? ':' rest)
      guard rest.isEmpty
      let offset : Int := 60 * hours + minutes
      return some (if sign = '-' then -offset else offset)
    | [] => none

/-- The gap between date and time: a letter `T`, or spaces and tabulators. -/
def takeGap? (t : Text) : Option Text :=
  match t with
  | 'T' :: rest | 't' :: rest => some rest
  | c :: _ => if isGap c then some (t.dropWhile isGap) else none
  | [] => none

/-- The parts of a time stamp. -/
def read? (t : Text) : Option Timestamp := do
  let (year, t) ← takeNumber? 4 4 t
  let (month, t) ← takeNumber? 1 2 (← after? '-' t)
  let (day, t) ← takeNumber? 1 2 (← after? '-' t)
  if t.isEmpty then return { date := ⟨year, month, day⟩ }
  let (hour, t) ← takeNumber? 1 2 (← takeGap? t)
  let (minute, t) ← takeNumber? 2 2 (← after? ':' t)
  let (second, t) ← takeNumber? 2 2 (← after? ':' t)
  let (fraction, t) := match t with
    | '.' :: t => t.span Char.isDigit
    | _ => ([], t)
  return { date := ⟨year, month, day⟩, time := some (hour, minute, second, fraction), offset := ← readZone? t }

/-- Whether an unquoted scalar is a time stamp. A date alone has two digits for month and day. -/
def isTimestamp (t : Text) : Bool :=
  match read? t with
  | some stamp => stamp.time.isSome || t.length == 10
  | none => false

/-- The millionths of a second that the digits of a fraction denote; further digits are dropped. -/
def micro (fraction : Text) : Nat :=
  let digits := fraction.take 6
  Text.toNat (digits ++ List.replicate (6 - digits.length) '0')

/-- The moment of a time stamp with a time of day. -/
def moment (s : Timestamp) (time : Nat × Nat × Nat × Text) : Except Calendar.Fault Calendar.Moment :=
  let (hour, minute, second, fraction) := time
  Calendar.Moment.check
    { date := s.date, time := { hour, minute, second, micro := micro fraction },
      zone := s.offset.map fun minutes => { offset := 60 * minutes } }

end Timestamp

end ScriptEval.Yaml
