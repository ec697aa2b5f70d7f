import ScriptEval.Calendar.Moment
import ScriptEval.Unicode.Case

/-!
# Time templates

A template is a text with fields: a percent sign, flags, a width, a modifier and a letter that says what is written.

* Flags: `-` no padding, `_` padding with spaces, `0` padding with zeros, `^` upper case, `#` the other case.
* Width: the least number of characters; a number is filled up with zeros, other text with spaces.
* Modifiers: `E` and `O` ask for other eras and numerals, which there are none of; a field that does not admit its
  modifier, or has an unknown letter, is copied as it stands.

Reading goes in two steps. First the zone fields `%z`, `%Z` and `%f` (offset, name, microseconds) are filled in
(`fillZone`), since their texts depend on the zone of the clock; then the rest (`render`). The character NUL ends a
template. A result is given up when it is much longer than its template (`longestResult`), and is then empty.
-/

namespace ScriptEval.Calendar.Template

/-- How a field is filled up to its width. -/
inductive Padding
  | standard
  | none
  | spaces
  | zeros
  deriving DecidableEq, Repr

structure Field where
  padding : Padding := .standard
  upper : Bool := false
  otherCase : Bool := false
  width : Option Nat := none
  modifier : Option Char := none
  /-- What is written; `none` when the template ends before the letter. -/
  letter : Option Char := none
  /-- The field as it stands in the template. -/
  source : Text := []
  deriving DecidableEq, Repr

/-! ## Reading fields -/

/-- The flags in front of `t`, each given to the field, and the text after them. -/
def readFlags (f : Field) : Text → Field × Text
  | '-' :: t => readFlags { f with padding := .none } t
  | '_' :: t => readFlags { f with padding := .spaces } t
  | '0' :: t => readFlags { f with padding := .zeros } t
  | '^' :: t => readFlags { f with upper := true } t
  | '#' :: t => readFlags { f with otherCase := true } t
  | t => (f, t)

/-- The field that starts after a percent sign, and the text after it. -/
def readField (t : Text) : Field × Text :=
  let (f, afterFlags) := readFlags {} t
  let digits := afterFlags.takeWhile Char.isDigit
  let afterWidth := afterFlags.dropWhile Char.isDigit
  let width := if digits.isEmpty then none else some (Text.toNat digits)
  let (modifier, afterModifier) := match afterWidth with
    | 'E' :: r => (some 'E', r)
    | 'O' :: r => (some 'O', r)
    | r => (none, r)
  let rest := afterModifier.tail
  ({ f with width, modifier, letter := afterModifier.head?, source := '%' :: t.take (t.length - rest.length) }, rest)

/-- A template, read: characters to copy and fields. -/
def read (t : Text) : List (Char ⊕ Field) :=
  match t with
  | [] => []
  | '%' :: rest => .inr (readField rest).1 :: read (rest.drop (rest.length - (readField rest).2.length))
  | c :: rest => .inl c :: read rest
termination_by t.length

/-! ## Writing fields -/

/-- Text filled up on the left to the width of its field. -/
def Field.fill (f : Field) (width : Nat) (t : Text) : Text :=
  List.replicate (width - t.length) (if f.padding = .zeros then '0' else ' ') ++ t

/-- Text in the letter case that the field asks for. -/
def Field.cased (f : Field) (t : Text) : Text := if f.upper then t.map Char.toUpper else t

def Field.text (f : Field) (t : Text) : Text := f.fill (f.width.getD 0) (f.cased t)

/-- A name: the other case of a name is upper case. -/
def Field.name (f : Field) (t : Text) : Text := Field.text { f with upper := f.upper || f.otherCase } t

/-- A number of at least `places` digits, spaces taking the place of zeros where `spaced`. -/
def Field.number (f : Field) (places : Nat) (n : Int) (spaced : Bool := false) : Text :=
  let digits := Text.ofNat n.natAbs
  let sign := if n < 0 then ['-'] else []
  let places := max places (f.width.getD 0)
  let missing := places - (sign.length + digits.length)
  let padding := if spaced && f.padding = .standard then .spaces else f.padding
  match padding with
  | .none => f.fill (f.width.getD 0) (sign ++ digits)
  | .spaces => List.replicate missing ' ' ++ sign ++ digits
  | _ => sign ++ List.replicate missing '0' ++ digits

/-- The hour on a clock face of twelve hours. -/
def twelveHour (hour : Nat) : Nat := if hour % 12 = 0 then 12 else hour % 12

/-- What a field with a single meaning writes; `none` for a letter that is unknown or stands for a template. -/
def Field.simple? (f : Field) (m : Moment) : Option Text :=
  match f.letter with
  | some 'a' => f.name (m.date.weekdayName.take 3)
  | some 'A' => f.name m.date.weekdayName
  | some 'b' | some 'h' => f.name (m.date.monthName.take 3)
  | some 'B' => f.name m.date.monthName
  | some 'C' => f.number 1 (m.date.year / 100)
  | some 'd' => f.number 2 m.date.day
  | some 'e' => f.number 2 m.date.day true
  | some 'g' => f.number 2 (m.date.thursdayWeek.1 % 100)
  | some 'G' => f.number 1 m.date.thursdayWeek.1
  | some 'H' => f.number 2 m.time.hour
  | some 'I' => f.number 2 (twelveHour m.time.hour)
  | some 'j' => f.number 3 (m.date.dayOfYear + 1)
  | some 'k' => f.number 2 m.time.hour true
  | some 'l' => f.number 2 (twelveHour m.time.hour) true
  | some 'm' => f.number 2 m.date.month
  | some 'M' => f.number 2 m.time.minute
  | some 'n' => f.text ['\n']
  | some 'p' =>
    let half := if m.time.hour < 12 then "AM".toList else "PM".toList
    if f.otherCase then Field.text { f with upper := false } (half.map Char.toLower) else f.text half
  | some 'P' =>
    Field.text { f with upper := false } (if m.time.hour < 12 then "am".toList else "pm".toList)
  | some 's' =>
    let seconds := m.unixSeconds
    let digits := (if seconds < 0 then ['-'] else []) ++ Text.ofNat seconds.natAbs
    f.fill (f.width.getD 0) digits
  | some 'S' => f.number 2 m.time.second
  | some 't' => f.text ['\t']
  | some 'u' => f.number 1 (m.date.weekday + 1)
  | some 'U' => f.number 2 m.date.sundayWeek
  | some 'V' => f.number 2 m.date.thursdayWeek.2
  | some 'w' => f.number 1 m.date.weekdayFromSunday
  | some 'W' => f.number 2 m.date.mondayWeek
  | some 'y' => f.number 2 (m.date.year % 100)
  | some 'Y' => f.number 1 m.date.year
  | some 'z' => some []
  | some 'Z' => f.text []
  | some '%' => f.text ['%']
  | _ => none

/-- The template that a letter stands for. -/
def expansion? : Char → Option String
  | 'c' => some "%a %b %e %H:%M:%S %Y"
  | 'D' | 'x' => some "%m/%d/%y"
  | 'F' => some "%Y-%m-%d"
  | 'r' => some "%I:%M:%S %p"
  | 'R' => some "%H:%M"
  | 'T' | 'X' => some "%H:%M:%S"
  | _ => none

/-- Whether a letter admits a modifier. -/
def admits (modifier letter : Char) : Bool :=
  if modifier = 'E' then !("aAbBDdeFHIjklmMSUVWgGwh%".toList.contains letter)
  else !("aAcDFxXY%".toList.contains letter)

/-- What a field writes; one that has no meaning is copied from its last percent sign on. -/
def Field.write (f : Field) (m : Moment) : Text :=
  let copied := f.text ('%' :: (f.source.reverse.takeWhile (· != '%')).reverse)
  let known := match f.letter, f.modifier with
    | some letter, some modifier => admits modifier letter
    | letter, _ => letter.isSome
  if !known then copied
  else match f.simple? m with
    | some t => t
    | none => match f.letter.bind expansion? with
      | some template =>
        let t := (read template.toList).flatMap fun
          | .inl c => [c]
          | .inr g => (g.simple? m).getD []
        f.text t
      | none => copied

/-! ## Templates -/

/-- The template with its zone fields filled in. Percent signs of a zone's name stand for themselves. -/
def fillZone (m : Moment) : Text → Text
  | '%' :: 'z' :: t => (match m.zone with | some z => z.offsetText [] | none => []) ++ fillZone m t
  | '%' :: 'Z' :: t =>
    (match m.zone with | some z => z.label.flatMap (fun c => if c = '%' then ['%', '%'] else [c]) | none => [])
      ++ fillZone m t
  | '%' :: 'f' :: t => Text.ofNatPadded 6 m.time.micro ++ fillZone m t
  | '%' :: c :: t => '%' :: c :: fillZone m t
  | c :: t => c :: fillZone m t
  | [] => []

/-- The length that the result of a template of `length` characters stays below: the first power of two from 1024 on
that is at least 256 times as long as the template. -/
def longestResult (length : Nat) : Nat := max 1024 (Nat.pow 2 (Nat.log2 (256 * length - 1) + 1))

/-- What a template writes for a moment. -/
def render (template : Text) (m : Moment) : Text :=
  let filled := (fillZone m (template.takeWhile (· != '\x00'))).takeWhile (· != '\x00')
  let result := (read filled).flatMap fun
    | .inl c => [c]
    | .inr f => f.write m
  if result.length < longestResult filled.length then result else []

end ScriptEval.Calendar.Template
