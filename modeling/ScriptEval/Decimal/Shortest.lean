import ScriptEval.Text.Digits

/-!
# Shortest decimal text of a binary number

The text of a double: the fewest decimal digits that read back as the same number, and of those the nearest to it.
All arithmetic is exact: a finite number is `m · 2^q`, and a decimal reads back as it when it lies between the
midpoints to the neighbouring doubles, the midpoints included when `m` is even.

`FloatLayout` holds the choices of the format: numbers from 10^-4 up to 10^16 are written in place, others with an
exponent of at least two digits, and an integral number keeps a zero after the point.
-/

namespace ScriptEval.Decimal

/-- A finite double without its sign: `m · 2^q`. -/
structure Binary where
  m : Nat
  q : Int
  deriving DecidableEq, Repr

/-- The least exponent of a double: that of the smallest positive one. -/
def leastExponent : Int := -1074

/-- The number of fractions a double can have: two to the power 52. -/
def fractions : Nat := 0x10000000000000

/-- The number of exponents that the bits of a double can hold. -/
def exponents : Nat := 2048

/-- The magnitude of the finite double with these bits. -/
def Binary.ofBits (bits : Nat) : Binary :=
  let fraction := bits % fractions
  let biased : Nat := bits / fractions % exponents
  if biased = 0 then ⟨fraction, leastExponent⟩ else ⟨fraction + fractions, biased - 1075⟩

/-- `n / d` times ten to the power `e`, as a fraction. -/
def scale (n d : Nat) (e : Int) : Nat × Nat :=
  if 0 ≤ e then (n * Nat.pow 10 e.toNat, d) else (n, d * Nat.pow 10 (-e).toNat)

/-- The number of decimal places before the point of a positive fraction, negative for one that starts with zeros
after the point: the fraction is below `10^p` and at least `10^(p-1)`. -/
def pointPlace (n d : Nat) : Int :=
  if d ≤ n then (Text.ofNat (n / d)).length
  else match (List.range 400).find? fun k => d ≤ n * Nat.pow 10 (k + 1) with
    | some k => -(k : Int)
    | none => 0

/-- The decimal number `digits · 10^exponent`. -/
structure Scaled where
  digits : Nat
  exponent : Int
  deriving DecidableEq, Repr

/-- The best number of `count` digits that reads back as `b`; one that is rounded up to a power of ten has a digit
more. -/
def digitsOfCount? (b : Binary) (count : Nat) : Option Scaled :=
  -- the number and the midpoints to its neighbours, in quarters of the last binary place
  let below := if b.m = fractions ∧ leastExponent < b.q then 1 else 2
  let unit := if 0 ≤ b.q then Nat.pow 2 b.q.toNat else 1
  let den := 4 * if 0 ≤ b.q then 1 else Nat.pow 2 (-b.q).toNat
  let exponent := pointPlace (4 * b.m * unit) den - count
  let (value, d) := scale (4 * b.m * unit) den (-exponent)
  let low := (scale ((4 * b.m - below) * unit) den (-exponent)).1
  let high := (scale ((4 * b.m + 2) * unit) den (-exponent)).1
  let readsBack (k : Nat) : Bool :=
    if b.m % 2 = 0 then low ≤ k * d && k * d ≤ high else low < k * d && k * d < high
  let k := value / d
  match readsBack k, readsBack (k + 1) with
  | false, false => none
  | true, false => some ⟨k, exponent⟩
  | false, true => some ⟨k + 1, exponent⟩
  | true, true =>
    let toLower := 2 * (value % d)
    some ⟨if toLower < d ∨ (toLower = d ∧ k % 2 = 0) then k else k + 1, exponent⟩

/-- The shortest digits that read back as a positive number. Seventeen always suffice. -/
def shortestDigits (b : Binary) : Scaled :=
  ((List.range 17).findSome? fun n => digitsOfCount? b (n + 1)).getD ⟨0, 0⟩

/-- The choices of a format for floating-point numbers. -/
structure FloatLayout where
  /-- The least place of the point of a number written in place. -/
  plainFrom : Int := -3
  /-- The greatest place of the point of a number written in place. -/
  plainTo : Int := 16
  exponentPlaces : Nat := 2
  infinity : String := "inf"
  notANumber : String := "nan"

/-- A decimal number laid out. -/
def FloatLayout.place (l : FloatLayout) (d : Scaled) : Text :=
  let written := Text.ofNat d.digits
  let point := d.exponent + written.length
  let digits := Text.trimRight (· == '0') written
  if l.plainFrom ≤ point ∧ point ≤ l.plainTo then
    if point ≤ 0 then "0.".toList ++ List.replicate (-point).toNat '0' ++ digits
    else
      let whole := digits.take point.toNat
      let rest := digits.drop point.toNat
      whole ++ List.replicate (point.toNat - whole.length) '0' ++ '.' :: if rest.isEmpty then ['0'] else rest
  else
    let mantissa := match digits with
      | c :: c' :: rest => c :: '.' :: c' :: rest
      | short => short
    mantissa ++ 'e' :: (if point < 1 then '-' else '+') :: Text.ofNatPadded l.exponentPlaces (point - 1).natAbs

/-- The text of the double with these bits. -/
def FloatLayout.text (l : FloatLayout) (bits : Nat) : Text :=
  let sign := if bits / (fractions * exponents) % 2 = 1 then ['-'] else []
  if bits / fractions % exponents = exponents - 1 then
    if bits % fractions = 0 then sign ++ l.infinity.toList else l.notANumber.toList
  else
    let b := Binary.ofBits bits
    if b.m = 0 then sign ++ "0.0".toList else sign ++ l.place (shortestDigits b)

end ScriptEval.Decimal
