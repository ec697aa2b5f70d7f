import ScriptEval.Function

/-!
# Padding

A text filled up with copies of a token to a number of columns, as far as whole copies fit. A text that has less than
one copy to spare stays as it is. The padded text may be too long for a text.
-/

namespace ScriptEval.Functions

open Failure (refuse)

/-- Where the copies go. -/
inductive Side
  | left
  | right
  /-- On both sides, the left one getting one copy more if their number is odd. -/
  | both
  deriving DecidableEq, Repr

/-- The number of copies on the left and on the right, of `count`. -/
def Side.share (count : Nat) : Side → Nat × Nat
  | left => (count, 0)
  | right => (0, count)
  | both => (count - count / 2, count / 2)

/-- How many copies of `token` fit into the columns that `t` leaves of `width`. -/
def padCount (r : Runtime) (token t : Text) (width : Int) : Nat :=
  ((width - r.displayWidth t) / r.displayWidth token).toNat

/-- A text padded to a number of columns. -/
def padText (r : Runtime) (side : Side) (token t : Text) (width : Int) : Except SizeFault Text :=
  if (r.displayWidth t + r.displayWidth token : Int) ≥ width then .ok t
  else do
    let (left, right) := side.share (padCount r token t width)
    let start ← Text.append? (← Text.repeat? left token) t
    Text.append? start (← Text.repeat? right token)

/-- Takes a text, a token that takes columns, and the number of columns. -/
def pad (r : Runtime) (side : Side) : List Value → Except Failure Value
  | [t, token, width] => do
    let token ← token.toText
    if r.displayWidth token = 0 then .error (refuse .emptyPad)
    let width ← width.toInt
    let padded ← (padText r side token (← t.toText) width).mapError .size
    return .text padded
  | _ => .error (refuse (.argumentCount "three".toList))

def padding (r : Runtime) : List Function :=
  [("pad-center", "pad_center", Side.both), ("pad-left", "pad_left", Side.left),
    ("pad-right", "pad_right", Side.right)].map fun (name, synonym, side) =>
    { name := String.toList name, aliases := [String.toList synonym], category := "padding".toList,
      run := Outcome.ofArguments (pad r side) }

end ScriptEval.Functions
