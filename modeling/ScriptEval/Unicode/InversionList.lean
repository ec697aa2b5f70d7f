/-!
# Inversion lists

A set of code points given by the ascending list of the points where membership changes: the first number is the
first member, the second the first non-member after it, and so on.
-/

namespace ScriptEval.Unicode

/-- A set of code points, by the points where membership changes. -/
structure InversionList where
  changes : List Nat
  deriving DecidableEq, Repr

namespace InversionList

/-- Whether `n` is a member, when membership is `inside` before the first change. -/
def containsFrom (inside : Bool) (n : Nat) : List Nat → Bool
  | [] => inside
  | change :: changes => if n < change then inside else containsFrom (!inside) n changes

/-- Whether `n` is a member. -/
def contains (l : InversionList) (n : Nat) : Bool := containsFrom false n l.changes

end InversionList

end ScriptEval.Unicode
