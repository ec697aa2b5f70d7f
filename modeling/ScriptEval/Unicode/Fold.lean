import ScriptEval.Unicode.Case

/-!
# Comparing without regard to case

Two characters are the same without regard to case when their one-character lower cases are, or when those are listed
as variants of each other: letters that share an upper case, such as `s` and the long `ſ`.
-/

namespace ScriptEval.Unicode

/-- The one-character lower case of a code point; that of `İ` is `i`. -/
def simpleLower (n : Nat) : Nat :=
  if n < 128 then (Char.ofNat n).toLower.toNat
  else if n = 0x130 then 0x69
  else (mapByRuns lowerRuns n).getD n

/-- The one-character upper case of a code point, the first character of an upper case of several. -/
def simpleUpper (n : Nat) : Nat := ((upperChar (Char.ofNat n)).head?.map Char.toNat).getD n

/-- Lower-case code points that are the same without regard to case though they are not equal. -/
def caseVariants : List (Nat × List Nat) := [
  (0x69, [0x131]), (0x73, [0x17f]), (0xb5, [0x3bc]), (0x131, [0x69]), (0x17f, [0x73]),
  (0x345, [0x3b9, 0x1fbe]), (0x390, [0x1fd3]), (0x3b0, [0x1fe3]), (0x3b2, [0x3d0]), (0x3b5, [0x3f5]),
  (0x3b8, [0x3d1]), (0x3b9, [0x345, 0x1fbe]), (0x3ba, [0x3f0]), (0x3bc, [0xb5]), (0x3c0, [0x3d6]),
  (0x3c1, [0x3f1]), (0x3c2, [0x3c3]), (0x3c3, [0x3c2]), (0x3c6, [0x3d5]), (0x3d0, [0x3b2]), (0x3d1, [0x3b8]),
  (0x3d5, [0x3c6]), (0x3d6, [0x3c0]), (0x3f0, [0x3ba]), (0x3f1, [0x3c1]), (0x3f5, [0x3b5]), (0x432, [0x1c80]),
  (0x434, [0x1c81]), (0x43e, [0x1c82]), (0x441, [0x1c83]), (0x442, [0x1c84, 0x1c85]), (0x44a, [0x1c86]),
  (0x463, [0x1c87]), (0x1c80, [0x432]), (0x1c81, [0x434]), (0x1c82, [0x43e]), (0x1c83, [0x441]),
  (0x1c84, [0x442, 0x1c85]), (0x1c85, [0x442, 0x1c84]), (0x1c86, [0x44a]), (0x1c87, [0x463]),
  (0x1c88, [0xa64b]), (0x1e61, [0x1e9b]), (0x1e9b, [0x1e61]), (0x1fbe, [0x345, 0x3b9]), (0x1fd3, [0x390]),
  (0x1fe3, [0x3b0]), (0xa64b, [0x1c88]), (0xfb05, [0xfb06]), (0xfb06, [0xfb05])]

/-- The variants of a lower-case code point. -/
def variantsOf (n : Nat) : List Nat := (caseVariants.lookup n).getD []

/-- All code points whose one-character lower case is `n`. -/
def lowerSources (n : Nat) : List Nat :=
  (if simpleLower n = n then [n] else [])
    ++ (if 0x61 ≤ n ∧ n ≤ 0x7a then [n - 0x20] else [])
    ++ (if n = 0x69 then [0x130] else [])
    ++ lowerRuns.filterMap fun r =>
      let source := ((n : Int) - r.shift).toNat
      if r.first ≤ source ∧ source ≤ r.last ∧ (source - r.first) % r.stride = 0 ∧ 0x80 ≤ source then some source
      else none

/-- All code points that are the same as one with the lower case `n` without regard to case. -/
def caseClass (n : Nat) : List Nat := (n :: variantsOf n).flatMap lowerSources

end ScriptEval.Unicode
