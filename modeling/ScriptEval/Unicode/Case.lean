import ScriptEval.Text.Basic
import ScriptEval.Unicode.CaseTable

/-!
# Letter case

Upper and lower case of texts by the full mappings of Unicode. A character may map to several (`ß` to `SS`, `İ` to
`i` and a combining dot), and a capital sigma becomes `ς` at the end of a word and `σ` elsewhere: it ends a word when
a cased character comes before it and none after it, characters without case of their own (`Case_Ignorable`) being
passed over in both directions.
-/

namespace ScriptEval.Unicode

/-- The image of `n` under the first run that has it. -/
def mapByRuns (runs : List CaseRun) (n : Nat) : Option Nat :=
  (runs.find? fun r => r.first ≤ n && n ≤ r.last && (n - r.first) % r.stride == 0).map fun r =>
    (n + r.shift : Int).toNat

def isCased (c : Char) : Bool := casedList.contains c.toNat

def isCaseIgnorable (c : Char) : Bool := caseIgnorableList.contains c.toNat

/-- The lower case of a character that maps to one character, by itself and not by its neighbours. -/
def lowerChar (c : Char) : Char :=
  if c.val < 128 then c.toLower else ((mapByRuns lowerRuns c.toNat).map Char.ofNat).getD c

/-- The upper case of a character. -/
def upperChar (c : Char) : Text :=
  if c.val < 128 then [c.toUpper]
  else match upperExpansions.lookup c.toNat with
    | some expansion => expansion.map Char.ofNat
    | none => [((mapByRuns upperRuns c.toNat).map Char.ofNat).getD c]

def upper (t : Text) : Text := t.flatMap upperChar

/-- Whether the first character that is not passed over has case. -/
def startsCased : Text → Bool
  | [] => false
  | c :: rest => if isCaseIgnorable c then startsCased rest else isCased c

/-- The lower case of a text, given whether the last character before it that is not passed over has case. -/
def lowerAfter (casedBefore : Bool) : Text → Text
  | [] => []
  | c :: rest =>
    let image :=
      if c = 'Σ' then [if casedBefore && !startsCased rest then 'ς' else 'σ']
      else if c = 'İ' then ['i', '\u0307']
      else [lowerChar c]
    image ++ lowerAfter (if isCaseIgnorable c then casedBefore else isCased c) rest

def lower (t : Text) : Text := lowerAfter false t

end ScriptEval.Unicode
