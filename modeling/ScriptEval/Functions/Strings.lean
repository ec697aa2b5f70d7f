import ScriptEval.Function
import ScriptEval.Pattern.Reader
import ScriptEval.Pattern.Search

/-!
# String functions

Trimming, letter case, comparisons, replacement and search by pattern. A comparison takes a text and candidates and
tells whether one of them passes; with no candidates it passes.
-/

namespace ScriptEval.Functions

open Failure (refuse)

/-- Trims a text; of a second argument the first character is what is taken off, and an empty one takes nothing
off. -/
def trimWith (trim : (Char → Bool) → Text → Text) : List Value → Except Failure Value
  | [] => .ok (.text [])
  | [t] => return .text (trim Text.isWhiteSpace (← t.toText))
  | t :: what :: _ => do
    let t ← t.toText
    match ← what.toText with
    | [] => return .text t
    | c :: _ => return .text (trim (· == c) t)

/-- Whether one of the candidates passes a test; those after the first that does are not read. -/
def anyPasses (test : Text → Except Failure Bool) : List Value → Except Failure Bool
  | [] => .ok false
  | candidate :: candidates => do
    if ← test (← candidate.toText) then return true else anyPasses test candidates

/-- Compares a text, which is the first argument, with candidates. -/
def compareWith (test : Text → Text → Except Failure Bool) : List Value → Except Failure Value
  | t :: candidate :: candidates => do
    let t ← t.toText
    return .ofBool (← anyPasses (test t) (candidate :: candidates))
  | _ => .ok (.int 1)

/-- A change of the text that is the first argument. -/
def change (f : Text → Text) : List Value → Except Failure Value
  | [] => .ok (.text [])
  | t :: _ => return .text (f (← t.toText))

/-- Replaces every occurrence of the second argument by the third, or by nothing. -/
def replace : List Value → Except Failure Value
  | t :: what :: rest => do
    let t ← t.toText
    let what ← what.toText
    let substitute ← match rest with
      | [] => .ok []
      | r :: _ => r.toText
    return .text (Text.replaceAll what substitute t)
  | _ => .error (refuse (.argumentCount "two".toList))

/-- The failure that a fault of a pattern is: a broken rule is a refusal, and a limit is a failure of its own. -/
def patternFailure (pattern : Text) : Pattern.Fault → Failure
  | .invalid reason position => refuse (.invalidPattern pattern (Pattern.reportAt pattern reason position))
  | .repetitionTooLarge => .repetitionTooLarge
  | .characterTooLarge => .characterTooLarge
  | .tooManyDigits digits => .number (.tooManyDigits digits)
  | .conflictingFlags => .conflictingFlags

/-- Whether a pattern is found in a text. -/
def patternFound (r : Runtime) (t pattern : Text) : Except Failure Bool :=
  match r.patternTooDeep pattern with
  | some detail => .error (.tooDeep detail)
  | none =>
    match Pattern.Node.read pattern with
    | .ok n => .ok (n.matchesIn t)
    | .error fault => .error (patternFailure pattern fault)

/-- The string functions. -/
def strings (r : Runtime) : List Function :=
  let function (name : String) (aliases : List String) (rule : List Value → Except Failure Value) (doc : String := "") :
      Function :=
    { name := name.toList, aliases := aliases.map String.toList, category := "string".toList, doc := doc.toList,
      run := Outcome.ofArguments rule }
  let compare (test : Text → Text → Bool) := compareWith fun t candidate => .ok (test candidate t)
  [function "trim" [] (trimWith Text.trim),
    function "trim_left" ["trim-left", "trim_start", "trim-start"] (trimWith Text.trimLeft),
    function "trim_right" ["trim-right", "trim_end", "trim-end"] (trimWith Text.trimRight),
    function "starts-with" ["starts_with"] (compare List.isPrefixOf),
    function "ends-with" ["ends_with"] (compare List.isSuffixOf),
    function "lowcase" [] (change Unicode.lower),
    function "upcase" [] (change Unicode.upper),
    function "contains" [] (compare Text.hasPiece),
    function "replace" [] replace "Replace every occurrence of the second argument by the third.",
    function "match" [] (compareWith (patternFound r)) "True if any of the patterns is found in the subject."]

end ScriptEval.Functions
