import ScriptEval.Value
import ScriptEval.World

/-!
# Functions

A function has a name and aliases it answers to as well, a category and a line of documentation for reports, and a
rule that computes its outcome from the world and the arguments of a call. An outcome is a value or a failure and the
text that the call wrote.
-/

namespace ScriptEval

structure Outcome where
  written : Text := []
  result : Except Failure Value

structure Function where
  name : Text
  aliases : List Text := []
  category : Text := []
  doc : Text := []
  run : World → List Value → Outcome

/-- All names that a function answers to. -/
def Function.names (f : Function) : List Text := f.name :: f.aliases

/-- A function that writes nothing and looks at its arguments alone. -/
def Outcome.ofArguments (rule : List Value → Except Failure Value) (_ : World) (args : List Value) : Outcome :=
  { result := rule args }

end ScriptEval
