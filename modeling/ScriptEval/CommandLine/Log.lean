import ScriptEval.Directive
import ScriptEval.Registry

/-!
# The log of a run

What evaluation reports while it runs, and the lines of the log. Unless a run is verbose, the log has warnings only.
-/

namespace ScriptEval.CommandLine

inductive Event
  /-- A registry was made; it holds so many names. -/
  | registryMade (names : Nat)
  /-- A function is called with so many arguments. -/
  | calling (function : Text) (args : Nat)
  /-- A clause was evaluated. -/
  | evaluated (clause : Clause) (holds : Bool)
  /-- A clause has an unknown predicate. -/
  | unknownPredicate (name : Text)
  deriving DecidableEq, Repr

namespace Event

def isWarning : Event → Bool
  | unknownPredicate _ => true
  | _ => false

/-- The part of the evaluator that reports an event. -/
def source : Event → String
  | registryMade _ | calling .. => "taskscript.runtime.builtins"
  | evaluated .. | unknownPredicate _ => "taskscript.runtime.features"

def message : Event → Text
  | registryMade names => "registered ".toList ++ Text.ofNat names ++ " built-in names".toList
  | calling function args =>
    "calling ".toList ++ function ++ " with ".toList ++ Text.ofNat args ++ " argument(s)".toList
  | evaluated clause holds => "clause ".toList ++ clause.toText ++ (if holds then " -> True" else " -> False").toList
  | unknownPredicate name => "unknown feature predicate ".toList ++ Text.quoted name

/-- The line of an event in the log. -/
def line (e : Event) : Text :=
  (if e.isWarning then "WARNING " else "DEBUG ").toList ++ e.source.toList ++ ": ".toList ++ e.message ++ ['\n']

end Event

/-- The log of a run. -/
def logText (verbose : Bool) (events : List Event) : Text :=
  (events.filter fun e => verbose || e.isWarning).flatMap Event.line

/-- What making a registry reports. -/
def eventsOfMaking (r : Registry) : List Event := [.registryMade r.owners.length]

/-- What a call reports; a call of an unknown function nothing. -/
def eventsOfCall (r : Registry) (name : Text) (args : List Value) : List Event :=
  (r.find? name).toList.map fun f => .calling f.name args.length

/-- What the evaluation of a directive reports. -/
def eventsOfEvaluation (e : Evaluation) : List Event :=
  e.verdicts.map (fun (clause, holds) => .evaluated clause holds)
    ++ e.stoppedAt.toList.map fun clause => .unknownPredicate clause.name

end ScriptEval.CommandLine
