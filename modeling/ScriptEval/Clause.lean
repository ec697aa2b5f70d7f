import ScriptEval.Failure
import ScriptEval.Platform
import ScriptEval.Text.Blank
import ScriptEval.Unicode.Case

/-!
# Clauses

One clause of a conditional directive: a predicate, the values any of which satisfies it, and whether it is negated.
`Clause.toText` is the script form, `os(linux,macos)`; the command line writes `os:linux,macos`, with an exclamation
mark in front of a negated clause, and `Clause.read` reads that form.
-/

namespace ScriptEval

/-- What a clause tests: a platform fact, or the features that are enabled. -/
inductive Predicate
  | fact (f : Fact)
  | feature
  deriving DecidableEq, Repr

/-- The names of predicates. -/
def Predicate.names : List (String × Predicate) :=
  [("os", .fact .os), ("bit", .fact .bit), ("family", .fact .family), ("platform", .fact .family),
    ("arch", .fact .arch), ("endian", .fact .endian), ("feature", .feature), ("feat", .feature)]

/-- The predicate of a name in any letter case. -/
def Predicate.ofName? (name : Text) : Option Predicate :=
  (names.find? fun (known, _) => known.toList = Unicode.lower name).map (·.2)

structure Clause where
  name : Text
  values : List Text := []
  negated : Bool := false
  deriving DecidableEq, Repr

namespace Clause

def predicate? (c : Clause) : Option Predicate := Predicate.ofName? c.name

/-- The script form of a clause. -/
def toText (c : Clause) : Text :=
  (if c.negated then "not ".toList else []) ++ c.name ++ '(' :: Text.join [','] c.values ++ [')']

/-- The clause that a command line writes: a name, and after the first colon a comma-separated list of values. -/
def read (t : Text) : Except Failure Clause :=
  let (negated, body) := match t with
    | '!' :: rest => (true, rest)
    | _ => (false, t)
  let (key, values) := Text.cutAtChar ':' body
  let name := Text.strip key
  if name.isEmpty then .error (.invalidClause body)
  else .ok { name, values := Text.commaItems (values.getD []), negated }

end Clause

end ScriptEval
