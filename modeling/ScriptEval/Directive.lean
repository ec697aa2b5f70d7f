import ScriptEval.Clause

/-!
# Conditional directives

A directive is a list of clauses and is active when all of them hold. Fact clauses compare a platform fact with the
listed values, feature clauses compare the enabled features with them, both without regard to letter case.

Every clause is evaluated, also after one that does not hold: evaluation collects the names of all features that the
directive mentions (`Evaluation.collected`). Only a clause with an unknown predicate stops it.
-/

namespace ScriptEval

/-- Whether a fact is among the values, or for a negated clause is not. -/
def checkFact (fact : Text) (values : List Text) (negated : Bool) : Bool :=
  let found := values.any fun v => Unicode.lower v == Unicode.lower fact
  if negated then !found else found

/-- Whether an enabled feature is among the values, or for a negated clause none is. With no feature enabled the
answer is no either way. -/
def checkFeatures (enabled values : List Text) (negated : Bool) : Bool :=
  let found := values.any fun v => (enabled.map Unicode.lower).contains (Unicode.lower v)
  !enabled.isEmpty && (if negated then !found else found)

namespace Clause

/-- The features that a clause mentions: the values of a feature clause, in lower case. -/
def mentions (c : Clause) : List Text :=
  if c.predicate? = some .feature then c.values.map Unicode.lower else []

/-- Whether a clause holds; `none` for an unknown predicate. -/
def holds? (c : Clause) (enabled : List Text) (p : Platform) : Option Bool :=
  c.predicate?.map fun
    | .fact f => checkFact (p.get f) c.values c.negated
    | .feature => checkFeatures enabled c.values c.negated

end Clause

/-- What evaluating a directive gives. -/
structure Evaluation where
  /-- The clauses that were evaluated, each with whether it holds. -/
  verdicts : List (Clause × Bool) := []
  /-- The features mentioned so far. -/
  collected : List Text
  /-- The clause that stopped the evaluation. -/
  stoppedAt : Option Clause := none
  deriving DecidableEq, Repr

/-- The evaluation of a directive, `collected` being the features mentioned before it. -/
def evaluate (enabled : List Text) (p : Platform) : List Clause → List Text → Evaluation
  | [], collected => { collected }
  | c :: clauses, collected =>
    match c.holds? enabled p with
    | none => { collected, stoppedAt := some c }
    | some holds =>
      let rest := evaluate enabled p clauses (collected ++ c.mentions)
      { rest with verdicts := (c, holds) :: rest.verdicts }

/-- Whether the directive is active: all its clauses hold. -/
def Evaluation.active (e : Evaluation) : Except Failure Bool :=
  match e.stoppedAt with
  | some c => .error (.script (.unknownPredicate c.name))
  | none => .ok (e.verdicts.all (·.2))

end ScriptEval
