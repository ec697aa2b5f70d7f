import ScriptEval.Directive
import ScriptEval.Options

/-!
# Evaluation contexts

What goes with one pass over a script: the options of the run, the platform that the script sees, and the features
that its directives have mentioned, repeats kept. `Context.referenced` lists these once each, and `Context.unused` the
enabled features that are not among them.
-/

namespace ScriptEval

structure Context where
  options : Options := {}
  platform : Platform := {}
  collected : List Text := []
  deriving DecidableEq, Repr

namespace Context

/-- Evaluates a directive in a context. -/
def evaluate (c : Context) (directive : List Clause) : Evaluation :=
  ScriptEval.evaluate c.options.features c.platform directive c.collected

/-- Whether a directive is active, and the context after its evaluation, which keeps what was mentioned also if it
fails. -/
def isActive (c : Context) (directive : List Clause) : Context × Except Failure Bool :=
  let e := c.evaluate directive
  ({ c with collected := e.collected }, e.active)

/-- The features mentioned so far, each once, the first mention counting. -/
def referenced (c : Context) : List Text := c.collected.eraseDups

/-- The enabled features that no directive has mentioned. -/
def unused (c : Context) : List Text := c.options.features.filter fun f => !c.collected.contains (Unicode.lower f)

/-- The context with more features enabled. -/
def addFeatures (c : Context) (names : List Text) : Context := { c with options := c.options.addFeatures names }

end Context

end ScriptEval
