import ScriptEval.Calendar.Moment
import ScriptEval.Platform
import ScriptEval.Runtime
import ScriptEval.World.Locations

/-!
# The world of a run

What a run can see of its host: the platform, the files, the environment, the user's locations, the time, and the runtime
that it goes on. Nothing in it changes while a script runs.
-/

namespace ScriptEval

/-- Environment variables. -/
abbrev Environment := List (Text × Text)

/-- The value of a variable, empty if it is not set. -/
def Environment.get (e : Environment) (name : String) : Text := (e.lookup name.toList).getD []

structure World where
  platform : Platform := {}
  files : FileTree := {}
  environment : Environment := []
  locations : Locations := {}
  clock : Calendar.Moment := { date := ⟨1970, 1, 1⟩, zone := some { offset := 0 } }
  runtime : Runtime := {}

end ScriptEval
