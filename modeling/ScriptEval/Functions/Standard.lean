import ScriptEval.Functions.Host
import ScriptEval.Functions.Padding
import ScriptEval.Functions.Paths
import ScriptEval.Functions.Strings
import ScriptEval.Registry

/-!
# The standard functions

All built-in functions, in the order in which reports list them, and the registry that holds them and no others. What
they depend on besides the world can be chosen: the platform that they report, the style of paths, the clock and the
runtime.
-/

namespace ScriptEval

structure Services where
  platform : Platform
  style : Path.Style := .posix
  clock : Calendar.Moment
  runtime : Runtime := {}

/-- The services of a host, for scripts that see the facts `platform`. -/
def World.services (world : World) (platform : Platform) : Services :=
  { platform, clock := world.clock, runtime := world.runtime }

namespace Functions

/-- The standard functions. -/
def standard (s : Services) : List Function :=
  facts s.platform ++ fileTests ++ paths s.style ++ locations ++ output ++ time s.clock ++ strings s.runtime
    ++ padding s.runtime

end Functions

/-- The registry of the standard functions. -/
def Registry.standard (s : Services) : Registry := .ofList (Functions.standard s)

end ScriptEval
