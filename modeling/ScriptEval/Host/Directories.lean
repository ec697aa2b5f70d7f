import ScriptEval.Path.Normal
import ScriptEval.Text.Blank
import ScriptEval.World

/-!
# Directories of the user

Where the program looks for the directories of its user: in the environment, and else in the home directory.
-/

namespace ScriptEval.Host

/-- The home directory as `HOME` gives it, without separators at the end. -/
def homeText (e : Environment) : Text := Text.trimRight (· == '/') (e.get "HOME")

/-- A path in the home directory. -/
def inHome (e : Environment) (path : String) : Text := homeText e ++ '/' :: path.toList

/-- The home directory. One that starts with `~` is unknown. -/
def home? (e : Environment) : Option Text :=
  let home := homeText e
  if home.head? = some '~' then none else some (Path.normalize (if home.isEmpty then ['/'] else home))

/-- The directory for configuration files. -/
def configDir (e : Environment) : Text :=
  let chosen := e.get "XDG_CONFIG_HOME"
  if (Text.strip chosen).isEmpty then inHome e ".config" else chosen

/-- The directory for documents. -/
def documentsDir (e : Environment) : Text :=
  let chosen := Text.strip (e.get "XDG_DOCUMENTS_DIR")
  if chosen.isEmpty then inHome e "Documents" else chosen

/-- The locations that an environment gives. -/
def locations (e : Environment) : Locations :=
  { home := home? e, config := .ok (some (configDir e)), documents := .ok (some (documentsDir e)) }

end ScriptEval.Host
