import ScriptEval.Options
import ScriptEval.Path.Normal
import ScriptEval.World

/-!
# Loading options

Run options come from three sources, in this order: an options file, the environment variable `TASKSCRIPT_FEATURES`,
and the names given explicitly.
-/

namespace ScriptEval.Options

/-- The variable that lists features. -/
def featuresVariable : String := "TASKSCRIPT_FEATURES"

/-- The bytes at a path. A path that leads nowhere is missing, unless it cannot be followed. -/
def readFile (files : FileTree) (path : Text) : Except FileFault (List UInt8) :=
  match files.resolve path with
  | .ok target =>
    match target.opened with
    | .content bytes => .ok bytes
    | .refused why => .error (.refused why path)
  | .error .nameTooLong => .error (.refused .nameTooLong path)
  | .error .denied => .error (.refused .denied path)
  | .error _ => .error (.missing path)

/-- The document in the bytes of a file with this path. -/
def readDocument (r : Runtime) (path : Text) (bytes : List UInt8) : Except Failure Data :=
  match r.decode bytes with
  | .ok d => .ok d
  | .error (.malformed problem) => reject (.unreadable path problem)
  | .error (.other why) => .error (.foreign why)

/-- The options in a file. -/
def ofFile (r : Runtime) (files : FileTree) (path : Text) : Except Failure Options := do
  let path := Path.normalize path
  let bytes ← (readFile files path).mapError .file
  ofDocument r (← readDocument r path bytes)

/-- The options of a run: those of the file if one is named, with the features of the environment and `explicit`. -/
def load (r : Runtime) (files : FileTree) (path : Option Text) (environment : Environment) (explicit : List Text) :
    Except Failure Options := do
  let fromFile ← match path with
    | none => .ok {}
    | some path => ofFile r files path
  return (fromFile.addFeatures (Text.commaItems (environment.get featuresVariable))).addFeatures explicit

end ScriptEval.Options
