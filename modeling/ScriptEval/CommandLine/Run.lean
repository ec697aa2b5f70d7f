import ScriptEval.CommandLine.Log
import ScriptEval.CommandLine.Request
import ScriptEval.Options.Load
import ScriptEval.Session

/-!
# Carrying out requests

`CommandLine.run` carries out a command line in a world and reports what is written and the exit status. The status is
0 for success, and for a directive that is active; 1 for one that is inactive; and 2 for what goes wrong in scripts,
options or the command line, and for what is not there. Other failures of the services underneath, such as an options
file that is no text, are not reported in this way but end the run.
-/

namespace ScriptEval

/-- Whether a text starts with a mark and ends with another one of the kind. -/
def isBetween (mark : Char) (t : Text) : Bool := t.head? = some mark && t.getLast? = some mark && decide (2 ≤ t.length)

/-- The value of a word on the command line: an integer, or text, without the quotation marks if it stands between
two. -/
def Value.ofWord (w : Text) : Except Failure Value :=
  if Text.isInteger w then (readInt w).map Value.int
  else .ok (.text (if isBetween '"' w || isBetween '\'' w then w.tail.dropLast else w))

namespace CommandLine

/-- What a run shows to its caller. -/
structure Report where
  exit : Nat
  stdout : Text := []
  stderr : Text := []
  deriving DecidableEq, Repr

/-- What a command line comes to. -/
inductive Result
  | report (r : Report)
  /-- It asks for help or breaks the grammar; the exit status tells which. -/
  | stopped (why : Stop)
  /-- The run ends with a failure. -/
  | failed (why : Failure)

/-- The report of a failure that counts as the user's; `log` is what was logged before it. -/
def reportFailure (log : Text) (why : Failure) : Except Failure Report :=
  match why with
  | .script e => .ok { exit := 2, stderr := log ++ e.format ++ ['\n'] }
  | why =>
    if why.isMissing then .ok { exit := 2, stderr := log ++ "Error: ".toList ++ why.message ++ ['\n'] }
    else .error why

/-- The functions whose output is all that a call of them shows. -/
def showsOutputOnly (name : Text) : Bool :=
  let name := Unicode.lower name
  name == "print".toList || name == "println".toList

/-- Calls a function and shows its output and its value. -/
def runCall (s : Session) (verbose : Bool) (name : Text) (words : List Text) : Except Failure Report := do
  let args ← words.mapM Value.ofWord
  let log := logText verbose (eventsOfMaking s.shared ++ eventsOfCall s.shared name args)
  let outcome := s.callShared name args
  match outcome.result with
  | .error why =>
    let r ← reportFailure log why
    return { r with stdout := outcome.written }
  | .ok v =>
    let shown ← if showsOutputOnly name then .ok [] else v.toText.map (· ++ ['\n'])
    return { exit := 0, stdout := outcome.written ++ shown, stderr := log }

/-- The report on a directive: whether it is active, the features that it mentions, and a warning about enabled
features that it does not. -/
def directiveReport (log : Text) (c : Context) (active : Bool) : Report where
  exit := if active then 0 else 1
  stdout := (if active then "active\n" else "inactive\n").toList
    ++ match c.referenced with
      | [] => []
      | names => "features: ".toList ++ Text.join ", ".toList names ++ ['\n']
  stderr := log
    ++ match c.unused with
      | [] => []
      | names => "Warning: enabled but not referenced: ".toList ++ Text.join ", ".toList names ++ ['\n']

/-- Evaluates a directive on the facts of the host. -/
def runFeatures (s : Session) (options : Options) (words : List Text) : Except Failure Report :=
  match words.mapM Clause.read with
  | .error why => .ok { exit := 2, stderr := "Error: ".toList ++ why.message ++ ['\n'] }
  | .ok directive =>
    let c : Context := { options, platform := s.world.platform }
    let log := logText options.verbose (eventsOfMaking s.shared ++ eventsOfEvaluation (c.evaluate directive))
    match c.isActive directive with
    | (c, .ok active) => .ok (directiveReport log c active)
    | (_, .error why) => reportFailure log why

/-- The platform facts, one a line. -/
def platformLines (p : Platform) : Text :=
  Fact.all.flatMap fun f =>
    let name := f.name.toList
    name ++ List.replicate (8 - name.length) ' ' ++ p.get f ++ ['\n']

/-- The functions with their categories and aliases, one a line. -/
def functionLines (fs : List Function) : Text :=
  fs.flatMap fun f =>
    "  ".toList ++ f.category ++ List.replicate (11 - f.category.length) ' ' ++ f.name
      ++ (if f.aliases.isEmpty then [] else " (".toList ++ Text.join ", ".toList f.aliases ++ [')']) ++ ['\n']

/-- Carries out a command with the options of the run. -/
def runCommand (s : Session) (options : Options) : Command → Except Failure Report
  | .call name words => runCall s options.verbose name words
  | .features words => runFeatures s options words
  | .platform => .ok { exit := 0, stdout := platformLines s.world.platform }
  | .list =>
    .ok { exit := 0, stdout := functionLines s.shared.functions,
          stderr := logText options.verbose (eventsOfMaking s.shared) }

/-- Carries out a request. -/
def runRequest (world : World) (request : Request) : Except Failure Report :=
  match Options.load world.runtime world.files request.config world.environment request.features with
  | .error why => reportFailure [] why
  | .ok options =>
    runCommand (.start world) { options with verbose := options.verbose || request.verbose } request.command

/-- The paths that carrying out a request may follow: the options file, and with a call all its arguments. -/
def Request.paths (request : Request) : List Text :=
  request.config.toList ++ match request.command with
    | .call _ words => words.map unquote
    | _ => []

/-- Carries out a command line. -/
def run (world : World) (argv : List Text) : Result :=
  match Request.read argv with
  | .error why => .stopped why
  | .ok request =>
    match runRequest world request with
    | .ok r => .report r
    | .error why => .failed why

end CommandLine

end ScriptEval
