import ScriptEval.Function
import ScriptEval.Calendar.Template
import ScriptEval.Path.Normal

/-!
# Functions that ask the host

Platform facts, tests of files, user locations, output and the time.
-/

namespace ScriptEval.Functions

/-! ## Platform facts -/

/-- The names under which reports document the facts. -/
def factLabel : Fact → String
  | .bit => "pointer_width"
  | f => f.name

/-- One function for each fact; arguments do not matter. -/
def facts (p : Platform) : List Function :=
  Fact.all.map fun f =>
    { name := f.name.toList, category := "platform".toList,
      doc := "Platform ".toList ++ (factLabel f).toList ++ ['.'],
      run := Outcome.ofArguments fun _ => .ok (.text (p.get f)) }

/-! ## Files -/

/-- Whether all paths pass a test; an empty path does not, and later paths are not read after one that fails. -/
def allPass (test : Text → Bool) : List Value → Except Failure Bool
  | [] => .ok true
  | path :: paths => do
    let path ← path.toText
    if !path.isEmpty && test (Path.normalize path) then allPass test paths else return false

/-- A test that all arguments pass; without arguments it fails. -/
def fileTest (name : String) (aliases : List String) (test : FileTree → Text → Bool) : Function where
  name := name.toList
  aliases := aliases.map String.toList
  category := "filesystem".toList
  run world args :=
    { result := if args.isEmpty then .ok (.int 0) else (allPass (test world.files) args).map Value.ofBool }

def fileTests : List Function :=
  [fileTest "is_file" ["is-file", "isfile"] FileTree.isFile,
    fileTest "is_dir" ["is-dir", "isdir"] FileTree.isDir,
    fileTest "exists" [] FileTree.exists?]

/-! ## Locations -/

/-- A location of the user; refused when the host cannot tell it. -/
def location (name : String) (aliases : List String) (what : String)
    (select : Locations → Except ForeignFault (Option Text)) : Function where
  name := name.toList
  aliases := aliases.map String.toList
  category := "location".toList
  run world _ :=
    match select world.locations with
    | .error why => { result := .error (.foreign why) }
    | .ok path =>
      match path.getD [] with
      | [] => { result := .error (.refuse (.unknownLocation what.toList)) }
      | path => { result := .ok (.text path) }

/-- The directory for temporary files. -/
def temp (world : World) : Except Failure Value :=
  match world.locations.temp with
  | .ok path => .ok (.text path)
  | .error why => .error (.foreign why)

def locations : List Function :=
  [{ name := "temp".toList, aliases := ["temp_dir", "temp-dir"].map String.toList, category := "location".toList,
     run := fun world _ => { result := temp world } },
    location "home" ["home_dir", "home-dir", "user_dir", "user-dir"] "home" fun l => .ok l.home,
    location "config" ["config_dir", "config-dir"] "configuration" (·.config),
    location "documents" ["docs_dir", "docs-dir"] "document" (·.documents)]

/-! ## Output -/

/-- Writes the arguments with spaces between them, and nothing at all if one of them has no text. -/
def writeAll (ending : Text) (args : List Value) : Outcome :=
  match args.mapM Value.toText with
  | .ok texts => { written := Text.join [' '] texts ++ ending, result := .ok (.int 1) }
  | .error e => { result := .error e }

def output : List Function :=
  [{ name := "print".toList, category := "output".toList, doc := "Write arguments separated by spaces.".toList,
     run := fun _ => writeAll [] },
    { name := "println".toList, category := "output".toList,
      doc := "Write arguments separated by spaces, then a newline.".toList,
      run := fun _ => writeAll ['\n'] }]

/-! ## Time -/

/-- The template used when none is given. -/
def defaultTemplate : Text := "%Y%m%d-%H%M%S".toList

/-- The reading of the clock in a standard form or by a template. -/
def formatTime (clock : Calendar.Moment) (args : List Value) : Except Failure Value := do
  let template ← match args with
    | [] => .ok defaultTemplate
    | template :: _ => template.toRawText
  let kind := Unicode.lower template
  return .text <|
    if kind = "2822".toList ∨ kind = "rfc2822".toList then clock.mailStamp
    else if kind = "3339".toList ∨ kind = "rfc3339".toList then clock.internetStamp
    else Calendar.Template.render template clock

def time (clock : Calendar.Moment) : List Function :=
  [{ name := "time".toList,
     aliases := ["format-time", "format_time", "time-format", "time_format"].map String.toList,
     category := "time".toList, doc := "Format the current local time.".toList,
     run := Outcome.ofArguments (formatTime clock) }]

end ScriptEval.Functions
