import ScriptEval.CommandLine.Run
import ScriptEval.Host.Columns
import ScriptEval.Host.Directories
import ScriptEval.Host.Documents
import ScriptEval.Platform.Detect
import Std.Time.Zoned

/-!
# The program

Takes down the part of the host that a command line can see, carries the command line out in that world, and writes
the report.
-/

namespace ScriptEval.Host

/-! ## Files -/

/-- A path as text, from its components. -/
def pathText (path : List Text) : String := String.ofList ('/' :: Text.join ['/'] path)

/-- The components of an absolute path. -/
def componentsOf (path : String) : List Text := Path.components path.toList

/-- What opening a regular file and reading it gives. -/
def openedAt (path : String) : IO FileTree.Opened := do
  try return .content (← IO.FS.readBinFile path).toList
  catch _ => return .refused .denied

/-- What stands at an absolute path without links in it. A device is not read, as it may have no end. -/
def nodeAt (path : List Text) : IO FileTree.Node := do
  let real ← IO.FS.realPath (pathText path)
  match (← real.metadata).type with
  | .dir => return .dir
  | .file => return .file (← openedAt real.toString)
  | _ => return .special (.content [])

/-- The tree with what a component leads to from the directory `here`, links followed, and the place where that is;
no place if there is nothing, or nothing that one may look up. -/
def visit (tree : FileTree) (here : List Text) (name : Text) : IO (FileTree × Option (List Text)) := do
  if name = ['.', '.'] then return (tree, some here.dropLast)
  let path := here ++ [name]
  try
    let real := componentsOf (← IO.FS.realPath (pathText path)).toString
    let directories := (List.range real.length).map fun n => (real.take n, FileTree.Node.dir)
    let link := if real = path then [] else [(path, FileTree.Node.link (pathText real).toList)]
    return ({ tree with nodes := tree.nodes ++ link ++ (real, ← nodeAt real) :: directories }, some real)
  catch
    | .permissionDenied .. => return ({ tree with nodes := (here, .dir { search := false }) :: tree.nodes }, none)
    | _ => return (tree, none)

/-- The tree with all that a path goes through. -/
def follow (tree : FileTree) (here : List Text) : List Text → IO FileTree
  | [] => return tree
  | name :: names => do
    let (tree, next) ← visit tree here name
    match next with
    | some here => follow tree here names
    | none => return tree

/-- The files that the paths go through. -/
def files (paths : List Text) : IO FileTree := do
  let workingDir := componentsOf (← IO.FS.realPath ".").toString
  let start : FileTree := { workingDir, nodes := (List.range (workingDir.length + 1)).map fun n => (workingDir.take n, .dir) }
  paths.foldlM (fun tree path => follow tree (if path.head? = some '/' then [] else workingDir) (Path.components path)) start

/-! ## The rest of the world -/

/-- The environment variables that runs look at. -/
def variableNames : List String := ["HOME", "XDG_CONFIG_HOME", "XDG_DOCUMENTS_DIR", Options.featuresVariable]

def environment : IO Environment :=
  variableNames.filterMapM fun name => do return (← IO.getEnv name).map fun value => (name.toList, value.toList)

/-- The first line of a file, or `otherwise` if it cannot be read. -/
def firstLine (path otherwise : String) : IO Text := do
  try return Text.trim Text.isWhiteSpace (← IO.FS.readFile path).toList
  catch _ => return otherwise.toList

def platform : IO Platform := do
  let system ← firstLine "/proc/sys/kernel/ostype" "unknown"
  let processor ← firstLine "/proc/sys/kernel/arch" "unknown"
  return .detect { system, processor, pointerBytes := USize.size.log2 / 8 }

/-- The directory for temporary files. -/
def tempDir : IO Text := do
  for name in ["TMPDIR", "TEMP", "TMP"] do
    if let some dir ← IO.getEnv name then
      if !dir.isEmpty then return dir.toList
  return "/tmp".toList

def clock : IO Calendar.Moment := do
  let now ← Std.Time.DateTime.now
  return {
    date := ⟨now.year.toInt.toNat, now.month.toNat, now.day.toNat⟩
    time := { hour := now.hour.toNat, minute := now.minute.toNat, second := now.second.val.toNat,
              micro := now.nanosecond.val.toNat / 1000 }
    zone := some { offset := now.timezone.offset.second.val, name := some now.timezone.abbreviation.toList } }

/-- The world as the paths show it. -/
def world (paths : List Text) : IO World := do
  let environment ← environment
  return {
    platform := ← platform
    files := ← files paths
    environment
    locations := { locations environment with temp := .ok (← tempDir) }
    clock := ← clock
    runtime := { columns, decode } }

def usage : String :=
  "usage: [-h] [-f NAME] [-c FILE] [-v] call NAME [ARG ...] | features CLAUSE [CLAUSE ...] | platform | list\n"

end ScriptEval.Host

open ScriptEval in
def main (args : List String) : IO UInt32 := do
  let argv := args.map String.toList
  let paths := match CommandLine.Request.read argv with
    | .ok request => request.paths
    | .error _ => []
  match CommandLine.run (← Host.world paths) argv with
  | .report r =>
    IO.print (String.ofList r.stdout)
    IO.eprint (String.ofList r.stderr)
    return UInt32.ofNat r.exit
  | .stopped .help =>
    IO.print Host.usage
    return 0
  | .stopped .usage =>
    IO.eprint Host.usage
    return 2
  | .failed why =>
    IO.eprintln (String.ofList why.message)
    return 1
