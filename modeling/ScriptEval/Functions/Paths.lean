import ScriptEval.Function
import ScriptEval.Path.Edit

/-!
# Path functions

Parts of paths (`stem`, `ext`, `dir`, `filename`) and changes of one part. Called without arguments the parts are 0
and the changes are refused; a change without its second argument gives the path back or is refused.
-/

namespace ScriptEval.Functions

open Failure (refuse)

/-- A part of the path that is the first argument. -/
def part (select : Text → Text) : List Value → Except Failure Value
  | [] => .ok (.int 0)
  | path :: _ => return .text (select (← path.toText))

def withExt (s : Path.Style) : List Value → Except Failure Value
  | [] => .error (refuse (.missing "path".toList))
  | [path] => .ok path
  | path :: extension :: _ => do
    let path ← path.toText
    if (Path.fileName s path).isEmpty then return .text path
    let extension ← extension.toText
    match Path.withExt? s path extension with
    | some changed => return .text changed
    | none => .error (refuse (.invalidPath ("invalid extension ".toList ++ Text.quoted extension)))

def addExt : List Value → Except Failure Value
  | [] => .error (refuse (.missing "path".toList))
  | [path] => .ok path
  | path :: extension :: _ => return .text (Path.addExt (← path.toText) (← extension.toText))

def withFileName (s : Path.Style) : List Value → Except Failure Value
  | [] => .error (refuse (.missing "path".toList))
  | [_] => .error (refuse (.missing "new name".toList))
  | path :: name :: _ => return .text (Path.withFileName s (← path.toText) (← name.toText))

def withStem (s : Path.Style) : List Value → Except Failure Value
  | [] => .error (refuse (.missing "path".toList))
  | [_] => .error (refuse (.missing "new stem".toList))
  | path :: stem :: _ => do
    let path ← path.toText
    let stem ← stem.toText
    if stem.isEmpty then .error (refuse (.missing "new stem".toList)) else return .text (Path.withStem s path stem)

def join (s : Path.Style) : List Value → Except Failure Value
  | [] => .ok (.text [])
  | [path] => .ok path
  | path :: parts => return .text (Path.join s (← path.toText) (← parts.mapM Value.toText))

/-- The path functions. -/
def paths (s : Path.Style) : List Function :=
  let function (name : String) (aliases : List String) (doc : String) (rule : List Value → Except Failure Value) :
      Function :=
    { name := name.toList, aliases := aliases.map String.toList, category := "path".toList, doc := doc.toList,
      run := Outcome.ofArguments rule }
  [function "stem" [] "File name without its extension." (part (Path.stem s)),
    function "ext" [] "Extension without the leading dot." (part (Path.ext s)),
    function "dir" [] "Everything before the file name." (part (Path.dir s)),
    function "filename" [] "Last path component." (part (Path.fileName s)),
    function "add_ext" ["add-ext"] "Append an extension to the full path text." addExt,
    function "with_ext" ["with-ext"] "Replace the extension; an empty one removes it." (withExt s),
    function "with_filename" ["with-filename", "with_name", "with-name"] "Replace the last path component."
      (withFileName s),
    function "with_stem" ["with-stem"] "Replace the file name but keep the extension." (withStem s),
    function "join" [] "Join path components; an absolute one restarts the path." (join s)]

end ScriptEval.Functions
