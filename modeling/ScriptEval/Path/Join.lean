import ScriptEval.Path.Style
import ScriptEval.Text.Basic

/-!
# Joining paths

`join s base parts` appends the parts to the base one after the other, with a separator where one is missing. A part
that is absolute starts the path anew, and with drives so does one on another drive.
-/

namespace ScriptEval.Path

/-- One path appended to another, without drives. -/
def appendPosix (path part : Text) : Text :=
  if part.head? = some '/' then part
  else if path.isEmpty ∨ path.getLast? = some '/' then path ++ part
  else path ++ '/' :: part

/-- One path appended to another, both as a drive and a rest. -/
def appendWindows (path part : Text × Text) : Text × Text :=
  let (drive, rest) := path
  let (partDrive, partRest) := part
  if partRest.head?.any Style.windows.isSeparator then
    (if !partDrive.isEmpty || drive.isEmpty then partDrive else drive, partRest)
  else if !partDrive.isEmpty && partDrive != drive && Unicode.lower partDrive != Unicode.lower drive then part
  else
    let gap := if rest.isEmpty || rest.getLast?.any Style.windows.isSeparator then [] else ['\\']
    (if partDrive.isEmpty then drive else partDrive, rest ++ gap ++ partRest)

/-- A drive and the rest of a path as one path. The host and share of a network path need a separator after them. -/
def fuse (drive rest : Text) : Text :=
  if rest.head?.any (!Style.windows.isSeparator ·) && drive.getLast?.any (· != ':') then drive ++ '\\' :: rest
  else drive ++ rest

def join (s : Style) (base : Text) (parts : List Text) : Text :=
  match s with
  | .posix => parts.foldl appendPosix base
  | .windows =>
    let (drive, rest) := parts.foldl (fun path part => appendWindows path (Style.windows.splitDrive part))
      (Style.windows.splitDrive base)
    fuse drive rest

end ScriptEval.Path
