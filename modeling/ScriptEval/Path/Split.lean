import ScriptEval.Path.Style

/-!
# Taking paths apart

All parts are cut from the text as written: nothing is normalised. The last component of a path is what stands after
the last separator, once separators and components `.` at the end are left out of account (`body`); it is the file
name unless it is `.` or `..`. The extension of a file name is what follows its last dot, unless that is the first
character.
-/

namespace ScriptEval.Path

/-- A path from its end without separators and components `.` there. The text is given and returned in reverse. -/
def dropEmptyEnd (s : Style) : Text → Text
  | [] => []
  | [c] => if s.isSeparator c then [] else [c]
  | c :: d :: rest =>
    if s.isSeparator c then dropEmptyEnd s (d :: rest)
    else if c = '.' && s.isSeparator d then dropEmptyEnd s rest
    else c :: d :: rest

/-- The path after its drive, without separators and components `.` at the end. -/
def body (s : Style) (path : Text) : Text := (dropEmptyEnd s path.reverse).reverse

/-- The text before the last component of a path, and the last component. -/
def split (s : Style) (path : Text) : Text × Text :=
  let (drive, rest) := s.splitDrive path
  let reversed := (body s rest).reverse
  (drive ++ (reversed.dropWhile (!s.isSeparator ·)).reverse, (reversed.takeWhile (!s.isSeparator ·)).reverse)

/-- The file name of a path: its last component, unless that is `.` or `..`. -/
def fileName (s : Style) (path : Text) : Text :=
  let last := (split s path).2
  if last = ['.'] ∨ last = ['.', '.'] then [] else last

/-- A file name without its extension, and the extension. -/
def stemExt (name : Text) : Text × Text :=
  match name.reverse.span (· != '.') with
  | (_, []) | (_, [_]) => (name, [])
  | (ext, _ :: stem) => (stem.reverse, ext.reverse)

/-- The file name of a path without its extension. -/
def stem (s : Style) (path : Text) : Text := (stemExt (fileName s path)).1

/-- The extension of the file name of a path. -/
def ext (s : Style) (path : Text) : Text := (stemExt (fileName s path)).2

/-- The directory of a path: all before its last component, without the separators between the two except the one
that is the root. -/
def dir (s : Style) (path : Text) : Text :=
  let (head, last) := split s path
  if last.isEmpty then []
  else
    let (drive, rest) := s.splitDrive head
    let stripped := Text.trimRight s.isSeparator rest
    drive ++ if stripped.isEmpty then rest.take 1 else stripped

end ScriptEval.Path
