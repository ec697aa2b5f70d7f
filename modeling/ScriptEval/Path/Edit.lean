import ScriptEval.Path.Join
import ScriptEval.Path.Split

/-!
# Changing one part of a path

Each edit replaces one part and keeps the others as they are written.
-/

namespace ScriptEval.Path

/-- The path with another extension, or with none for the empty one; `none` when the extension has a separator. A
path without a file name stays as it is. -/
def withExt? (s : Style) (path extension : Text) : Option Text :=
  if (fileName s path).isEmpty then some path
  else if extension.any s.isSeparator then none
  else some ((split s path).1 ++ stem s path ++ if extension.isEmpty then [] else '.' :: extension)

/-- The path with an extension appended to its text; its dot need not be given. -/
def addExt (path extension : Text) : Text :=
  if extension.isEmpty then path
  else if extension.head? = some '.' then path ++ extension
  else path ++ '.' :: extension

/-- The path with another file name; to a path without one the name is joined. -/
def withFileName (s : Style) (path name : Text) : Text :=
  join s (if (fileName s path).isEmpty then path else dir s path) [name]

/-- The path with another stem of its file name and the same extension. -/
def withStem (s : Style) (path newStem : Text) : Text :=
  let extension := ext s path
  join s (dir s path) [if extension.isEmpty then newStem else newStem ++ '.' :: extension]

end ScriptEval.Path
