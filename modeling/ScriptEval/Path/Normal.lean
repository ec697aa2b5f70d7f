import ScriptEval.Text.Basic

/-!
# Normal form of paths

The normal form of a path on the host: separators once each and none at the end, no components `.`, and `.` for the
empty path. Components `..` stay, since the component before may be a link. Exactly two separators at the start are a
root of their own.
-/

namespace ScriptEval.Path

/-- The root of a path, empty for a relative one. -/
def root (path : Text) : Text :=
  match path.takeWhile (· == '/') with
  | ['/', '/'] => ['/', '/']
  | [] => []
  | _ => ['/']

/-- The components of a path but for empty ones and `.`. -/
def components (path : Text) : List Text := (Text.splitOn '/' path).filter fun c => !c.isEmpty && c != ['.']

def normalize (path : Text) : Text :=
  let normal := root path ++ Text.join ['/'] (components path)
  if normal.isEmpty then ['.'] else normal

end ScriptEval.Path
