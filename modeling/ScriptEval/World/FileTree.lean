import ScriptEval.Text.Basic

/-!
# File trees

Files, directories and symbolic links, by absolute path, and the working directory. `FileTree.resolve` follows a path
the way an operating system does: `..` is the parent of the directory reached so far, links are followed wherever
they come up, at most `linkLimit` of them, names and paths have a greatest length in bytes, and nothing is looked up in
a directory without the right to search it. What a path resolves to depends on the tree and the path alone, and so does
what opening it gives (`FileTree.Target.opened`).
-/

namespace ScriptEval

/-- Why the system refuses something: the number of the reason, and its words. -/
structure SystemFault where
  number : Nat
  reason : Text
  deriving DecidableEq, Repr

namespace SystemFault

def denied : SystemFault := ⟨13, "Permission denied".toList⟩

def isDirectory : SystemFault := ⟨21, "Is a directory".toList⟩

def nameTooLong : SystemFault := ⟨36, "File name too long".toList⟩

/-- Whether the reason is that there is no such file. -/
def isMissing (why : SystemFault) : Bool := why.number == 2

end SystemFault

namespace FileTree

/-- What opening something and reading it gives. -/
inductive Opened
  | content (bytes : List UInt8)
  | refused (why : SystemFault)
  deriving DecidableEq, Repr

/-- What one may do with a directory. -/
structure Rights where
  read : Bool := true
  search : Bool := true
  deriving DecidableEq, Repr

/-- What stands at a path. -/
inductive Node
  | file (opened : Opened)
  | dir (rights : Rights := {})
  /-- Something else, such as a device. -/
  | special (opened : Opened)
  | link (target : Text)
  deriving DecidableEq, Repr

end FileTree

/-- A tree: what stands at each path, a path being the names of its components from the root. -/
structure FileTree where
  nodes : List (List Text × FileTree.Node) := []
  workingDir : List Text := []
  deriving DecidableEq, Repr

namespace FileTree

/-- What a path leads to once all links are followed. -/
inductive Target
  | file (opened : Opened)
  | dir (rights : Rights := {})
  | special (opened : Opened)
  deriving DecidableEq, Repr

/-- What opening a target gives; a directory is never opened. -/
def Target.opened : Target → Opened
  | file opened | special opened => opened
  | dir rights => .refused (if rights.read then .isDirectory else .denied)

/-- Why a path leads nowhere. -/
inductive Dead
  | missing
  | notDirectory
  | linkLoop
  | nameTooLong
  | badName
  | denied
  deriving DecidableEq, Repr

/-- The most links followed for one path. -/
def linkLimit : Nat := 40

/-- The most bytes of the name of one component. -/
def nameLimit : Nat := 255

/-- The most bytes of a path. -/
def pathLimit : Nat := 4095

/-- The number of bytes of a text. -/
def byteLength (t : Text) : Nat := t.foldl (fun n c => n + c.utf8Size) 0

/-- What stands at a path; the root is a directory. -/
def node? (tree : FileTree) (path : List Text) : Option Node :=
  if path.isEmpty then some .dir else tree.nodes.lookup path

/-- The rights to a directory. -/
def rights (tree : FileTree) (path : List Text) : Rights :=
  match tree.node? path with
  | some (.dir rights) => rights
  | _ => {}

/-- Follows `names` from the directory `here`, with so many links left to follow. -/
def walk (tree : FileTree) (links : Nat) (here : List Text) : List Text → Except Dead Target
  | [] => .ok (.dir (tree.rights here))
  | name :: names =>
    if name.isEmpty then walk tree links here names
    else if (tree.rights here).search = false then .error .denied
    else if name = ['.'] then walk tree links here names
    else if name = ['.', '.'] then walk tree links here.dropLast names
    else if nameLimit < byteLength name then .error .nameTooLong
    else match tree.node? (here ++ [name]) with
      | none => .error .missing
      | some (.dir _) => walk tree links (here ++ [name]) names
      | some (.file opened) => if names.isEmpty then .ok (.file opened) else .error .notDirectory
      | some (.special opened) => if names.isEmpty then .ok (.special opened) else .error .notDirectory
      | some (.link target) =>
        match links with
        | 0 => .error .linkLoop
        | links + 1 =>
          walk tree links (if target.head? = some '/' then [] else here) (Text.splitOn '/' target ++ names)
termination_by names => (links, names.length)

/-- What a path leads to. -/
def resolve (tree : FileTree) (path : Text) : Except Dead Target :=
  if path.contains '\x00' then .error .badName
  else if pathLimit < byteLength path then .error .nameTooLong
  else walk tree linkLimit (if path.head? = some '/' then [] else tree.workingDir) (Text.splitOn '/' path)

def isFile (tree : FileTree) (path : Text) : Bool :=
  match tree.resolve path with
  | .ok (.file _) => true
  | _ => false

def isDir (tree : FileTree) (path : Text) : Bool :=
  match tree.resolve path with
  | .ok (.dir _) => true
  | _ => false

def exists? (tree : FileTree) (path : Text) : Bool := (tree.resolve path).isOk

end FileTree

end ScriptEval
