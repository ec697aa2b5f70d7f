import ScriptEval.Unicode.Case

/-!
# Path styles

Two ways of writing paths: one with the separator `/` and no drives, one with the separators `\` and `/` and drives.
A drive is a letter with a colon or the host and share of a network path (`\\host\share`); `splitDrive` takes it off,
and the drive and the rest together are the path.
-/

namespace ScriptEval.Path

inductive Style
  | posix
  | windows
  deriving DecidableEq, Repr

namespace Style

/-- The separator to write between components. -/
def separator : Style → Char
  | posix => '/'
  | windows => '\\'

def isSeparator : Style → Char → Bool
  | posix, c => c == '/'
  | windows, c => c == '\\' || c == '/'

/-- The part of a network path after its two leading separators and the part after its host and share; `none` when
the share is not followed by anything. -/
def afterShare? (t : Text) : Option Text :=
  match t.dropWhile (!windows.isSeparator ·) with
  | [] => none
  | _ :: share => match share.dropWhile (!windows.isSeparator ·) with
    | [] => none
    | rest => some rest

/-- The start of a network path in its long form. -/
def longShareStart : Text := "\\\\?\\UNC\\".toList

/-- Whether a path starts with the start of the long form, in any letter case and with either separator. -/
def isLongShare (t : Text) : Bool :=
  Unicode.upper ((t.take 8).map fun c => if c = '/' then '\\' else c) == longShareStart

/-- The drive of a path and the rest of it. -/
def splitDrive (s : Style) (t : Text) : Text × Text :=
  match s, t with
  | posix, _ => ([], t)
  | windows, a :: b :: rest =>
    if windows.isSeparator a && windows.isSeparator b then
      match afterShare? (if isLongShare t then t.drop 8 else rest) with
      | none => (t, [])
      | some path => (t.take (t.length - path.length), t.drop (t.length - path.length))
    else if b = ':' then ([a, b], rest)
    else ([], t)
  | windows, _ => ([], t)

/-- The drive and the rest together are the path. -/
theorem splitDrive_append (s : Style) (t : Text) : (s.splitDrive t).1 ++ (s.splitDrive t).2 = t := by
  fun_cases splitDrive s t <;> simp_all

end Style

end ScriptEval.Path
