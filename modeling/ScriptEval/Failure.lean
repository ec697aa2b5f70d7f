import ScriptEval.Limits
import ScriptEval.World.FileTree

/-!
# Failures

What can go wrong, by cause. A `ScriptError` is an error in a script or its options; it has a code, in the 400s for
functions, the 500s for predicates and the 600s for options, and a display form. The other failures come from what is
underneath: limits of numbers, texts and patterns, files that cannot be read, and parts that the host brings along.
-/

namespace ScriptEval

/-- Why a function refuses a call. -/
inductive Refusal
  | missing (role : Text)
  | argumentCount (expected : Text)
  | emptyPad
  | unknownLocation (what : Text)
  | invalidPattern (pattern reason : Text)
  | invalidPath (reason : Text)
  | other (message : Text)
  deriving DecidableEq, Repr

def Refusal.message : Refusal → Text
  | missing role => role ++ " undefined".toList
  | argumentCount expected => "requires ".toList ++ expected ++ " arguments".toList
  | emptyPad => "pad string cannot be empty".toList
  | unknownLocation what => "user ".toList ++ what ++ " directory undefined".toList
  | invalidPattern pattern reason => "invalid regular expression '".toList ++ pattern ++ "': ".toList ++ reason
  | invalidPath reason => "invalid path: ".toList ++ reason
  | other message => message

/-- What is wrong with run options. -/
inductive OptionsFault
  | notMapping (kind : Text)
  | featuresNotList (kind : Text)
  /-- An item that is no text, as it is written. -/
  | featureNotText (item : Text)
  | unreadable (path problem : Text)
  | other (message : Text)
  deriving DecidableEq, Repr

def OptionsFault.message : OptionsFault → Text
  | notMapping kind => "options file must be a mapping, got ".toList ++ kind
  | featuresNotList kind => "'features' must be a list, got ".toList ++ kind
  | featureNotText item => "feature names must be strings, got ".toList ++ item
  | unreadable path problem => "cannot parse options file ".toList ++ path ++ ": ".toList ++ problem
  | other message => message

/-- An error in a script or its options. -/
inductive ScriptError
  | unknownFunction (name : Text)
  /-- A function refused a call; `function` is the name it was called by, empty as long as it is not known. -/
  | refused (why : Refusal) (function : Text := [])
  | unknownPredicate (name : Text)
  | options (why : OptionsFault) (code : Text := "E601".toList)
  | other (message : Text) (code : Text := "E400".toList)
  deriving DecidableEq, Repr

namespace ScriptError

def message : ScriptError → Text
  | unknownFunction name => "function ".toList ++ name ++ " not found".toList
  | refused why _ => why.message
  | unknownPredicate name => "unknown feature predicate '".toList ++ name ++ ['\'']
  | options why _ => why.message
  | other message _ => message

def code : ScriptError → Text
  | unknownFunction _ => "E401".toList
  | refused _ _ => "E402".toList
  | unknownPredicate _ => "E501".toList
  | options _ code => code
  | other _ code => code

/-- The function that a refusal names, if it names one. -/
def function? : ScriptError → Option Text
  | refused _ [] => none
  | refused _ function => some function
  | _ => none

/-- The display form: the code, the function if one is named, and the message. -/
def format (e : ScriptError) : Text :=
  "error[".toList ++ e.code ++ "]: ".toList
    ++ (match e.function? with
      | some function => function ++ ": ".toList
      | none => [])
    ++ e.message

end ScriptError

/-- Why a file cannot be used. -/
inductive FileFault
  | missing (path : Text)
  | refused (why : SystemFault) (path : Text)
  deriving DecidableEq, Repr

namespace FileFault

def message : FileFault → Text
  | missing path => "options file not found: ".toList ++ path
  | refused why path =>
    "[Errno ".toList ++ Text.ofNat why.number ++ "] ".toList ++ why.reason ++ ": ".toList ++ Text.quoted path

/-- Whether the fault is that something is not there. -/
def isMissing : FileFault → Bool
  | missing _ => true
  | refused why _ => why.isMissing

end FileFault

/-- A fault of a part that the host brings along, by the name of its kind. -/
structure ForeignFault where
  kind : Text
  message : Text
  /-- Whether the fault is that something is not there. -/
  isMissing : Bool := false
  deriving DecidableEq, Repr

inductive Failure
  | script (e : ScriptError)
  | number (why : NumberFault)
  /-- A text that would be too long. -/
  | size (why : SizeFault)
  | file (why : FileFault)
  | foreign (why : ForeignFault)
  | invalidClause (text : Text)
  | repetitionTooLarge
  | characterTooLarge
  | conflictingFlags
  /-- Data or patterns that are nested too deeply; the detail ends the message. -/
  | tooDeep (detail : Text)
  deriving DecidableEq, Repr

namespace Failure

def message : Failure → Text
  | script e => e.message
  | number why => why.message
  | size why => why.message
  | file why => why.message
  | foreign why => why.message
  | invalidClause text => "Invalid clause: ".toList ++ Text.quoted text ++ " (expected KEY:VALUE[,VALUE...])".toList
  | repetitionTooLarge => "the repetition number is too large".toList
  | characterTooLarge => "Python int too large to convert to C int".toList
  | conflictingFlags => "ASCII and UNICODE flags are incompatible".toList
  | tooDeep detail => "maximum recursion depth exceeded".toList ++ detail

/-- Whether the failure is that something is not there. -/
def isMissing : Failure → Bool
  | file why => why.isMissing
  | foreign why => why.isMissing
  | _ => false

/-- A refusal by a function whose name is not known yet. -/
def refuse (why : Refusal) : Failure := script (.refused why)

/-- The failure with the name its function was called by, unless it has one. -/
def named (name : Text) : Failure → Failure
  | script (.refused why []) => script (.refused why name)
  | f => f

end Failure

end ScriptEval
