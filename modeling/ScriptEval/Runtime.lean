import ScriptEval.Data
import ScriptEval.Failure

/-!
# The runtime

What a program that runs scripts brings along: the columns that characters take on its terminal, the decoder of
options documents, and how deep data and patterns may be nested. Nothing is known of these here but what kind of answer
they give.
-/

namespace ScriptEval

/-- Why a file is no document. -/
inductive DecodeFault
  /-- The decoder reports a problem with the document. -/
  | malformed (problem : Text)
  /-- The decoder fails in another way. -/
  | other (why : ForeignFault)
  deriving DecidableEq, Repr

structure Runtime where
  /-- The columns of a character, negative for one that cannot be shown. -/
  columns : Char → Int := fun _ => 1
  /-- The datum of a document that is given as bytes. -/
  decode : List UInt8 → Except DecodeFault Data := fun _ => .ok .null
  /-- How a datum is reported that is nested too deeply to be written. -/
  dataTooDeep : Data → Option Text := fun _ => none
  /-- How a pattern is reported that is nested too deeply to be read. -/
  patternTooDeep : Text → Option Text := fun _ => none

namespace Runtime

/-- The number of columns a text takes. What cannot be shown takes none. -/
def displayWidth (r : Runtime) (t : Text) : Nat := t.foldr (fun c n => (r.columns c).toNat + n) 0

/-- The text of a datum, texts in quotation marks. -/
def write (r : Runtime) (d : Data) : Except Failure Text :=
  match r.dataTooDeep d with
  | some detail => .error (.tooDeep detail)
  | none => d.written.mapError .number

/-- The text of a datum; a text is its own. -/
def toText (r : Runtime) : Data → Except Failure Text
  | .text t => .ok t
  | d => r.write d

end Runtime

end ScriptEval
