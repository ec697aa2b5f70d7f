import ScriptEval.Runtime
import ScriptEval.Text.Blank

/-!
# Run options

The features a user enables for a run, in the order given and in the letter case typed, and whether evaluation is
logged. `Options.ofDocument` reads options from a decoded document. Names from several sources are put together by
`Options.addFeatures`, which drops names that are there already.
-/

namespace ScriptEval

structure Options where
  features : List Text := []
  verbose : Bool := false
  deriving DecidableEq, Repr

namespace Options

/-- Names with another one at their end, unless it is among them. -/
def addNew (names : List Text) (name : Text) : List Text := if name ∈ names then names else names ++ [name]

/-- The options with more features enabled. -/
def addFeatures (o : Options) (names : List Text) : Options := { o with features := names.foldl addNew o.features }

/-- The failure of options at fault. -/
def reject {α : Type} (why : OptionsFault) : Except Failure α := .error (.script (.options why))

/-- The feature names that an entry lists: the items of a list or of a comma-separated text. -/
def featureItems (d : Data) : Except Failure (List Data) :=
  if d.isTruthy then
    match d.untied with
    | .text t => .ok ((Text.commaItems t).map Data.text)
    | .list items => .ok items
    | d => reject (.featuresNotList d.kindName.toList)
  else .ok []

/-- The name that an item of a list is. Another item is rejected as it is written, if it can be written. -/
def featureName (r : Runtime) : Data → Except Failure Text
  | .text t => .ok t
  | d => do reject (.featureNotText (← r.write d))

/-- The options of the entries of a document. Blanks around names are taken off, and blank names dropped. -/
def ofMapping (r : Runtime) (entries : List (Data × Data)) : Except Failure Options := do
  let items ← featureItems ((Data.entry? "features" entries).getD .null)
  let verbose := ((Data.entry? "verbose" entries).getD .null).isTruthy
  let names ← items.mapM (featureName r)
  let o : Options := { verbose }
  return o.addFeatures ((names.map Text.strip).filter (!·.isEmpty))

/-- The options of a document. One that stands for "no" gives the default options. -/
def ofDocument (r : Runtime) (d : Data) : Except Failure Options :=
  if d.isTruthy then
    match d.untied with
    | .mapping entries => ofMapping r entries
    | d => reject (.notMapping d.kindName.toList)
  else ofMapping r []

end Options

end ScriptEval
