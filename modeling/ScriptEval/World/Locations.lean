import ScriptEval.Failure

/-!
# User locations

The directories of a user, as the host tells them when it is asked. One that it cannot tell is absent; besides, asking may
fail.
-/

namespace ScriptEval

structure Locations where
  temp : Except ForeignFault Text := .ok "/tmp".toList
  home : Option Text := none
  config : Except ForeignFault (Option Text) := .ok none
  documents : Except ForeignFault (Option Text) := .ok none

end ScriptEval
