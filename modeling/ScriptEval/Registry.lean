import ScriptEval.Function
import ScriptEval.Unicode.Case

/-!
# Registries

A registry keeps functions by name, without regard to letter case. A name belongs to the function that was registered
under it last. Names keep the place in which they first came up, also when they pass to another function, and this
is the order in which `Registry.functions` lists the functions that still have a name.
-/

namespace ScriptEval

/-- Functions in the order of their registration, and for each name in lower case the number of its function. -/
structure Registry where
  registered : List Function := []
  owners : List (Text × Nat) := []

/-- An association list with `key` given to `value`: in its old place, or at the end if the key is new. -/
def assign (key : Text) (value : Nat) : List (Text × Nat) → List (Text × Nat)
  | [] => [(key, value)]
  | (k, v) :: rest => if k = key then (key, value) :: rest else (k, v) :: assign key value rest

namespace Registry

/-- The registry with one more function, which takes over all names it answers to. -/
def register (r : Registry) (f : Function) : Registry where
  registered := r.registered ++ [f]
  owners := f.names.foldl (fun owners name => assign (Unicode.lower name) r.registered.length owners) r.owners

/-- The registry of functions registered one after the other. -/
def ofList (fs : List Function) : Registry := fs.foldl register {}

/-- The function that answers to a name. -/
def find? (r : Registry) (name : Text) : Option Function :=
  (r.owners.lookup (Unicode.lower name)).bind (r.registered[·]?)

/-- A name is in a registry if a function answers to it. -/
instance : Membership Text Registry := ⟨fun r name => (r.find? name).isSome⟩

instance (name : Text) (r : Registry) : Decidable (name ∈ r) :=
  inferInstanceAs (Decidable ((r.find? name).isSome = true))

/-- The functions that have a name, each once. -/
def functions (r : Registry) : List Function := (r.owners.map (·.2)).eraseDups.filterMap (r.registered[·]?)

/-- Calls the function that answers to a name. A refusal that names no function names the one called, as written in
the call. -/
def invoke (r : Registry) (world : World) (name : Text) (args : List Value) : Outcome :=
  match r.find? name with
  | none => { result := .error (.script (.unknownFunction name)) }
  | some f =>
    let outcome := f.run world args
    { outcome with result := outcome.result.mapError (Failure.named name) }

end Registry

end ScriptEval
