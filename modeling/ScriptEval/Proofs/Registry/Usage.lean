import ScriptEval.Proofs.Registry.History

/-!
# A registry in use

Functions are registered in the registry of the standard functions and names are called, in any order (`Event`,
`Usage.run`). What the calls write goes to one stream, and calls leave the registry as it is, so that after any events it
holds the objects that were registered (`registry_run`).

A call has the outcome of the function that its name finds, but for the name that a refusal is given
(`calledBy_invoke`, `Outcome.CalledBy`). So two calls that find the same object, by whatever names, write the same and give
the same value, or fail alike but for this name (`invoke_by_either_name`).
-/

namespace ScriptEval

/-! ## Refusals and the functions they name -/

namespace Failure

/-- The failure without the function that a refusal names. -/
def unnamed : Failure → Failure
  | script (.refused why _) => script (.refused why)
  | f => f

theorem unnamed_named (name : Text) (f : Failure) : (f.named name).unnamed = f.unnamed := by
  unfold named
  split <;> rfl

theorem message_unnamed (f : Failure) : f.unnamed.message = f.message := by
  unfold unnamed
  split <;> rfl

theorem named_refuse (name : Text) (why : Refusal) : (refuse why).named name = script (.refused why name) := rfl

theorem named_of_ne_nil {function : Text} (h : function ≠ []) (name : Text) (why : Refusal) :
    (script (.refused why function)).named name = script (.refused why function) := by
  cases function with
  | nil => exact absurd rfl h
  | cons c function => rfl

end Failure

/-- The display form shows the function that a refusal names. -/
theorem ScriptError.format_refused {function : Text} (h : function ≠ []) (why : Refusal) :
    (refused why function).format = "error[E402]: ".toList ++ function ++ ": ".toList ++ why.message := by
  cases function with
  | nil => exact absurd rfl h
  | cons c function =>
    have hcode : "error[".toList ++ "E402".toList ++ "]: ".toList = "error[E402]: ".toList := by decide
    show "error[".toList ++ "E402".toList ++ "]: ".toList ++ (c :: function ++ ": ".toList) ++ why.message = _
    rw [hcode, ← List.append_assoc]

/-- The outcome of a call by `name`, when `own` is that of the function itself. It wrote the same and gives the same value
or a failure of the same kind with the same message. A refusal that names no function names the one called, exactly as it
was written, one that names a function keeps it, and the display form shows it unless it is empty. -/
structure Outcome.CalledBy (name : Text) (own called : Outcome) : Prop where
  written : called.written = own.written
  value : ∀ v, own.result = .ok v → called.result = .ok v
  failure : ∀ e, own.result = .error e →
    ∃ e', called.result = .error e' ∧ e'.unnamed = e.unnamed ∧ e'.message = e.message
  unnamed : ∀ why, own.result = .error (.refuse why) → called.result = .error (.script (.refused why name))
  named : ∀ why function, function ≠ [] → own.result = .error (.script (.refused why function)) →
    called.result = .error (.script (.refused why function))
  shown : ∀ why function, function ≠ [] → called.result = .error (.script (.refused why function)) →
    (ScriptError.refused why function).format = "error[E402]: ".toList ++ function ++ ": ".toList ++ why.message

namespace Registry

theorem calledBy_invoke {r : Registry} {name : Text} {f : Function} (h : r.find? name = some f) (world : World)
    (args : List Value) : (f.run world args).CalledBy name (r.invoke world name args) := by
  rw [invoke_of_find? h]
  refine { written := rfl, value := ?_, failure := ?_, unnamed := ?_, named := ?_, shown := ?_ }
  · intro v hv
    rw [hv]
    rfl
  · intro e he
    rw [he]
    exact ⟨_, rfl, Failure.unnamed_named name e, by rw [← Failure.message_unnamed, Failure.unnamed_named,
      Failure.message_unnamed]⟩
  · intro why hwhy
    rw [hwhy]
    exact congrArg Except.error (Failure.named_refuse name why)
  · intro why function hfunction hwhy
    rw [hwhy]
    exact congrArg Except.error (Failure.named_of_ne_nil hfunction name why)
  · intro why function hfunction _
    exact ScriptError.format_refused hfunction why

/-! ## Events -/

/-- A name called with arguments, in the world as it is then. -/
structure Call where
  world : World
  name : Text
  args : List Value

/-- What is done with a registry: an object is registered in it, or a name is called. -/
inductive Event (ι : Type)
  | register (x : ι)
  | call (c : Call)

/-- A registry in use: what its calls wrote, and the results that they gave. -/
structure Usage where
  registry : Registry
  stream : Text := []
  results : List (Except Failure Value) := []

/-- The objects registered in events. -/
def registeredIn {ι : Type} (events : List (Event ι)) : List ι :=
  events.filterMap fun
    | .register x => some x
    | .call _ => none

namespace Usage

variable {ι : Type} (function : ι → Function)

/-- The registry of the standard functions, not used yet. -/
def start (s : Services) : Usage := { registry := .standard s }

def after (u : Usage) : Event ι → Usage
  | .register x => { u with registry := u.registry.register (function x) }
  | .call c =>
    let outcome := u.registry.invoke c.world c.name c.args
    { u with stream := u.stream ++ outcome.written, results := u.results ++ [outcome.result] }

/-- The registry after events, one after the other. -/
def run (u : Usage) (events : List (Event ι)) : Usage := events.foldl (after function) u

theorem run_concat (u : Usage) (events : List (Event ι)) (e : Event ι) :
    u.run function (events ++ [e]) = (u.run function events).after function e := by
  rw [run, List.foldl_append]
  rfl

/-- **What a registry holds** after any events: the standard functions and what was registered, calls or not. -/
theorem registry_run (s : Services) {standard : List ι} (hstandard : standard.map function = Functions.standard s)
    (events : List (Event ι)) :
    ((start s).run function events).registry = .ofList ((standard ++ registeredIn events).map function) := by
  induction events using List.reverseRecOn with
  | nil => rw [registeredIn, List.filterMap_nil, List.append_nil, hstandard]; rfl
  | append_singleton events e ih =>
    rw [run_concat, registeredIn, List.filterMap_append, ← registeredIn]
    cases e with
    | register x =>
      show ((start s).run function events).registry.register (function x) = _
      rw [ih, ← ofList_concat]
      simp
    | call c =>
      show ((start s).run function events).registry = _
      simpa using ih

/-- The object that a name finds after events, if the standard functions are the objects `standard`. -/
def found (s : Services) (standard : List ι) (events : List (Event ι)) (name : Text) : Option ι :=
  ((start s).run function events).registry.objectOf? (standard ++ registeredIn events) name

theorem found_eq (s : Services) {standard : List ι} (hstandard : standard.map function = Functions.standard s)
    (events : List (Event ι)) (name : Text) :
    found function s standard events name =
      (standard ++ registeredIn events).reverse.find? fun x => (function x).AnswersTo name := by
  rw [found, registry_run function s hstandard, objectOf?_ofList]

theorem find?_run (s : Services) {standard : List ι} (hstandard : standard.map function = Functions.standard s)
    (events : List (Event ι)) (name : Text) :
    ((start s).run function events).registry.find? name = (found function s standard events name).map function := by
  rw [found, registry_run function s hstandard, find?_eq_map_objectOf?]

end Usage

open Usage in
/-- **Two names of one object.** Objects are registered in the registry of the standard functions and names are called,
in any order, before a call and between it and another call with the same arguments. If the names of both find the same
object, each when it is called, then the two calls write the same, and both give the same value, or both fail, alike but
for the function that a refusal names and with the same message. What each refusal names and shows is that of
`Outcome.CalledBy`. -/
theorem invoke_by_either_name (s : Services) {ι : Type} (function : ι → Function) (standard : List ι)
    (hstandard : standard.map function = Functions.standard s) (before between : List (Event ι)) (world : World)
    (name name' : Text) (args : List Value) {x : ι} (hfound : found function s standard before name = some x)
    (hfound' : found function s standard (before ++ .call ⟨world, name, args⟩ :: between) name' = some x) :
    let own := (function x).run world args
    let first := ((start s).run function before).registry.invoke world name args
    let second := ((start s).run function (before ++ .call ⟨world, name, args⟩ :: between)).registry.invoke
      world name' args
    first.written = second.written ∧
      ((∃ v, first.result = .ok v ∧ second.result = .ok v) ∨
        ∃ e e', first.result = .error e ∧ second.result = .error e' ∧ e.unnamed = e'.unnamed ∧
          e.message = e'.message) ∧
      own.CalledBy name first ∧ own.CalledBy name' second := by
  intro own first second
  have hfirst : own.CalledBy name first :=
    calledBy_invoke (by rw [find?_run function s hstandard, hfound]; rfl) world args
  have hsecond : own.CalledBy name' second :=
    calledBy_invoke (by rw [find?_run function s hstandard, hfound']; rfl) world args
  refine ⟨hfirst.written.trans hsecond.written.symm, ?_, hfirst, hsecond⟩
  cases hown : own.result with
  | ok v => exact Or.inl ⟨v, hfirst.value v hown, hsecond.value v hown⟩
  | error e =>
    obtain ⟨e₁, he₁, hkind₁, hmessage₁⟩ := hfirst.failure e hown
    obtain ⟨e₂, he₂, hkind₂, hmessage₂⟩ := hsecond.failure e hown
    exact Or.inr ⟨e₁, e₂, he₁, he₂, hkind₁.trans hkind₂.symm, hmessage₁.trans hmessage₂.symm⟩

open Usage in
/-- A function that writes and then refuses, called by its name and, after a call of another function, by an alias in
other letter case. -/
theorem invoke_by_either_name_probe :
    let s := ({} : World).services {}
    let standard := Functions.standard s
    let probe : Function :=
      { name := "probe".toList, aliases := ["Alias".toList],
        run := fun _ _ => { written := "x".toList, result := .error (.refuse (.missing "path".toList)) } }
    let before : List (Event Function) := [.register probe]
    let between : List (Event Function) := [.call ⟨{}, "print".toList, [.int 7]⟩]
    let later := before ++ .call ⟨{}, "probe".toList, []⟩ :: between
    standard.map id = Functions.standard s ∧ found id s standard before "probe".toList = some probe ∧
      found id s standard later "ALIAS".toList = some probe ∧
      let first := ((start s).run id before).registry.invoke {} "probe".toList []
      let second := ((start s).run id later).registry.invoke {} "ALIAS".toList []
      first.written = second.written ∧
        first.result = .error (.script (.refused (.missing "path".toList) "probe".toList)) ∧
        second.result = .error (.script (.refused (.missing "path".toList) "ALIAS".toList)) := by
  intro s standard probe before between later
  have hstandard : standard.map id = Functions.standard s := List.map_id _
  have hprobe {events : List (Event Function)} (hevents : registeredIn events = [probe]) {name : Text}
      (h : probe.AnswersTo name) : found id s standard events name = some probe := by
    rw [found_eq id s hstandard, hevents, List.reverse_append]
    exact List.find?_cons_of_pos (by simpa using h)
  have hfound : found id s standard before "probe".toList = some probe := hprobe rfl (by decide +kernel)
  have hfound' : found id s standard later "ALIAS".toList = some probe := hprobe rfl (by decide +kernel)
  obtain ⟨hwritten, -, hfirst, hsecond⟩ :=
    invoke_by_either_name s id standard hstandard before between {} "probe".toList "ALIAS".toList [] hfound hfound'
  exact ⟨hstandard, hfound, hfound', hwritten, hfirst.unnamed _ rfl, hsecond.unnamed _ rfl⟩

end Registry

end ScriptEval
