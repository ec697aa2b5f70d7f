import ScriptEval.Functions.Standard
import Mathlib.Data.List.Induction
import Mathlib.Data.List.Lattice
import Mathlib.Data.List.Nodup
import Mathlib.Data.List.Pairwise

/-!
# What a registry holds

A registered function takes over the names that it answers to (`find?_register`), so that a name is answered by the
function that was registered last among those that answer to it (`find?_ofList`). It is one of those registered
(`mem_registered_of_find?`); in the registry of the standard functions it is a standard function
(`mem_standard_of_find?`), and as no two of these answer to the same name, the one that does (`find?_standard_of_mem`).
A call gives the outcome of that function, but for the name that a refusal is given (`invoke_of_find?`,
`invoke_ofArguments`).
-/

namespace ScriptEval

/-- A name or alias of the function is the name, but for letter case. -/
def Function.AnswersTo (f : Function) (name : Text) : Prop := ∃ n ∈ f.names, Unicode.lower n = Unicode.lower name

instance (f : Function) (name : Text) : Decidable (f.AnswersTo name) :=
  inferInstanceAs (Decidable (∃ n ∈ f.names, Unicode.lower n = Unicode.lower name))

/-! ## Owners of names -/

theorem lookup_cons_pair (key k : Text) (v : Nat) (owners : List (Text × Nat)) :
    ((k, v) :: owners).lookup key = if k = key then some v else owners.lookup key := by
  by_cases h : k = key
  · subst h
    simp
  · have hbeq : (key == k) = false := beq_eq_false_iff_ne.2 fun e => h e.symm
    rw [List.lookup_cons, hbeq, if_neg h]

theorem lookup_assign (key k : Text) (v : Nat) (owners : List (Text × Nat)) :
    (assign k v owners).lookup key = if k = key then some v else owners.lookup key := by
  induction owners with
  | nil => exact lookup_cons_pair ..
  | cons entry owners ih =>
    obtain ⟨k', v'⟩ := entry
    rw [assign]
    split
    next h =>
      rw [lookup_cons_pair, lookup_cons_pair, h]
      split <;> rfl
    next h =>
      rw [lookup_cons_pair, ih, lookup_cons_pair]
      split
      next h' => rw [if_neg fun e => h (h'.trans e.symm)]
      next => rfl

/-- All of several names pass to one owner. -/
theorem lookup_foldl_assign (key : Text) (names : List Text) (v : Nat) (owners : List (Text × Nat)) :
    (names.foldl (fun owners name => assign (Unicode.lower name) v owners) owners).lookup key =
      if ∃ n ∈ names, Unicode.lower n = key then some v else owners.lookup key := by
  induction names generalizing owners with
  | nil => simp
  | cons n names ih =>
    rw [List.foldl_cons, ih, lookup_assign]
    by_cases hn : Unicode.lower n = key <;> by_cases hnames : ∃ n ∈ names, Unicode.lower n = key <;> simp [hn, hnames]

namespace Registry

/-- Owners are functions that the registry holds. -/
def OwnersRegistered (r : Registry) : Prop := ∀ key i, r.owners.lookup key = some i → i < r.registered.length

theorem lookup_register (r : Registry) (f : Function) (name : Text) :
    (r.register f).owners.lookup (Unicode.lower name) =
      if f.AnswersTo name then some r.registered.length else r.owners.lookup (Unicode.lower name) :=
  lookup_foldl_assign ..

theorem OwnersRegistered.register {r : Registry} (h : r.OwnersRegistered) (f : Function) :
    (r.register f).OwnersRegistered := by
  intro key i hi
  show i < (r.registered ++ [f]).length
  rw [List.length_append, List.length_singleton]
  simp only [Registry.register, lookup_foldl_assign] at hi
  split at hi
  · cases hi
    exact Nat.lt_succ_self _
  · exact Nat.lt_succ_of_lt (h key i hi)

/-- A registered function takes over the names that it answers to, and no others. -/
theorem find?_register {r : Registry} (h : r.OwnersRegistered) (f : Function) (name : Text) :
    (r.register f).find? name = if f.AnswersTo name then some f else r.find? name := by
  have hregistered : (r.register f).registered = r.registered ++ [f] := rfl
  rw [find?, find?, lookup_register, hregistered]
  split
  · simp
  · cases hi : r.owners.lookup (Unicode.lower name) with
    | none => rfl
    | some i => exact List.getElem?_append_left (h _ i hi)

theorem ofList_concat (fs : List Function) (f : Function) : ofList (fs ++ [f]) = (ofList fs).register f := by
  rw [ofList, List.foldl_append]
  rfl

theorem ownersRegistered_ofList (fs : List Function) : (ofList fs).OwnersRegistered := by
  induction fs using List.reverseRecOn with
  | nil => nofun
  | append_singleton fs f ih => rw [ofList_concat]; exact ih.register f

/-- The function that was registered last among those that answer to a name. -/
theorem find?_ofList (fs : List Function) (name : Text) :
    (ofList fs).find? name = fs.reverse.find? (·.AnswersTo name) := by
  induction fs using List.reverseRecOn with
  | nil => rfl
  | append_singleton fs f ih =>
    rw [ofList_concat, find?_register (ownersRegistered_ofList fs), ih, List.reverse_concat, List.find?_cons]
    by_cases h : f.AnswersTo name <;> simp [h]

theorem registered_foldl (fs : List Function) (r : Registry) :
    (fs.foldl register r).registered = r.registered ++ fs := by
  induction fs generalizing r with
  | nil => simp
  | cons f fs ih => rw [List.foldl_cons, ih, register, List.append_assoc]; rfl

/-- The registry of a list of functions holds them in their order. -/
theorem registered_ofList (fs : List Function) : (ofList fs).registered = fs := registered_foldl fs {}

theorem mem_registered_of_find? {r : Registry} {name : Text} {f : Function} (h : r.find? name = some f) :
    f ∈ r.registered := by
  obtain ⟨i, _, hi⟩ := Option.bind_eq_some_iff.1 h
  exact List.mem_of_getElem? hi

theorem mem_standard_of_find? {s : Services} {name : Text} {f : Function} (h : (standard s).find? name = some f) :
    f ∈ Functions.standard s := by
  have := mem_registered_of_find? h
  rwa [standard, registered_ofList] at this

theorem answersTo_of_find? {s : Services} {name : Text} {f : Function} (h : (standard s).find? name = some f) :
    f.AnswersTo name := by
  rw [standard, find?_ofList] at h
  simpa using List.find?_some h

theorem find?_standard_eq_none_iff {s : Services} {name : Text} :
    (standard s).find? name = none ↔ ∀ f ∈ Functions.standard s, ¬f.AnswersTo name := by
  simp [standard, find?_ofList]

/-- What standard functions are called does not depend on the services. -/
theorem map_names_standard (s s' : Services) :
    (Functions.standard s).map Function.names = (Functions.standard s').map Function.names := by
  simp only [Functions.standard, Functions.facts, Functions.paths, Functions.time, Functions.strings, Functions.padding,
    List.map_append, List.map_map, List.map_cons, List.map_nil, Function.comp_def, Function.names]

/-- No two names of standard functions, nor two of one function, are the same but for letter case. -/
theorem nodup_names_standard (s : Services) :
    (((Functions.standard s).map Function.names).flatMap (·.map Unicode.lower)).Nodup := by
  rw [map_names_standard s (({} : World).services {})]
  decide +kernel

/-- A name is answered by one standard function at most. -/
theorem eq_of_answersTo {s : Services} {f g : Function} (hf : f ∈ Functions.standard s)
    (hg : g ∈ Functions.standard s) {name : Text} (hfn : f.AnswersTo name) (hgn : g.AnswersTo name) : f = g := by
  have hnodup := nodup_names_standard s
  rw [List.flatMap_map, List.nodup_flatMap] at hnodup
  have : Std.Symm (Function.onFun List.Disjoint fun f : Function => f.names.map Unicode.lower) :=
    ⟨fun _ _ => List.Disjoint.symm⟩
  by_contra hne
  obtain ⟨n, hn, hlower⟩ := hfn
  obtain ⟨n', hn', hlower'⟩ := hgn
  exact hnodup.2.forall hf hg hne (List.mem_map.2 ⟨n, hn, hlower⟩) (List.mem_map.2 ⟨n', hn', hlower'⟩)

/-- A standard function is found by the names that it answers to. -/
theorem find?_standard_of_mem {s : Services} {f : Function} (hf : f ∈ Functions.standard s) {name : Text}
    (h : f.AnswersTo name) : (standard s).find? name = some f := by
  cases hfind : (standard s).find? name with
  | none => exact absurd h (find?_standard_eq_none_iff.1 hfind f hf)
  | some g => rw [eq_of_answersTo (mem_standard_of_find? hfind) hf (answersTo_of_find? hfind) h]

theorem invoke_of_find?_eq_none {r : Registry} {name : Text} (h : r.find? name = none) (world : World)
    (args : List Value) : r.invoke world name args = { result := .error (.script (.unknownFunction name)) } := by
  rw [invoke, h]

theorem invoke_of_find? {r : Registry} {name : Text} {f : Function} (h : r.find? name = some f) (world : World)
    (args : List Value) :
    r.invoke world name args =
      { written := (f.run world args).written, result := (f.run world args).result.mapError (Failure.named name) } := by
  rw [invoke, h]

/-- A call of a standard function that looks at its arguments alone. -/
theorem invoke_ofArguments {s : Services} {f : Function} {name : Text} {rule : List Value → Except Failure Value}
    (hf : f ∈ Functions.standard s) (hname : f.AnswersTo name) (hrun : f.run = Outcome.ofArguments rule)
    (world : World) (args : List Value) :
    (standard s).invoke world name args = { result := (rule args).mapError (Failure.named name) } := by
  rw [invoke_of_find? (find?_standard_of_mem hf hname), hrun]
  rfl

/-- A call by name of a standard function that looks at its arguments alone. -/
theorem invoke_of_rule {s : Services} {name : Text} {rule : List Value → Except Failure Value}
    (h : ∃ f ∈ Functions.standard s, f.name = name ∧ f.run = Outcome.ofArguments rule) (world : World)
    (args : List Value) : (standard s).invoke world name args = { result := (rule args).mapError (Failure.named name) } := by
  obtain ⟨f, hf, hname, hrun⟩ := h
  have hanswers : f.AnswersTo name := ⟨f.name, List.mem_cons_self, by rw [hname]⟩
  exact invoke_ofArguments hf hanswers hrun world args

end Registry

end ScriptEval
