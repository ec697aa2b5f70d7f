import ScriptEval.Proofs.List.Repeats
import ScriptEval.Proofs.Registry.Lookup
import Mathlib.Data.List.Nodup

/-!
# Any history of registrations

Functions are objects: two may be alike and yet be two, and one may be registered again. A registry tells them apart
by the numbers of their registrations. Each name has one owner at most, which answers to it and was registered last
among those that do (`Registry.Sound`); every registration keeps this (`Sound.register`), so it holds after any history
(`sound_ofList`).

A history is a list of objects, `function` telling which function an object is. From the numbers of owners follow the
object that a name finds (`objectOf?_ofList`) and the objects that are listed: each once, and those that one of their
names still finds (`nodup_objectsOf`, `mem_objectsOf_iff`). `find?_and_functions_of_history` puts this together for the
registry of the standard functions, whatever is registered in it.
-/

namespace ScriptEval

/-! ## Owners, each name once -/

/-- A name that is assigned keeps its place, and a new one comes last. -/
theorem map_fst_assign (key : Text) (value : Nat) (owners : List (Text × Nat)) :
    (assign key value owners).map (·.1) =
      if key ∈ owners.map (·.1) then owners.map (·.1) else owners.map (·.1) ++ [key] := by
  induction owners with
  | nil => rfl
  | cons entry owners ih =>
    obtain ⟨k, v⟩ := entry
    rw [assign]
    split
    next h => simp [h]
    next h =>
      have hmem : key ∈ k :: owners.map (·.1) ↔ key ∈ owners.map (·.1) := by
        rw [List.mem_cons]
        exact or_iff_right fun e => h e.symm
      simp only [List.map_cons, ih, hmem]
      split <;> rfl

theorem nodup_keys_assign {owners : List (Text × Nat)} (h : (owners.map (·.1)).Nodup) (key : Text) (value : Nat) :
    ((assign key value owners).map (·.1)).Nodup := by
  rw [map_fst_assign]
  split
  next => exact h
  next hkey => exact List.nodup_append.2 ⟨h, List.nodup_singleton _, by rintro a ha _ hb rfl; simp_all⟩

theorem nodup_keys_foldl_assign {owners : List (Text × Nat)} (h : (owners.map (·.1)).Nodup) (names : List Text)
    (value : Nat) :
    ((names.foldl (fun owners name => assign (Unicode.lower name) value owners) owners).map (·.1)).Nodup := by
  induction names generalizing owners with
  | nil => exact h
  | cons name names ih => exact ih (nodup_keys_assign h _ _)

/-- With each name once, the entries are what is looked up. -/
theorem mem_iff_lookup {owners : List (Text × Nat)} (h : (owners.map (·.1)).Nodup) {key : Text} {i : Nat} :
    (key, i) ∈ owners ↔ owners.lookup key = some i := by
  induction owners with
  | nil => simp
  | cons entry owners ih =>
    obtain ⟨k, v⟩ := entry
    obtain ⟨hk, hrest⟩ := List.nodup_cons.1 h
    rw [lookup_cons_pair, List.mem_cons, ih hrest]
    split
    next heq =>
      subst heq
      have hnone : owners.lookup k ≠ some i := fun hl => hk (List.mem_map_of_mem (f := (·.1)) ((ih hrest).2 hl))
      simp [hnone, eq_comm]
    next hne => simp [Ne.symm hne]

namespace Registry

/-- The number of the function that answers to a name. -/
def owner? (r : Registry) (name : Text) : Option Nat := r.owners.lookup (Unicode.lower name)

/-- The numbers of the functions that have a name, each once. -/
def holders (r : Registry) : List Nat := (r.owners.map (·.2)).eraseDups

/-! ## What registrations keep -/

/-- Each name has one owner at most. It answers to the name, and no function that does was registered after it. -/
structure Sound (r : Registry) : Prop where
  nodup : (r.owners.map (·.1)).Nodup
  owner_answers : ∀ key i, r.owners.lookup key = some i →
    ∃ f, r.registered[i]? = some f ∧ ∃ n ∈ f.names, Unicode.lower n = key
  owner_latest : ∀ key i, r.owners.lookup key = some i →
    ∀ j f, r.registered[j]? = some f → (∃ n ∈ f.names, Unicode.lower n = key) → j ≤ i

theorem Sound.empty : Sound {} := ⟨List.nodup_nil, nofun, nofun⟩

/-- The functions that a registry holds after a registration, by their numbers. -/
theorem getElem?_register (r : Registry) (f : Function) (i : Nat) :
    (r.register f).registered[i]? = if i = r.registered.length then some f else r.registered[i]? := by
  show (r.registered ++ [f])[i]? = _
  split
  next h => rw [h, List.getElem?_concat_length]
  next h =>
    rcases Nat.lt_or_gt_of_ne h with hlt | hgt
    · exact List.getElem?_append_left hlt
    · rw [List.getElem?_eq_none (by simp; omega), List.getElem?_eq_none (Nat.le_of_lt hgt)]

/-- **One registration** keeps a registry sound. -/
theorem Sound.register {r : Registry} (h : r.Sound) (f : Function) : (r.register f).Sound where
  nodup := nodup_keys_foldl_assign h.nodup _ _
  owner_answers key i hi := by
    simp only [Registry.register, lookup_foldl_assign] at hi
    rw [getElem?_register]
    split at hi
    next hanswers =>
      cases hi
      exact ⟨f, if_pos rfl, hanswers⟩
    next =>
      obtain ⟨g, hg, hanswers⟩ := h.owner_answers key i hi
      exact ⟨g, by rw [if_neg (Nat.ne_of_lt (List.getElem?_eq_some_iff.1 hg).1), hg], hanswers⟩
  owner_latest key i hi j g hg hanswers := by
    simp only [Registry.register, lookup_foldl_assign] at hi
    rw [getElem?_register] at hg
    split at hg
    next hj =>
      cases hg
      rw [if_pos hanswers] at hi
      exact Nat.le_of_eq (hj.trans (Option.some.inj hi))
    next =>
      split at hi
      next =>
        cases hi
        exact Nat.le_of_lt (List.getElem?_eq_some_iff.1 hg).1
      next => exact h.owner_latest key i hi j g hg hanswers

/-- **Any history** leaves a registry sound. -/
theorem sound_ofList (fs : List Function) : (ofList fs).Sound := by
  induction fs using List.reverseRecOn with
  | nil => exact .empty
  | append_singleton fs f ih => rw [ofList_concat]; exact ih.register f

/-! ## Objects -/

section Objects

variable {ι : Type}

/-- The object that a name finds, in a registry with a history of objects. -/
def objectOf? (r : Registry) (history : List ι) (name : Text) : Option ι := (r.owner? name).bind (history[·]?)

/-- The objects that are listed. -/
def objectsOf (r : Registry) (history : List ι) : List ι := r.holders.filterMap (history[·]?)

theorem mem_holders_iff {r : Registry} (h : r.Sound) {i : Nat} :
    i ∈ r.holders ↔ ∃ f, r.registered[i]? = some f ∧ ∃ name ∈ f.names, r.owner? name = some i := by
  rw [holders, List.mem_eraseDups, List.mem_map]
  constructor
  · rintro ⟨⟨key, i⟩, hentry, rfl⟩
    have hlookup := (mem_iff_lookup h.nodup).1 hentry
    obtain ⟨f, hf, name, hname, rfl⟩ := h.owner_answers key i hlookup
    exact ⟨f, hf, name, hname, hlookup⟩
  · rintro ⟨f, -, name, -, hlookup⟩
    exact ⟨(Unicode.lower name, i), (mem_iff_lookup h.nodup).2 hlookup, rfl⟩

variable (function : ι → Function) (history : List ι)

/-- What a name finds after one more registration. -/
theorem objectOf?_concat (x : ι) (name : Text) :
    (ofList ((history ++ [x]).map function)).objectOf? (history ++ [x]) name =
      if (function x).AnswersTo name then some x else (ofList (history.map function)).objectOf? history name := by
  have hlength : (ofList (history.map function)).registered.length = history.length := by
    rw [registered_ofList, List.length_map]
  rw [List.map_append, List.map_singleton, ofList_concat, objectOf?, owner?, lookup_register, hlength]
  split
  next => simp
  next =>
    rw [objectOf?, owner?]
    cases hi : (ofList (history.map function)).owners.lookup (Unicode.lower name) with
    | none => rfl
    | some i =>
      have hlt := ownersRegistered_ofList _ _ _ hi
      rw [hlength] at hlt
      exact List.getElem?_append_left hlt

/-- A name finds the object registered last among those that answer to it. -/
theorem objectOf?_ofList (name : Text) :
    (ofList (history.map function)).objectOf? history name =
      history.reverse.find? fun x => (function x).AnswersTo name := by
  induction history using List.reverseRecOn with
  | nil => rfl
  | append_singleton history x ih =>
    rw [objectOf?_concat, ih, List.reverse_concat, List.find?_cons]
    by_cases h : (function x).AnswersTo name <;> simp [h]

theorem find?_eq_map_objectOf? (name : Text) :
    (ofList (history.map function)).find? name =
      ((ofList (history.map function)).objectOf? history name).map function := by
  rw [objectOf?, Option.map_bind, find?, owner?, registered_ofList]
  congr 1
  funext i
  rw [Function.comp_apply, List.getElem?_map]

theorem functions_eq_map_objectsOf :
    (ofList (history.map function)).functions =
      ((ofList (history.map function)).objectsOf history).map function := by
  rw [objectsOf, List.map_filterMap, functions, ← holders, registered_ofList]
  congr 1
  funext i
  rw [List.getElem?_map]

/-- Listed are the objects that one of their names still finds. -/
theorem mem_objectsOf_iff {x : ι} :
    x ∈ (ofList (history.map function)).objectsOf history ↔
      ∃ name ∈ (function x).names, (ofList (history.map function)).objectOf? history name = some x := by
  have hregistered (i : Nat) : (ofList (history.map function)).registered[i]? = history[i]?.map function := by
    rw [registered_ofList, List.getElem?_map]
  have hsound := sound_ofList (history.map function)
  rw [objectsOf, List.mem_filterMap]
  constructor
  · rintro ⟨i, hi, hx⟩
    obtain ⟨f, hf, name, hname, howner⟩ := (mem_holders_iff hsound).1 hi
    rw [hregistered, hx] at hf
    cases hf
    exact ⟨name, hname, by rw [objectOf?, howner]; exact hx⟩
  · rintro ⟨name, hname, hobject⟩
    obtain ⟨i, howner, hx⟩ := Option.bind_eq_some_iff.1 hobject
    exact ⟨i, (mem_holders_iff hsound).2 ⟨function x, by rw [hregistered, hx]; rfl, name, hname, howner⟩, hx⟩

/-- An object is listed once, however often it was registered: its last registration took over all its names. -/
theorem nodup_objectsOf : ((ofList (history.map function)).objectsOf history).Nodup := by
  have hsound := sound_ofList (history.map function)
  have hlatest {i j : Nat} {x : ι} (hi : i ∈ (ofList (history.map function)).holders) (hx : history[i]? = some x)
      (hj : history[j]? = some x) : j ≤ i := by
    obtain ⟨f, hf, name, hname, howner⟩ := (mem_holders_iff hsound).1 hi
    have hj' : (ofList (history.map function)).registered[j]? = some (function x) := by
      rw [registered_ofList, List.getElem?_map, hj]
      rfl
    have hi' : (ofList (history.map function)).registered[i]? = some (function x) := by
      rw [registered_ofList, List.getElem?_map, hx]
      rfl
    obtain rfl := Option.some.inj (hf.symm.trans hi')
    exact hsound.owner_latest _ i howner j _ hj' ⟨name, hname, rfl⟩
  rw [objectsOf, List.Nodup, List.pairwise_filterMap]
  refine (nodup_eraseDups _).imp_of_mem ?_
  rintro i j hi hj hne x hx _ hy rfl
  exact hne (Nat.le_antisymm (hlatest hj hy hx) (hlatest hi hx hy))

end Objects

/-- **Lookup and listing after any history.** Let objects be registered in the registry of the standard functions,
which are objects themselves. A name then finds the object that was registered last among those that answer to it, in
any letter case; it is in the registry if there is one. Listed is every object that one of its own names finds, and
none twice. -/
theorem find?_and_functions_of_history (s : Services) {ι : Type} (function : ι → Function) (standard later : List ι)
    (hstandard : standard.map function = Functions.standard s) :
    let history := standard ++ later
    let r := (later.map function).foldl register (.standard s)
    (∀ name, r.objectOf? history name = history.reverse.find? (fun x => (function x).AnswersTo name) ∧
        r.find? name = (r.objectOf? history name).map function ∧
        (name ∈ r ↔ ∃ x ∈ history, (function x).AnswersTo name)) ∧
      r.functions = (r.objectsOf history).map function ∧ (r.objectsOf history).Nodup ∧
      ∀ x, x ∈ r.objectsOf history ↔ ∃ name ∈ (function x).names, r.objectOf? history name = some x := by
  intro history r
  have hr : r = ofList (history.map function) := by
    rw [List.map_append, hstandard, ofList, List.foldl_append]
    rfl
  rw [hr]
  refine ⟨fun name => ⟨objectOf?_ofList function history name, find?_eq_map_objectOf? function history name, ?_⟩,
    functions_eq_map_objectsOf function history, nodup_objectsOf function history,
    fun x => mem_objectsOf_iff function history⟩
  show ((ofList (history.map function)).find? name).isSome = true ↔ _
  rw [find?_eq_map_objectOf?, objectOf?_ofList, Option.isSome_map, List.find?_isSome]
  simp

/-- A function registered twice under one of three names of a file test: it is listed, nothing is twice, and the test
is found by the names that are left to it. -/
theorem find?_and_functions_of_history_probe :
    let s := ({} : World).services {}
    let probe : Function :=
      { name := "IS_File".toList, aliases := ["probe".toList], run := Outcome.ofArguments fun _ => .ok (.int 1) }
    let history := Functions.standard s ++ [probe, probe]
    let r := ([probe, probe].map id).foldl register (.standard s)
    (Functions.standard s).map id = Functions.standard s ∧
      r.objectOf? history "is_file".toList = some probe ∧ (r.objectsOf history).Nodup ∧ probe ∈ r.objectsOf history ∧
      (r.find? "IsFile".toList).map Function.names = some (["is_file", "is-file", "isfile"].map String.toList) ∧
      "is file".toList ∉ r := by
  intro s probe history r
  obtain ⟨hfind, -, hnodup, hlisted⟩ :=
    find?_and_functions_of_history s id (Functions.standard s) [probe, probe] (List.map_id _)
  have hprobe {name : Text} (h : probe.AnswersTo name) : r.objectOf? history name = some probe := by
    rw [(hfind name).1, List.reverse_append]
    exact List.find?_cons_of_pos (by simpa using h)
  have hlistedProbe : probe ∈ r.objectsOf history :=
    (hlisted probe).2 ⟨"IS_File".toList, List.mem_cons_self, hprobe (by decide +kernel)⟩
  refine ⟨List.map_id _, hprobe (by decide +kernel), hnodup, hlistedProbe, ?_, ?_⟩
  · rw [(hfind _).2.1, (hfind _).1]
    decide +kernel
  · exact mt (hfind _).2.2.1 (by decide +kernel)

end Registry

end ScriptEval
