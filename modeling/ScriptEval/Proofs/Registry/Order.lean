import ScriptEval.Proofs.Registry.History

/-!
# The order of the functions

A registry keeps each name in the place where it first came up (`map_fst_owners`), also when the name passes to another
function. So the objects are listed by the names of all registrations in their order: each object where the first of
these names stands that finds it (`objectsOf_eq`). An object that takes over an old name therefore comes before objects
that were registered earlier but are found by later names only, and the list is not in the order of registration
(`functions_out_of_order`). It is for an object that brings new names only (`listed_after_of_new_names`).
-/

namespace ScriptEval

/-- After more names were assigned the names are those that came up so far, each once. -/
theorem map_fst_foldl_assign {owners : List (Text × Nat)} {listed : List Text}
    (h : owners.map (·.1) = listed.eraseDups) (names : List Text) (value : Nat) :
    (names.foldl (fun owners name => assign (Unicode.lower name) value owners) owners).map (·.1) =
      (listed ++ names.map Unicode.lower).eraseDups := by
  induction names generalizing owners listed with
  | nil => rw [List.foldl_nil, h, List.map_nil, List.append_nil]
  | cons name names ih =>
    have hstep : (assign (Unicode.lower name) value owners).map (·.1) = (listed ++ [Unicode.lower name]).eraseDups := by
      rw [map_fst_assign, eraseDups_concat, h]
      simp only [List.mem_eraseDups]
    rw [List.foldl_cons, ih hstep, List.append_assoc]
    rfl

namespace Registry

/-! ## Names in their places -/

/-- **Names keep the place in which they first came up.** -/
theorem map_fst_owners (fs : List Function) :
    (ofList fs).owners.map (·.1) = ((fs.flatMap Function.names).map Unicode.lower).eraseDups := by
  induction fs using List.reverseRecOn with
  | nil => rfl
  | append_singleton fs f ih =>
    rw [ofList_concat, List.flatMap_append, List.map_append, List.flatMap_singleton]
    exact map_fst_foldl_assign ih f.names _

/-- The functions that have a name, by the names in their order. -/
theorem holders_ofList (fs : List Function) :
    (ofList fs).holders = ((fs.flatMap Function.names).filterMap (ofList fs).owner?).eraseDups := by
  have hentries : (ofList fs).owners.map (·.2) =
      ((ofList fs).owners.map (·.1)).filterMap (fun key => (ofList fs).owners.lookup key) := by
    rw [List.filterMap_map, ← List.filterMap_eq_map]
    apply List.filterMap_congr
    rintro ⟨key, i⟩ hentry
    exact ((mem_iff_lookup (sound_ofList fs).nodup).1 hentry).symm
  rw [holders, hentries, map_fst_owners, eraseDups_filterMap_eraseDups, List.filterMap_map]
  rfl

section Objects

variable {ι : Type} (function : ι → Function) (history : List ι)

/-- **The objects in their order**: by the names of all registrations, each object where a name first finds it. -/
theorem objectsOf_eq [DecidableEq ι] :
    (ofList (history.map function)).objectsOf history =
      ((history.flatMap fun x => (function x).names).filterMap
        ((ofList (history.map function)).objectOf? history)).eraseDups := by
  rw [← eraseDups_of_nodup (nodup_objectsOf function history), objectsOf, holders_ofList, eraseDups_filterMap_eraseDups,
    List.filterMap_filterMap, List.flatMap_map]
  rfl

/-- An object is listed before another one if a name finds it that came up before all names that find the other. -/
theorem pair_sublist_objectsOf_iff {x y : ι} :
    [x, y].Sublist ((ofList (history.map function)).objectsOf history) ↔
      x ≠ y ∧ ∃ front name back, (history.flatMap fun x => (function x).names) = front ++ name :: back ∧
        (ofList (history.map function)).objectOf? history name = some x ∧
        (∀ n ∈ front, (ofList (history.map function)).objectOf? history n ≠ some y) ∧
        ∃ n ∈ back, (ofList (history.map function)).objectOf? history n = some y := by
  classical
  rw [objectsOf_eq, pair_sublist_eraseDups_filterMap_iff]

variable {function history}

theorem answersTo_of_objectOf? {x : ι} {name : Text}
    (h : (ofList (history.map function)).objectOf? history name = some x) : (function x).AnswersTo name := by
  rw [objectOf?_ofList] at h
  simpa using List.find?_some h

/-- **An object that brings new names only** is listed after those registered before it. -/
theorem listed_after_of_new_names {x y : ι} {before after : List ι} (hhistory : history = before ++ y :: after)
    (hnew : ∀ z ∈ before, ∀ name ∈ (function z).names, ¬(function y).AnswersTo name) (hx : x ∈ before)
    (hlistedx : x ∈ (ofList (history.map function)).objectsOf history)
    (hlistedy : y ∈ (ofList (history.map function)).objectsOf history) :
    [x, y].Sublist ((ofList (history.map function)).objectsOf history) := by
  obtain ⟨name, hname, hfindsx⟩ := (mem_objectsOf_iff function history).1 hlistedx
  obtain ⟨name', hname', hfindsy⟩ := (mem_objectsOf_iff function history).1 hlistedy
  have hne : x ≠ y := by
    rintro rfl
    exact hnew x hx name hname ⟨name, hname, rfl⟩
  have hold : name ∈ before.flatMap fun z => (function z).names := List.mem_flatMap.2 ⟨x, hx, hname⟩
  obtain ⟨front, back, hsplit⟩ := List.append_of_mem hold
  refine (pair_sublist_objectsOf_iff function history).2 ⟨hne, front, name,
    back ++ ((y :: after).flatMap fun z => (function z).names), ?_, hfindsx, fun n hn hfinds => ?_, name', ?_, hfindsy⟩
  · rw [hhistory, List.flatMap_append, hsplit, List.append_assoc, List.cons_append]
  -- the names in front are names of objects before `y`
  · have hmem : n ∈ before.flatMap fun z => (function z).names := hsplit ▸ List.mem_append_left _ hn
    obtain ⟨z, hz, hnz⟩ := List.mem_flatMap.1 hmem
    exact hnew z hz n hnz (answersTo_of_objectOf? hfinds)
  · exact List.mem_append_right _ (List.mem_flatMap.2 ⟨y, List.mem_cons_self, hname'⟩)

end Objects

/-! ## With the standard functions -/

/-- What is registered after the standard functions continues their history. -/
theorem foldl_register_standard {s : Services} {ι : Type} {function : ι → Function} {standard : List ι}
    (hstandard : standard.map function = Functions.standard s) (later : List ι) :
    (later.map function).foldl register (.standard s) = ofList ((standard ++ later).map function) := by
  rw [List.map_append, hstandard, ofList, List.foldl_append]
  rfl

/-- **The order of the functions** after any history of registrations: one object is listed before another exactly if a
name finds it that came up before all names that find the other, whether it was registered before the other or not. An
object that brings new names only is listed after all that were registered before it. -/
theorem functions_in_order_of_names (s : Services) {ι : Type} (function : ι → Function) (standard later : List ι)
    (hstandard : standard.map function = Functions.standard s) :
    let history := standard ++ later
    let r := (later.map function).foldl register (.standard s)
    r.functions = (r.objectsOf history).map function ∧
      (∀ x y, [x, y].Sublist (r.objectsOf history) ↔
        x ≠ y ∧ ∃ front name back, (history.flatMap fun z => (function z).names) = front ++ name :: back ∧
          r.objectOf? history name = some x ∧ (∀ n ∈ front, r.objectOf? history n ≠ some y) ∧
          ∃ n ∈ back, r.objectOf? history n = some y) ∧
      ∀ before y after, history = before ++ y :: after →
        (∀ z ∈ before, ∀ name ∈ (function z).names, ¬(function y).AnswersTo name) →
        ∀ x ∈ before, x ∈ r.objectsOf history → y ∈ r.objectsOf history → [x, y].Sublist (r.objectsOf history) := by
  intro history r
  have hr : r = ofList (history.map function) := foldl_register_standard hstandard later
  rw [hr]
  exact ⟨functions_eq_map_objectsOf function history, fun x y => pair_sublist_objectsOf_iff function history,
    fun before y after hhistory hnew x hx => listed_after_of_new_names hhistory hnew hx⟩

/-- A function with a new name is listed after `join`, which was there before it. -/
theorem functions_in_order_of_names_probe :
    let s := ({} : World).services {}
    let probe : Function := { name := "probe".toList, run := fun _ _ => { result := .ok (.int 1) } }
    let history := Functions.standard s ++ [probe]
    let r := [probe].foldl register (.standard s)
    (Functions.standard s).map id = Functions.standard s ∧
      ∃ join ∈ Functions.standard s, join.name = "join".toList ∧ [join, probe].Sublist (r.objectsOf history) ∧
        r.functions = r.objectsOf history := by
  intro s probe history r
  have hstandard : (Functions.standard s).map id = Functions.standard s := List.map_id _
  have hr : r = ofList (history.map id) := foldl_register_standard hstandard [probe]
  have hjoin : "join".toList ∈ (Functions.standard s).map Function.name := by decide +kernel
  obtain ⟨join, hmem, hname⟩ := List.mem_map.1 hjoin
  have hanswers : join.AnswersTo "join".toList := ⟨join.name, List.mem_cons_self, by rw [hname]⟩
  have hnew : ∀ f ∈ Functions.standard s, ∀ name ∈ f.names, ¬probe.AnswersTo name := by
    have hall : ∀ names ∈ (Functions.standard s).map Function.names, ∀ name ∈ names, ¬probe.AnswersTo name := by
      decide +kernel
    exact fun f hf => hall f.names (List.mem_map_of_mem hf)
  have hreverse : history.reverse = probe :: (Functions.standard s).reverse := by simp [history]
  have hfindsJoin : r.objectOf? history "join".toList = some join := by
    rw [hr, objectOf?_ofList, hreverse, List.find?_cons_of_neg (by decide +kernel)]
    exact (find?_ofList _ _).symm.trans (find?_standard_of_mem hmem hanswers)
  have hfindsProbe : r.objectOf? history "probe".toList = some probe := by
    rw [hr, objectOf?_ofList, hreverse, List.find?_cons_of_pos (by decide +kernel)]
  have hlisted {f : Function} {name : Text} (hname : name ∈ f.names) (hfinds : r.objectOf? history name = some f) :
      f ∈ r.objectsOf history := by
    rw [hr] at hfinds ⊢
    exact (mem_objectsOf_iff id history).2 ⟨name, hname, hfinds⟩
  obtain ⟨hlist, -, hafter⟩ := functions_in_order_of_names s id (Functions.standard s) [probe] hstandard
  refine ⟨hstandard, join, hmem, hname, ?_, hlist.trans (List.map_id _)⟩
  exact hafter (Functions.standard s) probe [] rfl hnew join hmem
    (hlisted (by rw [← hname]; exact List.mem_cons_self) hfindsJoin) (hlisted List.mem_cons_self hfindsProbe)

/-- **Not in the order of registration.** The second function takes over the first name of the first one, which is then
found by a later name, and comes before it. -/
theorem functions_out_of_order :
    let s := ({} : World).services {}
    let one : Outcome := { result := .ok (.int 1) }
    let first : Function := { name := "save".toList, aliases := ["store".toList], run := fun _ _ => one }
    let second : Function := { name := "SAVE".toList, run := fun _ _ => one }
    let history := Functions.standard s ++ [first, second]
    let r := [first, second].foldl register (.standard s)
    (history.map Function.name).Nodup ∧ [first, second].Sublist history ∧
      first ∈ r.objectsOf history ∧ second ∈ r.objectsOf history ∧
      r.functions.map Function.name = (Functions.standard s).map Function.name ++ ["SAVE".toList, "save".toList] ∧
      ¬[first, second].Sublist (r.objectsOf history) := by
  intro s one first second history r
  have hr : r = ofList (history.map id) := foldl_register_standard (List.map_id _) [first, second]
  have hnames : r.functions.map Function.name =
      (Functions.standard s).map Function.name ++ ["SAVE".toList, "save".toList] := by decide +kernel
  have hlist : r.functions = r.objectsOf history := by
    rw [hr, functions_eq_map_objectsOf, List.map_id]
  have hreverse : history.reverse = second :: first :: (Functions.standard s).reverse := by simp [history]
  have hfirst : r.objectOf? history "store".toList = some first := by
    rw [hr, objectOf?_ofList, hreverse, List.find?_cons_of_neg (by decide +kernel),
      List.find?_cons_of_pos (by decide +kernel)]
  have hsecond : r.objectOf? history "SAVE".toList = some second := by
    rw [hr, objectOf?_ofList, hreverse, List.find?_cons_of_pos (by decide +kernel)]
  refine ⟨by decide +kernel, by simp [history], ?_, ?_, hnames, fun hsub => ?_⟩
  · rw [hr, mem_objectsOf_iff, ← hr]
    exact ⟨"store".toList, by decide, hfirst⟩
  · rw [hr, mem_objectsOf_iff, ← hr]
    exact ⟨"SAVE".toList, by decide, hsecond⟩
  · have hsub' := hsub.map Function.name
    rw [← hlist, hnames] at hsub'
    revert hsub'
    decide +kernel

end Registry

end ScriptEval
