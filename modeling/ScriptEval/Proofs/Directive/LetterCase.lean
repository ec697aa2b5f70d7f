import ScriptEval.Context
import ScriptEval.Proofs.Directive.Evaluation
import ScriptEval.Proofs.Registry.History
import ScriptEval.Proofs.Unicode.Recasing

/-!
# Letter case does not matter

Clauses, platforms and enabled features are only ever compared in lower case. So recasings of all of them go the same
way clause by clause (`Clause.Recased.holds?_eq`, `evaluate_recased`), and with them the verdict, what is collected, and
the places of the features that stay unused (`Context.unusedPositions`). The same holds for the names that functions
are called by. `letterCase_irrelevant` puts this together.
-/

namespace ScriptEval

open Text (Recased map_lower_eq)

/-! ## Clauses -/

/-- The same clause but for the case of ASCII letters. -/
structure Clause.Recased (c c' : Clause) : Prop where
  name : Text.Recased c.name c'.name
  values : List.Forall₂ Text.Recased c.values c'.values
  negated : c.negated = c'.negated

/-- The same platform but for the case of ASCII letters. -/
def Platform.Recased (p p' : Platform) : Prop := ∀ f, Text.Recased (p.get f) (p'.get f)

theorem checkFact_eq (fact : Text) (values : List Text) (negated : Bool) :
    checkFact fact values negated = ((values.map Unicode.lower).any (· == Unicode.lower fact) ^^ negated) := by
  rw [checkFact, List.any_map]
  cases negated <;> simp [Function.comp_def]

theorem checkFeatures_eq (enabled values : List Text) (negated : Bool) :
    checkFeatures enabled values negated =
      (!(enabled.map Unicode.lower).isEmpty &&
        ((values.map Unicode.lower).any (enabled.map Unicode.lower).contains ^^ negated)) := by
  rw [checkFeatures, List.any_map, List.isEmpty_map]
  cases negated <;> simp [Function.comp_def]

namespace Clause.Recased

variable {c c' : Clause} (h : Clause.Recased c c')
include h

theorem predicate?_eq : c.predicate? = c'.predicate? := by
  rw [predicate?, predicate?, Predicate.ofName?, Predicate.ofName?, h.name.lower_eq]

theorem mentions_eq : c.mentions = c'.mentions := by
  rw [mentions, mentions, h.predicate?_eq, map_lower_eq h.values]

/-- Recased clauses hold or do not hold alike. -/
theorem holds?_eq {enabled enabled' : List Text} (he : List.Forall₂ Text.Recased enabled enabled') {p p' : Platform}
    (hp : p.Recased p') : c.holds? enabled p = c'.holds? enabled' p' := by
  rw [holds?, holds?, h.predicate?_eq]
  congr 1
  funext predicate
  cases predicate with
  | fact f => simp only [checkFact_eq, map_lower_eq h.values, (hp f).lower_eq, h.negated]
  | feature => simp only [checkFeatures_eq, map_lower_eq h.values, map_lower_eq he, h.negated]

end Clause.Recased

/-! ## Directives -/

/-- Evaluations that agree in all but the clauses' own letter case. -/
structure Evaluation.Recased (e e' : Evaluation) : Prop where
  collected : e.collected = e'.collected
  verdicts : e.verdicts.map (·.2) = e'.verdicts.map (·.2)
  stoppedAt : Option.Rel Clause.Recased e.stoppedAt e'.stoppedAt

/-- Recased directives are evaluated alike. -/
theorem evaluate_recased {enabled enabled' : List Text} (he : List.Forall₂ Recased enabled enabled') {p p' : Platform}
    (hp : p.Recased p') {directive directive' : List Clause} (hd : List.Forall₂ Clause.Recased directive directive')
    (collected : List Text) :
    (evaluate enabled p directive collected).Recased (evaluate enabled' p' directive' collected) := by
  induction hd generalizing collected with
  | nil => exact ⟨rfl, rfl, .none⟩
  | @cons c c' _ _ hc _ ih =>
    have hholds := hc.holds?_eq he hp
    cases h : c.holds? enabled p with
    | none =>
      rw [evaluate, evaluate, ← hholds, h]
      exact ⟨rfl, rfl, .some hc⟩
    | some holds =>
      rw [evaluate_cons_known _ _ h, evaluate_cons_known _ _ (hholds ▸ h), ← hc.mentions_eq]
      have hrest := ih (collected ++ c.mentions)
      exact ⟨hrest.collected, congrArg (holds :: ·) hrest.verdicts, hrest.stoppedAt⟩

/-- They have the same verdict, or fail alike. -/
theorem Evaluation.Recased.active {e e' : Evaluation} (h : e.Recased e') :
    (∃ active, e.active = .ok active ∧ e'.active = .ok active) ∨
      ∃ name name', Text.Recased name name' ∧ e.active = .error (.script (.unknownPredicate name)) ∧
        e'.active = .error (.script (.unknownPredicate name')) := by
  obtain ⟨verdicts, _, stopped⟩ := e
  obtain ⟨verdicts', _, stopped'⟩ := e'
  obtain ⟨-, hverdicts, hstopped⟩ := h
  cases hstopped with
  | some hc => exact Or.inr ⟨_, _, hc.name, rfl, rfl⟩
  | none =>
    refine Or.inl ⟨_, rfl, ?_⟩
    have hall (vs : List (Clause × Bool)) : vs.all (·.2) = (vs.map (·.2)).all id := by rw [List.all_map]; rfl
    change verdicts.map (·.2) = verdicts'.map (·.2) at hverdicts
    show Except.ok (verdicts'.all (·.2)) = Except.ok (verdicts.all (·.2))
    rw [hall verdicts', ← hverdicts, ← hall]

/-! ## Contexts -/

namespace Context

/-- The same context but for the case of ASCII letters, with the same features mentioned. -/
structure Recased (c c' : Context) : Prop where
  features : List.Forall₂ Text.Recased c.options.features c'.options.features
  platform : c.platform.Recased c'.platform
  collected : c.collected = c'.collected

/-- The places of the unused features among the enabled ones. -/
def unusedPositions (c : Context) : List Nat :=
  (c.options.features.zipIdx.filter fun (f, _) => !c.collected.contains (Unicode.lower f)).map (·.2)

/-- The unused features are those at these places. -/
theorem unused_eq_filterMap (c : Context) : c.unused = c.unusedPositions.filterMap (c.options.features[·]?) := by
  have hfilter : c.unused =
      (c.options.features.zipIdx.filter fun (f, _) => !c.collected.contains (Unicode.lower f)).map (·.1) := by
    conv_lhs => rw [unused, ← List.zipIdx_map_fst 0 c.options.features, List.filter_map]
    rfl
  rw [hfilter, unusedPositions, List.filterMap_map, ← List.filterMap_eq_map]
  apply List.filterMap_congr
  rintro ⟨f, i⟩ hmem
  exact (List.mem_zipIdx_iff_getElem?.1 (List.mem_filter.1 hmem).1).symm

/-- The places depend on the features in lower case. -/
theorem unusedPositions_eq (c : Context) :
    c.unusedPositions =
      ((c.options.features.map Unicode.lower).zipIdx.filter fun (f, _) => !c.collected.contains f).map (·.2) := by
  rw [unusedPositions, List.zipIdx_map, List.filter_map, List.map_map]
  rfl

theorem Recased.unusedPositions_eq {c c' : Context} (h : c.Recased c') : c.unusedPositions = c'.unusedPositions := by
  rw [Context.unusedPositions_eq, Context.unusedPositions_eq, map_lower_eq h.features, h.collected]

/-- Recased contexts evaluate recased directives alike. -/
theorem Recased.evaluate {c c' : Context} (h : c.Recased c') {directive directive' : List Clause}
    (hd : List.Forall₂ Clause.Recased directive directive') :
    (c.evaluate directive).Recased (c'.evaluate directive') := by
  rw [Context.evaluate, Context.evaluate, ← h.collected]
  exact evaluate_recased h.features h.platform hd c.collected

/-- They are recased contexts also afterwards. -/
theorem Recased.isActive {c c' : Context} (h : c.Recased c') {directive directive' : List Clause}
    (hd : List.Forall₂ Clause.Recased directive directive') :
    (c.isActive directive).1.Recased (c'.isActive directive').1 where
  features := h.features
  platform := h.platform
  collected := (h.evaluate hd).collected

end Context

/-- **Letter case does not matter.** Let clauses, enabled features and platform facts be recased, and the features
mentioned before be the same. Then the directive is active in both contexts, in none, or fails in both for an unknown
clause; the same features are collected, and the unused ones are at the same places among the enabled ones. And a
function registered in any registry is found by every recasing of a name that finds it. -/
theorem letterCase_irrelevant {c c' : Context} (hc : c.Recased c') {directive directive' : List Clause}
    (hd : List.Forall₂ Clause.Recased directive directive') (s : Services) (fs : List Function) {name name' : Text}
    (hname : name.Recased name') :
    let after := (c.isActive directive).1
    let after' := (c'.isActive directive').1
    let r := fs.foldl Registry.register (.standard s)
    ((∃ active, (c.isActive directive).2 = .ok active ∧ (c'.isActive directive').2 = .ok active) ∨
        ∃ key key', Text.Recased key key' ∧ (c.isActive directive).2 = .error (.script (.unknownPredicate key)) ∧
          (c'.isActive directive').2 = .error (.script (.unknownPredicate key'))) ∧
      after.collected = after'.collected ∧
      (after.unused = after.unusedPositions.filterMap (after.options.features[·]?) ∧
        after'.unused = after'.unusedPositions.filterMap (after'.options.features[·]?) ∧
        after.unusedPositions = after'.unusedPositions) ∧
      r.owner? name = r.owner? name' ∧ r.find? name = r.find? name' := by
  intro after after' r
  have hafter : after.Recased after' := hc.isActive hd
  refine ⟨(hc.evaluate hd).active, hafter.collected,
    ⟨after.unused_eq_filterMap, after'.unused_eq_filterMap, hafter.unusedPositions_eq⟩, ?_, ?_⟩
  · rw [Registry.owner?, Registry.owner?, hname.lower_eq]
  · rw [Registry.find?, Registry.find?, hname.lower_eq]

/-- A word that ends in a capital sigma in one letter case ends in one in the other: both are unused, in one place. -/
theorem letterCase_irrelevant_sigma :
    let c : Context :=
      { options := { features := ["ASΣ".toList, "Net".toList] }, platform := { os := "Linux".toList } }
    let c' : Context :=
      { options := { features := ["asΣ".toList, "nET".toList] }, platform := { os := "lINUX".toList } }
    let directive : List Clause :=
      [{ name := "Feat".toList, values := ["NeT".toList, "aΣs".toList] },
        { name := "OS".toList, values := ["linux".toList] }]
    let directive' : List Clause :=
      [{ name := "feat".toList, values := ["nEt".toList, "AΣS".toList] },
        { name := "os".toList, values := ["LINUX".toList] }]
    c.Recased c' ∧ List.Forall₂ Clause.Recased directive directive' ∧ Recased "Is_File".toList "iS_fILE".toList ∧
      (c.isActive directive).2.toOption = some true ∧ (c'.isActive directive').2.toOption = some true ∧
      (c.isActive directive).1.unusedPositions = [0] ∧ (c'.isActive directive').1.unusedPositions = [0] ∧
      (c'.isActive directive').1.collected = ["net".toList, "aσs".toList] ∧
      (Registry.standard (({} : World).services {})).owner? "Is_File".toList =
        (Registry.standard (({} : World).services {})).owner? "iS_fILE".toList := by
  intro c c' directive directive'
  have hc : c.Recased c' := ⟨.cons (by decide) (.cons (by decide) .nil), by intro f; cases f <;> decide, rfl⟩
  have hd : List.Forall₂ Clause.Recased directive directive' :=
    .cons ⟨by decide, .cons (by decide) (.cons (by decide) .nil), rfl⟩
      (.cons ⟨by decide, .cons (by decide) .nil, rfl⟩ .nil)
  have hname : Recased "Is_File".toList "iS_fILE".toList := by decide
  obtain ⟨-, hcollected, ⟨-, -, hpositions⟩, howner, -⟩ :=
    letterCase_irrelevant hc hd (({} : World).services {}) [] hname
  have hplaces : (c.isActive directive).1.unusedPositions = [0] := by decide +kernel
  have hmentioned : (c.isActive directive).1.collected = ["net".toList, "aσs".toList] := by decide +kernel
  exact ⟨hc, hd, hname, by decide +kernel, by decide +kernel, hplaces, hpositions.symm.trans hplaces,
    hcollected.symm.trans hmentioned, howner⟩

end ScriptEval
