import ScriptEval.Proofs.Directive.Alternatives

/-!
# Enabling more features

Let `more` be a list in which every feature of `enabled` is, in whatever letter case. A clause that asks for features
still holds when these are enabled (`Predicate.holds_mono`), and a negated one that holds then did so before, if any
feature was enabled at all (`Predicate.holds_negated_anti`): where none is, no feature clause holds, negated or not
(`inactive_of_none_enabled`). Clauses on facts do not change. So the verdict of a directive moves one way if its feature
clauses are all plain, and the other way if they are all negated (`evaluate_more_features`).
-/

namespace ScriptEval

variable {enabled more : List Text} {p : Platform}

/-- The verdict of a clause is that of its predicate. -/
theorem Clause.holds?_eq_some_iff {c : Clause} {verdict : Bool} : c.holds? enabled p = some verdict ↔
    ∃ k, c.predicate? = some k ∧ k.holds enabled p c.values c.negated = verdict := by
  constructor
  · intro h
    obtain ⟨k, hk, -⟩ := Option.map_eq_some_iff.1 h
    rw [holds?_of_predicate? enabled p hk] at h
    exact ⟨k, hk, Option.some.inj h⟩
  · rintro ⟨k, hk, rfl⟩
    exact holds?_of_predicate? enabled p hk

/-! ## One clause under two lists of features -/

section

variable (hmore : enabled.map Unicode.lower ⊆ more.map Unicode.lower)
include hmore

namespace Predicate

variable {k : Predicate} {values : List Text}

/-- A plain clause that holds keeps holding. -/
theorem holds_mono (h : k.holds enabled p values false = true) : k.holds more p values false = true := by
  cases k with
  | fact f => exact h
  | feature =>
    rw [holds, checkFeatures, Bool.and_eq_true] at h ⊢
    obtain ⟨-, hfound⟩ := h
    obtain ⟨v, hv, hasked⟩ := List.any_eq_true.1 hfound
    have hmem : Unicode.lower v ∈ more.map Unicode.lower := hmore (List.contains_iff_mem.1 hasked)
    constructor
    · cases more with
      | nil => cases hmem
      | cons => rfl
    · exact List.any_eq_true.2 ⟨v, hv, List.contains_iff_mem.2 hmem⟩

/-- A negated clause that holds with more features did so before, if any was enabled. -/
theorem holds_negated_anti (hne : enabled ≠ []) (h : k.holds more p values true = true) :
    k.holds enabled p values true = true := by
  have hmore_ne : more ≠ [] := by
    rintro rfl
    exact hne (List.map_eq_nil_iff.1 (List.subset_nil.1 hmore))
  rw [holds_negated fun hidle => hmore_ne hidle.2, Bool.not_eq_true'] at h
  rw [holds_negated fun hidle => hne hidle.2, Bool.not_eq_true']
  cases hplain : k.holds enabled p values false with
  | false => rfl
  | true => rw [holds_mono hmore hplain] at h; cases h

end Predicate

namespace Clause

variable {c : Clause}

theorem holds?_mono (hplain : c.isFeature = true → c.negated = false) (h : c.holds? enabled p = some true) :
    c.holds? more p = some true := by
  obtain ⟨k, hk, hholds⟩ := holds?_eq_some_iff.1 h
  refine holds?_eq_some_iff.2 ⟨k, hk, ?_⟩
  cases k with
  | fact f => exact hholds
  | feature =>
    rw [hplain ((predicate?_eq_feature_iff c).1 hk)] at hholds ⊢
    exact Predicate.holds_mono hmore hholds

theorem holds?_anti (hnegated : c.isFeature = true → c.negated = true) (hne : enabled ≠ [])
    (h : c.holds? more p = some true) : c.holds? enabled p = some true := by
  obtain ⟨k, hk, hholds⟩ := holds?_eq_some_iff.1 h
  refine holds?_eq_some_iff.2 ⟨k, hk, ?_⟩
  cases k with
  | fact f => exact hholds
  | feature =>
    rw [hnegated ((predicate?_eq_feature_iff c).1 hk)] at hholds ⊢
    exact Predicate.holds_negated_anti hmore hne hholds

end Clause

end

/-! ## Directives -/

section

variable {directive : List Clause}

/-- A directive of known clauses is active if each of them holds. -/
theorem evaluate_active_eq_all (hknown : ∀ c ∈ directive, c.isKnown = true) (collected : List Text) :
    (evaluate enabled p directive collected).active =
      .ok (directive.all fun c => c.holds? enabled p == some true) := by
  apply evaluate_active_of_holds
  intro c hc
  obtain ⟨holds, hh⟩ := Clause.isKnown.holds? enabled p (hknown c hc)
  rw [hh]
  cases holds <;> rfl

/-- Where no feature is enabled, a directive that has a feature clause is not active. -/
theorem inactive_of_none_enabled (hknown : ∀ c ∈ directive, c.isKnown = true) {c : Clause} (hc : c ∈ directive)
    (hfeature : c.isFeature = true) (collected : List Text) :
    (evaluate [] p directive collected).active = .ok false := by
  rw [evaluate_active_eq_all hknown]
  have hidle : c.holds? [] p = some false :=
    Clause.holds?_of_predicate? [] p ((Clause.predicate?_eq_feature_iff c).2 hfeature)
  have hall : directive.all (fun c => c.holds? [] p == some true) = false :=
    List.all_eq_false.2 ⟨c, hc, by rw [hidle]; simp⟩
  rw [hall]

example :
    let c : Clause := { name := "feature".toList, values := ["gui".toList], negated := true }
    (evaluate ["net".toList] {} [c] []).active.toOption = some true ∧
      (evaluate [] {} [c] []).active.toOption = some false := by decide +kernel

end

/-- **More features** move the verdict of a directive one way only. If its feature clauses are all plain, it stays active
where it was. If they are all negated and some feature was enabled, it was active before where it is now; where none was,
a directive with a feature clause is not active. What it mentions is collected all the same. -/
theorem evaluate_more_features {enabled more : List Text}
    (hmore : ∀ f ∈ enabled, Unicode.lower f ∈ more.map Unicode.lower) (p : Platform) {directive : List Clause}
    (hknown : ∀ c ∈ directive, c.isKnown = true) (collected : List Text) :
    let before := evaluate enabled p directive collected
    let after := evaluate more p directive collected
    ∃ active active', before.active = .ok active ∧ after.active = .ok active' ∧
      ((∀ c ∈ directive, c.isFeature = true → c.negated = false) → active = true → active' = true) ∧
      ((∀ c ∈ directive, c.isFeature = true → c.negated = true) → enabled ≠ [] → active' = true → active = true) ∧
      (enabled = [] → (∃ c ∈ directive, c.isFeature = true) → active = false) ∧
      before.collected = after.collected := by
  intro before after
  have hsubset : enabled.map Unicode.lower ⊆ more.map Unicode.lower := by
    intro name hname
    obtain ⟨f, hf, rfl⟩ := List.mem_map.1 hname
    exact hmore f hf
  have hbefore : before.active = .ok (directive.all fun c => c.holds? enabled p == some true) :=
    evaluate_active_eq_all hknown collected
  refine ⟨_, _, hbefore, evaluate_active_eq_all hknown collected, ?_, ?_, ?_, ?_⟩
  · intro hplain hactive
    simp only [List.all_eq_true, beq_iff_eq] at hactive ⊢
    intro c hc
    exact Clause.holds?_mono hsubset (hplain c hc) (hactive c hc)
  · intro hnegated hne hactive
    simp only [List.all_eq_true, beq_iff_eq] at hactive ⊢
    intro c hc
    exact Clause.holds?_anti hsubset (hnegated c hc) hne (hactive c hc)
  · rintro rfl ⟨c, hc, hfeature⟩
    exact Except.ok.inj (hbefore.symm.trans (inactive_of_none_enabled hknown hc hfeature collected))
  · exact (evaluate_collected_of_known enabled p hknown collected).trans
      (evaluate_collected_of_known more p hknown collected).symm

/-- A feature in other letters and a new one: a plain directive stays active, and a negated one that is active was so
before. -/
theorem evaluate_more_features_gui :
    let enabled := ["GUI".toList]
    let more := ["net".toList, "gui".toList]
    let plain : List Clause :=
      [{ name := "feature".toList, values := ["x".toList, "Gui".toList] },
        { name := "os".toList, values := ["windows".toList], negated := true }]
    let negated : List Clause :=
      [{ name := "FEAT".toList, values := ["debug".toList], negated := true },
        { name := "os".toList, values := ["linux".toList] }]
    (∀ f ∈ enabled, Unicode.lower f ∈ more.map Unicode.lower) ∧ (∀ c ∈ plain ++ negated, c.isKnown = true) ∧
      (evaluate enabled {} plain []).active = .ok true ∧ (evaluate more {} plain []).active = .ok true ∧
      (evaluate more {} negated []).active = .ok true ∧ (evaluate enabled {} negated []).active = .ok true ∧
      (evaluate more {} negated []).collected = ["debug".toList] := by
  intro enabled more plain negated
  have hmore : ∀ f ∈ enabled, Unicode.lower f ∈ more.map Unicode.lower := by decide
  have hknown : ∀ c ∈ plain ++ negated, c.isKnown = true := by decide
  have hplain : (evaluate enabled {} plain []).active = .ok true := rfl
  have hnegated : (evaluate more {} negated []).active = .ok true := rfl
  obtain ⟨_, _, hbefore, hafter, hmono, -⟩ :=
    evaluate_more_features hmore {} (fun c hc => hknown c (List.mem_append_left _ hc)) []
  obtain ⟨_, _, hbefore', hafter', -, hanti, -, hcollected⟩ :=
    evaluate_more_features hmore {} (fun c hc => hknown c (List.mem_append_right _ hc)) []
  refine ⟨hmore, hknown, hplain, ?_, hnegated, ?_, ?_⟩
  · rw [hafter, hmono (by decide) (Except.ok.inj (hbefore.symm.trans hplain))]
  · rw [hbefore', hanti (by decide) (by decide) (Except.ok.inj (hafter'.symm.trans hnegated))]
  · rw [← hcollected]
    decide

end ScriptEval
