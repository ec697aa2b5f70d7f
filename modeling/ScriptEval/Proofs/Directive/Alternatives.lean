import ScriptEval.Proofs.Directive.Evaluation

/-!
# Clauses with several values

The values of a clause are alternatives: a clause holds if it holds with one of its values (`Predicate.holds_eq_any`).
With features the negation of a clause is not always its opposite, as no clause holds where no feature is enabled
(`Predicate.holds_negated`). Still a negated clause with some values is the same as its negations with each of them, in
what it gives (`Predicate.holds_negated_eq_all`) and in what it mentions (`flatMap_mentions_alternatives`), so that in a
directive one can stand for the others (`alternatives_deMorgan`).
-/

namespace ScriptEval

variable (enabled : List Text) (p : Platform)

/-! ## The verdict of a predicate -/

/-- Whether a predicate holds with any of the values, or for a negated clause with none. -/
def Predicate.holds (values : List Text) (negated : Bool) : Predicate → Bool
  | fact f => checkFact (p.get f) values negated
  | feature => checkFeatures enabled values negated

theorem Clause.holds?_of_predicate? {c : Clause} {k : Predicate} (hk : c.predicate? = some k) :
    c.holds? enabled p = some (k.holds enabled p c.values c.negated) := by
  rw [holds?, hk]
  cases k <;> rfl

/-- A feature predicate where no feature is enabled: it does not hold, and its negation does not either. -/
def Predicate.IsIdle (k : Predicate) : Prop := k = feature ∧ enabled = []

instance (k : Predicate) : Decidable (k.IsIdle enabled) := inferInstanceAs (Decidable (_ ∧ _))

namespace Predicate

variable {enabled p} {k : Predicate}

theorem holds_of_isIdle (hidle : k.IsIdle enabled) (values : List Text) (negated : Bool) :
    k.holds enabled p values negated = false := by
  obtain ⟨rfl, rfl⟩ := hidle
  rfl

/-- Unless no feature is enabled, negating a predicate gives the opposite. -/
theorem holds_negated (hidle : ¬k.IsIdle enabled) (values : List Text) :
    k.holds enabled p values true = !k.holds enabled p values false := by
  cases k with
  | fact f => rfl
  | feature =>
    have hne : enabled.isEmpty = false := List.isEmpty_eq_false_iff.2 fun h => hidle ⟨rfl, h⟩
    simp [holds, checkFeatures, hne]

/-- **The values are alternatives.** -/
theorem holds_eq_any (values : List Text) :
    k.holds enabled p values false = values.any fun v => k.holds enabled p [v] false := by
  cases k with
  | fact f => simp [holds, checkFact]
  | feature => cases enabled <;> simp [holds, checkFeatures]

/-- **The negation** of a predicate holds with some values if it holds with each of them. -/
theorem holds_negated_eq_all {values : List Text} (hne : values ≠ []) :
    k.holds enabled p values true = values.all fun v => k.holds enabled p [v] true := by
  by_cases hidle : k.IsIdle enabled
  · obtain ⟨v, values, rfl⟩ := List.exists_cons_of_ne_nil hne
    simp [holds_of_isIdle hidle]
  · simp only [holds_negated hidle, ← List.not_any_eq_all_not, ← holds_eq_any]

end Predicate

/-! ## One clause for each value -/

namespace Clause

/-- The clauses with one of the values each. -/
def alternatives (c : Clause) : List Clause := c.values.map fun v => { c with values := [v] }

/-- The clauses together mention what the clause does. -/
theorem flatMap_mentions_alternatives (c : Clause) : c.alternatives.flatMap mentions = c.mentions := by
  rw [alternatives, List.flatMap_map]
  by_cases hc : c.predicate? = some .feature
  · have hall : c.mentions = c.values.map Unicode.lower := if_pos hc
    have hone (v : Text) : mentions { c with values := [v] } = [Unicode.lower v] := if_pos hc
    rw [funext hone, hall, List.map_eq_flatMap]
  · have hall : c.mentions = [] := if_neg hc
    have hone (v : Text) : mentions { c with values := [v] } = [] := if_neg hc
    rw [funext hone, hall, List.flatMap_eq_nil_iff]
    exact fun _ _ => rfl

end Clause

/-- One more verdict in front. -/
theorem Evaluation.active_cons (e : Evaluation) (c : Clause) (holds : Bool) :
    { e with verdicts := (c, holds) :: e.verdicts }.active = e.active.map (holds && ·) := by
  obtain ⟨verdicts, collected, stoppedAt⟩ := e
  cases stoppedAt <;> rfl

/-- A directive of clauses with known verdicts is their conjunction. -/
theorem evaluate_active_of_holds {clauses : List Clause} {verdict : Clause → Bool}
    (h : ∀ c ∈ clauses, c.holds? enabled p = some (verdict c)) (collected : List Text) :
    (evaluate enabled p clauses collected).active = .ok (clauses.all verdict) := by
  induction clauses generalizing collected with
  | nil => rfl
  | cons c clauses ih =>
    obtain ⟨hc, hrest⟩ := List.forall_mem_cons.1 h
    rw [evaluate_cons_known enabled p hc, Evaluation.active_cons, ih hrest]
    rfl

/-- The clauses with one value each collect what the clause does. -/
theorem evaluate_alternatives_collected {c : Clause} (hc : c.isKnown = true) (collected : List Text) :
    (evaluate enabled p c.alternatives collected).collected = (evaluate enabled p [c] collected).collected := by
  have hone : ∀ a ∈ c.alternatives, a.isKnown = true := by
    intro a ha
    obtain ⟨v, -, rfl⟩ := List.mem_map.1 ha
    exact hc
  have hself : ∀ a ∈ [c], a.isKnown = true := by simpa using hc
  rw [evaluate_collected, evaluate_collected, List.takeWhile_eq_self_iff.2 hone, List.takeWhile_eq_self_iff.2 hself,
    c.flatMap_mentions_alternatives, List.flatMap_singleton]

/-- **De Morgan's law for clauses.** A clause with a known predicate holds if it holds with one of its values. Where it
has one, its negation can be replaced in a directive by the negations with each of its values: the verdict is the same,
and so is what is collected. The negation has the opposite verdict, unless the clause is about features and none is
enabled: then neither holds. -/
theorem alternatives_deMorgan (name : Text) (values : List Text) (hname : (Predicate.ofName? name).isSome = true)
    (collected : List Text) :
    let clause (values : List Text) (negated : Bool) : Clause := { name, values, negated }
    ∃ verdict : Text → Bool,
      (∀ v, (clause [v] false).holds? enabled p = some (verdict v)) ∧
      (clause values false).holds? enabled p = some (values.any verdict) ∧
      (values ≠ [] →
        let negation := evaluate enabled p [clause values true] collected
        let negations := evaluate enabled p (values.map fun v => clause [v] true) collected
        (∃ active, negation.active = .ok active ∧ negations.active = .ok active) ∧
          negation.collected = negations.collected) ∧
      ∃ opposite, (clause values true).holds? enabled p = some opposite ∧
        if (clause values false).isFeature ∧ enabled = [] then values.any verdict = false ∧ opposite = false
        else opposite = !values.any verdict := by
  intro clause
  obtain ⟨k, hk⟩ := Option.isSome_iff_exists.1 hname
  have hholds (values : List Text) (negated : Bool) :
      (clause values negated).holds? enabled p = some (k.holds enabled p values negated) :=
    Clause.holds?_of_predicate? enabled p hk
  have hany : k.holds enabled p values false = values.any fun v => k.holds enabled p [v] false :=
    Predicate.holds_eq_any values
  refine ⟨fun v => k.holds enabled p [v] false, fun v => hholds [v] false, ?_, fun hne => ⟨?_, ?_⟩,
    k.holds enabled p values true, hholds values true, ?_⟩
  · rw [hholds, hany]
  · refine ⟨_, evaluate_singleton_active enabled p (hholds values true) collected, ?_⟩
    have hverdicts : ∀ c ∈ values.map fun v => clause [v] true,
        c.holds? enabled p = some (k.holds enabled p c.values true) := by
      intro c hc
      obtain ⟨v, -, rfl⟩ := List.mem_map.1 hc
      exact hholds [v] true
    rw [evaluate_active_of_holds enabled p hverdicts, List.all_map, Predicate.holds_negated_eq_all hne]
    rfl
  · exact (evaluate_alternatives_collected enabled p (c := clause values true) hname collected).symm
  · have hidle : (clause values false).isFeature ∧ enabled = [] ↔ k.IsIdle enabled := by
      rw [← Clause.predicate?_eq_feature_iff, show (clause values false).predicate? = some k from hk, Option.some_inj]
      rfl
    rw [if_congr hidle rfl rfl, ← hany]
    split
    next h => exact ⟨Predicate.holds_of_isIdle h values false, Predicate.holds_of_isIdle h values true⟩
    next h => exact Predicate.holds_negated h values

/-- A negated clause with an enabled feature and another one, and its two alternatives: neither is active, and both
features are collected. -/
theorem alternatives_deMorgan_features :
    let values := ["GUI".toList, "net".toList]
    let negation : Clause := { name := "Feat".toList, values, negated := true }
    let negations := values.map fun v => ({ negation with values := [v] } : Clause)
    (Predicate.ofName? "Feat".toList).isSome = true ∧ values ≠ [] ∧
      (evaluate ["Net".toList] {} [negation] ["x".toList]).active.toOption = some false ∧
      (evaluate ["Net".toList] {} negations ["x".toList]).active.toOption = some false ∧
      (evaluate ["Net".toList] {} negations ["x".toList]).collected = ["x".toList, "gui".toList, "net".toList] := by
  intro values negation negations
  have hname : (Predicate.ofName? "Feat".toList).isSome = true := by decide
  obtain ⟨-, -, -, hmorgan, -⟩ := alternatives_deMorgan ["Net".toList] {} "Feat".toList values hname ["x".toList]
  obtain ⟨⟨active, hone, hall⟩, hcollected⟩ := hmorgan (by decide)
  have hinactive : (evaluate ["Net".toList] {} [negation] ["x".toList]).active.toOption = some false := by
    decide +kernel
  have hmentioned : (evaluate ["Net".toList] {} [negation] ["x".toList]).collected =
      ["x".toList, "gui".toList, "net".toList] := by decide +kernel
  refine ⟨hname, by decide, hinactive, ?_, hcollected.symm.trans hmentioned⟩
  rw [hone] at hinactive
  rw [hall]
  exact hinactive

end ScriptEval
