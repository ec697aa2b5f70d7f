import ScriptEval.Directive
import ScriptEval.Options
import Mathlib.Data.List.Forall2
import Mathlib.Data.List.TakeWhile

/-!
# What evaluating a directive gives

A clause is *known* when its predicate is. An evaluation takes in the clauses before the first unknown one: it stops at
that clause (`evaluate_stoppedAt`) and collects what the clauses before it mention (`evaluate_collected`). The verdict
of a clause depends on the clause alone, never on the clauses around it or on what is collected already, so that a
directive is the conjunction of its clauses (`evaluate_active_and_collected`).
-/

namespace ScriptEval

namespace Clause

/-- Whether the predicate of a clause is known. -/
def isKnown (c : Clause) : Bool := c.predicate?.isSome

/-- Whether a clause is about features, by its name. -/
def isFeature (c : Clause) : Bool := ["feature".toList, "feat".toList].contains (Unicode.lower c.name)

/-- The name of a feature clause is `feature` or `feat`, in any letter case. -/
theorem predicate?_eq_feature_iff (c : Clause) : c.predicate? = some .feature ↔ c.isFeature = true := by
  simp only [predicate?, Predicate.ofName?, isFeature, Predicate.names, List.find?_cons, List.find?_nil]
  generalize Unicode.lower c.name = name
  by_cases h : name = "feature".toList ∨ name = "feat".toList
  · rcases h with rfl | rfl <;> simp
  · rw [not_or] at h
    have hfeature : ("feature".toList = name) = False := eq_false fun e => h.1 e.symm
    have hfeat : ("feat".toList = name) = False := eq_false fun e => h.2 e.symm
    simp only [hfeature, hfeat, decide_false, List.contains_cons, List.contains_nil, Bool.or_false, Bool.or_eq_true,
      beq_iff_eq, h.1, h.2, or_self, iff_false]
    repeat' split
    all_goals simp

/-- What a clause mentions. -/
theorem mentions_eq (c : Clause) : c.mentions = if c.isFeature then c.values.map Unicode.lower else [] := by
  rw [mentions, if_congr (predicate?_eq_feature_iff c) rfl rfl]

theorem flatMap_mentions (clauses : List Clause) :
    clauses.flatMap mentions = (clauses.filter (·.isFeature)).flatMap fun c => c.values.map Unicode.lower := by
  induction clauses with
  | nil => rfl
  | cons c clauses ih =>
    rw [List.flatMap_cons, ih, mentions_eq]
    cases hc : c.isFeature with
    | false => rw [List.filter_cons_of_neg (by simp [hc])]; rfl
    | true => rw [List.filter_cons_of_pos hc, List.flatMap_cons]; rfl

theorem holds?_eq_none_iff (c : Clause) (enabled : List Text) (p : Platform) :
    c.holds? enabled p = none ↔ c.isKnown = false := by
  simp [holds?, isKnown]

end Clause

section Evaluate

variable (enabled : List Text) (p : Platform)

theorem evaluate_cons_unknown {c : Clause} (hc : c.isKnown = false) (clauses : List Clause) (collected : List Text) :
    evaluate enabled p (c :: clauses) collected = { collected, stoppedAt := some c } := by
  rw [evaluate, (c.holds?_eq_none_iff enabled p).2 hc]

theorem evaluate_cons_known {c : Clause} {holds : Bool} (hc : c.holds? enabled p = some holds) (clauses : List Clause)
    (collected : List Text) :
    evaluate enabled p (c :: clauses) collected =
      let rest := evaluate enabled p clauses (collected ++ c.mentions)
      { rest with verdicts := (c, holds) :: rest.verdicts } := by
  rw [evaluate, hc]

/-- A known clause has a verdict. -/
theorem Clause.isKnown.holds? {c : Clause} (hc : c.isKnown = true) : ∃ holds, c.holds? enabled p = some holds := by
  cases h : c.holds? enabled p with
  | some holds => exact ⟨holds, rfl⟩
  | none => rw [(c.holds?_eq_none_iff enabled p).1 h] at hc; cases hc

/-- An evaluation stops at the first unknown clause. -/
theorem evaluate_stoppedAt (clauses : List Clause) (collected : List Text) :
    (evaluate enabled p clauses collected).stoppedAt = clauses.find? (!·.isKnown) := by
  induction clauses generalizing collected with
  | nil => rfl
  | cons c clauses ih =>
    cases hc : c.isKnown with
    | false => rw [evaluate_cons_unknown enabled p hc, List.find?_cons_of_pos (by simp [hc])]
    | true =>
      obtain ⟨holds, hh⟩ := Clause.isKnown.holds? enabled p hc
      rw [evaluate_cons_known enabled p hh, List.find?_cons_of_neg (by simp [hc])]
      exact ih _

/-- What is collected: what was there before, and what the clauses before the first unknown one mention. -/
theorem evaluate_collected (clauses : List Clause) (collected : List Text) :
    (evaluate enabled p clauses collected).collected =
      collected ++ (clauses.takeWhile (·.isKnown)).flatMap Clause.mentions := by
  induction clauses generalizing collected with
  | nil => simp [evaluate]
  | cons c clauses ih =>
    cases hc : c.isKnown with
    | false => rw [evaluate_cons_unknown enabled p hc, List.takeWhile_cons_of_neg (by simp [hc])]; simp
    | true =>
      obtain ⟨holds, hh⟩ := Clause.isKnown.holds? enabled p hc
      rw [evaluate_cons_known enabled p hh, List.takeWhile_cons_of_pos hc, List.flatMap_cons, ← List.append_assoc]
      exact ih _

example :
    let gui : Clause := { name := "feat".toList, negated := true, values := ["GUI".toList, "net".toList] }
    let unknown : Clause := { name := "os_name".toList }
    (evaluate ["gui".toList] {} [gui, unknown, gui] ["x".toList]).collected =
      ["x".toList, "gui".toList, "net".toList] := by decide +kernel

/-- A known clause by itself has its verdict, whatever was collected before. -/
theorem evaluate_singleton_active {c : Clause} {holds : Bool} (hc : c.holds? enabled p = some holds)
    (collected : List Text) : (evaluate enabled p [c] collected).active = .ok holds := by
  rw [evaluate_cons_known enabled p hc]
  simp [evaluate, Evaluation.active]

/-- A directive of known clauses has as many verdicts, each that of its clause by itself. -/
theorem forall₂_verdicts (clauses : List Clause) (collected : List Text) (hk : ∀ c ∈ clauses, c.isKnown = true) :
    List.Forall₂ (fun c verdict => c.holds? enabled p = some verdict ∧
        ∀ before, (evaluate enabled p [c] before).active = .ok verdict) clauses
      ((evaluate enabled p clauses collected).verdicts.map (·.2)) := by
  induction clauses generalizing collected with
  | nil => exact .nil
  | cons c clauses ih =>
    obtain ⟨holds, hh⟩ := Clause.isKnown.holds? enabled p (hk c List.mem_cons_self)
    rw [evaluate_cons_known enabled p hh]
    exact .cons ⟨hh, evaluate_singleton_active enabled p hh⟩ (ih _ fun c hc => hk c (List.mem_cons_of_mem _ hc))

/-- A directive with an unknown clause fails with the name of the first one. -/
theorem evaluate_active_of_unknown {clauses : List Clause} {c : Clause} (h : clauses.find? (!·.isKnown) = some c)
    (collected : List Text) :
    (evaluate enabled p clauses collected).active = .error (.script (.unknownPredicate c.name)) := by
  rw [Evaluation.active, evaluate_stoppedAt, h]

/-- A directive of known clauses is active exactly if each of them is by itself. -/
theorem evaluate_active_of_known {clauses : List Clause} (hk : ∀ c ∈ clauses, c.isKnown = true)
    (collected : List Text) :
    ∃ active, (evaluate enabled p clauses collected).active = .ok active ∧
      (active = true ↔ ∀ c ∈ clauses, ∀ before, (evaluate enabled p [c] before).active = .ok true) := by
  have hnone : clauses.find? (!·.isKnown) = none := by simpa using hk
  have hactive : (evaluate enabled p clauses collected).active =
      .ok ((evaluate enabled p clauses collected).verdicts.all (·.2)) := by
    rw [Evaluation.active, evaluate_stoppedAt, hnone]
  refine ⟨_, hactive, ?_⟩
  have hverdicts := forall₂_verdicts enabled p clauses collected hk
  generalize (evaluate enabled p clauses collected).verdicts = verdicts at hverdicts
  clear hk hnone hactive
  induction clauses generalizing verdicts with
  | nil =>
    rw [List.map_eq_nil_iff.1 (List.forall₂_nil_left_iff.1 hverdicts)]
    simp
  | cons c clauses ih =>
    obtain ⟨verdict, rest, hc, hrest, hmap⟩ := List.forall₂_cons_left_iff.1 hverdicts
    obtain ⟨v, verdicts, rfl, rfl, rfl⟩ := List.map_eq_cons_iff.1 hmap
    have hone : (∀ before, (evaluate enabled p [c] before).active = .ok true) ↔ v.2 = true := by
      constructor
      · intro h
        exact Except.ok.inj ((hc.2 []).symm.trans (h []))
      · intro h
        rw [← h]
        exact hc.2
    rw [List.all_cons, Bool.and_eq_true, List.forall_mem_cons]
    exact and_congr hone.symm (ih verdicts hrest)

/-- What a directive of known clauses mentions is collected after what was there before. -/
theorem evaluate_collected_of_known {clauses : List Clause} (hk : ∀ c ∈ clauses, c.isKnown = true)
    (collected : List Text) :
    (evaluate enabled p clauses collected).collected =
      collected ++ (clauses.filter (·.isFeature)).flatMap fun c => c.values.map Unicode.lower := by
  rw [evaluate_collected, List.takeWhile_eq_self_iff.2 hk, Clause.flatMap_mentions]

end Evaluate

/-- **The outcome of a directive.** With an unknown clause it fails and names the first one as it is written; else it is
the conjunction of the verdicts of its clauses, each evaluated by itself. Either way the values of the feature clauses
before the first unknown clause are collected, in lower case, after what was collected before. -/
theorem evaluate_active_and_collected (o : Options) (p : Platform) (directive : List Clause) (collected : List Text) :
    let e := evaluate o.features p directive collected
    (match directive.find? (!·.isKnown) with
      | some c => e.active = .error (.script (.unknownPredicate c.name))
      | none => ∃ verdicts : List Bool, e.active = .ok (verdicts.all id) ∧
          List.Forall₂ (fun c verdict => c.holds? o.features p = some verdict ∧
            ∀ before, (evaluate o.features p [c] before).active = .ok verdict) directive verdicts) ∧
      e.collected = collected ++
        ((directive.takeWhile (·.isKnown)).filter (·.isFeature)).flatMap fun c => c.values.map Unicode.lower := by
  intro e
  have hstop : e.stoppedAt = directive.find? (!·.isKnown) := evaluate_stoppedAt ..
  refine ⟨?_, ?_⟩
  · split
    next c hc => rw [Evaluation.active, hstop, hc]
    next hnone =>
      have hk : ∀ c ∈ directive, c.isKnown = true := by simpa using hnone
      refine ⟨e.verdicts.map (·.2), ?_, forall₂_verdicts o.features p directive collected hk⟩
      rw [Evaluation.active, hstop, hnone, List.all_map]
      rfl
  · rw [show e.collected = _ from evaluate_collected .., Clause.flatMap_mentions]

end ScriptEval
