import ScriptEval.Context
import ScriptEval.Options.Load
import ScriptEval.Proofs.Clause.Written
import ScriptEval.Proofs.Directive.Evaluation

/-!
# Features of the environment and of clauses

A list of features reads the same in the environment, which enables them, and in a clause, which asks for them. So a
clause that lists what the environment does holds as soon as the list has an item, its negation never does, and either
one mentions all that is enabled (`isActive_environment_list`). What this needs of the parts: reading a clause
(`Clause.read_append`), the enabled features that loading gives (`Options.load_environment`), and evaluating a feature
clause alone (`Context.isActive_feature`).
-/

namespace ScriptEval

/-! ## Enabling features -/

namespace Options

theorem mem_foldl_addNew {names enabled : List Text} {name : Text} :
    name ∈ names.foldl addNew enabled ↔ name ∈ enabled ∨ name ∈ names := by
  induction names generalizing enabled with
  | nil => simp
  | cons first names ih =>
    rw [List.foldl_cons, ih, addNew]
    split
    next h =>
      constructor
      · rintro (hn | hn)
        · exact Or.inl hn
        · exact Or.inr (List.mem_cons_of_mem _ hn)
      · rintro (hn | hn)
        · exact Or.inl hn
        · rcases List.mem_cons.1 hn with rfl | hn
          · exact Or.inl h
          · exact Or.inr hn
    next => simp [or_assoc]

/-- Enabled afterwards is what was before, and the new names. -/
theorem mem_addFeatures {o : Options} {names : List Text} {name : Text} :
    name ∈ (o.addFeatures names).features ↔ name ∈ o.features ∨ name ∈ names := mem_foldl_addNew

/-- Without a file and explicit names, the features enabled are the items that the environment lists. -/
theorem load_environment (r : Runtime) (files : FileTree) (environment : Environment) :
    ∃ o, load r files none environment [] = .ok o ∧
      ∀ name, name ∈ o.features ↔ name ∈ Text.commaItems (environment.get featuresVariable) := by
  refine ⟨_, rfl, fun name => ?_⟩
  rw [mem_addFeatures, mem_addFeatures]
  simp

end Options

/-! ## Feature clauses -/

section

variable {enabled values : List Text}

theorem any_enabled_of_subset (h : values ⊆ enabled) (hne : values ≠ []) :
    (values.any fun v => (enabled.map Unicode.lower).contains (Unicode.lower v)) = true := by
  obtain ⟨v, hv⟩ := List.exists_mem_of_ne_nil values hne
  refine List.any_eq_true.2 ⟨v, hv, ?_⟩
  rw [List.contains_iff_mem]
  exact List.mem_map_of_mem (h hv)

/-- A clause whose values are all enabled holds if it has one. -/
theorem checkFeatures_of_subset (h : values ⊆ enabled) : checkFeatures enabled values false = !values.isEmpty := by
  by_cases hne : values = []
  · simp [checkFeatures, hne]
  · have henabled : enabled ≠ [] := by
      rintro rfl
      exact hne (List.subset_nil.1 h)
    simp only [checkFeatures, any_enabled_of_subset h hne, List.isEmpty_eq_false_iff.2 hne,
      List.isEmpty_eq_false_iff.2 henabled]
    rfl

/-- Its negation does not hold, unless it has no value and something is enabled. -/
theorem checkFeatures_negated_of_subset (h : values ⊆ enabled) (hnil : values = [] → enabled = []) :
    checkFeatures enabled values true = false := by
  by_cases hne : values = []
  · simp [checkFeatures, hnil hne]
  · simp only [checkFeatures, any_enabled_of_subset h hne]
    simp

end

theorem Clause.holds?_feature {c : Clause} (hc : c.predicate? = some .feature) (enabled : List Text) (p : Platform) :
    c.holds? enabled p = some (checkFeatures enabled c.values c.negated) := by
  rw [Clause.holds?, hc]
  rfl

namespace Context

/-- A directive of one feature clause: its verdict, and its values collected. -/
theorem isActive_feature (ctx : Context) {c : Clause} (hc : c.predicate? = some .feature) :
    ctx.isActive [c] = ({ ctx with collected := ctx.collected ++ c.values.map Unicode.lower },
      .ok (checkFeatures ctx.options.features c.values c.negated)) := by
  have hholds := Clause.holds?_feature hc ctx.options.features ctx.platform
  have hmentions : c.mentions = c.values.map Unicode.lower := by rw [Clause.mentions, if_pos hc]
  rw [isActive, Context.evaluate, evaluate_singleton_active _ _ hholds, evaluate_cons_known _ _ hholds, hmentions]
  rfl

/-- Nothing is unused once all that is enabled is collected. -/
theorem unused_eq_nil {ctx : Context} (h : ∀ f ∈ ctx.options.features, Unicode.lower f ∈ ctx.collected) :
    ctx.unused = [] := by
  rw [unused, List.filter_eq_nil_iff]
  intro f hf
  simp [h f hf]

end Context

/-- **A list of features in the environment and in a clause.** When the environment lists `raw`, a clause on the same
list is active exactly if one of the pieces of the list between its commas is not blank, and the negated clause never
is. After either one nothing is unused, and the features referenced are the pieces that are not blank, without the
blanks around them, in lower case, each once where it comes first. -/
theorem isActive_environment_list (r : Runtime) (files : FileTree) (others : Environment) (p : Platform) (raw : Text) :
    let items := ((Text.splitOn ',' raw).filter fun piece => piece.any (!Text.isBlank ·)).map Text.strip
    ∃ o c c', Options.load r files none ((Options.featuresVariable.toList, raw) :: others) [] = .ok o ∧
      Clause.read ("feature:".toList ++ raw) = .ok c ∧ Clause.read ("!feature:".toList ++ raw) = .ok c' ∧
      let fresh : Context := { options := o, platform := p }
      (∃ active, (fresh.isActive [c]).2 = .ok active ∧
        (active = true ↔ ∃ piece ∈ Text.splitOn ',' raw, ∃ ch ∈ piece, Text.isBlank ch = false)) ∧
      (fresh.isActive [c']).2 = .ok false ∧
      ∀ after ∈ [(fresh.isActive [c]).1, (fresh.isActive [c']).1],
        after.unused = [] ∧ after.referenced = (items.map Unicode.lower).eraseDups := by
  intro items
  have hitems : Text.commaItems raw = items := Text.commaItems_eq raw
  obtain ⟨o, hload, henabled⟩ := Options.load_environment r files ((Options.featuresVariable.toList, raw) :: others)
  have hget : Environment.get ((Options.featuresVariable.toList, raw) :: others) Options.featuresVariable = raw := by
    simp [Environment.get]
  rw [hget, hitems] at henabled
  have hcolon : ':' ∉ "feature".toList := by decide
  obtain ⟨hread, hread'⟩ := Clause.read_append hcolon (by decide) (by decide) raw
  have hstrip : Text.strip "feature".toList = "feature".toList := by decide
  rw [hitems, hstrip] at hread hread'
  have hsubset : items ⊆ o.features := fun name => (henabled name).2
  have hnil : items = [] → o.features = [] := by
    intro h
    rw [h] at henabled
    exact List.eq_nil_iff_forall_not_mem.2 fun name hname => absurd ((henabled name).1 hname) List.not_mem_nil
  have hfeature (negated : Bool) :
      ({ name := "feature".toList, values := items, negated } : Clause).predicate? = some .feature :=
    show Predicate.ofName? "feature".toList = some .feature by decide
  refine ⟨o, _, _, hload, hread, hread', ?_⟩
  intro fresh
  rw [fresh.isActive_feature (hfeature false), fresh.isActive_feature (hfeature true)]
  refine ⟨⟨_, rfl, ?_⟩, ?_, ?_⟩
  · show checkFeatures o.features items false = true ↔ _
    rw [checkFeatures_of_subset hsubset]
    simp [items, List.filter_eq_nil_iff]
  · show Except.ok (checkFeatures o.features items true) = _
    rw [checkFeatures_negated_of_subset hsubset hnil]
  · have hcollected : ∀ f ∈ o.features, Unicode.lower f ∈ items.map Unicode.lower :=
      fun f hf => List.mem_map_of_mem ((henabled f).1 hf)
    intro after hafter
    simp only [List.mem_cons, List.not_mem_nil, or_false, or_self] at hafter
    subst hafter
    exact ⟨Context.unused_eq_nil hcollected, rfl⟩

end ScriptEval
