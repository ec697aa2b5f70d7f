import ScriptEval.Session
import ScriptEval.Proofs.Directive.Evaluation
import ScriptEval.Proofs.Registry.History

/-!
# Reports of a context over a run

A run works with one context of a session: it evaluates directives, calls functions, enables features and asks for the
two reports, any number of times and in any order (`Session.Step`, `Session.run`). The features mentioned and the
features enabled only ever grow at their ends: the former by directives, also those that fail, the latter by
`addFeatures` (`Context.Grows`, `grows_step`, `grows_run`). Hence the reports at two points of a run agree with each
other (`reports_consistent`): what was referenced stays so, in its place, and without features added what is unused can
only get less.
-/

namespace ScriptEval

/-! ## Enabled features -/

namespace Options

theorem prefix_addNew (names : List Text) (name : Text) : names <+: addNew names name := by
  unfold addNew
  split
  · exact List.prefix_refl _
  · exact List.prefix_append _ _

/-- Enabling features keeps those enabled before, in their places. -/
theorem prefix_addFeatures (o : Options) (names : List Text) : o.features <+: (o.addFeatures names).features := by
  show o.features <+: names.foldl addNew o.features
  generalize o.features = enabled
  induction names generalizing enabled with
  | nil => exact List.prefix_refl _
  | cons name names ih => exact (prefix_addNew enabled name).trans (ih _)

end Options

/-! ## Reports -/

namespace Context

variable {c c' : Context}

theorem mem_referenced {name : Text} : name ∈ c.referenced ↔ name ∈ c.collected := List.mem_eraseDups

/-- What is mentioned later is listed after what was mentioned before. -/
theorem referenced_extends (h : c.collected <+: c'.collected) : c.referenced <+: c'.referenced := by
  obtain ⟨names, h⟩ := h
  rw [referenced, referenced, ← h]
  exact eraseDups_prefix_append _ _

/-- The unused features are the enabled ones whose lower case is not referenced. -/
theorem unused_eq_filter (c : Context) :
    c.unused = c.options.features.filter fun f => Unicode.lower f ∉ c.referenced := by
  rw [unused]
  apply List.filter_congr
  intro f _
  rw [List.contains_eq_mem, ← decide_not, decide_eq_decide, mem_referenced]

theorem unused_sublist (hf : c'.options.features = c.options.features) (h : c.collected <+: c'.collected) :
    c'.unused.Sublist c.unused := by
  rw [unused_eq_filter, unused_eq_filter, hf]
  apply List.monotone_filter_right
  intro f hunused
  rw [decide_eq_true_eq] at hunused ⊢
  intro hmem
  exact hunused ((referenced_extends h).subset hmem)

end Context

/-! ## Runs -/

namespace Session

/-- What a run does with its context. -/
inductive Step
  | isActive (directive : List Clause)
  | call (name : Text) (args : List Value)
  | referenced
  | unused
  | addFeatures (names : List Text)

/-- What a step gives back. -/
inductive Answer
  | verdict (active : Except Failure Bool)
  | outcome (o : Outcome)
  | report (names : List Text)
  | none

/-- The session after a step with context `i`, and what the step gives back. -/
def step (s : Session) (i : Nat) : Step → Session × Answer
  | .isActive directive =>
    let (after, active) := s.isActive i directive
    (after, .verdict active)
  | .call name args => (s, .outcome (s.call i name args))
  | .referenced => (s, .report (s.context i).referenced)
  | .unused => (s, .report (s.context i).unused)
  | .addFeatures names => (s.addFeatures i names, .none)

/-- The session after steps with context `i`, whatever they give back. -/
def run (s : Session) (i : Nat) (steps : List Step) : Session := steps.foldl (fun s step => (s.step i step).1) s

theorem run_append (s : Session) (i : Nat) (steps more : List Step) :
    s.run i (steps ++ more) = (s.run i steps).run i more := List.foldl_append ..

/-- A context that is set is there afterwards, unless the session has no context of that number. -/
theorem context_setContext (s : Session) (i : Nat) (c : Context) :
    (s.setContext i c).context i = c ∨ (s.setContext i c).context i = s.context i := by
  simp only [setContext, context, List.getElem?_modify_eq]
  cases s.members[i]? with
  | none => exact Or.inr rfl
  | some m => exact Or.inl rfl

end Session

/-- How a context gets on: what is collected and what is enabled grow at their ends, and each only if it may. -/
structure Context.Grows (collects enables : Prop) (c c' : Context) : Prop where
  collected : c.collected <+: c'.collected
  features : c.options.features <+: c'.options.features
  collected_eq : ¬collects → c'.collected = c.collected
  features_eq : ¬enables → c'.options.features = c.options.features

namespace Context.Grows

variable {collects enables collects' enables' : Prop} {c c' c'' : Context}

theorem refl (c : Context) : Grows collects enables c c :=
  ⟨List.prefix_refl _, List.prefix_refl _, fun _ => rfl, fun _ => rfl⟩

theorem trans (h : Grows collects enables c c') (h' : Grows collects' enables' c' c'') :
    Grows (collects ∨ collects') (enables ∨ enables') c c'' where
  collected := h.collected.trans h'.collected
  features := h.features.trans h'.features
  collected_eq hn := (h'.collected_eq fun hc => hn (Or.inr hc)).trans (h.collected_eq fun hc => hn (Or.inl hc))
  features_eq hn := (h'.features_eq fun he => hn (Or.inr he)).trans (h.features_eq fun he => hn (Or.inl he))

end Context.Grows

/-- A directive only collects. -/
theorem Context.grows_isActive {collects enables : Prop} (hc : collects) (c : Context) (directive : List Clause) :
    Grows collects enables c (c.isActive directive).1 where
  collected := by
    show _ <+: (c.evaluate directive).collected
    rw [Context.evaluate, evaluate_collected]
    exact List.prefix_append _ _
  features := List.prefix_refl _
  collected_eq hn := absurd hc hn
  features_eq _ := rfl

/-- Enabling features collects nothing. -/
theorem Context.grows_addFeatures {collects enables : Prop} (he : enables) (c : Context) (names : List Text) :
    Grows collects enables c (c.addFeatures names) :=
  ⟨List.prefix_refl _, Options.prefix_addFeatures _ _, fun _ => rfl, fun hn => absurd he hn⟩

namespace Session

theorem grows_setContext {collects enables : Prop} {s : Session} {i : Nat} {c : Context}
    (h : Context.Grows collects enables (s.context i) c) :
    Context.Grows collects enables (s.context i) ((s.setContext i c).context i) := by
  rcases context_setContext s i c with hset | hset
  · rw [hset]; exact h
  · rw [hset]; exact .refl _

/-- Whether a step evaluates a directive. -/
def Step.collects (step : Step) : Prop := ∃ directive, step = .isActive directive

/-- Whether a step enables features. -/
def Step.enables (step : Step) : Prop := ∃ names, step = .addFeatures names

/-- **One step**: only a directive collects, and only `addFeatures` enables. -/
theorem grows_step (s : Session) (i : Nat) (step : Step) :
    Context.Grows step.collects step.enables (s.context i) ((s.step i step).1.context i) := by
  cases step with
  | isActive directive => exact grows_setContext (Context.grows_isActive ⟨directive, rfl⟩ _ directive)
  | call name args => exact .refl _
  | referenced => exact .refl _
  | unused => exact .refl _
  | addFeatures names => exact grows_setContext (Context.grows_addFeatures ⟨names, rfl⟩ _ names)

/-- **A run**: its context grows by the steps of it that collect or enable. -/
theorem grows_run (s : Session) (i : Nat) (steps : List Step) :
    Context.Grows (∃ step ∈ steps, step.collects) (∃ step ∈ steps, step.enables) (s.context i)
      ((s.run i steps).context i) := by
  induction steps generalizing s with
  | nil => exact .refl _
  | cons step steps ih =>
    have h := (grows_step s i step).trans (ih (s.step i step).1)
    rw [← List.exists_mem_cons_iff, ← List.exists_mem_cons_iff] at h
    exact h

/-- **Reports at two points of a run.** Let `c` be the context after some steps and `c'` the context after more. What
is collected and what is enabled at first is a prefix of what is later, the same unless a directive or `addFeatures`
comes in between. The features referenced are those collected, each once, and those at first are a prefix of those
later. The features unused are the enabled ones whose lower case is not referenced, in the order of the enabled ones,
and with none added in between those later are among those at first, in the same order. Asking for a report gives it
and changes nothing. -/
theorem reports_consistent (s : Session) (i : Nat) (steps more : List Step) :
    let c := (s.run i steps).context i
    let later := s.run i (steps ++ more)
    let c' := later.context i
    (c.collected <+: c'.collected ∧ ((¬∃ step ∈ more, step.collects) → c'.collected = c.collected)) ∧
      (c.options.features <+: c'.options.features ∧
        ((¬∃ step ∈ more, step.enables) → c'.options.features = c.options.features)) ∧
      (c'.referenced.Nodup ∧ (∀ name, name ∈ c'.referenced ↔ name ∈ c'.collected) ∧ c.referenced <+: c'.referenced) ∧
      (c'.unused = c'.options.features.filter (fun f => Unicode.lower f ∉ c'.referenced) ∧
        ((¬∃ step ∈ more, step.enables) → c'.unused.Sublist c.unused)) ∧
      later.step i .referenced = (later, .report c'.referenced) ∧ later.step i .unused = (later, .report c'.unused) := by
  intro c later c'
  have h : Context.Grows (∃ step ∈ more, step.collects) (∃ step ∈ more, step.enables) c c' := by
    show Context.Grows _ _ _ ((s.run i (steps ++ more)).context i)
    rw [run_append]
    exact grows_run _ i more
  refine ⟨⟨h.collected, h.collected_eq⟩, ⟨h.features, h.features_eq⟩, ⟨nodup_eraseDups _, ?_, ?_⟩,
    ⟨Context.unused_eq_filter c', ?_⟩, rfl, rfl⟩
  · exact fun name => Context.mem_referenced
  · exact Context.referenced_extends h.collected
  · exact fun hn => Context.unused_sublist (h.features_eq hn) h.collected

end Session

end ScriptEval
