import ScriptEval.Proofs.Directive.LetterCase
import ScriptEval.Proofs.Session.Sharing

/-!
# Facts in calls and in clauses

A script learns a platform fact in two ways: it calls the function of the fact, which answers from the registry of its
context, and it writes a clause on the fact, which is evaluated on the context itself. Both see the facts that the
context was made with, or those of the host, whichever registry it uses. So where no registration comes in between they
agree (`Session.fact_call_agrees_with_clause`). What this needs of the parts: the function of a fact is found by the
fact's name in the standard registry (`Registry.invoke_fact`), and a clause on a fact compares it and changes nothing
(`Session.isActive_fact`).
-/

namespace ScriptEval

/-! ## Calls -/

namespace Functions

/-- The function of a fact. -/
def fact (p : Platform) (f : Fact) : Function :=
  { name := f.name.toList, category := "platform".toList,
    doc := "Platform ".toList ++ (factLabel f).toList ++ ['.'],
    run := Outcome.ofArguments fun _ => .ok (.text (p.get f)) }

theorem fact_mem_standard (s : Services) (f : Fact) : fact s.platform f ∈ standard s := by
  have hfacts : fact s.platform f ∈ facts s.platform := by
    refine List.mem_map.2 ⟨f, ?_, rfl⟩
    cases f <;> decide
  simp only [standard, List.mem_append, hfacts, true_or]

end Functions

/-- A call by the name of a fact, with any arguments, has the fact as its value. -/
theorem Registry.invoke_fact (s : Services) (world : World) (f : Fact) {key : Text} (hkey : key.Recased f.name.toList)
    (args : List Value) :
    (Registry.standard s).invoke world key args = { result := .ok (.text (s.platform.get f)) } := by
  have hanswers : (Functions.fact s.platform f).AnswersTo key :=
    ⟨f.name.toList, List.mem_cons_self, hkey.lower_eq.symm⟩
  rw [invoke_ofArguments (Functions.fact_mem_standard s f) hanswers rfl]
  rfl

/-! ## Clauses -/

/-- The name of a fact, in any letter case, is the predicate on it. -/
theorem Predicate.ofName?_fact {f : Fact} {key : Text} (hkey : key.Recased f.name.toList) :
    ofName? key = some (.fact f) := by
  rw [ofName?, hkey.lower_eq]
  cases f <;> decide

/-- A directive of one clause on a fact: its verdict, and nothing collected. -/
theorem Context.isActive_fact (ctx : Context) {c : Clause} {f : Fact} (hc : c.predicate? = some (.fact f)) :
    ctx.isActive [c] = (ctx, .ok (checkFact (ctx.platform.get f) c.values c.negated)) := by
  have hholds : c.holds? ctx.options.features ctx.platform =
      some (checkFact (ctx.platform.get f) c.values c.negated) := by rw [Clause.holds?, hc]; rfl
  have hmentions : c.mentions = [] := by rw [Clause.mentions, hc]; rfl
  rw [isActive, Context.evaluate, evaluate_singleton_active _ _ hholds, evaluate_cons_known _ _ hholds, hmentions,
    List.append_nil]
  rfl

namespace Session

theorem setContext_context (s : Session) (i : Nat) : s.setContext i (s.context i) = s := by
  have hmembers : s.members.modify i (fun m => { m with context := s.context i }) = s.members := by
    apply List.ext_getElem?
    intro j
    rw [List.getElem?_modify]
    cases hj : s.members[j]? with
    | none => rfl
    | some m =>
      by_cases hij : i = j
      · subst hij
        rw [context, hj]
        simp
      · simp [hij]
  rw [setContext, hmembers]

/-- In a session as well. -/
theorem isActive_fact (s : Session) (i : Nat) {c : Clause} {f : Fact} (hc : c.predicate? = some (.fact f)) :
    s.isActive i [c] = (s, .ok (checkFact ((s.context i).platform.get f) c.values c.negated)) := by
  rw [isActive, Context.isActive_fact _ hc]
  exact congrArg (·, _) (s.setContext_context i)

/-! ## Both -/

/-- **A call and a clause tell the same fact**, that of the facts which a context was made with, or of the host's. After
any events, of which no registration reached the context: called by the name of the fact in any letter case, with any
arguments, it answers with the text of the fact; a clause of that name is active exactly if one of its values is this
text up to letter case, and its negation exactly if none is. So the clause with the answer as its value is active. None
of these clauses changes anything, the collected features included. -/
theorem fact_call_agrees_with_clause (world : World) (events : List Event) {i : Nat} {platform : Option Platform}
    (hcontext : (Ledger.ofEvents events).facts[i]? = some platform)
    (hstandard : ∀ r ∈ (Ledger.ofEvents events).registrations,
      (Ledger.ofEvents events).reaches world.platform r.1 i = false)
    (f : Fact) {key : Text} (hkey : key.Recased f.name.toList) (args : List Value) :
    let s := (start world).afterAll events
    let t := (platform.getD world.platform).get f
    (∃ v, (s.call i key args).result = .ok v ∧ v.toText = .ok t) ∧
      (∀ values, ∃ active,
        s.isActive i [{ name := key, values }] = (s, .ok active) ∧
        s.isActive i [{ name := key, values, negated := true }] = (s, .ok !active) ∧
        (active = true ↔ ∃ v ∈ values, Unicode.lower v = Unicode.lower t)) ∧
      s.isActive i [{ name := key, values := [t] }] = (s, .ok true) := by
  intro s t
  have h : s.Follows world (Ledger.ofEvents events) := follows_ofEvents world events
  have hregistry : s.registry i = .standard (world.services (platform.getD world.platform)) := by
    rw [h.registry_eq hcontext, Ledger.registry_of_unreached hstandard]
  have hclause : ∀ values negated,
      s.isActive i [{ name := key, values, negated }] = (s, .ok (checkFact t values negated)) := by
    intro values negated
    rw [s.isActive_fact i (Predicate.ofName?_fact hkey), h.context_platform hcontext]
  have hcheck : ∀ values, checkFact t values false = true ↔ ∃ v ∈ values, Unicode.lower v = Unicode.lower t := by
    intro values
    simp [checkFact_eq]
  refine ⟨⟨.text t, ?_, rfl⟩, ?_, ?_⟩
  · rw [call, hregistry, Registry.invoke_fact _ _ _ hkey]
    rfl
  · intro values
    refine ⟨checkFact t values false, hclause values false, ?_, hcheck values⟩
    rw [hclause, checkFact_eq, checkFact_eq, Bool.xor_true, Bool.xor_false]
  · rw [hclause, (hcheck _).2 ⟨t, List.mem_singleton_self t, rfl⟩]

/-- A context on facts of its own, another one having registered a function of the name that is called. -/
theorem fact_call_agrees_with_clause_windows :
    let own : Function := { name := "os".toList, run := Outcome.ofArguments fun _ => .ok (.int 1) }
    let s := (start {}).afterAll
      [.create none {} [], .create (some { os := "Windows".toList }) {} [], .register 0 own]
    (∃ v, (s.call 1 "OS".toList [.int 1]).result = .ok v ∧ v.toText = .ok "Windows".toList) ∧
      s.isActive 1 [{ name := "OS".toList, values := ["linux".toList, "WINDOWS".toList] }] = (s, .ok true) ∧
      s.isActive 1 [{ name := "OS".toList, values := ["Windows".toList] }] = (s, .ok true) := by
  intro own s
  obtain ⟨hcall, hclause, hself⟩ := fact_call_agrees_with_clause {}
    [.create none {} [], .create (some { os := "Windows".toList }) {} [], .register 0 own] (i := 1) rfl
    (by decide) .os (show Text.Recased "OS".toList Fact.os.name.toList by decide) [.int 1]
  refine ⟨hcall, ?_, hself⟩
  obtain ⟨active, hactive, -, hiff⟩ := hclause ["linux".toList, "WINDOWS".toList]
  rw [hactive, hiff.2 (by decide +kernel)]

end Session

end ScriptEval
