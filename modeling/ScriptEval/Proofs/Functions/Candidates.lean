import ScriptEval.Proofs.Failure.Results
import ScriptEval.Proofs.Functions.Calls
import ScriptEval.Proofs.Pattern.Limits
import ScriptEval.Proofs.Text.Pieces

/-!
# Candidates of comparisons

The functions that compare a text with candidates read these from the left and stop at the first one that passes or
fails (`anyPasses_append`), so that more candidates are of account only if those before them decide nothing
(`firstDecides_invoke`). Where all of them have texts, a comparison tells whether one of the texts passes
(`returns_comparison`). A search by pattern ends with the first pattern that is not missed (`invoke_match_of_first`):
there it is found, or it breaks a rule and is named, or it is beyond what patterns admit (`pattern_cases`).
`candidates_decompose` puts these together. What is beyond that is not named, so that a search may fail without a word
on which pattern it was (`match_characterTooLarge`).
-/

namespace ScriptEval.Functions

variable {subject v : Value} {s u : Text} {xs ys before after : List Value} {us vs : List Text}

/-! ## One candidate after the other -/

theorem anyPasses_append (test : Text → Except Failure Bool) (xs ys : List Value) :
    anyPasses test (xs ++ ys) =
      anyPasses test xs >>= fun found => if found then .ok true else anyPasses test ys := by
  induction xs with
  | nil => rfl
  | cons v xs ih =>
    rw [List.cons_append, anyPasses, anyPasses, ih]
    cases v.toText with
    | error why => rfl
    | ok u =>
      cases htest : test u with
      | error why => simp [htest, bind, Except.bind]
      | ok passes => cases passes <;> simp [htest, bind, Except.bind, pure, Except.pure]

theorem anyPasses_of_texts (test : Text → Bool) (hxs : xs.mapM Value.toText = .ok us) :
    anyPasses (fun u => .ok (test u)) xs = .ok (us.any test) := by
  have hall := forall₂_of_mapM hxs
  clear hxs
  induction hall with
  | nil => rfl
  | @cons v u xs us hv _ ih =>
    rw [anyPasses, hv, ih]
    cases htest : test u <;> simp [htest, bind, Except.bind, pure, Except.pure]

/-- Candidates before that do not pass leave the outcome to the next one, if that passes or fails. -/
theorem anyPasses_of_first (test : Text → Except Failure Bool) (after : List Value)
    (hbefore : ∀ b ∈ before, ∃ q, b.toText = .ok q ∧ test q = .ok false) (hv : v.toText = .ok u)
    (hu : test u ≠ .ok false) : anyPasses test (before ++ v :: after) = test u := by
  induction before with
  | nil =>
    rw [List.nil_append, anyPasses, hv]
    cases htest : test u with
    | error why => simp [htest, bind, Except.bind]
    | ok passes =>
      cases passes with
      | false => exact absurd htest hu
      | true => simp [htest, bind, Except.bind, pure, Except.pure]
  | cons b before ih =>
    obtain ⟨⟨q, hb, hq⟩, hbefore⟩ := List.forall_mem_cons.1 hbefore
    rw [List.cons_append, anyPasses, hb, ← ih hbefore]
    simp [hq, bind, Except.bind]

/-! ## Comparisons -/

theorem compareWith_of_text (test : Text → Text → Except Failure Bool) (hs : subject.toText = .ok s) (hxs : xs ≠ []) :
    compareWith test (subject :: xs) = (anyPasses (test s) xs).map Value.ofBool := by
  obtain ⟨v, xs, rfl⟩ := List.exists_cons_of_ne_nil hxs
  rw [compareWith, hs]
  rfl

theorem compareWith_of_error (test : Text → Text → Except Failure Bool) {why : Failure}
    (hs : subject.toText = .error why) (hxs : xs ≠ []) : compareWith test (subject :: xs) = .error why := by
  obtain ⟨v, xs, rfl⟩ := List.exists_cons_of_ne_nil hxs
  rw [compareWith, hs]
  rfl

/-- A call with the first candidates that gives 0 leaves the outcome with all candidates to the later ones. One that
gives 1 or fails has that outcome already. -/
def FirstDecides (first later all : Outcome) : Prop :=
  (first = { result := .ok (.int 0) } ∧ all = later) ∨
    ((first = { result := .ok (.int 1) } ∨ ∃ why, first = { result := .error why }) ∧ all = first)

theorem firstDecides_compareWith (test : Text → Text → Except Failure Bool) (name : Text) (subject : Value)
    (hxs : xs ≠ []) (hys : ys ≠ []) :
    let outcome (candidates : List Value) : Outcome :=
      { result := (compareWith test (subject :: candidates)).mapError (Failure.named name) }
    FirstDecides (outcome xs) (outcome ys) (outcome (xs ++ ys)) := by
  intro outcome
  have happend : xs ++ ys ≠ [] := List.append_ne_nil_of_left_ne_nil hxs ys
  cases hs : subject.toText with
  | error why =>
    have herror {candidates : List Value} (h : candidates ≠ []) :
        outcome candidates = { result := .error (why.named name) } := by
      simp only [outcome, compareWith_of_error test hs h]
      rfl
    rw [herror hxs, herror happend]
    exact Or.inr ⟨Or.inr ⟨_, rfl⟩, rfl⟩
  | ok s =>
    have hread {candidates : List Value} (h : candidates ≠ []) : outcome candidates =
        { result := ((anyPasses (test s) candidates).map Value.ofBool).mapError (Failure.named name) } := by
      simp only [outcome, compareWith_of_text test hs h]
    rw [hread hxs, hread hys, hread happend, anyPasses_append]
    cases anyPasses (test s) xs with
    | error why => exact Or.inr ⟨Or.inr ⟨_, rfl⟩, rfl⟩
    | ok passes =>
      cases passes with
      | true => exact Or.inr ⟨Or.inl rfl, rfl⟩
      | false => exact Or.inl ⟨rfl, rfl⟩

/-! ## Calls -/

/-- The functions that compare a text with candidates. -/
def comparing : List String := ["starts-with", "ends-with", "contains", "match"]

theorem exists_test_of_comparing (r : Runtime) {name : String} (h : name ∈ comparing) :
    ∃ test, ∃ f ∈ strings r, f.name = name.toList ∧ f.run = Outcome.ofArguments (compareWith test) := by
  simp only [comparing, List.mem_cons, List.not_mem_nil, or_false] at h
  rcases h with rfl | rfl | rfl | rfl
  · exact ⟨_, _, List.mem_of_getElem? (i := 3) rfl, rfl, rfl⟩
  · exact ⟨_, _, List.mem_of_getElem? (i := 4) rfl, rfl, rfl⟩
  · exact ⟨_, _, List.mem_of_getElem? (i := 7) rfl, rfl, rfl⟩
  · exact ⟨_, _, List.mem_of_getElem? (i := 9) rfl, rfl, rfl⟩

theorem firstDecides_invoke (services : Services) (world : World) {name : String} (h : name ∈ comparing)
    (subject : Value) (hxs : xs ≠ []) (hys : ys ≠ []) :
    let answer (candidates : List Value) :=
      (Registry.standard services).invoke world name.toList (subject :: candidates)
    FirstDecides (answer xs) (answer ys) (answer (xs ++ ys)) := by
  obtain ⟨test, hrule⟩ := exists_test_of_comparing services.runtime h
  intro answer
  simp only [answer, invoke_of_string hrule]
  exact firstDecides_compareWith test name.toList subject hxs hys

/-- The comparisons of a text with another. -/
inductive Comparison
  | startsWith
  | endsWith
  | contains

namespace Comparison

def name : Comparison → String
  | startsWith => "starts-with"
  | endsWith => "ends-with"
  | contains => "contains"

/-- A candidate passes as a prefix, a suffix, or any piece of the text. -/
def Passes (s candidate : Text) : Comparison → Prop
  | startsWith => candidate <+: s
  | endsWith => candidate <:+ s
  | contains => candidate <:+: s

theorem Passes.isInfix {c : Comparison} (h : c.Passes s u) : u <:+: s := by
  cases c with
  | startsWith => exact List.IsPrefix.isInfix h
  | endsWith => exact List.IsSuffix.isInfix h
  | contains => exact h

theorem exists_test (r : Runtime) (c : Comparison) :
    ∃ test : Text → Text → Bool, (∀ s u, test s u = true ↔ c.Passes s u) ∧
      ∃ f ∈ strings r, f.name = c.name.toList ∧
        f.run = Outcome.ofArguments (compareWith fun s u => .ok (test s u)) := by
  cases c with
  | startsWith =>
    exact ⟨fun s u => u.isPrefixOf s, fun _ _ => List.isPrefixOf_iff_prefix, _,
      List.mem_of_getElem? (i := 3) rfl, rfl, rfl⟩
  | endsWith =>
    exact ⟨fun s u => u.isSuffixOf s, fun _ _ => List.isSuffixOf_iff_suffix, _,
      List.mem_of_getElem? (i := 4) rfl, rfl, rfl⟩
  | contains =>
    exact ⟨fun s u => Text.hasPiece u s, fun _ _ => Text.hasPiece_iff, _, List.mem_of_getElem? (i := 7) rfl, rfl, rfl⟩

end Comparison

section

variable (services : Services) (world : World) (c : Comparison) (hs : subject.toText = .ok s)
  (hxs : xs.mapM Value.toText = .ok us) (hne : xs ≠ [])

include hs hxs hne

/-- **What a comparison tells**: whether one of the candidates passes. -/
theorem returns_comparison :
    (Returns services world c.name (subject :: xs) (.int 1) ↔ ∃ u ∈ us, c.Passes s u) ∧
      (Returns services world c.name (subject :: xs) (.int 0) ↔ ∀ u ∈ us, ¬c.Passes s u) := by
  obtain ⟨test, htest, hrule⟩ := c.exists_test services.runtime
  have hvalue : compareWith (fun s u => .ok (test s u)) (subject :: xs) = .ok (.ofBool (us.any (test s))) := by
    rw [compareWith_of_text _ hs hne, anyPasses_of_texts _ hxs]
    rfl
  rw [returns_iff_of_string hrule, returns_iff_of_string hrule, hvalue, Except.ok.injEq, Except.ok.injEq,
    ofBool_eq_one_iff, ofBool_eq_zero_iff, List.any_eq_true, List.any_eq_false]
  simp only [htest, true_and]

/-- The order and the repetition of candidates do not matter. -/
theorem invoke_comparison_congr {zs : List Value} {ws : List Text} (hzs : zs.mapM Value.toText = .ok ws)
    (hne' : zs ≠ []) (hsub : us ⊆ ws) (hsup : ws ⊆ us) :
    (Registry.standard services).invoke world c.name.toList (subject :: xs) =
      (Registry.standard services).invoke world c.name.toList (subject :: zs) := by
  obtain ⟨hone, hzero⟩ := returns_comparison services world c hs hxs hne
  obtain ⟨hone', hzero'⟩ := returns_comparison services world c hs hzs hne'
  by_cases hpasses : ∃ u ∈ us, c.Passes s u
  · obtain ⟨u, hu, hpass⟩ := hpasses
    have hfirst := hone.2 ⟨u, hu, hpass⟩
    have hsecond := hone'.2 ⟨u, hsub hu, hpass⟩
    exact hfirst.trans hsecond.symm
  · have hfail : ∀ u ∈ us, ¬c.Passes s u := fun u hu hpass => hpasses ⟨u, hu, hpass⟩
    have hfirst := hzero.2 hfail
    have hsecond := hzero'.2 fun u hu => hfail u (hsup hu)
    exact hfirst.trans hsecond.symm

theorem returns_comparison_append (hys : ys.mapM Value.toText = .ok vs) (hne' : ys ≠ []) :
    Returns services world c.name (subject :: (xs ++ ys)) (.int 1) ↔
      Returns services world c.name (subject :: xs) (.int 1) ∨ Returns services world c.name (subject :: ys) (.int 1) := by
  have happend : (xs ++ ys).mapM Value.toText = .ok (us ++ vs) := by
    rw [List.mapM_append, hxs, hys]
    rfl
  rw [(returns_comparison services world c hs happend (List.append_ne_nil_of_left_ne_nil hne ys)).1,
    (returns_comparison services world c hs hxs hne).1, (returns_comparison services world c hs hys hne').1]
  simp only [List.mem_append, or_and_right, exists_or]

/-- What starts or ends a text is contained in it. -/
theorem returns_contains_of_comparison (hpasses : Returns services world c.name (subject :: xs) (.int 1)) :
    Returns services world "contains" (subject :: xs) (.int 1) := by
  obtain ⟨u, hu, hpass⟩ := (returns_comparison services world c hs hxs hne).1.1 hpasses
  exact (returns_comparison services world .contains hs hxs hne).1.2 ⟨u, hu, hpass.isInfix⟩

end

/-! ## Patterns -/

section

variable (r : Runtime)

/-- A pattern that is found in the text. -/
def Finds (s pattern : Text) : Prop :=
  r.patternTooDeep pattern = none ∧ ∃ n, Pattern.Node.read pattern = .ok n ∧ n.matchesIn s = true

/-- A pattern that is one, but is not found in the text. -/
def Misses (s pattern : Text) : Prop :=
  r.patternTooDeep pattern = none ∧ ∃ n, Pattern.Node.read pattern = .ok n ∧ n.matchesIn s = false

/-- A text that breaks a rule of patterns, with the report of that. -/
def BreaksRule (pattern report : Text) : Prop :=
  r.patternTooDeep pattern = none ∧ ∃ reason position,
    Pattern.Node.read pattern = .error (.invalid reason position) ∧ report = Pattern.reportAt pattern reason position

/-- A text that is beyond what patterns admit, with the failure that this is: it is nested too deeply for the runtime,
or it goes beyond a limit of patterns. -/
inductive GoesBeyond (pattern : Text) : Failure → Prop
  | depth {detail : Text} (hdeep : r.patternTooDeep pattern = some detail) : GoesBeyond pattern (.tooDeep detail)
  | limit {fault : Pattern.Fault} (hdepth : r.patternTooDeep pattern = none)
      (hread : Pattern.Node.read pattern = .error fault) (hlimit : Pattern.ExceedsLimit pattern fault) :
      GoesBeyond pattern (patternFailure pattern fault)

/-- A pattern is found or missed, breaks a rule, or is beyond what patterns admit. -/
theorem pattern_cases (s pattern : Text) :
    Finds r s pattern ∨ Misses r s pattern ∨ (∃ report, BreaksRule r pattern report) ∨
      ∃ why, GoesBeyond r pattern why := by
  cases hdepth : r.patternTooDeep pattern with
  | some detail => exact Or.inr (Or.inr (Or.inr ⟨_, .depth hdepth⟩))
  | none =>
    cases hread : Pattern.Node.read pattern with
    | ok n =>
      cases hmatches : n.matchesIn s with
      | true => exact Or.inl ⟨hdepth, n, hread, hmatches⟩
      | false => exact Or.inr (Or.inl ⟨hdepth, n, hread, hmatches⟩)
    | error fault =>
      rcases Pattern.Node.read_eq_error hread with ⟨reason, position, rfl⟩ | hlimit
      · exact Or.inr (Or.inr (Or.inl ⟨_, hdepth, reason, position, hread, rfl⟩))
      · exact Or.inr (Or.inr (Or.inr ⟨_, .limit hdepth hread hlimit⟩))

variable {r}

theorem Finds.patternFound_eq (h : Finds r s u) : patternFound r s u = .ok true := by
  obtain ⟨hdepth, n, hread, hmatches⟩ := h
  rw [patternFound, hdepth, hread, ← hmatches]

theorem Misses.patternFound_eq (h : Misses r s u) : patternFound r s u = .ok false := by
  obtain ⟨hdepth, n, hread, hmatches⟩ := h
  rw [patternFound, hdepth, hread, ← hmatches]

theorem BreaksRule.patternFound_eq {report : Text} (h : BreaksRule r u report) :
    patternFound r s u = .error (.refuse (.invalidPattern u report)) := by
  obtain ⟨hdepth, reason, position, hread, rfl⟩ := h
  rw [patternFound, hdepth, hread]
  rfl

theorem GoesBeyond.patternFound_eq {why : Failure} (h : GoesBeyond r u why) : patternFound r s u = .error why := by
  cases h with
  | depth hdeep => rw [patternFound, hdeep]
  | limit hdepth hread _ => rw [patternFound, hdepth, hread]

/-- What is beyond patterns is not the fault of a script, so that no function is named in it and no pattern. -/
theorem GoesBeyond.ne_script {why : Failure} (h : GoesBeyond r u why) (e : ScriptError) : why ≠ .script e := by
  cases h with
  | depth _ => nofun
  | limit _ _ hlimit => cases hlimit <;> nofun

end

section

variable (services : Services) (world : World) (hs : subject.toText = .ok s)

include hs

theorem invoke_match_of_text (hxs : xs ≠ []) :
    (Registry.standard services).invoke world "match".toList (subject :: xs) =
      { result := ((anyPasses (patternFound services.runtime s) xs).map Value.ofBool).mapError
          (Failure.named "match".toList) } := by
  have hmatch : ∃ f ∈ strings services.runtime, f.name = "match".toList ∧
      f.run = Outcome.ofArguments (compareWith (patternFound services.runtime)) :=
    ⟨_, List.mem_of_getElem? (i := 9) rfl, rfl, rfl⟩
  rw [invoke_of_string hmatch, compareWith_of_text _ hs hxs]

theorem returns_match_of_misses (hxs : xs ≠ [])
    (hmisses : ∀ v ∈ xs, ∃ q, v.toText = .ok q ∧ Misses services.runtime s q) :
    Returns services world "match" (subject :: xs) (.int 0) := by
  have hnone : anyPasses (patternFound services.runtime s) xs = .ok false := by
    clear hxs
    induction xs with
    | nil => rfl
    | cons v xs ih =>
      obtain ⟨⟨q, hq, hmiss⟩, hrest⟩ := List.forall_mem_cons.1 hmisses
      rw [anyPasses, hq, ← ih hrest]
      simp [hmiss.patternFound_eq, bind, Except.bind]
  rw [Returns, invoke_match_of_text services world hs hxs, hnone]
  rfl

variable (after : List Value) (hbefore : ∀ b ∈ before, ∃ q, b.toText = .ok q ∧ Misses services.runtime s q)
  (hv : v.toText = .ok u)

include hbefore hv

/-- The first pattern that is not missed decides. -/
theorem invoke_match_of_first (hu : patternFound services.runtime s u ≠ .ok false) :
    (Registry.standard services).invoke world "match".toList (subject :: (before ++ v :: after)) =
      { result := ((patternFound services.runtime s u).map Value.ofBool).mapError
          (Failure.named "match".toList) } := by
  have hmissed : ∀ b ∈ before, ∃ q, b.toText = .ok q ∧ patternFound services.runtime s q = .ok false := by
    intro b hb
    obtain ⟨q, hq, hmisses⟩ := hbefore b hb
    exact ⟨q, hq, hmisses.patternFound_eq⟩
  rw [invoke_match_of_text services world hs (by simp), anyPasses_of_first _ after hmissed hv hu]

theorem returns_match_of_finds (hfinds : Finds services.runtime s u) :
    Returns services world "match" (subject :: (before ++ v :: after)) (.int 1) := by
  have hfound := hfinds.patternFound_eq
  rw [Returns, invoke_match_of_first services world hs after hbefore hv (by simp [hfound]), hfound]
  rfl

theorem invoke_match_of_breaksRule {report : Text} (h : BreaksRule services.runtime u report) :
    (Registry.standard services).invoke world "match".toList (subject :: (before ++ v :: after)) =
      { result := .error (.script (.refused (.invalidPattern u report) "match".toList)) } := by
  have hrefused := h.patternFound_eq (s := s)
  rw [invoke_match_of_first services world hs after hbefore hv (by simp [hrefused]), hrefused]
  rfl

theorem invoke_match_of_goesBeyond {why : Failure} (h : GoesBeyond services.runtime u why) :
    (Registry.standard services).invoke world "match".toList (subject :: (before ++ v :: after)) =
      { result := .error why } := by
  have hfailed := h.patternFound_eq (s := s)
  rw [invoke_match_of_first services world hs after hbefore hv (by simp [hfailed]), hfailed]
  show ({ result := .error (why.named "match".toList) } : Outcome) = _
  rw [Failure.named_of_ne_script h.ne_script]

end

/-- A first pattern that breaks no rule but is none is beyond a limit. -/
theorem invoke_match_of_limit (services : Services) (world : World) (t : Text) {pattern : Text} {fault : Pattern.Fault}
    (after : List Value) (hdepth : services.runtime.patternTooDeep pattern = none)
    (hread : Pattern.Node.read pattern = .error fault) (hrule : ¬fault.IsRule) :
    (Registry.standard services).invoke world "match".toList (.text t :: .text pattern :: after) =
      { result := .error (patternFailure pattern fault) } := by
  have hbeyond := GoesBeyond.limit hdepth hread ((Pattern.Node.read_eq_error hread).resolve_left hrule)
  have hsubject : (Value.text t).toText = .ok t := rfl
  have hpattern : (Value.text pattern).toText = .ok pattern := rfl
  have hbefore : ∀ b ∈ ([] : List Value), ∃ q, b.toText = .ok q ∧ Misses services.runtime t q := nofun
  exact invoke_match_of_goesBeyond services world hsubject after hbefore hpattern hbeyond

/-! ## More candidates -/

/-- **Candidates decompose.** With more candidates a call has the outcome that it has with the first ones, if that is 1
or a failure, and else the outcome that it has with the later ones. Hence a comparison tells whether any of the texts
passes, in whatever order they come, and what starts or ends a text is contained in it. A search by pattern gives 0 if
all patterns are missed. Else the first one that is not missed decides: it is found, and gives 1; or it breaks a rule,
and is named with the report of that; or it is beyond what patterns admit, and ends the search with a failure that names
no pattern. No other case is left. -/
theorem candidates_decompose (services : Services) (world : World) (subject : Value) {xs ys : List Value}
    (hxs : xs ≠ []) (hys : ys ≠ []) :
    (∀ name ∈ comparing,
      let answer (candidates : List Value) :=
        (Registry.standard services).invoke world name.toList (subject :: candidates)
      FirstDecides (answer xs) (answer ys) (answer (xs ++ ys))) ∧
    (∀ (c : Comparison) (s : Text) (us vs : List Text), subject.toText = .ok s → xs.mapM Value.toText = .ok us →
      ys.mapM Value.toText = .ok vs →
      let answer (candidates : List Value) :=
        (Registry.standard services).invoke world c.name.toList (subject :: candidates)
      (Returns services world c.name (subject :: xs) (.int 1) ↔ ∃ u ∈ us, c.Passes s u) ∧
        (Returns services world c.name (subject :: xs) (.int 0) ↔ ∀ u ∈ us, ¬c.Passes s u) ∧
        (Returns services world c.name (subject :: (xs ++ ys)) (.int 1) ↔
          Returns services world c.name (subject :: xs) (.int 1) ∨
            Returns services world c.name (subject :: ys) (.int 1)) ∧
        (us ⊆ vs → vs ⊆ us → answer xs = answer ys) ∧
        (Returns services world c.name (subject :: xs) (.int 1) →
          Returns services world "contains" (subject :: xs) (.int 1))) ∧
    ∀ s : Text, subject.toText = .ok s →
      let runtime := services.runtime
      let search := (Registry.standard services).invoke world "match".toList (subject :: (xs ++ ys))
      ((∀ v ∈ xs ++ ys, ∃ q, v.toText = .ok q ∧ Misses runtime s q) → search = { result := .ok (.int 0) }) ∧
      (∀ (before after : List Value) (v : Value) (pattern : Text), xs ++ ys = before ++ v :: after →
        (∀ b ∈ before, ∃ q, b.toText = .ok q ∧ Misses runtime s q) → v.toText = .ok pattern →
        (Finds runtime s pattern → search = { result := .ok (.int 1) }) ∧
          (∀ report, BreaksRule runtime pattern report →
            search = { result := .error (.script (.refused (.invalidPattern pattern report) "match".toList)) }) ∧
          ∀ why, GoesBeyond runtime pattern why → search = { result := .error why } ∧ ∀ e, why ≠ .script e) ∧
      ∀ pattern, Finds runtime s pattern ∨ Misses runtime s pattern ∨ (∃ report, BreaksRule runtime pattern report) ∨
        ∃ why, GoesBeyond runtime pattern why := by
  refine ⟨fun name hname => firstDecides_invoke services world hname subject hxs hys,
    fun c s us vs hs hus hvs => ?_, fun s hs => ⟨?_, fun before after v pattern hsplit hbefore hv => ?_, ?_⟩⟩
  · have htells := returns_comparison services world c hs hus hxs
    refine ⟨htells.1, htells.2, ?_, ?_, ?_⟩
    · exact returns_comparison_append services world c hs hus hxs hvs hys
    · exact invoke_comparison_congr services world c hs hus hxs hvs hys
    · exact returns_contains_of_comparison services world c hs hus hxs
  · exact returns_match_of_misses services world hs (List.append_ne_nil_of_left_ne_nil hxs ys)
  · rw [hsplit]
    exact ⟨returns_match_of_finds services world hs after hbefore hv,
      fun _ => invoke_match_of_breaksRule services world hs after hbefore hv,
      fun _ h => ⟨invoke_match_of_goesBeyond services world hs after hbefore hv h, h.ne_script⟩⟩
  · exact pattern_cases services.runtime s

/-- A parenthesis is a candidate like any other in a comparison. As a pattern it is none, and hides one that would be
found. -/
theorem candidates_decompose_parenthesis :
    let services := ({} : World).services {}
    let subject : Value := .text "cab".toList
    let xs : List Value := [.text "x".toList, .text "(".toList]
    let ys : List Value := [.text "b".toList]
    xs ≠ [] ∧ ys ≠ [] ∧ Returns services {} "contains" (subject :: ys) (.int 1) ∧
      Returns services {} "contains" (subject :: (xs ++ ys)) (.int 1) ∧
      (Registry.standard services).invoke {} "match".toList (subject :: (xs ++ ys)) =
        { result := .error (.script (.refused (.invalidPattern "(".toList
            "missing ), unterminated subpattern at position 0".toList) "match".toList)) } := by
  intro services subject xs ys
  have hxs : xs ≠ [] := List.cons_ne_nil _ _
  have hys : ys ≠ [] := List.cons_ne_nil _ _
  obtain ⟨-, hcompare, hmatch⟩ := candidates_decompose services {} subject hxs hys
  have hpiece : Returns services {} "contains" (subject :: ys) (.int 1) :=
    (returns_comparison services {} .contains rfl rfl hys).1.2 ⟨"b".toList, .head _, ⟨"ca".toList, [], rfl⟩⟩
  have hmisses : Misses services.runtime "cab".toList "x".toList := by
    have hread : (Pattern.Node.read "x".toList).toOption.map (·.matchesIn "cab".toList) = some false := by
      decide +kernel
    obtain ⟨n, hn, hmatches⟩ := Option.map_eq_some_iff.1 hread
    exact ⟨rfl, n, eq_ok_of_toOption hn, hmatches⟩
  have hbreaks : BreaksRule services.runtime "(".toList "missing ), unterminated subpattern at position 0".toList :=
    ⟨rfl, "missing ), unterminated subpattern".toList, some 0, by decide +kernel, by decide +kernel⟩
  have hbefore : ∀ b ∈ [Value.text "x".toList], ∃ q, b.toText = .ok q ∧ Misses services.runtime "cab".toList q :=
    List.forall_mem_singleton.2 ⟨_, rfl, hmisses⟩
  obtain ⟨-, -, hlonger, -⟩ := hcompare .contains _ _ _ rfl rfl rfl
  obtain ⟨-, hfirst, -⟩ := hmatch _ rfl
  obtain ⟨-, hrefused, -⟩ := hfirst [.text "x".toList] [.text "b".toList] (.text "(".toList) _ rfl hbefore rfl
  exact ⟨hxs, hys, hpiece, hlonger.2 (Or.inr hpiece), hrefused _ hbreaks⟩

/-- An escape with too large a number fails without the pattern being named. -/
theorem match_characterTooLarge :
    let pattern := "\\UFFFFFFFF".toList
    let search := (Registry.standard (({} : World).services {})).invoke {} "match".toList
      [.text "a".toList, .text pattern, .text "a".toList]
    search = { result := .error .characterTooLarge } ∧
      ¬∃ reason, search.result = .error (.script (.refused (.invalidPattern pattern reason) "match".toList)) := by
  intro pattern search
  have hread : Pattern.Node.read pattern = .error .characterTooLarge := by decide +kernel
  have hsearch : search = { result := .error .characterTooLarge } :=
    invoke_match_of_limit _ {} "a".toList [.text "a".toList] rfl hread nofun
  refine ⟨hsearch, ?_⟩
  rw [hsearch]
  rintro ⟨reason, h⟩
  cases h

end ScriptEval.Functions
