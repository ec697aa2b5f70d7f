import ScriptEval.Proofs.Options.Environment
import ScriptEval.Proofs.Options.Sources
import ScriptEval.Proofs.Unicode.Length

/-!
# One name from each of the sources

A name without commas may be given in the list of a file, in the environment or explicitly. The file and the environment
take the blanks off its ends and drop it if nothing is left; the explicit name is kept as it is. So the three agree on
names that are not empty and have no blanks at their ends, and for any other name there is a clause that tells the
explicit one from the other two (`load_single_name`): a name with blanks at its ends is asked for by no clause, since
only a text of the same length has its lower case (`Unicode.eq_nil_of_lower_eq`), and a blank name is still a feature, so
that a negated clause without values holds.
-/

namespace ScriptEval

/-- The clause of a feature, or its negation, written with the text of a name. -/
theorem Clause.read_feature {x : Text} (hcomma : ',' ∉ x) :
    read ("feature:".toList ++ x) =
        .ok { name := "feature".toList, values := if Text.strip x = [] then [] else [Text.strip x] } ∧
      read ("!feature:".toList ++ x) =
        .ok { name := "feature".toList, values := if Text.strip x = [] then [] else [Text.strip x], negated := true } := by
  have hcolon : ':' ∉ "feature".toList := by decide
  have hread := read_append hcolon (by decide) (by decide) x
  rwa [Text.commaItems_of_not_mem hcomma] at hread

/-- A text with blanks at its ends has another lower case than without them. -/
theorem Unicode.lower_strip_ne {x : Text} (h : Text.strip x ≠ x) : lower (Text.strip x) ≠ lower x := by
  intro heq
  obtain ⟨left, right, hx, -, -⟩ := Text.exists_append_trim Text.isBlank x
  have hx : x = left ++ Text.strip x ++ right := hx
  rw [hx] at heq
  obtain ⟨rfl, rfl⟩ := eq_nil_of_lower_eq (heq.symm.trans (by rw [← hx]))
  exact h (by simpa using hx.symm)

namespace Options

/-- A name as every source can give it: there is something to it, and no blank at its ends. -/
def IsName (x : Text) : Prop := x ≠ [] ∧ Text.strip x = x

instance (x : Text) : Decidable (IsName x) := inferInstanceAs (Decidable (_ ∧ _))

/-- The features that a file or the environment give for a text. -/
def stripped (x : Text) : List Text := if Text.strip x = [] then [] else [Text.strip x]

theorem isName_of_mem_stripped {x name : Text} (h : name ∈ stripped x) : IsName name := by
  rw [stripped] at h
  split at h
  next => cases h
  next hne =>
    rw [List.mem_singleton.1 h]
    exact ⟨hne, Text.trim_trim Text.isBlank x⟩

theorem stripped_eq_iff (x : Text) : stripped x = [x] ↔ IsName x := by
  constructor
  · intro h
    exact isName_of_mem_stripped (h ▸ List.mem_singleton_self x)
  · rintro ⟨hne, hstrip⟩
    rw [stripped, hstrip, if_neg hne]

/-- A text that is no name is told from what is left of it by a clause: the negated one without values if the text is
blank, and else the one that asks for what is left. -/
theorem exists_clause_telling {x : Text} (hcomma : ',' ∉ x) (h : ¬ IsName x) :
    ∃ t c, Clause.read t = .ok c ∧ c.predicate? = some .feature ∧
      checkFeatures [x] c.values c.negated = !checkFeatures (stripped x) c.values c.negated := by
  obtain ⟨hplain, hnegated⟩ := Clause.read_feature hcomma
  by_cases hblank : Text.strip x = []
  · refine ⟨_, _, hnegated, show Predicate.ofName? "feature".toList = some .feature by decide, ?_⟩
    simp [stripped, hblank, checkFeatures]
  · refine ⟨_, _, hplain, show Predicate.ofName? "feature".toList = some .feature by decide, ?_⟩
    have hstrip : Text.strip x ≠ x := by
      intro hstrip
      exact h ⟨hstrip ▸ hblank, hstrip⟩
    simp [stripped, hblank, checkFeatures, Unicode.lower_strip_ne hstrip]

/-- Two options under which every directive ends alike. -/
def SameVerdicts (o o' : Options) : Prop :=
  ∀ (p : Platform) (directive : List Clause) (collected : List Text),
    (evaluate o.features p directive collected).active = (evaluate o'.features p directive collected).active

/-- Two options between which the verdict of some clause on a command line changes, on every platform. -/
def ToldApart (o o' : Options) : Prop :=
  ∃ t c, Clause.read t = .ok c ∧ ∀ (p : Platform) (collected : List Text), ∃ verdict,
    (evaluate o.features p [c] collected).active = .ok verdict ∧
      (evaluate o'.features p [c] collected).active = .ok (!verdict)

theorem ToldApart.not_sameVerdicts {o o' : Options} (h : ToldApart o o') : ¬ SameVerdicts o o' := by
  obtain ⟨t, c, -, hverdict⟩ := h
  intro hsame
  obtain ⟨verdict, ho, ho'⟩ := hverdict {} []
  rw [hsame, ho'] at ho
  have hnot : (!verdict) = verdict := Except.ok.inj ho
  cases verdict <;> cases hnot

theorem toldApart_of_not_isName {x : Text} (hcomma : ',' ∉ x) (h : ¬ IsName x) {o o' : Options}
    (ho : o.features = stripped x) (ho' : o'.features = [x]) : ToldApart o o' := by
  obtain ⟨t, c, hread, hfeature, hcheck⟩ := exists_clause_telling hcomma h
  refine ⟨t, c, hread, fun p collected => ⟨checkFeatures (stripped x) c.values c.negated, ?_, ?_⟩⟩
  · rw [ho]
    exact evaluate_singleton_active _ p (Clause.holds?_feature hfeature _ p) collected
  · rw [ho', ← hcheck]
    exact evaluate_singleton_active _ p (Clause.holds?_feature hfeature _ p) collected

/-- A document whose list has one text in it is accepted, and lists what is left of that. -/
theorem ofMapping_single (r : Runtime) {entries : List (Data × Data)} {x : Text}
    (h : ((Data.entry? "features" entries).getD .null).untied = .list [.text x]) :
    ∃ fromFile, ofMapping r entries = .ok fromFile ∧ listedFeatures entries = stripped x := by
  have htruthy : ((Data.entry? "features" entries).getD .null).isTruthy = true := by rw [← isTruthy_untied, h]; rfl
  refine ⟨_, by rw [ofMapping, featureItems, if_pos htruthy, h]; rfl, ?_⟩
  rw [listedFeatures, namesIn_of_list h, stripped]
  by_cases hblank : Text.strip x = [] <;> simp [Data.text?, hblank]

theorem eraseDups_stripped (x : Text) : (stripped x).eraseDups = stripped x := by
  rw [stripped]
  split <;> rfl

/-- **One name from each of the sources.** A text without commas is given as the only item of the list in a file, as the
value of the variable, or as the only explicit name. The first two enable the same features: what is left of the text
without the blanks at its ends, unless it is blank. The third enables the text as it is. Every directive ends alike under
the three exactly if the text is a name as it is; if it is none, some clause tells the third from the others. -/
theorem load_single_name {x : Text} (hcomma : ',' ∉ x) {r : Runtime} {files : FileTree} {path : Text}
    {entries : List (Data × Data)} (hfile : HasEntries r files (some path) entries)
    (hlisted : ((Data.entry? "features" entries).getD .null).untied = .list [.text x])
    {environment unset : Environment} (hset : environment.get featuresVariable = x)
    (hunset : unset.get featuresVariable = []) :
    ∃ fromFile fromEnvironment explicit, load r files (some path) unset [] = .ok fromFile ∧
      load r files none environment [] = .ok fromEnvironment ∧ load r files none unset [x] = .ok explicit ∧
      fromFile.features = (if Text.strip x = [] then [] else [Text.strip x]) ∧ (∀ f ∈ fromFile.features, IsName f) ∧
      fromEnvironment.features = fromFile.features ∧ explicit.features = [x] ∧
      (SameVerdicts fromFile explicit ↔ IsName x) ∧ (¬ IsName x → ToldApart fromFile explicit) := by
  obtain ⟨accepted, haccepted, hnames⟩ := ofMapping_single r hlisted
  obtain ⟨fromFile, hload, hfromFile⟩ := hfile.exists_load haccepted unset []
  have hnoFile : HasEntries r files none [] := .noFile
  obtain ⟨fromEnvironment, hload', hfromEnvironment⟩ := hnoFile.exists_load rfl environment []
  obtain ⟨explicit, hload'', hexplicit⟩ := hnoFile.exists_load rfl unset [x]
  have hnone : listedFeatures [] = [] := rfl
  have hitems : Text.commaItems x = stripped x := Text.commaItems_of_not_mem hcomma
  have hnoItems : Text.commaItems [] = [] := by decide
  rw [hnames, hunset, hnoItems, List.append_nil, List.append_nil, eraseDups_stripped] at hfromFile
  rw [hnone, hset, hitems, List.append_nil, List.nil_append, eraseDups_stripped] at hfromEnvironment
  rw [hnone, hunset, hnoItems, List.append_nil, List.nil_append] at hexplicit
  replace hexplicit : explicit.features = [x] := hexplicit
  have htold : ¬ IsName x → ToldApart fromFile explicit :=
    fun h => toldApart_of_not_isName hcomma h hfromFile hexplicit
  refine ⟨fromFile, fromEnvironment, explicit, hload, hload', hload'', hfromFile, ?_, ?_, hexplicit, ⟨?_, ?_⟩, htold⟩
  · rw [hfromFile]
    exact fun f => isName_of_mem_stripped
  · rw [hfromEnvironment, hfromFile]
  · intro hsame
    by_contra hname
    exact (htold hname).not_sameVerdicts hsame
  · intro hname p directive collected
    rw [hfromFile, hexplicit, (stripped_eq_iff x).2 hname]

/-- A text with a blank in front of a name. -/
theorem load_single_name_padded :
    let x := " gui".toList
    let entries := [(Data.text "features".toList, Data.list [.text x])]
    let text := "features: [' gui']\n".toList
    let r := decoding [(text, .mapping entries)]
    let environment : Environment := [(featuresVariable.toList, x)]
    ',' ∉ x ∧ HasEntries r (runFile text) (some "run.yaml".toList) entries ∧
      ((Data.entry? "features" entries).getD .null).untied = .list [.text x] ∧
      environment.get featuresVariable = x ∧ Environment.get [] featuresVariable = [] ∧
      ∃ fromFile fromEnvironment explicit, load r (runFile text) (some "run.yaml".toList) [] [] = .ok fromFile ∧
        load r (runFile text) none environment [] = .ok fromEnvironment ∧
        load r (runFile text) none [] [x] = .ok explicit ∧
        fromFile.features = ["gui".toList] ∧ fromEnvironment.features = ["gui".toList] ∧ explicit.features = [x] ∧
        ToldApart fromFile explicit := by
  intro x entries text r environment
  have hcomma : ',' ∉ x := by decide
  have hfile : HasEntries r (runFile text) (some "run.yaml".toList) entries := .mapping (hasDocument_run rfl) rfl rfl
  have hset : environment.get featuresVariable = x := by decide
  have hunset : Environment.get [] featuresVariable = [] := rfl
  obtain ⟨fromFile, fromEnvironment, explicit, hload, hload', hload'', hfromFile, -, hfromEnvironment, hexplicit, -,
    htold⟩ := load_single_name hcomma hfile rfl hset hunset
  have hstripped : (if Text.strip x = [] then [] else [Text.strip x]) = ["gui".toList] := by decide
  rw [hstripped] at hfromFile
  exact ⟨hcomma, hfile, rfl, hset, hunset, fromFile, fromEnvironment, explicit, hload, hload', hload'', hfromFile,
    hfromEnvironment.trans hfromFile, hexplicit, htold (by decide)⟩

/-- A name with blanks around it that the environment enables without them, and an explicit name with them. A clause on
the name tells the two apart. -/
theorem load_padded_name_differs :
    let x := " gui ".toList
    ∃ fromEnvironment explicit c, load {} {} none [(featuresVariable.toList, x)] [] = .ok fromEnvironment ∧
      load {} {} none [] [x] = .ok explicit ∧ fromEnvironment.features = ["gui".toList] ∧ explicit.features = [x] ∧
      Clause.read "feature:gui".toList = .ok c ∧ (evaluate fromEnvironment.features {} [c] []).active = .ok true ∧
      (evaluate explicit.features {} [c] []).active = .ok false := by
  refine ⟨{ features := ["gui".toList] }, { features := [" gui ".toList] },
    { name := "feature".toList, values := ["gui".toList] }, rfl, rfl, rfl, rfl, rfl, ?_, ?_⟩ <;> rfl

end Options

end ScriptEval
