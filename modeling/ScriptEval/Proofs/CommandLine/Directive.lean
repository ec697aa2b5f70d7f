import ScriptEval.CommandLine.Run
import ScriptEval.Proofs.Failure.Results
import ScriptEval.Proofs.Session.Reports

/-!
# Directives on the command line

What a run of the command `features` reports once the options are loaded (`run_features`). It ends in one of three
ways: with a word that is no clause, and then nothing is evaluated (`runFeatures_of_rejected`); with an unknown clause
(`runFeatures_of_unknown`); or with a verdict, the features mentioned and those enabled in vain
(`runFeatures_of_known`).
-/

namespace ScriptEval.CommandLine

section

variable {s : Session} {o : Options} {words : List Text} {directive : List Clause}

/-- The log of a directive: the registry is made, and then the clauses are evaluated in turn. -/
def directiveLog (s : Session) (o : Options) (directive : List Clause) : Text :=
  logText o.verbose (eventsOfMaking s.shared
    ++ eventsOfEvaluation (evaluate o.features s.world.platform directive []))

/-- A word that is no clause is reported, and nothing else: also a verbose run logs no clause. -/
theorem runFeatures_of_rejected {why : Failure} (h : words.mapM Clause.read = .error why) :
    runFeatures s o words = .ok { exit := 2, stderr := "Error: ".toList ++ why.message ++ ['\n'] } := by
  rw [runFeatures, h]

theorem runFeatures_of_unknown {c : Clause} (h : words.mapM Clause.read = .ok directive)
    (hc : directive.find? (!·.isKnown) = some c) :
    runFeatures s o words = .ok {
      exit := 2
      stderr := directiveLog s o directive ++ (ScriptError.unknownPredicate c.name).format ++ ['\n'] } := by
  have hactive := evaluate_active_of_unknown o.features s.world.platform hc []
  rw [runFeatures, h]
  simp only [Context.isActive, Context.evaluate, hactive]
  rfl

/-- Without features to name, the report has no line for them. -/
theorem directiveReport_eq (log : Text) (c : Context) (active : Bool) :
    directiveReport log c active = {
      exit := if active then 0 else 1
      stdout := (if active then "active\n" else "inactive\n").toList
        ++ if c.referenced = [] then [] else "features: ".toList ++ Text.join ", ".toList c.referenced ++ ['\n']
      stderr := log
        ++ if c.unused = [] then []
          else "Warning: enabled but not referenced: ".toList ++ Text.join ", ".toList c.unused ++ ['\n'] } := by
  rw [directiveReport]
  cases c.referenced <;> cases c.unused <;> rfl

/-- With known clauses only, the report tells the verdict, what is mentioned, and what is enabled but not mentioned. -/
theorem runFeatures_of_known (h : words.mapM Clause.read = .ok directive)
    (hk : ∀ c ∈ directive, c.isKnown = true) :
    let mentioned := ((directive.filter (·.isFeature)).flatMap fun c => c.values.map Unicode.lower).eraseDups
    let idle := o.features.filter fun f => Unicode.lower f ∉ mentioned
    ∃ active, (evaluate o.features s.world.platform directive []).active = .ok active ∧
      (active = true ↔
        ∀ c ∈ directive, ∀ before, (evaluate o.features s.world.platform [c] before).active = .ok true) ∧
      runFeatures s o words = .ok {
        exit := if active then 0 else 1
        stdout := (if active then "active\n" else "inactive\n").toList
          ++ if mentioned = [] then [] else "features: ".toList ++ Text.join ", ".toList mentioned ++ ['\n']
        stderr := directiveLog s o directive
          ++ if idle = [] then []
            else "Warning: enabled but not referenced: ".toList ++ Text.join ", ".toList idle ++ ['\n'] } := by
  intro mentioned idle
  obtain ⟨active, hactive, hiff⟩ := evaluate_active_of_known o.features s.world.platform hk []
  refine ⟨active, hactive, hiff, ?_⟩
  have hcollected := evaluate_collected_of_known o.features s.world.platform hk []
  rw [List.nil_append] at hcollected
  let after : Context :=
    { options := o, platform := s.world.platform,
      collected := (evaluate o.features s.world.platform directive []).collected }
  have hmentioned : after.referenced = mentioned := by
    show (evaluate o.features s.world.platform directive []).collected.eraseDups = mentioned
    rw [hcollected]
  have hidle : after.unused = idle := by rw [Context.unused_eq_filter, hmentioned]
  have hrun : runFeatures s o words = .ok (directiveReport (directiveLog s o directive) after active) := by
    rw [runFeatures, h]
    simp only [Context.isActive, Context.evaluate, hactive]
    rfl
  rw [hrun, directiveReport_eq, hmentioned, hidle]

end

section

variable {world : World} {argv words : List Text} {request : Request}

theorem run_of_ok {r : Report} (hread : Request.read argv = .ok request) (h : runRequest world request = .ok r) :
    run world argv = .report r := by simp only [run, hread, h]

theorem run_of_error {why : Failure} (hread : Request.read argv = .ok request)
    (h : runRequest world request = .error why) : run world argv = .failed why := by simp only [run, hread, h]

/-- With its options loaded, the command evaluates its words as a directive; either source makes the run verbose. -/
theorem runRequest_of_load {o : Options} (hcommand : request.command = .features words)
    (hload : Options.load world.runtime world.files request.config world.environment request.features = .ok o) :
    runRequest world request =
      runFeatures (.start world) { o with verbose := o.verbose || request.verbose } words := by
  simp only [runRequest, hload, hcommand, runCommand]

end

/-- **A directive on the command line**, once the options are loaded. Either there is a first word that is no clause:
then this is reported with status 2, and nothing else is done. Or the words are clauses, and if there is an unknown one
the error of the first is reported with status 2 and nothing stands on the output. Else the directive is active if each
clause by itself is, which the status tells and the first line of the output; a second line lists the features that
feature clauses mention, in lower case and each once, if there are any; and a warning lists the enabled features, as
they are written and in their order, whose lower case is not among them, if there are any. -/
theorem run_features {world : World} {argv words : List Text} {request : Request} {o : Options}
    (hread : Request.read argv = .ok request) (hcommand : request.command = .features words)
    (hload : Options.load world.runtime world.files request.config world.environment request.features = .ok o) :
    (∃ before w after why, words = before ++ w :: after ∧ (∀ b ∈ before, ∃ c, Clause.read b = .ok c) ∧
        Clause.read w = .error why ∧
        run world argv = .report { exit := 2, stderr := "Error: ".toList ++ why.message ++ ['\n'] }) ∨
      ∃ directive, List.Forall₂ (fun w c => Clause.read w = .ok c) words directive ∧
        let log := directiveLog (.start world) { o with verbose := o.verbose || request.verbose } directive
        match directive.find? (!·.isKnown) with
        | some c =>
          run world argv = .report {
            exit := 2
            stderr := log ++ (ScriptError.unknownPredicate c.name).format ++ ['\n'] }
        | none =>
          let mentioned := ((directive.filter (·.isFeature)).flatMap fun c => c.values.map Unicode.lower).eraseDups
          let idle := o.features.filter fun f => Unicode.lower f ∉ mentioned
          (mentioned = [] ↔ ∀ c ∈ directive, c.isFeature = true → c.values = []) ∧
            ∃ active, (active = true ↔
                ∀ c ∈ directive, ∀ before, (evaluate o.features world.platform [c] before).active = .ok true) ∧
              run world argv = .report {
                exit := if active then 0 else 1
                stdout := (if active then "active\n" else "inactive\n").toList
                  ++ if mentioned = [] then [] else "features: ".toList ++ Text.join ", ".toList mentioned ++ ['\n']
                stderr := log
                  ++ if idle = [] then []
                    else "Warning: enabled but not referenced: ".toList ++ Text.join ", ".toList idle ++ ['\n'] } := by
  have hrequest := runRequest_of_load hcommand hload
  rcases mapM_cases Clause.read words with ⟨directive, hwords, hall⟩ | ⟨before, w, after, why, h, hbefore, hw, hwords⟩
  · refine Or.inr ⟨directive, hall, ?_⟩
    intro log
    split
    next c hc => exact run_of_ok hread (hrequest.trans (runFeatures_of_unknown hwords hc))
    next hnone =>
      have hk : ∀ c ∈ directive, c.isKnown = true := by simpa using hnone
      intro mentioned idle
      obtain ⟨active, -, hiff, hrun⟩ := runFeatures_of_known
        (s := .start world) (o := { o with verbose := o.verbose || request.verbose }) hwords hk
      refine ⟨?_, active, hiff, run_of_ok hread (hrequest.trans hrun)⟩
      have hnil : mentioned = [] ↔
          ((directive.filter (·.isFeature)).flatMap fun c => c.values.map Unicode.lower) = [] := by
        rw [List.eq_nil_iff_forall_not_mem, List.eq_nil_iff_forall_not_mem]
        exact forall_congr' fun name => not_congr List.mem_eraseDups
      rw [hnil, List.flatMap_eq_nil_iff]
      simp [List.mem_filter]
  · refine Or.inl ⟨before, w, after, why, h, hbefore, hw, ?_⟩
    exact run_of_ok hread (hrequest.trans (runFeatures_of_rejected hwords))

/-- A directive on two features enabled in two ways, with a feature that nothing mentions. -/
theorem run_features_inactive :
    let world : World := { environment := [("TASKSCRIPT_FEATURES".toList, "net, Gui".toList)] }
    let argv := ["-f", "GUI", "features", "!feat:gui,web", "os:Linux"].map String.toList
    let words := ["!feat:gui,web", "os:Linux"].map String.toList
    let request : Request := { features := ["GUI".toList], command := .features words }
    let o : Options := { features := ["net".toList, "Gui".toList, "GUI".toList] }
    Request.read argv = .ok request ∧ request.command = .features words ∧
      Options.load world.runtime world.files request.config world.environment request.features = .ok o ∧
      run world argv = .report {
        exit := 1
        stdout := "inactive\nfeatures: gui, web\n".toList
        stderr := "Warning: enabled but not referenced: net\n".toList } := by
  intro world argv words request o
  have hread : Request.read argv = .ok request := by decide +kernel
  have hload : Options.load world.runtime world.files request.config world.environment request.features = .ok o := by rfl
  refine ⟨hread, rfl, hload, ?_⟩
  let gui : Clause := { name := "feat".toList, values := ["gui".toList, "web".toList], negated := true }
  let linux : Clause := { name := "os".toList, values := ["Linux".toList] }
  have hgui : Clause.read "!feat:gui,web".toList = .ok gui := rfl
  have hlinux : Clause.read "os:Linux".toList = .ok linux := rfl
  rcases run_features hread rfl hload with ⟨before, w, after, why, hwords, -, hw, -⟩ | ⟨directive, hall, h⟩
  · have hmem : w ∈ words := by rw [hwords]; simp
    rcases List.mem_pair.1 hmem with rfl | rfl
    · rw [hgui] at hw; cases hw
    · rw [hlinux] at hw; cases hw
  · have hdirective : directive = [gui, linux] := by
      obtain ⟨c, rest, hc, hrest, rfl⟩ := List.forall₂_cons_left_iff.1 hall
      obtain ⟨c', rest', hc', hrest', rfl⟩ := List.forall₂_cons_left_iff.1 hrest
      rw [Except.ok.inj (hc.symm.trans hgui), Except.ok.inj (hc'.symm.trans hlinux),
        List.forall₂_nil_left_iff.1 hrest']
    subst hdirective
    have hfind : [gui, linux].find? (!·.isKnown) = none := by decide +kernel
    simp only [hfind] at h
    obtain ⟨-, active, hiff, hrun⟩ := h
    cases active with
    | true =>
      have hheld : (evaluate o.features world.platform [gui] []).active = .ok true := hiff.1 rfl gui (by simp) []
      have hfails : (evaluate o.features world.platform [gui] []).active = .ok false := by rfl
      cases hheld.symm.trans hfails
    | false => exact hrun.trans (congrArg Result.report (by decide +kernel))

end ScriptEval.CommandLine
