import ScriptEval.Proofs.CommandLine.Directive
import ScriptEval.Proofs.Options.Failures

/-!
# How runs of directives end

A run of the command `features` ends with a report, and its status is 1 only if the directive was evaluated and is
inactive, unless there is an options file and it fails in a way that the user is not told (`Options.Unreadable`): then
the run ends with that failure (`run_features_ends`). That this does happen, against what the statuses are meant to tell,
is `run_features_directory`.
-/

namespace ScriptEval.CommandLine

/-- Directives always have a report, which has status 1 exactly for one that is inactive. -/
theorem runFeatures_report (s : Session) (o : Options) (words : List Text) :
    ∃ r, runFeatures s o words = .ok r ∧ (r.exit = 0 ∨ r.exit = 1 ∨ r.exit = 2) ∧
      (r.exit = 1 ↔ ∃ directive, words.mapM Clause.read = .ok directive ∧
        (evaluate o.features s.world.platform directive []).active = .ok false) := by
  rcases mapM_cases Clause.read words with ⟨directive, hwords, -⟩ | ⟨_, _, _, why, -, -, -, hwords⟩
  · cases hfind : directive.find? (!·.isKnown) with
    | some c =>
      have hactive := evaluate_active_of_unknown o.features s.world.platform hfind []
      refine ⟨_, runFeatures_of_unknown hwords hfind, Or.inr (Or.inr rfl), ?_⟩
      simp [hwords, hactive]
    | none =>
      have hk : ∀ c ∈ directive, c.isKnown = true := by simpa using hfind
      obtain ⟨active, hactive, -, hrun⟩ := runFeatures_of_known (s := s) (o := o) hwords hk
      refine ⟨_, hrun, ?_, ?_⟩
      · cases active <;> simp
      · cases active <;> simp [hwords, hactive]
  · refine ⟨_, runFeatures_of_rejected hwords, Or.inr (Or.inr rfl), ?_⟩
    simp [hwords]

theorem reportFailure_of_ne_script {why : Failure} (h : ∀ e, why ≠ .script e) (log : Text) :
    reportFailure log why =
      if why.isMissing then .ok { exit := 2, stderr := log ++ "Error: ".toList ++ why.message ++ ['\n'] }
      else .error why := by
  cases why with
  | script e => exact absurd rfl (h e)
  | _ => rfl

/-- What the user is to blame for is reported with status 2. -/
theorem reportFailure_of_isReported {why : Failure} (h : why.IsReported) (log : Text) :
    ∃ r, reportFailure log why = .ok r ∧ r.exit = 2 := by
  by_cases hscript : ∃ e, why = .script e
  · obtain ⟨e, rfl⟩ := hscript
    exact ⟨_, rfl, rfl⟩
  · have hne := not_exists.1 hscript
    rw [reportFailure_of_ne_script hne, if_pos ((Failure.isReported_iff hne).1 h)]
    exact ⟨_, rfl, rfl⟩

theorem reportFailure_of_not_isReported {why : Failure} (h : ¬why.IsReported) (log : Text) :
    reportFailure log why = .error why := by
  have hne : ∀ e, why ≠ .script e := by
    rintro e rfl
    exact h trivial
  rw [reportFailure_of_ne_script hne, if_neg fun hmissing => h ((Failure.isReported_iff hne).2 hmissing)]

/-- **How a run of a directive ends.** It ends with a failure exactly if there is an options file for which it fails in
a way that the user is not told: the file cannot be reached or opened, the decoder fails on it in a way of its own, or an
item that is no name has no text to be shown. Otherwise there is a report with status 0, 1 or 2, and the status is 1
exactly if the options load, all words are clauses, and the directive that they make up is evaluated and inactive. -/
theorem run_features_ends {world : World} {argv words : List Text} {request : Request}
    (hread : Request.read argv = .ok request) (hcommand : request.command = .features words) :
    (∀ why, run world argv = .failed why ↔
      ∃ path, request.config = some path ∧ Options.Unreadable world.runtime world.files path why) ∧
    ((¬∃ path why, request.config = some path ∧ Options.Unreadable world.runtime world.files path why) →
      ∃ r, run world argv = .report r ∧ (r.exit = 0 ∨ r.exit = 1 ∨ r.exit = 2) ∧
        (r.exit = 1 ↔ ∃ o directive,
          Options.load world.runtime world.files request.config world.environment request.features = .ok o ∧
          words.mapM Clause.read = .ok directive ∧
          (evaluate o.features world.platform directive []).active = .ok false)) := by
  cases hload : Options.load world.runtime world.files request.config world.environment request.features with
  | ok o =>
    obtain ⟨r, hr, hexit, hone⟩ :=
      runFeatures_report (.start world) { o with verbose := o.verbose || request.verbose } words
    have hreport : run world argv = .report r := run_of_ok hread ((runRequest_of_load hcommand hload).trans hr)
    refine ⟨fun why => ?_, fun _ => ⟨r, hreport, hexit, ?_⟩⟩
    · constructor
      · intro h
        rw [hreport] at h
        cases h
      · rintro ⟨path, hpath, hfile⟩
        rw [hfile.load_eq_error hpath] at hload
        cases hload
    · rw [hone]
      constructor
      · rintro ⟨directive, hwords, hactive⟩
        exact ⟨o, directive, rfl, hwords, hactive⟩
      · rintro ⟨o', directive, ho, hwords, hactive⟩
        obtain rfl := Except.ok.inj ho
        exact ⟨directive, hwords, hactive⟩
  | error why =>
    obtain ⟨path, hpath, hfile⟩ := Options.load_eq_error_iff.1 hload
    have hrequest : runRequest world request = reportFailure [] why := by rw [runRequest, hload]
    rcases Options.ofFile_failsOnly world.runtime world.files path why hfile with hreported | hunreadable
    · obtain ⟨r, hr, hexit⟩ := reportFailure_of_isReported hreported []
      have hreport : run world argv = .report r := run_of_ok hread (hrequest.trans hr)
      refine ⟨fun why' => ?_, fun _ => ⟨r, hreport, Or.inr (Or.inr hexit), ?_⟩⟩
      · constructor
        · intro h
          rw [hreport] at h
          cases h
        · rintro ⟨path', hpath', hunreadable⟩
          obtain rfl := Option.some.inj (hpath.symm.trans hpath')
          obtain rfl := Except.error.inj (hfile.symm.trans hunreadable.ofFile_eq_error)
          exact absurd hreported hunreadable.not_isReported
      · simp [hexit]
    · have hfailed : run world argv = .failed why :=
        run_of_error hread (hrequest.trans (reportFailure_of_not_isReported hunreadable.not_isReported []))
      refine ⟨fun why' => ?_, fun h => absurd ⟨path, why, hpath, hunreadable⟩ h⟩
      rw [hfailed]
      constructor
      · intro h
        cases h
        exact ⟨path, hpath, hunreadable⟩
      · rintro ⟨path', hpath', hunreadable'⟩
        obtain rfl := Option.some.inj (hpath.symm.trans hpath')
        rw [Except.error.inj (hfile.symm.trans hunreadable'.ofFile_eq_error)]

/-- A feature that the options file enables makes its negation inactive, and the run ends with that status. -/
theorem run_features_ends_inactive :
    let d := Data.mapping [(.text "features".toList, .list [.text "gui".toList])]
    let text := "features: [gui]\n".toList
    let world : World := { files := Options.runFile text, runtime := Options.decoding [(text, d)] }
    let argv := ["-c", "run.yaml", "features", "!feat:gui"].map String.toList
    let words := ["!feat:gui".toList]
    let request : Request := { config := some "run.yaml".toList, command := .features words }
    Request.read argv = .ok request ∧ request.command = .features words ∧
      (¬∃ path why, request.config = some path ∧ Options.Unreadable world.runtime world.files path why) ∧
      ∃ r, run world argv = .report r ∧ r.exit = 1 := by
  intro d text world argv words request
  have hread : Request.read argv = .ok request := by decide +kernel
  let o : Options := { features := ["gui".toList] }
  let gui : Clause := { name := "feat".toList, values := ["gui".toList], negated := true }
  have hload : Options.load world.runtime world.files request.config world.environment request.features = .ok o := by
    have hdocument : Options.HasDocument world.runtime world.files "run.yaml".toList d := Options.hasDocument_run rfl
    show Options.load world.runtime world.files (some "run.yaml".toList) [] [] = .ok o
    rw [Options.load, hdocument.ofFile_eq]
    rfl
  have hfile : ¬∃ path why, request.config = some path ∧ Options.Unreadable world.runtime world.files path why := by
    rintro ⟨path, why, hpath, hunreadable⟩
    rw [hunreadable.load_eq_error hpath] at hload
    cases hload
  have hactive : (evaluate o.features world.platform [gui] []).active = .ok false := by rfl
  obtain ⟨r, hr, -, hone⟩ := (run_features_ends hread rfl).2 hfile
  exact ⟨hread, rfl, hfile, r, hr, hone.2 ⟨o, [gui], hload, rfl, hactive⟩⟩

/-- A directory in place of the options file ends the run with a failure. -/
theorem run_features_directory :
    let world : World := { files := { nodes := [(["sub".toList], .dir)] } }
    let argv := ["-c", "sub", "features", "os:linux"].map String.toList
    let request : Request := { config := some "sub".toList, command := .features ["os:linux".toList] }
    Request.read argv = .ok request ∧ run world argv = .failed (.file (.refused .isDirectory "sub".toList)) ∧
      ¬∃ r, run world argv = .report r := by
  intro world argv request
  have hread : Request.read argv = .ok request := by decide +kernel
  have hresolve : world.files.resolve (Path.normalize "sub".toList) = .ok .dir := by
    have hroot : world.files.MaySearch [] := rfl
    have hwalk : world.files.walk FileTree.linkLimit [] ["sub".toList] =
        world.files.walk FileTree.linkLimit ["sub".toList] [] := FileTree.walk_dir hroot (by decide) rfl
    change world.files.walk FileTree.linkLimit [] ["sub".toList] = .ok .dir
    rw [hwalk, FileTree.walk]
    rfl
  have hload := (Options.Unreadable.directory (r := world.runtime) hresolve).load_eq_error rfl world.environment
    request.features
  have hrequest : runRequest world request = .error (.file (.refused .isDirectory "sub".toList)) := by
    rw [runRequest, hload]
    rfl
  have hrun := run_of_error hread hrequest
  refine ⟨hread, hrun, ?_⟩
  rintro ⟨r, hr⟩
  rw [hrun] at hr
  cases hr

end ScriptEval.CommandLine
