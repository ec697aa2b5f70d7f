import ScriptEval.Proofs.Functions.Calls
import ScriptEval.Proofs.World.Resolution

/-!
# Tests of files

A test of files answers 1 if all of its paths pass it and there is one at least, and 0 otherwise; no text makes it fail
(`returns_fileTest`). What a path leads to decides whether it passes (`FileTest.Passes`), so what is a file or a
directory exists, and nothing is both. `file_tests_agree` puts these together.
-/

namespace ScriptEval.Functions

/-- The tests of files. -/
inductive FileTest
  | isFile
  | isDir
  | isThere

namespace FileTest

def name : FileTest → String
  | isFile => "is_file"
  | isDir => "is_dir"
  | isThere => "exists"

/-- What a path may lead to. -/
def Admits : FileTest → FileTree.Target → Prop
  | isFile, target => ∃ opened, target = .file opened
  | isDir, target => ∃ rights, target = .dir rights
  | isThere, _ => True

/-- A path passes if it is not empty and leads to something that the test admits. -/
def Passes (tree : FileTree) (path : Text) (t : FileTest) : Prop :=
  path ≠ [] ∧ ∃ target, tree.resolve (Path.normalize path) = .ok target ∧ t.Admits target

variable {tree : FileTree} {path : Text} {t : FileTest}

theorem Passes.isThere (h : t.Passes tree path) : FileTest.isThere.Passes tree path := by
  obtain ⟨hne, target, hresolve, -⟩ := h
  exact ⟨hne, target, hresolve, trivial⟩

theorem not_isFile_and_isDir : ¬(isFile.Passes tree path ∧ isDir.Passes tree path) := by
  rintro ⟨⟨-, target, hfile, opened, rfl⟩, ⟨-, target', hdir, rights, rfl⟩⟩
  rw [hfile] at hdir
  cases hdir

theorem not_passes_of_isNoPath (h : IsNoPath path) : ¬t.Passes tree path := by
  rintro ⟨hne, target, hresolve, -⟩
  exact hne (h.eq_nil_of_resolve hresolve)

theorem exists_test (t : FileTest) :
    ∃ test : FileTree → Text → Bool,
      (∀ tree path, test tree path = true ↔ ∃ target, tree.resolve path = .ok target ∧ t.Admits target) ∧
      ∃ aliases, fileTest t.name aliases test ∈ fileTests := by
  cases t with
  | isFile =>
    refine ⟨FileTree.isFile, fun tree path => ?_, ["is-file", "isfile"], .head _⟩
    rw [FileTree.isFile]
    cases tree.resolve path with
    | error why => simp
    | ok target => cases target <;> simp [Admits]
  | isDir =>
    refine ⟨FileTree.isDir, fun tree path => ?_, ["is-dir", "isdir"], .tail _ (.head _)⟩
    rw [FileTree.isDir]
    cases tree.resolve path with
    | error why => simp
    | ok target => cases target <;> simp [Admits]
  | isThere =>
    refine ⟨FileTree.exists?, fun tree path => ?_, [], .tail _ (.tail _ (.head _))⟩
    rw [FileTree.exists?]
    cases tree.resolve path with
    | error why => simp [Except.isOk, Except.toBool]
    | ok target => simp [Admits, Except.isOk, Except.toBool]

end FileTest

/-! ## Calls -/

theorem allPass_texts (test : Text → Bool) (paths : List Text) :
    allPass test (paths.map Value.text) = .ok (paths.all fun path => !path.isEmpty && test (Path.normalize path)) := by
  induction paths with
  | nil => rfl
  | cons path paths ih =>
    rw [List.map_cons, allPass, List.all_cons, ih]
    cases hpasses : !path.isEmpty && test (Path.normalize path) <;>
      simp [hpasses, Value.toText, bind, Except.bind, pure, Except.pure]

section

variable (services : Services) (world : World) (t : FileTest) (paths : List Text)

/-- **What a test of files tells.** -/
theorem returns_fileTest :
    ∃ b : Bool, Returns services world t.name (paths.map .text) (.ofBool b) ∧
      (b = true ↔ paths ≠ [] ∧ ∀ path ∈ paths, t.Passes world.files path) := by
  obtain ⟨test, htest, aliases, hmem⟩ := t.exists_test
  have hstandard : fileTest t.name aliases test ∈ standard services := by
    simp only [standard, List.mem_append, hmem, true_or, or_true]
  have hanswers : (fileTest t.name aliases test).AnswersTo t.name.toList := ⟨_, List.mem_cons_self, rfl⟩
  refine ⟨!paths.isEmpty && paths.all fun path => !path.isEmpty && test world.files (Path.normalize path), ?_, ?_⟩
  · rw [Returns, Registry.invoke_of_find? (Registry.find?_standard_of_mem hstandard hanswers)]
    simp only [fileTest, allPass_texts]
    cases paths <;> rfl
  · simp [FileTest.Passes, htest]

theorem returns_fileTest_one_iff :
    Returns services world t.name (paths.map .text) (.int 1) ↔
      paths ≠ [] ∧ ∀ path ∈ paths, t.Passes world.files path := by
  obtain ⟨b, hreturns, hb⟩ := returns_fileTest services world t paths
  rw [← hb, ← ofBool_eq_one_iff]
  exact ⟨fun h => hreturns.unique h, fun h => h ▸ hreturns⟩

theorem returns_fileTest_zero_iff :
    Returns services world t.name (paths.map .text) (.int 0) ↔
      ¬Returns services world t.name (paths.map .text) (.int 1) := by
  obtain ⟨b, hreturns, -⟩ := returns_fileTest services world t paths
  cases b with
  | false => exact iff_of_true hreturns fun h => absurd (hreturns.unique h) (by decide)
  | true => exact iff_of_false (fun h => absurd (hreturns.unique h) (by decide)) (not_not_intro hreturns)

end

/-- **The tests of files are conjunctions and agree with each other.** Every list of texts is answered 0 or 1, and 0 if
one of the texts is no path. A list is answered 1 if all of its paths pass, hence two lists together if both are. What
are all files, or all directories, are all there, and nothing is a file and a directory. -/
theorem file_tests_agree (services : Services) (world : World) {xs ys : List Text} (hxs : xs ≠ []) (hys : ys ≠ []) :
    let answers (t : FileTest) (paths : List Text) (n : Int) : Prop :=
      Returns services world t.name (paths.map .text) (.int n)
    (∀ t : FileTest,
      (∀ paths, answers t paths 0 ∨ answers t paths 1) ∧
      (answers t xs 1 ↔ ∀ path ∈ xs, t.Passes world.files path) ∧
      (answers t (xs ++ ys) 1 ↔ answers t xs 1 ∧ answers t ys 1) ∧
      ((∃ path ∈ xs, IsNoPath path) → answers t xs 0)) ∧
    (answers .isFile xs 1 ∨ answers .isDir xs 1 → answers .isThere xs 1) ∧
    ¬(answers .isFile xs 1 ∧ answers .isDir xs 1) := by
  intro answers
  have hpass (t : FileTest) {paths : List Text} (h : paths ≠ []) :
      answers t paths 1 ↔ ∀ path ∈ paths, t.Passes world.files path :=
    (returns_fileTest_one_iff services world t paths).trans (and_iff_right h)
  have hzero (t : FileTest) (paths : List Text) : answers t paths 0 ↔ ¬answers t paths 1 :=
    returns_fileTest_zero_iff services world t paths
  obtain ⟨first, hfirst⟩ := List.exists_mem_of_ne_nil xs hxs
  refine ⟨fun t => ⟨fun paths => ?_, hpass t hxs, ?_, fun ⟨path, hpath, hno⟩ => ?_⟩, fun h => ?_,
    fun ⟨hfile, hdir⟩ => ?_⟩
  · rw [hzero]
    exact (em _).symm
  · rw [hpass t (List.append_ne_nil_of_left_ne_nil hxs ys), hpass t hxs, hpass t hys, List.forall_mem_append]
  · rw [hzero, hpass t hxs]
    exact fun hall => FileTest.not_passes_of_isNoPath hno (hall path hpath)
  · refine (hpass .isThere hxs).2 fun path hpath => ?_
    rcases h with h | h
    · exact ((hpass .isFile hxs).1 h path hpath).isThere
    · exact ((hpass .isDir hxs).1 h path hpath).isThere
  · have hfirstFile := (hpass .isFile hxs).1 hfile first hfirst
    have hfirstDir := (hpass .isDir hxs).1 hdir first hfirst
    exact FileTest.not_isFile_and_isDir ⟨hfirstFile, hfirstDir⟩

/-- A directory and a link to it pass together. A link that leads to itself through another one leads nowhere, and a
text with a NUL in it is no path. -/
theorem file_tests_agree_links :
    let files : FileTree :=
      { nodes := [(["d".toList], .dir), (["to-d".toList], .link "d/.".toList), (["a".toList], .link "b".toList),
          (["b".toList], .link "./a".toList)] }
    let world : World := { files }
    let services := world.services {}
    let xs : List Text := ["d/".toList, "to-d".toList]
    let ys : List Text := ["d".toList, "a".toList]
    xs ≠ [] ∧ ys ≠ [] ∧ Returns services world "is_dir" (xs.map .text) (.int 1) ∧
      Returns services world "exists" (xs.map .text) (.int 1) ∧
      ¬Returns services world "is_file" (xs.map .text) (.int 1) ∧
      ¬Returns services world "exists" ((xs ++ ys).map .text) (.int 1) ∧
      Returns services world "exists" ([['d', '\x00']].map .text) (.int 0) := by
  intro files world services xs ys
  have hxs : xs ≠ [] := List.cons_ne_nil _ _
  have hys : ys ≠ [] := List.cons_ne_nil _ _
  obtain ⟨htests, hthere, hapart⟩ := file_tests_agree services world hxs hys
  have hroot : files.MaySearch [] := rfl
  have hdSearch : files.MaySearch [['d']] := rfl
  have hd (links : Nat) (names : List Text) : files.walk links [] (['d'] :: names) = files.walk links [['d']] names :=
    FileTree.walk_dir hroot (by decide) rfl
  have hplain : files.resolve (Path.normalize "d/".toList) = .ok .dir := by
    change files.walk FileTree.linkLimit [] [['d']] = .ok .dir
    rw [hd, FileTree.walk]
    rfl
  have hlink : files.resolve (Path.normalize "to-d".toList) = .ok .dir := by
    change files.walk FileTree.linkLimit [] ["to-d".toList] = .ok .dir
    rw [FileTree.walk_link hroot (by decide) rfl, if_neg (by decide)]
    change files.walk 39 [] [['d'], ['.']] = .ok .dir
    rw [hd, FileTree.walk_dot hdSearch, FileTree.walk]
    rfl
  have hnodeA : files.node? ([] ++ [['a']]) = some (.link ['b']) := rfl
  have hnodeB : files.node? ([] ++ [['b']]) = some (.link "./a".toList) := rfl
  have ha (links : Nat) : files.walk links [] [['a']] =
      if links = 0 then .error .linkLoop else files.walk (links - 1) [] [['b']] :=
    FileTree.walk_link hroot (by decide) hnodeA
  have hb (links : Nat) : files.walk links [] [['b']] =
      if links = 0 then .error .linkLoop else files.walk (links - 1) [] [['a']] := by
    have htarget : files.walk (links - 1) [] [['.'], ['a']] = files.walk (links - 1) [] [['a']] := FileTree.walk_dot hroot
    rw [← htarget]
    exact FileTree.walk_link hroot (by decide) hnodeB
  have hloop : files.resolve (Path.normalize "a".toList) = .error .linkLoop :=
    (FileTree.walk_cycle ha hb FileTree.linkLimit).1
  have hdir : ∀ path ∈ xs, FileTest.isDir.Passes files path := by
    refine List.forall_mem_cons.2 ⟨⟨List.cons_ne_nil _ _, _, hplain, _, rfl⟩, List.forall_mem_singleton.2 ?_⟩
    exact ⟨List.cons_ne_nil _ _, _, hlink, _, rfl⟩
  have hone := (htests .isDir).2.1.2 hdir
  have hnotYs : ¬Returns services world "exists" (ys.map .text) (.int 1) := by
    intro hall
    obtain ⟨htestsYs, -⟩ := file_tests_agree services world hys hxs
    obtain ⟨-, target, hresolve, -⟩ := (htestsYs .isThere).2.1.1 hall "a".toList (.tail _ (.head _))
    rw [hloop] at hresolve
    cases hresolve
  have hnul : Returns services world "exists" ([['d', '\x00']].map .text) (.int 0) := by
    obtain ⟨htestsNul, -⟩ := file_tests_agree services world (List.cons_ne_nil ['d', '\x00'] []) hxs
    exact (htestsNul .isThere).2.2.2 ⟨_, .head _, .nul (by decide)⟩
  exact ⟨hxs, hys, hone, hthere (Or.inr hone), fun hfile => hapart ⟨hfile, hone⟩,
    fun hboth => hnotYs ((htests .isThere).2.2.1.1 hboth).2, hnul⟩

end ScriptEval.Functions
