import ScriptEval.Proofs.Options.Acceptance

/-!
# Why options do not load

Loading can only fail for the options file (`load_eq_error_iff`). Two kinds of failures are those of the user, and are
reported: a file that is not there, and a document that does not give options. All others are failures of what stands
below: the file cannot be reached or opened, as when it is a directory, the decoder fails in a way of its own, or an item
of the document has no text to be shown (`Unreadable`, `ofFile_failsOnly`).
-/

namespace ScriptEval

/-- Failures that a run reports as those of its user: errors in scripts and options, and what is not there. -/
def Failure.IsReported : Failure → Prop
  | .script _ => True
  | why => why.isMissing = true

theorem Failure.isReported_iff {why : Failure} (h : ∀ e, why ≠ .script e) : why.IsReported ↔ why.isMissing = true := by
  cases why with
  | script e => exact absurd rfl (h e)
  | _ => exact Iff.rfl

namespace Options

/-- Why the options file at a path gives no options and the user is not told, with the failure that this is. -/
inductive Unreadable (r : Runtime) (files : FileTree) (path : Text) : Failure → Prop
  /-- It cannot be opened, although it is there; so it is with every directory. -/
  | refused {target : FileTree.Target} {why : SystemFault} (hresolve : files.resolve (Path.normalize path) = .ok target)
      (hopened : target.opened = .refused why) (hthere : why.isMissing = false) :
      Unreadable r files path (.file (.refused why (Path.normalize path)))
  | nameTooLong (hresolve : files.resolve (Path.normalize path) = .error .nameTooLong) :
      Unreadable r files path (.file (.refused .nameTooLong (Path.normalize path)))
  | denied (hresolve : files.resolve (Path.normalize path) = .error .denied) :
      Unreadable r files path (.file (.refused .denied (Path.normalize path)))
  /-- The decoder fails in another way than to report a problem. -/
  | notDecoded {target : FileTree.Target} {bytes : List UInt8} {why : ForeignFault}
      (hresolve : files.resolve (Path.normalize path) = .ok target) (hopened : target.opened = .content bytes)
      (hdecode : r.decode bytes = .error (.other why)) (hthere : why.isMissing = false) :
      Unreadable r files path (.foreign why)
  /-- An item that is no name is to be shown and cannot be written. -/
  | notWritten {d item : Data} {why : Failure} (hdocument : HasDocument r files path d) (hitem : ListsOther d item)
      (hwritten : r.write item = .error why) : Unreadable r files path why

variable {r : Runtime} {files : FileTree} {path : Text} {why : Failure}

/-- A directory is not opened. -/
theorem Unreadable.directory {rights : FileTree.Rights}
    (hresolve : files.resolve (Path.normalize path) = .ok (.dir rights)) :
    Unreadable r files path
      (.file (.refused (if rights.read then .isDirectory else .denied) (Path.normalize path))) :=
  .refused hresolve rfl (by cases rights.read <;> rfl)

theorem Unreadable.not_isReported (h : Unreadable r files path why) : ¬why.IsReported := by
  cases h with
  | refused _ _ hthere => exact fun h => Bool.false_ne_true (hthere.symm.trans h)
  | nameTooLong | denied => exact Bool.false_ne_true
  | notDecoded _ _ _ hthere => exact fun h => Bool.false_ne_true (hthere.symm.trans h)
  | notWritten _ _ hwritten =>
    rcases Runtime.write_eq_error hwritten with ⟨detail, -, rfl⟩ | ⟨-, rfl⟩
    · exact Bool.false_ne_true
    · exact Bool.false_ne_true

theorem ofFile_eq_error_of_readFile {fault : FileFault} (h : readFile files (Path.normalize path) = .error fault) :
    ofFile r files path = .error (.file fault) := by
  rw [ofFile, h]
  rfl

/-- A file that can be read has the options of the document that its bytes are. -/
theorem ofFile_of_readFile {bytes : List UInt8} (h : readFile files (Path.normalize path) = .ok bytes) :
    ofFile r files path = readDocument r (Path.normalize path) bytes >>= ofDocument r := by
  rw [ofFile, h]
  rfl

theorem readFile_of_content {target : FileTree.Target} {bytes : List UInt8}
    (hresolve : files.resolve path = .ok target) (hopened : target.opened = .content bytes) :
    readFile files path = .ok bytes := by
  simp only [readFile, hresolve, hopened]

/-- A file that cannot be read gives that failure. -/
theorem Unreadable.ofFile_eq_error (h : Unreadable r files path why) : ofFile r files path = .error why := by
  cases h with
  | refused hresolve hopened =>
    apply ofFile_eq_error_of_readFile
    simp only [readFile, hresolve, hopened]
  | nameTooLong hresolve =>
    apply ofFile_eq_error_of_readFile
    simp only [readFile, hresolve]
  | denied hresolve =>
    apply ofFile_eq_error_of_readFile
    simp only [readFile, hresolve]
  | notDecoded hresolve hopened hdecode =>
    rw [ofFile_of_readFile (readFile_of_content hresolve hopened), readDocument, hdecode]
    rfl
  | notWritten hdocument hitem hwritten =>
    rw [hdocument.ofFile_eq]
    exact ofDocument_of_fault (hitem.hasFault hwritten)

/-- A document that gives no options is rejected, or it has an item that cannot be written. -/
theorem ofDocument_failsOnly {d : Data} (hdocument : HasDocument r files path d) :
    FailsOnly (fun why => why.IsReported ∨ Unreadable r files path why) (ofDocument r d) := by
  intro why h
  rcases document_cases r d with haccepted | ⟨why', hfault⟩
  · obtain ⟨o, ho⟩ := ofDocument_of_accepted haccepted
    rw [ho] at h
    cases h
  · rw [ofDocument_of_fault hfault] at h
    obtain rfl := Except.error.inj h
    rcases hfault.rejected_or_unwritten with ⟨fault, rfl⟩ | ⟨item, hitem, hwritten⟩
    · exact Or.inl trivial
    · exact Or.inr (.notWritten hdocument hitem hwritten)

/-- Any other failure of a file is reported. -/
theorem ofFile_failsOnly (r : Runtime) (files : FileTree) (path : Text) :
    FailsOnly (fun why => why.IsReported ∨ Unreadable r files path why) (ofFile r files path) := by
  cases hresolve : files.resolve (Path.normalize path) with
  | error dead =>
    have hmissing (h : readFile files (Path.normalize path) = .error (.missing (Path.normalize path))) :
        FailsOnly (fun why => why.IsReported ∨ Unreadable r files path why) (ofFile r files path) := by
      rw [ofFile_eq_error_of_readFile h]
      exact .error (Or.inl rfl)
    cases dead with
    | nameTooLong =>
      rw [(Unreadable.nameTooLong (r := r) hresolve).ofFile_eq_error]
      exact .error (Or.inr (.nameTooLong hresolve))
    | denied =>
      rw [(Unreadable.denied (r := r) hresolve).ofFile_eq_error]
      exact .error (Or.inr (.denied hresolve))
    | missing | notDirectory | linkLoop | badName => exact hmissing (by simp only [readFile, hresolve])
  | ok target =>
    cases hopened : target.opened with
    | refused why =>
      have hread : readFile files (Path.normalize path) = .error (.refused why (Path.normalize path)) := by
        simp only [readFile, hresolve, hopened]
      rw [ofFile_eq_error_of_readFile hread]
      cases hmissing : why.isMissing with
      | true => exact .error (Or.inl hmissing)
      | false => exact .error (Or.inr (.refused hresolve hopened hmissing))
    | content bytes =>
      rw [ofFile_of_readFile (readFile_of_content hresolve hopened), readDocument]
      cases hdecode : r.decode bytes with
      | ok d => exact ofDocument_failsOnly ⟨hresolve, hopened, hdecode⟩
      | error fault =>
        cases fault with
        | malformed problem => exact .error (Or.inl trivial)
        | other why =>
          cases hmissing : why.isMissing with
          | true => exact .error (Or.inl hmissing)
          | false => exact .error (Or.inr (.notDecoded hresolve hopened hdecode hmissing))

/-- Only the options file can fail. -/
theorem load_eq_error_iff {config : Option Text} {environment : Environment} {explicit : List Text} :
    load r files config environment explicit = .error why ↔
      ∃ path, config = some path ∧ ofFile r files path = .error why := by
  cases config with
  | none =>
    simp only [load, bind, Except.bind, reduceCtorEq, false_and, exists_false, iff_false]
    rintro ⟨⟩
  | some path =>
    cases hfile : ofFile r files path with
    | ok o => simp [load, hfile, bind, Except.bind, pure, Except.pure]
    | error why' => simp [load, hfile, bind, Except.bind]

theorem Unreadable.load_eq_error {config : Option Text} (hpath : config = some path) (h : Unreadable r files path why)
    (environment : Environment) (explicit : List Text) : load r files config environment explicit = .error why :=
  load_eq_error_iff.2 ⟨path, hpath, h.ofFile_eq_error⟩

end Options

end ScriptEval
