import ScriptEval.Options.Load
import ScriptEval.Proofs.Failure.Results
import ScriptEval.Proofs.List.Repeats
import ScriptEval.Proofs.Text.Items
import ScriptEval.Proofs.World.Resolution

/-!
# The features that the sources of options give

Options come from a file, from the environment and from explicit names, each source adding the names that are new. In
the end there is every name once, in the order of its first place in the three sources written one after the other
(`load_features_merged`): if the features are the names of some list without their repeats, then with more names added
they are those of the longer list (`features_addFeatures`), and a file gives the names that it lists
(`features_ofMapping`).
-/

namespace ScriptEval

/-- The text that a datum is. -/
def Data.text? : Data → Option Text
  | text t => some t
  | _ => none

namespace Options

/-! ## Adding names -/

/-- Added are the names that are not there yet, each once. -/
theorem foldl_addNew (names enabled : List Text) :
    names.foldl addNew enabled = enabled ++ (names.removeAll enabled).eraseDups := by
  induction names generalizing enabled with
  | nil => simp
  | cons name names ih =>
    rw [List.foldl_cons, ih, addNew, List.cons_removeAll]
    by_cases h : name ∈ enabled
    · simp [h]
    · have hremove : names.removeAll (enabled ++ [name]) = (names.removeAll enabled).filter (!· == name) := by
        rw [List.removeAll, List.removeAll, List.filter_filter]
        apply List.filter_congr
        intro other _
        rw [Bool.eq_iff_iff]
        simp [and_comm]
      simp [h, hremove, List.eraseDups_cons]

/-- If the features are those of a list, each once, then with more names they are those of the longer list. -/
theorem features_addFeatures {o : Options} {listed : List Text} (h : o.features = listed.eraseDups)
    (names : List Text) : (o.addFeatures names).features = (listed ++ names).eraseDups := by
  show names.foldl addNew o.features = _
  rw [foldl_addNew, h, removeAll_eraseDups, List.eraseDups_append]

/-! ## The file -/

/-- The names that a datum lists: the texts of a list, or the items of a comma-separated text, without the blanks
around them and without blank ones. Other data list no names. -/
def namesIn (d : Data) : List Text :=
  match d.untied with
  | .text t => Text.commaItems t
  | .list items => ((items.filterMap Data.text?).map Text.strip).filter (!·.isEmpty)
  | _ => []

/-- The features that the entries of a document list. -/
def listedFeatures (entries : List (Data × Data)) : List Text :=
  namesIn ((Data.entry? "features" entries).getD .null)

/-- There is a file at a path that can be read, and the decoder gives its document. -/
inductive HasDocument (r : Runtime) (files : FileTree) (path : Text) (d : Data) : Prop
  | intro {target : FileTree.Target} {bytes : List UInt8}
      (hresolve : files.resolve (Path.normalize path) = .ok target) (hopened : target.opened = .content bytes)
      (hdecode : r.decode bytes = .ok d) : HasDocument r files path d

/-- The options file, if there is one, has these entries: they are those of its document, which is a mapping, or
stands for "no" and has none. Without a file there are none. -/
inductive HasEntries (r : Runtime) (files : FileTree) : Option Text → List (Data × Data) → Prop
  | noFile : HasEntries r files none []
  | mapping {path : Text} {d : Data} {entries : List (Data × Data)} (hdocument : HasDocument r files path d)
      (htruthy : d.isTruthy = true) (hentries : d.untied = .mapping entries) : HasEntries r files (some path) entries
  | no {path : Text} {d : Data} (hdocument : HasDocument r files path d) (hfalsy : d.isTruthy = false) :
      HasEntries r files (some path) []

theorem isTruthy_untied (d : Data) : d.untied.isTruthy = d.isTruthy := by
  induction d using Data.untied.induct with
  | case1 _ content ih => rw [Data.untied, ih, Data.isTruthy]
  | case2 d h => rw [Data.untied]; exact h

section

variable {r : Runtime} {files : FileTree} {path : Text}

theorem HasDocument.ofFile_eq {d : Data} (h : HasDocument r files path d) : ofFile r files path = ofDocument r d := by
  obtain ⟨hresolve, hopened, hdecode⟩ := h
  simp only [ofFile, readFile, hresolve, hopened, Except.mapError, bind, Except.bind, readDocument, hdecode]

/-- The options of a file are those of its entries. -/
theorem HasEntries.ofFile_eq {entries : List (Data × Data)} (h : HasEntries r files (some path) entries) :
    ofFile r files path = ofMapping r entries := by
  cases h with
  | mapping hdocument htruthy hentries => rw [hdocument.ofFile_eq, ofDocument, if_pos htruthy, hentries]
  | no hdocument hfalsy => rw [hdocument.ofFile_eq, ofDocument, if_neg (by simp [hfalsy])]

/-- Loading adds the names of the environment, and then the explicit ones, to those of the file. -/
theorem HasEntries.load_eq {config : Option Text} {entries : List (Data × Data)} {fromFile : Options}
    (h : HasEntries r files config entries) (haccepted : ofMapping r entries = .ok fromFile) (environment : Environment)
    (explicit : List Text) : load r files config environment explicit =
      .ok ((fromFile.addFeatures (Text.commaItems (environment.get featuresVariable))).addFeatures explicit) := by
  cases config with
  | none =>
    cases h
    cases haccepted
    rfl
  | some path =>
    rw [load, h.ofFile_eq, haccepted]
    rfl

end

/-! ### A single file -/

/-- The bytes of a text of ASCII. -/
def ascii (text : Text) : List UInt8 := text.map fun c => UInt8.ofNat c.toNat

/-- A tree with the file `run.yaml` in the working directory, which holds a text of ASCII. -/
def runFile (text : Text) : FileTree := { nodes := [(["run.yaml".toList], .file (.content (ascii text)))] }

/-- A runtime that decodes texts of ASCII as the table says, and no others. -/
def decoding (table : List (Text × Data)) : Runtime where
  decode bytes :=
    match table.find? fun (text, _) => ascii text == bytes with
    | some (_, d) => .ok d
    | none => .error (.malformed [])

theorem resolve_run (text : Text) :
    (runFile text).resolve (Path.normalize "run.yaml".toList) = .ok (.file (.content (ascii text))) := by
  have hnormal : Path.normalize "run.yaml".toList = "run.yaml".toList := by decide
  have hsplit : Text.splitOn '/' "run.yaml".toList = ["run.yaml".toList] := by decide
  rw [hnormal, FileTree.resolve, if_neg (by decide), if_neg (by decide), if_neg (by decide), hsplit]
  exact FileTree.walk_file rfl (by decide) rfl

/-- The file has the document that its text decodes to. -/
theorem hasDocument_run {r : Runtime} {text : Text} {d : Data} (h : r.decode (ascii text) = .ok d) :
    HasDocument r (runFile text) "run.yaml".toList d := .intro (resolve_run text) rfl h

/-! ### Names in a document -/

/-- An item that is no text is rejected, if it can be written. -/
theorem featureName_of_ne_text (r : Runtime) {item : Data} (h : ∀ t, item ≠ .text t) :
    featureName r item = r.write item >>= fun written => reject (.featureNotText written) := by
  cases item with
  | text t => exact absurd rfl (h t)
  | _ => rfl

theorem eq_text_of_featureName {r : Runtime} {item : Data} {name : Text} (h : featureName r item = .ok name) :
    item = .text name := by
  by_contra hne
  have hother : ∀ t, item ≠ .text t := by
    rintro t rfl
    exact hne (congrArg Data.text (Except.ok.inj h))
  rw [featureName_of_ne_text r hother] at h
  cases hwritten : r.write item with
  | error why => rw [hwritten] at h; cases h
  | ok written => rw [hwritten] at h; cases h

/-- The items of a list are texts if each of them is a name. -/
theorem eq_filterMap_of_mapM {r : Runtime} {items : List Data} {names : List Text}
    (h : items.mapM (featureName r) = .ok names) : names = items.filterMap Data.text? := by
  have hall := forall₂_of_mapM h
  clear h
  induction hall with
  | nil => rfl
  | @cons d name items names hd _ ih =>
    rw [eq_text_of_featureName hd, List.filterMap_cons_some (show Data.text? (.text name) = some name from rfl), ← ih]

/-- The items of a comma-separated list have no blanks around them, and none of them is blank. -/
theorem commaItems_map_strip (t : Text) :
    ((Text.commaItems t).map Text.strip).filter (!·.isEmpty) = Text.commaItems t := by
  have hstrip : (Text.commaItems t).map Text.strip = Text.commaItems t :=
    Text.map_strip_of_isTrimmed fun item hitem => (Text.isItem_of_mem_commaItems hitem).isTrimmed
  rw [hstrip, Text.commaItems, List.filter_filter]
  simp

/-- A datum gives the items of a comma-separated text, or those of a list, or none if it stands for "no". -/
theorem featureItems_cases {d : Data} {items : List Data} (h : featureItems d = .ok items) :
    (∃ t, d.untied = .text t ∧ items = (Text.commaItems t).map Data.text) ∨ d.untied = .list items ∨
      d.untied.isTruthy = false ∧ items = [] := by
  rw [featureItems] at h
  by_cases htruthy : d.isTruthy = true
  · rw [if_pos htruthy] at h
    cases huntied : d.untied with
    | text t => rw [huntied] at h; exact Or.inl ⟨t, rfl, (Except.ok.inj h).symm⟩
    | list items' => rw [huntied] at h; exact Or.inr (Or.inl (congrArg Data.list (Except.ok.inj h)))
    | _ => rw [huntied] at h; cases h
  · rw [if_neg htruthy] at h
    exact Or.inr (Or.inr ⟨by rw [isTruthy_untied]; simpa using htruthy, (Except.ok.inj h).symm⟩)

theorem namesIn_of_text {d : Data} {t : Text} (h : d.untied = .text t) : namesIn d = Text.commaItems t := by
  unfold namesIn
  rw [h]

theorem namesIn_of_list {d : Data} {items : List Data} (h : d.untied = .list items) :
    namesIn d = ((items.filterMap Data.text?).map Text.strip).filter (!·.isEmpty) := by
  unfold namesIn
  rw [h]

/-- Data that stand for "no" list no names. -/
theorem namesIn_of_falsy {d : Data} (h : d.untied.isTruthy = false) : namesIn d = [] := by
  unfold namesIn
  cases hd : d.untied with
  | text t =>
    rw [hd] at h
    cases t with
    | nil => rfl
    | cons c t => cases h
  | list items =>
    rw [hd] at h
    cases items with
    | nil => rfl
    | cons item items => cases h
  | _ => rfl

/-- The names of the items that a datum gives are those that it lists. -/
theorem namesIn_eq {r : Runtime} {d : Data} {items : List Data} {names : List Text} (hitems : featureItems d = .ok items)
    (hnames : items.mapM (featureName r) = .ok names) :
    (names.map Text.strip).filter (!·.isEmpty) = namesIn d := by
  rw [eq_filterMap_of_mapM hnames]
  rcases featureItems_cases hitems with ⟨t, huntied, rfl⟩ | huntied | ⟨hfalsy, rfl⟩
  · have htexts : ((Text.commaItems t).map Data.text).filterMap Data.text? = Text.commaItems t := by
      simp [List.filterMap_map, Function.comp_def, Data.text?]
    rw [htexts, commaItems_map_strip, namesIn_of_text huntied]
  · rw [namesIn_of_list huntied]
  · rw [namesIn_of_falsy hfalsy]
    rfl

/-- The features of a document are the names that it lists, each once. -/
theorem features_ofMapping {r : Runtime} {entries : List (Data × Data)} {o : Options}
    (h : ofMapping r entries = .ok o) :
    o.features = (listedFeatures entries).eraseDups := by
  rw [ofMapping] at h
  cases hitems : featureItems ((Data.entry? "features" entries).getD .null) with
  | error why => rw [hitems] at h; cases h
  | ok items =>
    cases hnames : items.mapM (featureName r) with
    | error why => simp only [hitems, hnames, bind, Except.bind] at h; cases h
    | ok names =>
      simp only [hitems, hnames, bind, Except.bind] at h
      cases h
      rw [listedFeatures, ← namesIn_eq hitems hnames]
      have hnone : ({ verbose := ((Data.entry? "verbose" entries).getD .null).isTruthy } : Options).features =
          ([] : List Text).eraseDups := rfl
      exact features_addFeatures hnone _

/-- If the entries of the file are accepted, the features of all sources are what they list, each name once. -/
theorem HasEntries.exists_load {r : Runtime} {files : FileTree} {config : Option Text} {entries : List (Data × Data)}
    {fromFile : Options} (h : HasEntries r files config entries) (haccepted : ofMapping r entries = .ok fromFile)
    (environment : Environment) (explicit : List Text) :
    ∃ o, load r files config environment explicit = .ok o ∧ o.features =
      (listedFeatures entries ++ Text.commaItems (environment.get featuresVariable) ++ explicit).eraseDups :=
  ⟨_, h.load_eq haccepted environment explicit,
    features_addFeatures (features_addFeatures (features_ofMapping haccepted) _) explicit⟩

/-- **The features of all sources.** Let `F` be what the file lists, if there is one, and let its entries be accepted; let
`E` be what the environment lists. Loading then gives the names of `F`, those of `E` and the explicit ones, one list after
the other, each name once where it comes first. So no name is there twice, and what the file gives, and what the file and
the environment give, stand at the beginning. -/
theorem load_features_merged {r : Runtime} {files : FileTree} {config : Option Text} {entries : List (Data × Data)}
    {fromFile : Options} (hfile : HasEntries r files config entries) (haccepted : ofMapping r entries = .ok fromFile)
    (environment : Environment) (explicit : List Text) :
    let F := listedFeatures entries
    let E := Text.commaItems (environment.get featuresVariable)
    ∃ o, load r files config environment explicit = .ok o ∧ o.features = (F ++ E ++ explicit).eraseDups ∧
      o.features.Nodup ∧ fromFile.features = F.eraseDups ∧ fromFile.features <+: o.features ∧
      (F ++ E).eraseDups <+: o.features := by
  intro F E
  have hF : fromFile.features = F.eraseDups := features_ofMapping haccepted
  obtain ⟨o, hload, hall⟩ := hfile.exists_load haccepted environment explicit
  refine ⟨o, hload, hall, ?_, hF, ?_, ?_⟩
  · rw [hall]
    exact nodup_eraseDups _
  · rw [hall, hF, List.append_assoc]
    exact eraseDups_prefix_append F (E ++ explicit)
  · rw [hall]
    exact eraseDups_prefix_append (F ++ E) explicit

/-- A list in the file, one in the environment and three names, with repeats in and across them. -/
theorem load_features_merged_three :
    let entries := [(Data.text "features".toList, .list [.text "one".toList, .text "two".toList])]
    let text := "features: [one, two]\n".toList
    let r := decoding [(text, .mapping entries)]
    let environment := [(featuresVariable.toList, "two, three,,".toList)]
    HasEntries r (runFile text) (some "run.yaml".toList) entries ∧
      ofMapping r entries = .ok { features := ["one".toList, "two".toList] } ∧
      ∃ o, load r (runFile text) (some "run.yaml".toList) environment
          ["four".toList, "one".toList, "four".toList] = .ok o ∧
        o.features = ["one", "two", "three", "four"].map String.toList := by
  intro entries text r environment
  have hfile : HasEntries r (runFile text) (some "run.yaml".toList) entries := .mapping (hasDocument_run rfl) rfl rfl
  have haccepted : ofMapping r entries = .ok { features := ["one".toList, "two".toList] } := rfl
  obtain ⟨o, hload, hfeatures, -⟩ :=
    load_features_merged hfile haccepted environment ["four".toList, "one".toList, "four".toList]
  refine ⟨hfile, haccepted, o, hload, ?_⟩
  rw [hfeatures]
  decide

end Options

end ScriptEval
