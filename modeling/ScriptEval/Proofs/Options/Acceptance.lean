import ScriptEval.Proofs.Data.Written
import ScriptEval.Proofs.Options.Sources

/-!
# Documents that give options

Options are written as a mapping, and their features, if there are any, as a text or as a list of texts (`AreOptions`,
`AreFeatures`). Such documents are accepted. So are data that stand for "no", as a document or as the features of one:
zero, false and everything empty are taken for nothing given (`GivesNothing`). Every other document fails for what stands
in the wrong place (`HasFault`): it is rejected with that, unless it is an item that cannot be written. Loading options
from a file does one or the other (`load_document`). For features this is `ofMapping_of_accepted` and
`ofMapping_of_fault`, and for documents `ofDocument_of_accepted` and `ofDocument_of_fault`; in both no third case is left
(`features_cases`, `document_cases`).
-/

namespace ScriptEval.Options

/-! ## Features -/

/-- Features as they are written: none, a comma-separated text, or a list of texts. -/
inductive AreFeatures : Data → Prop
  | none : AreFeatures .null
  | text {v : Data} {t : Text} (h : v.untied = .text t) : AreFeatures v
  | list {v : Data} {items : List Data} (h : v.untied = .list items) (htexts : ∀ item ∈ items, ∃ t, item = .text t) :
      AreFeatures v

/-- The first item of a list that is no text. -/
def IsFirstOther (items : List Data) (item : Data) : Prop :=
  ∃ before after, items = before ++ item :: after ∧ (∀ b ∈ before, ∃ t, b = .text t) ∧ ∀ t, item ≠ .text t

/-- What is wrong with features, with the failure that this is: they are neither a text nor a list, or the list has an
item that is no text. A rejected item is shown, and one that cannot be written fails for that. -/
inductive FeaturesFault (r : Runtime) (v : Data) : Failure → Prop
  | notList (htruthy : v.isTruthy = true) (htext : ∀ t, v.untied ≠ .text t) (hlist : ∀ items, v.untied ≠ .list items) :
      FeaturesFault r v (.script (.options (.featuresNotList v.untied.kindName.toList)))
  | notText {items : List Data} {item : Data} {shown : Text} (hlist : v.untied = .list items)
      (hfirst : IsFirstOther items item) (hwritten : r.write item = .ok shown) :
      FeaturesFault r v (.script (.options (.featureNotText shown)))
  | notWritten {items : List Data} {item : Data} {why : Failure} (hlist : v.untied = .list items)
      (hfirst : IsFirstOther items item) (hwritten : r.write item = .error why) : FeaturesFault r v why

section

variable {v : Data}

theorem featureItems_of_falsy (h : v.isTruthy = false) : featureItems v = .ok [] := by
  rw [featureItems, if_neg (by simp [h])]

theorem featureItems_of_text {t : Text} (h : v.untied = .text t) :
    featureItems v = .ok ((Text.commaItems t).map Data.text) := by
  cases t with
  | nil =>
    have hfalsy : v.isTruthy = false := by rw [← isTruthy_untied, h]; rfl
    rw [featureItems_of_falsy hfalsy]
    rfl
  | cons c t =>
    have htruthy : v.isTruthy = true := by rw [← isTruthy_untied, h]; rfl
    rw [featureItems, if_pos htruthy, h]

theorem featureItems_of_list {items : List Data} (h : v.untied = .list items) : featureItems v = .ok items := by
  cases items with
  | nil =>
    have hfalsy : v.isTruthy = false := by rw [← isTruthy_untied, h]; rfl
    exact featureItems_of_falsy hfalsy
  | cons item items =>
    have htruthy : v.isTruthy = true := by rw [← isTruthy_untied, h]; rfl
    rw [featureItems, if_pos htruthy, h]

theorem featureItems_of_other (htruthy : v.isTruthy = true) (htext : ∀ t, v.untied ≠ .text t)
    (hlist : ∀ items, v.untied ≠ .list items) :
    featureItems v = reject (.featuresNotList v.untied.kindName.toList) := by
  rw [featureItems, if_pos htruthy]
  split
  next t ht => exact absurd ht (htext t)
  next items hitems => exact absurd hitems (hlist items)
  next => rfl

/-- The items of a list all are texts, or there is a first one that is none. -/
theorem texts_cases (items : List Data) :
    (∀ item ∈ items, ∃ t, item = .text t) ∨ ∃ item, IsFirstOther items item := by
  induction items with
  | nil => exact Or.inl nofun
  | cons item items ih =>
    by_cases hitem : ∃ t, item = .text t
    · rcases ih with htexts | ⟨other, before, after, rfl, hbefore, hother⟩
      · exact Or.inl (List.forall_mem_cons.2 ⟨hitem, htexts⟩)
      · exact Or.inr ⟨other, item :: before, after, rfl, List.forall_mem_cons.2 ⟨hitem, hbefore⟩, hother⟩
    · exact Or.inr ⟨item, [], items, rfl, nofun, not_exists.1 hitem⟩

theorem mapM_featureName_of_texts (r : Runtime) {items : List Data} (h : ∀ item ∈ items, ∃ t, item = .text t) :
    ∃ names, items.mapM (featureName r) = .ok names := by
  induction items with
  | nil => exact ⟨[], rfl⟩
  | cons item items ih =>
    obtain ⟨⟨t, rfl⟩, hitems⟩ := List.forall_mem_cons.1 h
    obtain ⟨names, hnames⟩ := ih hitems
    exact ⟨t :: names, by rw [List.mapM_cons, hnames]; rfl⟩

/-- The names of a list fail as the first item does that is no text. -/
theorem mapM_featureName_of_first (r : Runtime) {items : List Data} {item : Data} (h : IsFirstOther items item) :
    items.mapM (featureName r) = r.write item >>= fun written => reject (.featureNotText written) := by
  obtain ⟨before, after, rfl, hbefore, hitem⟩ := h
  induction before with
  | nil =>
    rw [List.nil_append, List.mapM_cons, featureName_of_ne_text r hitem]
    cases r.write item <;> rfl
  | cons b before ih =>
    obtain ⟨⟨t, rfl⟩, hrest⟩ := List.forall_mem_cons.1 hbefore
    rw [List.cons_append, List.mapM_cons, ih hrest]
    cases r.write item <;> rfl

/-- Features are as they are written, or stand for "no", or have a fault. -/
theorem features_cases (r : Runtime) (v : Data) :
    (AreFeatures v ∨ v.isTruthy = false) ∨ ∃ why, FeaturesFault r v why := by
  by_cases htruthy : v.isTruthy = true
  · by_cases htext : ∃ t, v.untied = .text t
    · obtain ⟨t, ht⟩ := htext
      exact Or.inl (Or.inl (.text ht))
    · by_cases hlist : ∃ items, v.untied = .list items
      · obtain ⟨items, hitems⟩ := hlist
        rcases texts_cases items with htexts | ⟨item, hfirst⟩
        · exact Or.inl (Or.inl (.list hitems htexts))
        · cases hwritten : r.write item with
          | ok shown => exact Or.inr ⟨_, .notText hitems hfirst hwritten⟩
          | error why => exact Or.inr ⟨why, .notWritten hitems hfirst hwritten⟩
      · exact Or.inr ⟨_, .notList htruthy (not_exists.1 htext) (not_exists.1 hlist)⟩
  · exact Or.inl (Or.inr (by simpa using htruthy))

end

/-- The names in features that are accepted. -/
theorem exists_names (r : Runtime) {v : Data} (h : AreFeatures v ∨ v.isTruthy = false) :
    ∃ items names, featureItems v = .ok items ∧ items.mapM (featureName r) = .ok names := by
  rcases h with h | hfalsy
  · cases h with
    | none => exact ⟨[], [], rfl, rfl⟩
    | @text _ t ht =>
      have htexts : ∀ item ∈ (Text.commaItems t).map Data.text, ∃ t, item = .text t := by
        intro item hitem
        obtain ⟨t, -, rfl⟩ := List.mem_map.1 hitem
        exact ⟨t, rfl⟩
      obtain ⟨names, hnames⟩ := mapM_featureName_of_texts r htexts
      exact ⟨_, names, featureItems_of_text ht, hnames⟩
    | list hitems htexts =>
      obtain ⟨names, hnames⟩ := mapM_featureName_of_texts r htexts
      exact ⟨_, names, featureItems_of_list hitems, hnames⟩
  · exact ⟨[], [], featureItems_of_falsy hfalsy, rfl⟩

section

variable {r : Runtime} {entries : List (Data × Data)}

theorem ofMapping_of_accepted (h : ∀ v, Data.entry? "features" entries = some v → AreFeatures v ∨ v.isTruthy = false) :
    ∃ o, ofMapping r entries = .ok o := by
  have hfeatures : AreFeatures ((Data.entry? "features" entries).getD .null) ∨
      ((Data.entry? "features" entries).getD .null).isTruthy = false := by
    cases hentry : Data.entry? "features" entries with
    | none => exact Or.inl .none
    | some v => exact h v hentry
  obtain ⟨items, names, hitems, hnames⟩ := exists_names r hfeatures
  cases hmapping : ofMapping r entries with
  | ok o => exact ⟨o, rfl⟩
  | error why =>
    rw [ofMapping, hitems] at hmapping
    simp only [hnames, bind, Except.bind] at hmapping
    cases hmapping

theorem ofMapping_of_fault {v : Data} {why : Failure} (hentry : Data.entry? "features" entries = some v)
    (h : FeaturesFault r v why) : ofMapping r entries = .error why := by
  rw [ofMapping, hentry, Option.getD_some]
  cases h with
  | notList htruthy htext hlist =>
    rw [featureItems_of_other htruthy htext hlist]
    rfl
  | notText hlist hfirst hwritten =>
    rw [featureItems_of_list hlist]
    simp only [mapM_featureName_of_first r hfirst, hwritten, bind, Except.bind]
    rfl
  | notWritten hlist hfirst hwritten =>
    rw [featureItems_of_list hlist]
    simp only [mapM_featureName_of_first r hfirst, hwritten, bind, Except.bind]

end

/-! ## Documents -/

/-- Options as they are written: a mapping in which the entry for features may be missing. -/
inductive AreOptions : Data → Prop
  | mapping {d : Data} {entries : List (Data × Data)} (h : d.untied = .mapping entries)
      (hfeatures : ∀ v, Data.entry? "features" entries = some v → AreFeatures v) : AreOptions d

/-- A document that stands for "no", or whose features do. -/
inductive GivesNothing : Data → Prop
  | document {d : Data} (h : d.isTruthy = false) : GivesNothing d
  | features {d v : Data} {entries : List (Data × Data)} (h : d.untied = .mapping entries)
      (hentry : Data.entry? "features" entries = some v) (hfalsy : v.isTruthy = false) : GivesNothing d

/-- What is wrong with a document, with the failure that this is: it is not a mapping, or its features have a fault. -/
inductive HasFault (r : Runtime) (d : Data) : Failure → Prop
  | notMapping (htruthy : d.isTruthy = true) (h : ∀ entries, d.untied ≠ .mapping entries) :
      HasFault r d (.script (.options (.notMapping d.untied.kindName.toList)))
  | features {v : Data} {entries : List (Data × Data)} {why : Failure} (h : d.untied = .mapping entries)
      (hentry : Data.entry? "features" entries = some v) (hfault : FeaturesFault r v why) : HasFault r d why

/-- A document lists an item among its features that is no text, and the first such one. -/
def ListsOther (d item : Data) : Prop :=
  ∃ entries v items, d.untied = .mapping entries ∧ Data.entry? "features" entries = some v ∧
    v.untied = .list items ∧ IsFirstOther items item

variable {r : Runtime} {d : Data}

/-- A document is rejected for its fault, unless that is an item that cannot be written. -/
theorem HasFault.rejected_or_unwritten {why : Failure} (h : HasFault r d why) :
    (∃ fault, why = .script (.options fault)) ∨ ∃ item, ListsOther d item ∧ r.write item = .error why := by
  cases h with
  | notMapping => exact Or.inl ⟨_, rfl⟩
  | features hmapping hentry hfault =>
    cases hfault with
    | notList => exact Or.inl ⟨_, rfl⟩
    | notText => exact Or.inl ⟨_, rfl⟩
    | notWritten hlist hfirst hwritten => exact Or.inr ⟨_, ⟨_, _, _, hmapping, hentry, hlist, hfirst⟩, hwritten⟩

theorem ListsOther.hasFault {item : Data} {why : Failure} (h : ListsOther d item)
    (hwritten : r.write item = .error why) : HasFault r d why := by
  obtain ⟨entries, v, items, hmapping, hentry, hlist, hfirst⟩ := h
  exact .features hmapping hentry (.notWritten hlist hfirst hwritten)

theorem ofDocument_of_mapping {entries : List (Data × Data)} (h : d.untied = .mapping entries) :
    ofDocument r d = ofMapping r entries := by
  cases entries with
  | nil =>
    have hfalsy : d.isTruthy = false := by rw [← isTruthy_untied, h]; rfl
    rw [ofDocument, if_neg (by simp [hfalsy])]
  | cons entry entries =>
    have htruthy : d.isTruthy = true := by rw [← isTruthy_untied, h]; rfl
    rw [ofDocument, if_pos htruthy, h]

theorem ofDocument_of_accepted (h : AreOptions d ∨ GivesNothing d) : ∃ o, ofDocument r d = .ok o := by
  rcases h with h | h
  · obtain ⟨hmapping, hfeatures⟩ := h
    rw [ofDocument_of_mapping hmapping]
    exact ofMapping_of_accepted fun v hentry => Or.inl (hfeatures v hentry)
  · cases h with
    | document hfalsy =>
      rw [ofDocument, if_neg (by simp [hfalsy])]
      exact ⟨_, rfl⟩
    | features hmapping hentry hfalsy =>
      rw [ofDocument_of_mapping hmapping]
      apply ofMapping_of_accepted
      intro v hv
      rw [hentry] at hv
      cases hv
      exact Or.inr hfalsy

theorem ofDocument_of_fault {why : Failure} (h : HasFault r d why) : ofDocument r d = .error why := by
  cases h with
  | notMapping htruthy hmapping =>
    rw [ofDocument, if_pos htruthy]
    split
    next entries h => exact absurd h (hmapping entries)
    next => rfl
  | features hmapping hentry hfault =>
    rw [ofDocument_of_mapping hmapping]
    exact ofMapping_of_fault hentry hfault

/-- A document gives options as they are written, or stands for "no", or has a fault. -/
theorem document_cases (r : Runtime) (d : Data) : (AreOptions d ∨ GivesNothing d) ∨ ∃ why, HasFault r d why := by
  by_cases hmapping : ∃ entries, d.untied = .mapping entries
  · obtain ⟨entries, h⟩ := hmapping
    cases hentry : Data.entry? "features" entries with
    | none => exact Or.inl (Or.inl (.mapping h (by simp [hentry])))
    | some v =>
      rcases features_cases r v with (hfeatures | hfalsy) | ⟨why, hfault⟩
      · refine Or.inl (Or.inl (.mapping h fun w hw => ?_))
        rw [hentry] at hw
        cases hw
        exact hfeatures
      · exact Or.inl (Or.inr (.features h hentry hfalsy))
      · exact Or.inr ⟨why, .features h hentry hfault⟩
  · by_cases htruthy : d.isTruthy = true
    · exact Or.inr ⟨_, .notMapping htruthy (not_exists.1 hmapping)⟩
    · exact Or.inl (Or.inr (.document (by simpa using htruthy)))

/-! ## Loading -/

section

variable {files : FileTree} {path : Text} (h : HasDocument r files path d) (environment : Environment)
  (explicit : List Text)
include h

/-- The outcome of a file is that of its document. -/
theorem load_eq_map : load r files (some path) environment explicit = (ofDocument r d).map fun o =>
    (o.addFeatures (Text.commaItems (environment.get featuresVariable))).addFeatures explicit := by
  rw [load, h.ofFile_eq]
  cases ofDocument r d <;> rfl

theorem exists_load_of_accepted (haccepted : AreOptions d ∨ GivesNothing d) :
    ∃ o, load r files (some path) environment explicit = .ok o := by
  obtain ⟨o, ho⟩ := ofDocument_of_accepted haccepted
  rw [load_eq_map h, ho]
  exact ⟨_, rfl⟩

theorem load_of_fault {why : Failure} (hfault : HasFault r d why) :
    load r files (some path) environment explicit = .error why := by
  rw [load_eq_map h, ofDocument_of_fault hfault]
  rfl

end

/-- **Which documents give options.** Loading options from a file succeeds exactly if its document gives options as they
are written, or it stands for "no", or its features do. With every other document it fails for the fault of the document:
as options at fault, and the fault is told; or because the first item of the list that is no text cannot be written, which
is so for items nested too deeply and for those with too long an integer in them only. -/
theorem load_document {r : Runtime} {files : FileTree} {path : Text} {d : Data} (h : HasDocument r files path d)
    (environment : Environment) (explicit : List Text) :
    ((∃ o, load r files (some path) environment explicit = .ok o) ↔ AreOptions d ∨ GivesNothing d) ∧
      (∀ why, load r files (some path) environment explicit = .error why ↔ HasFault r d why) ∧
      ∀ why, HasFault r d why → (∃ fault, why = .script (.options fault)) ∨
        ∃ item, ListsOther d item ∧ ((∃ detail, r.dataTooDeep item = some detail ∧ why = .tooDeep detail) ∨
          item.HoldsLong ∧ why = .number .tooLong) := by
  refine ⟨⟨?_, exists_load_of_accepted h environment explicit⟩, fun why => ⟨?_, load_of_fault h environment explicit⟩,
    fun why hfault => ?_⟩
  · rintro ⟨o, ho⟩
    rcases document_cases r d with haccepted | ⟨why, hfault⟩
    · exact haccepted
    · rw [load_of_fault h environment explicit hfault] at ho
      cases ho
  · intro herror
    rcases document_cases r d with haccepted | ⟨why', hfault⟩
    · obtain ⟨o, ho⟩ := exists_load_of_accepted h environment explicit haccepted
      rw [ho] at herror
      cases herror
    · rw [load_of_fault h environment explicit hfault] at herror
      exact Except.error.inj herror ▸ hfault
  · rcases hfault.rejected_or_unwritten with hrejected | ⟨item, hitem, hwritten⟩
    · exact Or.inl hrejected
    · exact Or.inr ⟨item, hitem, Runtime.write_eq_error hwritten⟩

/-- A list of features in which the second item is a number. -/
theorem load_document_number :
    let d := Data.mapping [(.text "features".toList, .list [.text "gui".toList, .int 3])]
    let text := "features: [gui, 3]\n".toList
    let r := decoding [(text, d)]
    HasDocument r (runFile text) "run.yaml".toList d ∧ ¬ (AreOptions d ∨ GivesNothing d) ∧
      load r (runFile text) (some "run.yaml".toList) [] [] = .error (.script (.options (.featureNotText ['3']))) := by
  intro d text r
  have hdocument : HasDocument r (runFile text) "run.yaml".toList d := hasDocument_run rfl
  have hfirst : IsFirstOther [.text "gui".toList, .int 3] (.int 3) :=
    ⟨[.text "gui".toList], [], rfl, by simp, by simp⟩
  have hwritten : r.write (.int 3) = .ok ['3'] := by
    show (Text.ofInt? 3).mapError Failure.number = .ok ['3']
    exact eq_ok_of_toOption (by decide +kernel)
  have hfault : HasFault r d (.script (.options (.featureNotText ['3']))) :=
    .features rfl rfl (.notText rfl hfirst hwritten)
  obtain ⟨haccepted, hfails, -⟩ := load_document hdocument [] []
  have herror := (hfails _).2 hfault
  refine ⟨hdocument, fun h => ?_, herror⟩
  obtain ⟨o, ho⟩ := haccepted.2 h
  rw [herror] at ho
  cases ho

/-- An empty list where a mapping is expected, and zero where features are: neither document is as options are written,
and both are accepted. -/
theorem load_accepts_empty_list :
    let list := Data.list []
    let zero := Data.mapping [(.text "features".toList, .int 0)]
    let r := decoding [("[]".toList, list), ("features: 0\n".toList, zero)]
    HasDocument r (runFile "[]".toList) "run.yaml".toList list ∧ ¬ AreOptions list ∧
      load r (runFile "[]".toList) (some "run.yaml".toList) [] [] = .ok {} ∧
      HasDocument r (runFile "features: 0\n".toList) "run.yaml".toList zero ∧ ¬ AreOptions zero ∧
      load r (runFile "features: 0\n".toList) (some "run.yaml".toList) [] [] = .ok {} := by
  intro list zero r
  have hlist : HasDocument r (runFile "[]".toList) "run.yaml".toList list := hasDocument_run rfl
  have hzero : HasDocument r (runFile "features: 0\n".toList) "run.yaml".toList zero := hasDocument_run rfl
  refine ⟨hlist, ?_, ?_, hzero, ?_, ?_⟩
  · rintro ⟨hmapping, -⟩
    cases hmapping
  · rw [load, hlist.ofFile_eq]
    rfl
  · rintro ⟨hmapping, hfeatures⟩
    cases hmapping
    rcases hfeatures (.int 0) rfl with - | htext | ⟨hitems, -⟩
    · cases htext
    · cases hitems
  · rw [load, hzero.ofFile_eq]
    rfl

end ScriptEval.Options
