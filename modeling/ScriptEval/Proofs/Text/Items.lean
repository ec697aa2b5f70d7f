import ScriptEval.Text.Blank
import ScriptEval.Proofs.Text.Ends
import Mathlib.Data.List.TakeDrop
import Mathlib.Data.List.TakeWhile
import Mathlib.Tactic.MkIffOfInductiveProp

/-!
# Items of comma-separated lists

A list in text has an item for each piece between its commas that is not blank: that piece without the blanks around it
(`commaItems_eq`, `commaItems_of_not_mem`). So its items are trimmed texts without commas (`isItem_of_mem_commaItems`),
and any such texts are the items of the list in which they are written one after the other (`commaItems_join`). A text
with a separator in it is cut at the first one (`cutAtChar_append`).
-/

namespace ScriptEval.Text

/-! ## Blanks at the ends -/

/-- A text that neither starts nor ends with a blank. -/
def IsTrimmed (t : Text) : Prop := (∀ c ∈ t.head?, isBlank c = false) ∧ ∀ c ∈ t.getLast?, isBlank c = false

/-- Nothing is taken off a text without blanks at its ends. -/
theorem IsTrimmed.strip_eq {t : Text} (h : IsTrimmed t) : strip t = t := by
  rw [strip, trim, trimLeft_eq_self h.1, trimRight_eq_self h.2]

/-- Nothing is left of a blank text, and something of every other. -/
theorem strip_eq_nil_iff {t : Text} : strip t = [] ↔ ∀ c ∈ t, isBlank c = true := by
  constructor
  · intro hnil
    obtain ⟨left, right, heq, hleft, hright⟩ := exists_append_trim isBlank t
    rw [show trim isBlank t = [] from hnil, List.append_nil] at heq
    rw [heq]
    exact List.forall_mem_append.2 ⟨hleft, hright⟩
  · intro hall
    have hnone : ∀ c ∈ ([] : Text), isBlank c = true := nofun
    have htrim := trim_append hall hnone []
    rw [List.append_nil, List.append_nil] at htrim
    rw [strip, htrim]
    rfl

theorem strip_subset (t : Text) : strip t ⊆ t := by
  obtain ⟨left, right, heq, -, -⟩ := exists_append_trim isBlank t
  intro c hc
  rw [heq]
  exact List.mem_append_left _ (List.mem_append_right _ hc)

/-- A text without the blanks at its ends starts with the first character that is not blank. -/
theorem head?_strip (t : Text) : (strip t).head? = t.find? (!isBlank ·) := by
  rw [List.find?_not_eq_head?_dropWhile]
  have hprefix : strip t <+: t.dropWhile isBlank := List.rdropWhile_prefix isBlank (trimLeft isBlank t)
  cases hstrip : strip t with
  | nil => rw [List.dropWhile_eq_nil_iff.2 (strip_eq_nil_iff.1 hstrip)]
  | cons c u =>
    rw [hstrip] at hprefix
    obtain ⟨rest, hrest⟩ := hprefix
    rw [← hrest]
    rfl

theorem isTrimmed_strip (t : Text) : IsTrimmed (strip t) := ⟨head?_trim isBlank t, getLast?_trim isBlank t⟩

theorem strip_eq_self_iff {t : Text} : strip t = t ↔ IsTrimmed t :=
  ⟨fun h => h ▸ isTrimmed_strip t, IsTrimmed.strip_eq⟩

instance (t : Text) : Decidable (IsTrimmed t) := decidable_of_iff _ strip_eq_self_iff

theorem map_strip_of_isTrimmed {items : List Text} (h : ∀ item ∈ items, IsTrimmed item) : items.map strip = items := by
  conv_rhs => rw [← List.map_id items]
  exact List.map_congr_left fun item hitem => (h item hitem).strip_eq

/-! ## Pieces between separators -/

/-- The items of a list are the pieces between its commas that are not blank, without the blanks around them. -/
theorem commaItems_eq (t : Text) :
    commaItems t = ((splitOn ',' t).filter fun piece => piece.any (!isBlank ·)).map strip := by
  rw [commaItems, List.filter_map]
  congr 1
  apply List.filter_congr
  intro piece _
  rw [Bool.eq_iff_iff]
  simp [strip_eq_nil_iff]

theorem splitOn_eq (sep : Char) (t : Text) : splitOn sep t = List.splitOn sep t := by
  induction t with
  | nil => rfl
  | cons c t ih =>
    rw [splitOn, List.splitOn_cons_eq_if_modifyHead, ih]
    simp only [beq_iff_eq]
    split
    · rfl
    · cases h : List.splitOn sep t with
      | nil => exact absurd h (List.splitOn_ne_nil sep t)
      | cons piece pieces => rfl

theorem join_eq (sep : Text) (pieces : List Text) : join sep pieces = sep.intercalate pieces := by
  induction pieces with
  | nil => rfl
  | cons piece pieces ih =>
    cases pieces with
    | nil => rw [join, List.intercalate_singleton]
    | cons next pieces => rw [join, ih, List.intercalate_cons_cons]; simp

theorem splitOn_of_not_mem {sep : Char} {t : Text} (h : sep ∉ t) : splitOn sep t = [t] := by
  rw [splitOn_eq, List.splitOn_eq_singleton h]

/-- Splitting gives back the pieces that were joined, if there were any and no separator in them. -/
theorem splitOn_join {sep : Char} {pieces : List Text} (hne : pieces ≠ []) (h : ∀ piece ∈ pieces, sep ∉ piece) :
    splitOn sep (join [sep] pieces) = pieces := by
  rw [splitOn_eq, join_eq, List.splitOn_intercalate sep h hne]

theorem not_mem_of_mem_splitOn {sep : Char} {t piece : Text} (h : piece ∈ splitOn sep t) : sep ∉ piece := by
  induction t generalizing piece with
  | nil =>
    rw [splitOn, List.mem_singleton] at h
    rw [h]
    exact List.not_mem_nil
  | cons c t ih =>
    rw [splitOn] at h
    split at h
    next =>
      rcases List.mem_cons.1 h with rfl | h
      · exact List.not_mem_nil
      · exact ih h
    next hc =>
      cases hsplit : splitOn sep t with
      | nil => exact absurd hsplit (splitOn_ne_nil sep t)
      | cons first pieces =>
        rw [hsplit] at h ih
        rcases List.mem_cons.1 h with rfl | h
        · intro hmem
          rcases List.mem_cons.1 hmem with rfl | hmem
          · exact hc rfl
          · exact ih List.mem_cons_self hmem
        · exact ih (List.mem_cons_of_mem _ h)

/-- The characters of a text are the separator and those of its pieces. -/
theorem exists_mem_splitOn_iff {sep c : Char} (hc : c ≠ sep) {t : Text} :
    (∃ piece ∈ splitOn sep t, c ∈ piece) ↔ c ∈ t := by
  induction t with
  | nil => simp [splitOn]
  | cons d t ih =>
    rw [splitOn, List.mem_cons, ← ih]
    split
    next hd => simp [hd, hc]
    next =>
      cases hsplit : splitOn sep t with
      | nil => exact absurd hsplit (splitOn_ne_nil sep t)
      | cons piece pieces => simp only [List.mem_cons, or_and_right, exists_or, exists_eq_left, or_assoc]

/-- A list without commas has its text as its only item, unless that is blank. -/
theorem commaItems_of_not_mem {t : Text} (h : ',' ∉ t) :
    commaItems t = if strip t = [] then [] else [strip t] := by
  rw [commaItems, splitOn_of_not_mem h, List.map_singleton]
  split
  next hblank => simp [hblank]
  next hblank => simp [hblank]

/-- An item of a comma-separated list: a trimmed text with something in it, and without commas. -/
@[mk_iff]
structure IsItem (t : Text) : Prop where
  ne_nil : t ≠ []
  comma_not_mem : ',' ∉ t
  isTrimmed : IsTrimmed t

instance (t : Text) : Decidable (IsItem t) := decidable_of_iff _ (isItem_iff t).symm

theorem isItem_of_mem_commaItems {t item : Text} (h : item ∈ commaItems t) : IsItem item := by
  rw [commaItems, List.mem_filter] at h
  obtain ⟨hmem, hne⟩ := h
  obtain ⟨piece, hpiece, rfl⟩ := List.mem_map.1 hmem
  refine ⟨by simpa using hne, fun hcomma => ?_, isTrimmed_strip piece⟩
  exact not_mem_of_mem_splitOn hpiece (strip_subset piece hcomma)

/-- The items of a list in which items are written one after the other. -/
theorem commaItems_join {items : List Text} (h : ∀ item ∈ items, IsItem item) : commaItems (join [','] items) = items := by
  by_cases hnil : items = []
  · rw [hnil]
    decide
  · have hstrip : items.map strip = items := map_strip_of_isTrimmed fun item hitem => (h item hitem).isTrimmed
    rw [commaItems, splitOn_join hnil fun item hitem => (h item hitem).comma_not_mem, hstrip, List.filter_eq_self]
    intro item hitem
    simp [(h item hitem).ne_nil]

/-! ## Cutting at a separator -/

theorem cutAtChar_fst (sep : Char) (t : Text) : (cutAtChar sep t).1 = t.takeWhile (· != sep) := by
  rw [cutAtChar, List.span_eq_takeWhile_dropWhile]
  split
  next before heq => exact (congrArg Prod.fst heq).symm
  next before _ after heq => exact (congrArg Prod.fst heq).symm

theorem cutAtChar_append {sep : Char} {before : Text} (h : sep ∉ before) (after : Text) :
    cutAtChar sep (before ++ sep :: after) = (before, some after) := by
  have hspan : (before ++ sep :: after).span (· != sep) = (before, sep :: after) := by
    have hall : ∀ c ∈ before, (c != sep) = true := by
      intro c hc
      simp only [bne_iff_ne, ne_eq]
      rintro rfl
      exact h hc
    rw [List.span_eq_takeWhile_dropWhile, List.takeWhile_append_of_pos hall, List.dropWhile_append_of_pos hall]
    simp
  rw [cutAtChar, hspan]

end ScriptEval.Text
