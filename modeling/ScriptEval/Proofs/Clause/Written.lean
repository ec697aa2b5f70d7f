import ScriptEval.Clause
import ScriptEval.Proofs.Text.Items

/-!
# Clauses as a command line writes them

Reading a clause cuts off an exclamation mark at the very beginning of its text, and then the part before the first colon,
the key, whose blanks at the ends do not count (`read_eq`). So it fails exactly if the key is blank (`read_eq_error_iff`),
and the clause that it gives is in canonical form (`isCanonical_of_read`). A clause in canonical form is read back from the
text in which it is written (`IsCanonical.read_written`), unless it is not negated and its name starts with an
exclamation mark, which there is taken for a negation (`IsCanonical.read_written_of_bang`). Reading gives such a clause
where blanks stand in front of the mark (`hasLateMark_iff`).
-/

namespace ScriptEval.Clause

/-! ## Reading -/

/-- Behind an exclamation mark stands a negated clause. -/
theorem read_negated (body : Text) : read ('!' :: body) =
    let cut := Text.cutAtChar ':' body
    if (Text.strip cut.1).isEmpty then .error (.invalidClause body)
    else .ok { name := Text.strip cut.1, values := Text.commaItems (cut.2.getD []), negated := true } := rfl

theorem read_plain {t : Text} (h : t.head? ≠ some '!') : read t =
    let cut := Text.cutAtChar ':' t
    if (Text.strip cut.1).isEmpty then .error (.invalidClause t)
    else .ok { name := Text.strip cut.1, values := Text.commaItems (cut.2.getD []) } := by
  unfold read
  split
  rename_i negated body heq
  split at heq
  · simp at h
  · obtain ⟨rfl, rfl⟩ := Prod.mk.inj heq
    rfl

section

variable {key : Text} (hcolon : ':' ∉ key)
include hcolon

theorem read_negated_append (values : Text) : read ('!' :: (key ++ ':' :: values)) =
    if Text.strip key = [] then .error (.invalidClause (key ++ ':' :: values))
    else .ok { name := Text.strip key, values := Text.commaItems values, negated := true } := by
  rw [read_negated, Text.cutAtChar_append hcolon]
  simp

theorem read_plain_append (hbang : key.head? ≠ some '!') (hname : Text.strip key ≠ []) (values : Text) :
    read (key ++ ':' :: values) = .ok { name := Text.strip key, values := Text.commaItems values } := by
  have hkey : key ≠ [] := by
    rintro rfl
    exact hname rfl
  have hhead : (key ++ ':' :: values).head? ≠ some '!' := by rwa [List.head?_append_of_ne_nil _ hkey]
  rw [read_plain hhead, Text.cutAtChar_append hcolon]
  simp [hname]

/-- The clause of a name, a colon and a list of values, and its negation. -/
theorem read_append (hbang : key.head? ≠ some '!') (hname : Text.strip key ≠ []) (values : Text) :
    read (key ++ ':' :: values) = .ok { name := Text.strip key, values := Text.commaItems values } ∧
      read ('!' :: (key ++ ':' :: values)) =
        .ok { name := Text.strip key, values := Text.commaItems values, negated := true } := by
  rw [read_plain_append hcolon hbang hname, read_negated_append hcolon, if_neg hname]
  exact ⟨rfl, rfl⟩

end

/-- The text of a clause without the exclamation mark at its beginning, if it has one. -/
def bodyOf (t : Text) : Text := if t.head? = some '!' then t.tail else t

/-- What stands before the first colon of that. -/
def keyOf (t : Text) : Text := (bodyOf t).takeWhile (· != ':')

/-- A clause is read from its key and its values, whether it is negated or not. -/
theorem read_eq (t : Text) : read t =
    if Text.strip (keyOf t) = [] then .error (.invalidClause (bodyOf t))
    else .ok { name := Text.strip (keyOf t), values := Text.commaItems ((Text.cutAtChar ':' (bodyOf t)).2.getD []),
               negated := t.head? == some '!' } := by
  rw [keyOf, ← Text.cutAtChar_fst]
  by_cases hbang : t.head? = some '!'
  · obtain ⟨body, rfl⟩ := List.head?_eq_some_iff.1 hbang
    rw [read_negated]
    simp [bodyOf]
  · have hmark : (t.head? == some '!') = false := by simpa using hbang
    rw [read_plain hbang, hmark]
    simp [bodyOf, hbang]

/-- No clause is read exactly if the key is blank. -/
theorem read_eq_error_iff {t : Text} {why : Failure} : read t = .error why ↔
    why = .invalidClause (bodyOf t) ∧ ∀ ch ∈ keyOf t, Text.isBlank ch = true := by
  rw [read_eq, ← Text.strip_eq_nil_iff]
  by_cases hblank : Text.strip (keyOf t) = []
  · rw [if_pos hblank]
    constructor
    · rintro ⟨⟩
      exact ⟨rfl, hblank⟩
    · rintro ⟨rfl, -⟩
      rfl
  · rw [if_neg hblank]
    constructor
    · nofun
    · exact fun h => absurd h.2 hblank

/-- The parts of a clause that is read. -/
theorem parts_of_read {t : Text} {c : Clause} (h : read t = .ok c) :
    Text.strip (keyOf t) ≠ [] ∧ c.name = Text.strip (keyOf t) ∧
      c.values = Text.commaItems ((Text.cutAtChar ':' (bodyOf t)).2.getD []) ∧ c.negated = (t.head? == some '!') := by
  rw [read_eq] at h
  split at h
  next => cases h
  next hname =>
    cases h
    exact ⟨hname, rfl, rfl, rfl⟩

/-! ## Canonical form -/

/-- A clause whose name and values can be told from each other in writing: a trimmed name without colons, and items of a
comma-separated list. -/
@[mk_iff]
structure IsCanonical (c : Clause) : Prop where
  name_ne_nil : c.name ≠ []
  colon_not_mem : ':' ∉ c.name
  isTrimmed_name : Text.IsTrimmed c.name
  isItem_values : ∀ v ∈ c.values, Text.IsItem v

instance (c : Clause) : Decidable c.IsCanonical := decidable_of_iff _ (isCanonical_iff c).symm

theorem isCanonical_of_read {t : Text} {c : Clause} (h : read t = .ok c) : c.IsCanonical := by
  obtain ⟨hne, hname, hvalues, -⟩ := parts_of_read h
  refine ⟨hname ▸ hne, fun hcolon => ?_, hname ▸ Text.isTrimmed_strip _, fun v hv => ?_⟩
  · rw [hname] at hcolon
    have hmem : ':' ∈ keyOf t := Text.strip_subset _ hcolon
    simpa using List.mem_takeWhile_imp hmem
  · rw [hvalues] at hv
    exact Text.isItem_of_mem_commaItems hv

/-- The name of a clause starts with the first character of its text that is neither blank nor the exclamation mark at
the beginning. -/
theorem head?_name_of_read {t : Text} {c : Clause} (h : read t = .ok c) :
    c.name.head? = (bodyOf t).find? (!Text.isBlank ·) := by
  obtain ⟨hne, hname, -⟩ := parts_of_read h
  have hhead : c.name.head? = (keyOf t).find? (!Text.isBlank ·) := by rw [hname, Text.head?_strip]
  have hbody : bodyOf t = keyOf t ++ (bodyOf t).dropWhile (· != ':') := List.takeWhile_append_dropWhile.symm
  obtain ⟨ch, name, hcons⟩ := List.exists_cons_of_ne_nil (hname ▸ hne)
  rw [hbody, List.find?_append, ← hhead, hcons]
  rfl

/-! ## Writing -/

/-- The text of a clause: a mark if it is negated, the name, a colon, and the values between commas. -/
def written (c : Clause) : Text := (if c.negated then ['!'] else []) ++ c.name ++ ':' :: Text.join [','] c.values

namespace IsCanonical

variable {c : Clause}

theorem read_written (hc : c.IsCanonical) (hbang : c.negated = false → c.name.head? ≠ some '!') :
    read c.written = .ok c := by
  obtain ⟨name, values, negated⟩ := c
  have hname : Text.strip name = name := hc.isTrimmed_name.strip_eq
  have hne : Text.strip name ≠ [] := by rw [hname]; exact hc.name_ne_nil
  have hitems : Text.commaItems (Text.join [','] values) = values := Text.commaItems_join hc.isItem_values
  cases negated with
  | true =>
    show read ('!' :: (name ++ ':' :: Text.join [','] values)) = _
    rw [read_negated_append hc.colon_not_mem, if_neg hne, hname, hitems]
  | false =>
    show read (name ++ ':' :: Text.join [','] values) = _
    rw [read_plain_append hc.colon_not_mem (hbang rfl) hne, hname, hitems]

/-- An exclamation mark in front of a name is taken for a negation. -/
theorem read_written_of_bang (hc : c.IsCanonical) (hplain : c.negated = false) {name : Text}
    (hname : c.name = '!' :: name) : read c.written =
      if Text.strip name = [] then .error (.invalidClause (name ++ ':' :: Text.join [','] c.values))
      else .ok { name := Text.strip name, values := c.values, negated := true } := by
  have hcolon : ':' ∉ name := by
    intro hmem
    apply hc.colon_not_mem
    rw [hname]
    exact List.mem_cons_of_mem _ hmem
  have hwritten : c.written = '!' :: (name ++ ':' :: Text.join [','] c.values) := by
    rw [written, hplain, hname]
    rfl
  rw [hwritten, read_negated_append hcolon, Text.commaItems_join hc.isItem_values]

end IsCanonical

/-- **What is written is read.** A clause in canonical form is read back from its text, if it is negated or its name does
not start with an exclamation mark. No clause is read from a text exactly if there is nothing but blanks before its first
colon, an exclamation mark at the beginning left aside. -/
theorem read_written_and_invalid :
    (∀ c : Clause, c.IsCanonical → (c.negated = false → c.name.head? ≠ some '!') → read c.written = .ok c) ∧
      ∀ (t : Text) (why : Failure), read t = .error why ↔
        why = .invalidClause (bodyOf t) ∧ ∀ ch ∈ keyOf t, Text.isBlank ch = true :=
  ⟨fun _ hc hbang => hc.read_written hbang, fun _ _ => read_eq_error_iff⟩

/-- A negated clause whose name starts with an exclamation mark and whose values have colons and marks in them, and a text
without a name. -/
theorem read_written_negated :
    let c : Clause := { name := "!a b".toList, values := ["x:y".toList, "!z".toList], negated := true }
    c.IsCanonical ∧ c.written = "!!a b:x:y,!z".toList ∧ read c.written = .ok c ∧
      read "! \t:x".toList = .error (.invalidClause " \t:x".toList) := by
  intro c
  obtain ⟨hread, hinvalid⟩ := read_written_and_invalid
  have hc : c.IsCanonical := by decide
  have hblank : ∀ ch ∈ keyOf "! \t:x".toList, Text.isBlank ch = true := List.all_eq_true.1 (by decide)
  exact ⟨hc, by decide, hread c hc (by decide), (hinvalid _ _).2 ⟨by rfl, hblank⟩⟩

/-- A text that starts with blanks and an exclamation mark behind them. -/
def HasLateMark (t : Text) : Prop := t.head? ≠ some '!' ∧ t.find? (!Text.isBlank ·) = some '!'

instance (t : Text) : Decidable (HasLateMark t) := inferInstanceAs (Decidable (_ ∧ _))

/-- From such texts, and from no others, come the plain clauses whose name starts with an exclamation mark. -/
theorem hasLateMark_iff {t : Text} {c : Clause} (h : read t = .ok c) :
    HasLateMark t ↔ c.negated = false ∧ c.name.head? = some '!' := by
  obtain ⟨-, -, -, hnegated⟩ := parts_of_read h
  have hplain : c.negated = false ↔ t.head? ≠ some '!' := by simp [hnegated]
  rw [HasLateMark, hplain]
  apply and_congr_right
  intro hhead
  rw [head?_name_of_read h, bodyOf, if_neg hhead]

/-- **Reading gives clauses in canonical form**, and they are read back from their texts, unless there were blanks before
an exclamation mark. Such a mark is not taken for a negation but for the first character of the name; in the text of that
clause it stands at the beginning, and is a negation there. -/
theorem read_written_of_read {t : Text} {c : Clause} (h : read t = .ok c) :
    c.IsCanonical ∧ (read c.written = .ok c ↔ ¬ HasLateMark t) ∧
      (HasLateMark t → ∃ name, c.name = '!' :: name ∧ c.negated = false ∧ read c.written =
        if Text.strip name = [] then .error (.invalidClause (name ++ ':' :: Text.join [','] c.values))
        else .ok { name := Text.strip name, values := c.values, negated := true }) := by
  have hc : c.IsCanonical := isCanonical_of_read h
  rw [hasLateMark_iff h]
  refine ⟨hc, ⟨?_, ?_⟩, ?_⟩
  · rintro hread ⟨hplain, hbang⟩
    obtain ⟨name, hname⟩ := List.head?_eq_some_iff.1 hbang
    rw [hc.read_written_of_bang hplain hname] at hread
    split at hread
    next => cases hread
    next =>
      have hnegated : true = c.negated := congrArg Clause.negated (Except.ok.inj hread)
      rw [hplain] at hnegated
      cases hnegated
  · intro hmark
    exact hc.read_written fun hplain hbang => hmark ⟨hplain, hbang⟩
  · rintro ⟨hplain, hbang⟩
    obtain ⟨name, hname⟩ := List.head?_eq_some_iff.1 hbang
    exact ⟨name, hname, hplain, hc.read_written_of_bang hplain hname⟩

/-- A text with blanks around the name and the values, and with empty values. -/
theorem read_written_of_read_blanks :
    let t := "! feat\t: GUI,, a:b ,".toList
    let c : Clause := { name := "feat".toList, values := ["GUI".toList, "a:b".toList], negated := true }
    read t = .ok c ∧ ¬ HasLateMark t ∧ c.IsCanonical ∧ read c.written = .ok c := by
  intro t c
  have hread : read t = .ok c := rfl
  have hmark : ¬ HasLateMark t := by decide
  obtain ⟨hc, hwritten, -⟩ := read_written_of_read hread
  exact ⟨hread, hmark, hc, hwritten.2 hmark⟩

/-- A mark behind a blank is the first character of a name, and a negation when that clause is written and read again. -/
theorem read_written_late_mark :
    let c : Clause := { name := "!os".toList, values := ["x".toList] }
    read " !os:x".toList = .ok c ∧ c.written = "!os:x".toList ∧
      read c.written = .ok { name := "os".toList, values := ["x".toList], negated := true } ∧ read c.written ≠ .ok c := by
  intro c
  have hother : read c.written = .ok { name := "os".toList, values := ["x".toList], negated := true } := rfl
  refine ⟨rfl, by decide, hother, ?_⟩
  intro hsame
  have hnegated : true = false := congrArg Clause.negated (Except.ok.inj (hother.symm.trans hsame))
  cases hnegated

end ScriptEval.Clause
