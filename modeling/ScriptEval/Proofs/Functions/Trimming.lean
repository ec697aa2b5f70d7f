import ScriptEval.Proofs.Functions.Calls
import ScriptEval.Proofs.Value.Decimal

/-!
# Trimming

The three trimming functions take off white space, or copies of one character, at one end of a text or at both
(`returns_trim`). They fit together as the operations on texts do (`trims_agree`). White space is blank
(`isBlank_of_isWhiteSpace`), so trimming a text does not change the integer that it is read as, just as blanks around
the digits of an integer do not (`integer_through_text`).
-/

namespace ScriptEval.Functions

/-- The ends of a text at which a function trims. -/
inductive Ends
  | left
  | right
  | both

namespace Ends

/-- The name of the function that trims there. -/
def name : Ends → String
  | left => "trim_left"
  | right => "trim_right"
  | both => "trim"

/-- The text without the runs of characters in `p` there. -/
def trim : Ends → (Char → Bool) → Text → Text
  | left => Text.trimLeft
  | right => Text.trimRight
  | both => Text.trim

theorem trim_trim (e : Ends) (p : Char → Bool) (t : Text) : e.trim p (e.trim p t) = e.trim p t := by
  cases e with
  | left => exact Text.trimLeft_trimLeft p t
  | right => exact Text.trimRight_trimRight p t
  | both => exact Text.trim_trim p t

/-- A text is what is left of another without the runs of characters in `p` there. -/
structure Trims (e : Ends) (p : Char → Bool) (t trimmed : Text) : Prop where
  exists_append : ∃ left right, t = left ++ trimmed ++ right ∧ (∀ c ∈ left ++ right, p c = true) ∧
    (e = .left → right = []) ∧ (e = .right → left = [])
  head? : e ≠ .right → ∀ c ∈ trimmed.head?, p c = false
  getLast? : e ≠ .left → ∀ c ∈ trimmed.getLast?, p c = false

theorem trims_trim (e : Ends) (p : Char → Bool) (t : Text) : e.Trims p t (e.trim p t) := by
  cases e with
  | left =>
    obtain ⟨left, ht, hleft⟩ := Text.exists_append_trimLeft p t
    refine ⟨⟨left, [], ?_, ?_, fun _ => rfl, nofun⟩, fun _ => Text.head?_trimLeft p t, fun h => absurd rfl h⟩
    · rw [List.append_nil]
      exact ht
    · rw [List.append_nil]
      exact hleft
  | right =>
    obtain ⟨right, ht, hright⟩ := Text.exists_append_trimRight p t
    exact ⟨⟨[], right, ht, hright, nofun, fun _ => rfl⟩, fun h => absurd rfl h, fun _ => Text.getLast?_trimRight p t⟩
  | both =>
    obtain ⟨left, right, ht, hleft, hright⟩ := Text.exists_append_trim p t
    exact ⟨⟨left, right, ht, List.forall_mem_append.2 ⟨hleft, hright⟩, nofun, nofun⟩, fun _ => Text.head?_trim p t,
      fun _ => Text.getLast?_trim p t⟩

theorem trim_of_none (e : Ends) (t : Text) : e.trim (fun _ => false) t = t := by
  obtain ⟨left, right, ht, hnone, -⟩ := (e.trims_trim (fun _ => false) t).exists_append
  have hnil : left ++ right = [] := List.eq_nil_iff_forall_not_mem.2 fun c hc => Bool.false_ne_true (hnone c hc)
  obtain ⟨rfl, rfl⟩ := List.append_eq_nil_iff.1 hnil
  rw [List.nil_append, List.append_nil] at ht
  exact ht.symm

end Ends

/-! ## Calls -/

/-- What is taken off: white space, or the first character of the second argument, and nothing if that is empty. -/
def takenOff : Option Text → Char → Bool
  | none => Text.isWhiteSpace
  | some [] => fun _ => false
  | some (c :: _) => (· == c)

section

variable (services : Services) (world : World) {subject : Value} {rest : List Value} {s : Text} {chars : Option Text}
  (hs : subject.toText = .ok s) (hchars : rest.head?.mapM Value.toText = .ok chars)

include hs hchars

theorem trimWith_eq (e : Ends) : trimWith e.trim (subject :: rest) = .ok (.text (e.trim (takenOff chars) s)) := by
  rcases optional_cases hchars with ⟨rfl, rfl⟩ | ⟨what, more, u, rfl, hwhat, rfl⟩
  · rw [trimWith, hs]
    rfl
  · rw [trimWith, hs, hwhat]
    cases u with
    | nil =>
      rw [takenOff, e.trim_of_none]
      rfl
    | cons c u => rfl

theorem returns_trim (e : Ends) :
    Returns services world e.name (subject :: rest) (.text (e.trim (takenOff chars) s)) := by
  refine (returns_iff_of_string ?_).2 (trimWith_eq hs hchars e)
  cases e with
  | left => exact ⟨_, List.mem_of_getElem? (i := 1) rfl, rfl, rfl⟩
  | right => exact ⟨_, List.mem_of_getElem? (i := 2) rfl, rfl, rfl⟩
  | both => exact ⟨_, List.mem_of_getElem? (i := 0) rfl, rfl, rfl⟩

end

/-- **The three trims fit together.** Each takes off the runs of white space, or of the first character of a second
argument, at its ends of a text, and a second time nothing. To trim a text at one end and then at the other, in either
order, is to trim it at both. -/
theorem trims_agree (services : Services) (world : World) {subject : Value} {rest : List Value} {s : Text}
    {chars : Option Text} (hs : subject.toText = .ok s) (hchars : rest.head?.mapM Value.toText = .ok chars) :
    ∃ trimmed : Ends → Text,
      (∀ e, Returns services world e.name (subject :: rest) (.text (trimmed e)) ∧
        e.Trims (takenOff chars) s (trimmed e) ∧
        Returns services world e.name (.text (trimmed e) :: rest) (.text (trimmed e))) ∧
      Returns services world "trim_left" (.text (trimmed .right) :: rest) (.text (trimmed .both)) ∧
      Returns services world "trim_right" (.text (trimmed .left) :: rest) (.text (trimmed .both)) := by
  have hagain (e e' : Ends) : Returns services world e'.name (.text (e.trim (takenOff chars) s) :: rest)
      (.text (e'.trim (takenOff chars) (e.trim (takenOff chars) s))) := returns_trim services world rfl hchars e'
  refine ⟨fun e => e.trim (takenOff chars) s, fun e => ⟨returns_trim services world hs hchars e, e.trims_trim _ s, ?_⟩,
    ?_, hagain .left .right⟩
  · have htwice := hagain e e
    rwa [e.trim_trim] at htwice
  · have hother := hagain .right .left
    rwa [show Ends.left.trim _ (Ends.right.trim _ s) = Ends.both.trim _ s from Text.trimLeft_trimRight _ s] at hother

/-- Of a second argument only the first character is taken off: the ones around an integer, and no `x`. -/
theorem trims_agree_ones :
    let services := ({} : World).services {}
    let rest : List Value := [.text "1x".toList, .int 0]
    (Value.int 1001).toText = .ok "1001".toList ∧ rest.head?.mapM Value.toText = .ok (some "1x".toList) ∧
      ∃ t, Returns services {} "trim" (.int 1001 :: rest) (.text t) ∧
        (∃ left right, "1001".toList = left ++ t ++ right ∧ ∀ c ∈ left ++ right, (c == '1') = true) ∧
        Returns services {} "trim" (.text t :: rest) (.text t) := by
  intro services rest
  have hs : (Value.int 1001).toText = .ok "1001".toList := by
    rw [Value.toText, writeInt_eq, if_neg (by decide +kernel)]
    exact congrArg Except.ok (by decide +kernel)
  have hrest : rest.head?.mapM Value.toText = .ok (some "1x".toList) := rfl
  obtain ⟨trimmed, hall, -⟩ := trims_agree services {} hs hrest
  obtain ⟨honce, htrims, htwice⟩ := hall .both
  obtain ⟨left, right, heq, hones, -⟩ := htrims.exists_append
  exact ⟨hs, hrest, trimmed .both, honce, ⟨left, right, heq, hones⟩, htwice⟩

/-! ## Integers -/

theorem isBlank_of_isWhiteSpace {c : Char} (h : Text.isWhiteSpace c = true) : Text.isBlank c = true := by
  rw [Text.isBlank, h, Bool.true_or]

/-- Trimming white space does not change the integer that a text is read as. -/
theorem toInt_trim (e : Ends) (t : Text) : (Value.text (e.trim Text.isWhiteSpace t)).toInt = (Value.text t).toInt := by
  obtain ⟨left, right, ht, hspace, -⟩ := (e.trims_trim Text.isWhiteSpace t).exists_append
  obtain ⟨hleft, hright⟩ := List.forall_mem_append.1 hspace
  conv_rhs => rw [ht]
  exact (Value.toInt_append (fun c hc => isBlank_of_isWhiteSpace (hleft c hc))
    (fun c hc => isBlank_of_isWhiteSpace (hright c hc)) _).symm

/-- **Integers survive the trip through text.** The digits of an integer, with any blanks around them, are read as the
integer. A text is read as the integer that it denotes without the blanks at its ends, is refused if that has too many
digits, and is read as zero if it denotes none. Trimming changes none of this. -/
theorem integer_through_text (services : Services) (world : World) :
    (∀ (n : Int) (left right : Text), (Nat.toDigits 10 n.natAbs).length ≤ digitLimit →
      (∀ c ∈ left ++ right, Text.isBlank c = true) →
      ∃ t, (Value.int n).toText = .ok t ∧ (Value.text (left ++ t ++ right)).toInt = .ok n) ∧
    (∀ t : Text,
      (∀ digits n, IsDecimal (Text.strip t) digits n →
        (digits.length ≤ digitLimit → (Value.text t).toInt = .ok n) ∧
        (digitLimit < digits.length → (Value.text t).toInt = .error (.number (.tooManyDigits digits.length)))) ∧
      ((¬∃ digits n, IsDecimal (Text.strip t) digits n) → (Value.text t).toInt = .ok 0)) ∧
    ∀ (t : Text) (e : Ends), ∃ u,
      Returns services world e.name [.text t] (.text u) ∧ (Value.text u).toInt = (Value.text t).toInt := by
  refine ⟨fun n left right hn hblank => ?_, fun t => ⟨fun digits n h => ⟨fun hle => ?_, fun hlong => ?_⟩,
    Value.toInt_of_not_isDecimal⟩, fun t e => ⟨e.trim Text.isWhiteSpace t, ?_, toInt_trim e t⟩⟩
  · obtain ⟨hleft, hright⟩ := List.forall_mem_append.1 hblank
    have halike := Value.alike_int_text hn
    refine ⟨Text.ofInt n, halike.toText, ?_⟩
    rw [Value.toInt_append hleft hright, ← halike.toInt]
    rfl
  · rw [h.toInt_of_strip, h.readInt_eq, if_neg (Nat.not_lt.2 hle)]
  · rw [h.toInt_of_strip, h.readInt_eq, if_pos hlong]
  · have ht : (Value.text t).toText = .ok t := rfl
    have hnone : ([] : List Value).head?.mapM Value.toText = .ok none := rfl
    exact returns_trim services world ht hnone e

/-- A negative integer between a separator, a tab and an ideographic space; leading zeros behind a sign; and two
integers, which are none. -/
theorem integer_through_text_blanks :
    (∃ t, (Value.int (-12)).toText = .ok t ∧
      (Value.text ("\x1f\t".toList ++ t ++ "\u3000".toList)).toInt = .ok (-12)) ∧
    (IsDecimal (Text.strip "\u0085+007 ".toList) "007".toList 7 ∧ (Value.text "\u0085+007 ".toList).toInt = .ok 7) ∧
    (¬∃ digits n, IsDecimal (Text.strip "1 2".toList) digits n) ∧ (Value.text "1 2".toList).toInt = .ok 0 := by
  obtain ⟨hround, hread, -⟩ := integer_through_text (({} : World).services {}) {}
  have hseven : IsDecimal (Text.strip "\u0085+007 ".toList) "007".toList 7 := by
    rw [show Text.strip "\u0085+007 ".toList = "+007".toList by decide]
    exact .plus (Text.isDigits_iff.1 (by decide))
  have hnone : ¬∃ digits n, IsDecimal (Text.strip "1 2".toList) digits n := by
    rw [← isInteger_iff]
    decide
  have hblank : ∀ c ∈ "\x1f\t".toList ++ "\u3000".toList, Text.isBlank c = true := List.all_eq_true.1 (by decide)
  exact ⟨hround (-12) "\x1f\t".toList "\u3000".toList (by decide) hblank,
    ⟨hseven, ((hread _).1 _ _ hseven).1 (by decide)⟩, hnone, (hread _).2 hnone⟩

end ScriptEval.Functions
