import Mathlib.Logic.Basic
import Mathlib.Tactic.ByContra
import ScriptEval.CommandLine.Run
import ScriptEval.Proofs.Value.Decimal

/-!
# Words on the command line and script values

A word of the command line is read by the rules that functions read a text by. Both take the same texts for integers,
those that are an optional sign and digits (`IsDecimal`), and as there are no blanks around these, both read the same
integer (`IsDecimal.toInt_eq`) or refuse the same number of digits. Where a word is no integer, both take the same
quotation marks off it (`unquote_eq`). So any text at all can be passed between quotation marks (`ofWord_reads_text`).
-/

namespace ScriptEval

variable {w digits : Text} {n : Int}

theorem IsDecimal.ofWord_eq (h : IsDecimal w digits n) : Value.ofWord w = (readInt w).map Value.int :=
  if_pos (isInteger_iff.2 ⟨digits, n, h⟩)

/-! ## Quotation marks -/

/-- The two ways to tell whether a text has quotation marks around it. -/
theorem unquote_eq (t : Text) :
    unquote t = if isBetween '"' t || isBetween '\'' t then t.tail.dropLast else t := by
  unfold unquote isBetween
  cases hhead : t.head? with
  | none => rfl
  | some a =>
    cases hlast : t.getLast? with
    | none => simp
    | some b =>
      refine if_congr ?_ rfl rfl
      simp only [Option.some.injEq, Bool.or_eq_true, Bool.and_eq_true, decide_eq_true_eq]
      constructor
      · rintro ⟨hlength, rfl, rfl | rfl⟩
        · exact Or.inr ⟨⟨rfl, rfl⟩, hlength⟩
        · exact Or.inl ⟨⟨rfl, rfl⟩, hlength⟩
      · rintro (⟨⟨rfl, rfl⟩, hlength⟩ | ⟨⟨rfl, rfl⟩, hlength⟩)
        · exact ⟨hlength, rfl, Or.inr rfl⟩
        · exact ⟨hlength, rfl, Or.inl rfl⟩

theorem ofWord_of_not_isInteger (h : Text.isInteger w = false) : Value.ofWord w = .ok (.text (unquote w)) := by
  rw [Value.ofWord, if_neg (by simp [h]), unquote_eq]

/-- Between quotation marks there is no integer, and any text. -/
theorem ofWord_quoted {q : Char} (hq : q = '"' ∨ q = '\'') (t : Text) :
    Value.ofWord (q :: (t ++ [q])) = .ok (.text t) := by
  have hint : Text.isInteger (q :: (t ++ [q])) = false := by
    rcases hq with rfl | rfl <;> rfl
  have hquoted : unquote (q :: (t ++ [q])) = t := by
    have hlast : (q :: (t ++ [q])).getLast? = some q := by rw [← List.cons_append, List.getLast?_concat]
    unfold unquote
    simp [hlast, hq.symm]
  rw [ofWord_of_not_isInteger hint, hquoted]

/-! ## Words and texts -/

theorem IsDecimal.read_of_le (h : IsDecimal w digits n) (hle : digits.length ≤ digitLimit) :
    Value.ofWord w = .ok (.int n) ∧ (Value.text w).toInt = .ok n := by
  have hread : readInt w = .ok n := by rw [h.readInt_eq, if_neg (Nat.not_lt.2 hle)]
  rw [h.ofWord_eq, h.toInt_eq, hread]
  exact ⟨rfl, rfl⟩

/-- Too many digits are refused in both places with the same failure. -/
theorem IsDecimal.refused_of_lt (h : IsDecimal w digits n) (hlong : digitLimit < digits.length) :
    Value.ofWord w = .error (.number (.tooManyDigits digits.length)) ∧
      (Value.text w).toInt = .error (.number (.tooManyDigits digits.length)) := by
  have hread : readInt w = .error (.number (.tooManyDigits digits.length)) := by rw [h.readInt_eq, if_pos hlong]
  rw [h.ofWord_eq, h.toInt_eq, hread]
  exact ⟨rfl, rfl⟩

theorem ofWord_eq_int_iff :
    Value.ofWord w = .ok (.int n) ↔ ∃ digits, IsDecimal w digits n ∧ digits.length ≤ digitLimit := by
  constructor
  · intro hword
    have hint : Text.isInteger w = true := by
      by_contra hno
      rw [ofWord_of_not_isInteger (by simpa using hno)] at hword
      cases hword
    obtain ⟨digits, m, h⟩ := isInteger_iff.1 hint
    rcases Nat.lt_or_ge digitLimit digits.length with hlong | hle
    · rw [(h.refused_of_lt hlong).1] at hword
      cases hword
    · rw [(h.read_of_le hle).1] at hword
      cases hword
      exact ⟨digits, h, hle⟩
  · rintro ⟨digits, h, hle⟩
    exact (h.read_of_le hle).1

/-- **Words are read as texts are.** A word is an integer exactly if it is an optional sign and digits within the limit,
and the integer is the one that the text is read as; with more digits both are refused alike. Any other word is the text
that is left of it without one pair of quotation marks. So every text can be passed as a word, between quotation marks
of either kind. -/
theorem ofWord_reads_text (w : Text) :
    (∀ n, Value.ofWord w = .ok (.int n) ↔ ∃ digits, IsDecimal w digits n ∧ digits.length ≤ digitLimit) ∧
      (∀ digits n, IsDecimal w digits n →
        (digits.length ≤ digitLimit → (Value.text w).toInt = .ok n) ∧
        (digitLimit < digits.length → Value.ofWord w = .error (.number (.tooManyDigits digits.length)) ∧
          (Value.text w).toInt = .error (.number (.tooManyDigits digits.length)))) ∧
      ((¬∃ digits n, IsDecimal w digits n) →
        ∃ t, Value.ofWord w = .ok (.text t) ∧ (Value.text w).toRawText = .ok t) ∧
      ∀ q, q = '"' ∨ q = '\'' → Value.ofWord (q :: (w ++ [q])) = .ok (.text w) := by
  refine ⟨fun n => ofWord_eq_int_iff, fun digits n h => ⟨fun hle => (h.read_of_le hle).2, h.refused_of_lt⟩,
    fun hno => ⟨unquote w, ?_, rfl⟩, fun q hq => ofWord_quoted hq w⟩
  rw [← isInteger_iff] at hno
  exact ofWord_of_not_isInteger (by simpa using hno)

/-- A line end after the digits makes a text, and so do quotation marks around a quoted number, which stays quoted. -/
example : Value.ofWord "-7\n".toList = .ok (.text "-7\n".toList) ∧
    Value.ofWord "'\"+7\"'".toList = .ok (.text "\"+7\"".toList) := ⟨rfl, rfl⟩

end ScriptEval
