import ScriptEval.Value
import ScriptEval.Proofs.Text.Ends

/-!
# Integers through their digits

Writing an integer in decimal and reading the text gives the integer back (`toInt_ofInt`), and nothing is taken off
the text on the way: it has no blanks at its ends (`strip_ofInt`) and is a decimal integer (`isInteger_ofInt`). So an
integer and the text of its digits are read alike, as a text and as an integer, as long as the integer has a text at
all (`Value.alike_int_text`).

The texts that are read as integers are an optional sign and digits (`isInteger_iff`), and the integer is the one that
they denote (`IsDecimal.readInt_eq`). Blanks at the ends do not matter (`Value.toInt_append`), and a text without an
integer between them is read as zero (`Value.toInt_of_not_isDecimal`).
-/

namespace ScriptEval

namespace Text

/-! ## Digits -/

theorem ofNat_eq_toDigits (n : Nat) : ofNat n = Nat.toDigits 10 n := by
  fun_induction ofNat n with
  | case1 n h => rw [Nat.toDigits_of_lt_base h]
  | case2 n h ih => rw [Nat.toDigits_of_base_le (by decide) (by omega), ih]

theorem toNat_eq_ofDigitChars (t : Text) : toNat t = Nat.ofDigitChars 10 t 0 := by
  rw [Nat.ofDigitChars_eq_foldl]; rfl

theorem toNat_ofNat (n : Nat) : toNat (ofNat n) = n := by
  rw [toNat_eq_ofDigitChars, ofNat_eq_toDigits, Nat.ofDigitChars_ten_toDigits]

theorem ofNat_ne_nil (n : Nat) : ofNat n ≠ [] := by
  rw [ofNat_eq_toDigits]; exact Nat.toDigits_ne_nil

theorem isDigit_of_mem_ofNat {n : Nat} {c : Char} (h : c ∈ ofNat n) : c.isDigit = true := by
  rw [ofNat_eq_toDigits] at h
  exact Nat.isDigit_of_mem_toDigits (by decide) (by decide) h

theorem isDigits_ofNat (n : Nat) : isDigits (ofNat n) = true := by
  have hall : (ofNat n).all Char.isDigit = true := List.all_eq_true.2 fun _ => isDigit_of_mem_ofNat
  have hne : (ofNat n).isEmpty = false := by simp [ofNat_ne_nil]
  rw [isDigits, hall, hne]; rfl

/-- A text that starts with a digit has no sign. -/
theorem takeSign_of_isDigit {c : Char} (hc : c.isDigit = true) (t : Text) : takeSign (c :: t) = (false, c :: t) := by
  unfold takeSign
  split
  · rename_i h; cases h; cases hc
  · rename_i h; cases h; cases hc
  · rfl

theorem takeSign_ofNat (n : Nat) : takeSign (ofNat n) = (false, ofNat n) := by
  cases h : ofNat n with
  | nil => exact absurd h (ofNat_ne_nil n)
  | cons c t => exact takeSign_of_isDigit (isDigit_of_mem_ofNat (by rw [h]; exact List.mem_cons_self)) t

/-- The sign of an integer and the digits of its absolute value. -/
theorem takeSign_ofInt : ∀ n : Int, takeSign (ofInt n) = (decide (n < 0), ofNat n.natAbs)
  | .ofNat n => by rw [ofInt, takeSign_ofNat]; rfl
  | .negSucc n => by rw [ofInt, takeSign, decide_eq_true (Int.negSucc_lt_zero n), Int.natAbs_negSucc]

theorem eq_minus_or_isDigit_of_mem_ofInt {n : Int} {c : Char} (h : c ∈ ofInt n) : c = '-' ∨ c.isDigit = true := by
  cases n with
  | ofNat n => exact Or.inr (isDigit_of_mem_ofNat h)
  | negSucc n =>
    rcases List.mem_cons.1 h with rfl | h
    · exact Or.inl rfl
    · exact Or.inr (isDigit_of_mem_ofNat h)

theorem isInteger_ofInt (n : Int) : isInteger (ofInt n) = true := by
  rw [isInteger, takeSign_ofInt, isDigits_ofNat]

theorem toInt_ofInt (n : Int) : toInt (ofInt n) = n := by
  rw [toInt, takeSign_ofInt]
  by_cases h : n < 0
  · simp only [h, decide_true, toNat_ofNat]; omega
  · simp only [h, decide_false, toNat_ofNat]; omega

/-! ## Blanks -/

theorem isBlank_of_isDigit {c : Char} (h : c.isDigit = true) : isBlank c = false := by
  simp only [Char.isDigit, ge_iff_le, Bool.and_eq_true, decide_eq_true_eq, UInt32.le_iff_toNat_le] at h
  have h1 : 48 ≤ c.toNat := h.1
  have h2 : c.toNat ≤ 57 := h.2
  simp [isBlank, isWhiteSpace]
  omega

/-- A text without blanks is stripped already. -/
theorem strip_eq_self {t : Text} (h : ∀ c ∈ t, isBlank c = false) : strip t = t := by
  have hleft : trimLeft isBlank t = t := trimLeft_eq_self fun c hc => h c (List.mem_of_mem_head? hc)
  rw [strip, trim, hleft, trimRight_eq_self fun c hc => h c (List.mem_of_getLast? hc)]

theorem strip_ofInt (n : Int) : strip (ofInt n) = ofInt n := by
  apply strip_eq_self
  intro c hc
  rcases eq_minus_or_isDigit_of_mem_ofInt hc with rfl | hc
  · decide
  · exact isBlank_of_isDigit hc

end Text

namespace Value

/-! ## Values that are read alike -/

/-- Two values with the same projections. -/
structure Alike (v w : Value) : Prop where
  toText : v.toText = w.toText
  toInt : v.toInt = w.toInt

theorem Alike.refl (v : Value) : Alike v v := ⟨rfl, rfl⟩

theorem Alike.toRawText {v w : Value} (h : Alike v w) : v.toRawText = w.toRawText := by
  rw [Value.toRawText, Value.toRawText, h.toText]

/-- An integer with a text and that text. -/
theorem alike_int_text {n : Int} (h : (Nat.toDigits 10 n.natAbs).length ≤ digitLimit) :
    Alike (int n) (text (Text.ofInt n)) := by
  rw [← Text.ofNat_eq_toDigits] at h
  constructor
  · show writeInt n = .ok (Text.ofInt n)
    rw [writeInt_eq, if_neg (Nat.not_lt.2 h)]
  · show .ok n = if Text.isInteger (Text.strip (Text.ofInt n)) then readInt (Text.strip (Text.ofInt n)) else .ok 0
    rw [Text.strip_ofInt, if_pos (Text.isInteger_ofInt n), readInt, Text.takeSign_ofInt, if_neg (Nat.not_lt.2 h),
      Text.toInt_ofInt]

/-! ## Values without a text -/

/-- An integer of more digits than a text may have. -/
def IsTooLong : Value → Prop
  | int n => digitLimit < (Nat.toDigits 10 n.natAbs).length
  | text _ => False

theorem IsTooLong.toText_eq {v : Value} (h : v.IsTooLong) : v.toText = .error (.number .tooLong) := by
  cases v with
  | int n =>
    have hlong : digitLimit < (Nat.toDigits 10 n.natAbs).length := h
    rw [toText, writeInt_eq, Text.ofNat_eq_toDigits, if_pos hlong]
  | text t => exact h.elim

theorem exists_toText_eq {v : Value} (h : ¬v.IsTooLong) : ∃ t, v.toText = .ok t := by
  cases v with
  | int n =>
    have hshort : ¬digitLimit < (Nat.toDigits 10 n.natAbs).length := h
    exact ⟨Text.ofInt n, by rw [toText, writeInt_eq, Text.ofNat_eq_toDigits, if_neg hshort]⟩
  | text t => exact ⟨t, rfl⟩

end Value

/-! ## Decimal integers -/

/-- Digits from `0` to `9`, one at least. -/
def AreDigits (t : Text) : Prop := t ≠ [] ∧ ∀ c ∈ t, '0' ≤ c ∧ c ≤ '9'

/-- An optional sign and digits: the text, its digits, and the integer that it denotes. -/
inductive IsDecimal : Text → Text → Int → Prop
  | unsigned {digits : Text} : AreDigits digits → IsDecimal digits digits (Nat.ofDigitChars 10 digits 0)
  | plus {digits : Text} : AreDigits digits → IsDecimal ('+' :: digits) digits (Nat.ofDigitChars 10 digits 0)
  | minus {digits : Text} : AreDigits digits → IsDecimal ('-' :: digits) digits (-Nat.ofDigitChars 10 digits 0)

variable {w digits : Text} {n : Int}

theorem Text.isDigit_iff {c : Char} : c.isDigit = true ↔ '0' ≤ c ∧ c ≤ '9' := by
  simp only [Char.isDigit, Bool.and_eq_true, decide_eq_true_eq]
  rfl

theorem Text.isDigits_iff : Text.isDigits digits = true ↔ AreDigits digits := by
  simp [Text.isDigits, AreDigits, Text.isDigit_iff]

theorem IsDecimal.areDigits (h : IsDecimal w digits n) : AreDigits digits := by
  cases h with
  | unsigned h => exact h
  | plus h => exact h
  | minus h => exact h

/-- The sign and the digits of a decimal integer. -/
theorem IsDecimal.takeSign_eq (h : IsDecimal w digits n) :
    ∃ negative, Text.takeSign w = (negative, digits) ∧
      n = if negative then -(Text.toNat digits : Int) else Text.toNat digits := by
  rw [Text.toNat_eq_ofDigitChars]
  cases h with
  | unsigned h =>
    obtain ⟨c, digits, rfl⟩ := List.exists_cons_of_ne_nil h.1
    have hc : c.isDigit = true := Text.isDigit_iff.2 (h.2 c List.mem_cons_self)
    exact ⟨false, Text.takeSign_of_isDigit hc digits, rfl⟩
  | plus _ => exact ⟨false, rfl, rfl⟩
  | minus _ => exact ⟨true, rfl, rfl⟩

theorem exists_isDecimal (h : Text.isInteger w = true) : ∃ digits n, IsDecimal w digits n := by
  unfold Text.isInteger Text.takeSign at h
  split at h
  · exact ⟨_, _, .minus (Text.isDigits_iff.1 h)⟩
  · exact ⟨_, _, .plus (Text.isDigits_iff.1 h)⟩
  · exact ⟨_, _, .unsigned (Text.isDigits_iff.1 h)⟩

/-- **The texts that are read as integers.** -/
theorem isInteger_iff : Text.isInteger w = true ↔ ∃ digits n, IsDecimal w digits n := by
  refine ⟨exists_isDecimal, ?_⟩
  rintro ⟨digits, n, h⟩
  obtain ⟨negative, hsign, -⟩ := h.takeSign_eq
  rw [Text.isInteger, hsign]
  exact Text.isDigits_iff.2 h.areDigits

/-- A decimal integer is read as the integer that it denotes, unless it has too many digits. -/
theorem IsDecimal.readInt_eq (h : IsDecimal w digits n) :
    readInt w = if digitLimit < digits.length then .error (.number (.tooManyDigits digits.length)) else .ok n := by
  obtain ⟨negative, hsign, hn⟩ := h.takeSign_eq
  rw [readInt, Text.toInt, hsign, hn]
  cases negative <;> rfl

/-- A decimal integer has no blanks around it. -/
theorem IsDecimal.strip_eq (h : IsDecimal w digits n) : Text.strip w = w := by
  have hdigits : ∀ c ∈ digits, Text.isBlank c = false := fun c hc =>
    Text.isBlank_of_isDigit (Text.isDigit_iff.2 (h.areDigits.2 c hc))
  apply Text.strip_eq_self
  cases h with
  | unsigned _ => exact hdigits
  | plus _ => exact List.forall_mem_cons.2 ⟨by decide, hdigits⟩
  | minus _ => exact List.forall_mem_cons.2 ⟨by decide, hdigits⟩

/-- A text is read as the decimal integer that is left of it without the blanks at its ends. -/
theorem IsDecimal.toInt_of_strip {t : Text} (h : IsDecimal (Text.strip t) digits n) :
    (Value.text t).toInt = readInt (Text.strip t) := by
  have hint : Text.isInteger (Text.strip t) = true := isInteger_iff.2 ⟨digits, n, h⟩
  show (if Text.isInteger (Text.strip t) then readInt (Text.strip t) else .ok 0) = readInt (Text.strip t)
  rw [if_pos hint]

theorem IsDecimal.toInt_eq (h : IsDecimal w digits n) : (Value.text w).toInt = readInt w := by
  have hstrip : IsDecimal (Text.strip w) digits n := by rwa [h.strip_eq]
  rw [hstrip.toInt_of_strip, h.strip_eq]

/-- Any other text is read as zero. -/
theorem Value.toInt_of_not_isDecimal {t : Text} (h : ¬∃ digits n, IsDecimal (Text.strip t) digits n) :
    (Value.text t).toInt = .ok 0 := by
  rw [← isInteger_iff] at h
  show (if Text.isInteger (Text.strip t) then readInt (Text.strip t) else .ok 0) = .ok 0
  rw [if_neg h]

/-- Blanks at the ends of a text do not change the integer. -/
theorem Value.toInt_append {left right : Text} (hleft : ∀ c ∈ left, Text.isBlank c = true)
    (hright : ∀ c ∈ right, Text.isBlank c = true) (t : Text) :
    (Value.text (left ++ t ++ right)).toInt = (Value.text t).toInt := by
  have hstrip : Text.strip (left ++ t ++ right) = Text.strip t := Text.trim_append hleft hright t
  rw [Value.toInt, Value.toInt, hstrip]

end ScriptEval
