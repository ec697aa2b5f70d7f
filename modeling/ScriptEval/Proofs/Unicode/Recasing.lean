import ScriptEval.Unicode.Case
import Mathlib.Data.List.Forall2

/-!
# Texts that differ in the case of ASCII letters

Two texts are recasings of each other if they are the same but for the case of their ASCII letters (`Text.Recased`).
They have the same lower case (`Text.Recased.lower_eq`), also if they hold a capital sigma, whose lower case depends on
the letters around it: either case of an ASCII letter has case, and none is passed over.
-/

namespace ScriptEval

/-! ## Characters -/

namespace Unicode

/-- What does not tell apart the cases of ASCII letters does not tell apart a character and its ASCII lower case. -/
theorem eq_of_toLower {α : Type} {f : Char → α} (h : ∀ n < 128, f (Char.ofNat n).toLower = f (Char.ofNat n))
    (c : Char) : f c.toLower = f c := by
  by_cases hc : c.toNat < 128
  · rw [← Char.ofNat_toNat c]
    exact h _ hc
  · have hupper : ¬(c.val ≥ 'A'.val ∧ c.val ≤ 'Z'.val) := by
      rintro ⟨-, hZ⟩
      exact hc (Nat.lt_of_le_of_lt (UInt32.le_iff_toNat_le.1 hZ) (by decide))
    have hsame : c.toLower = c := dif_neg hupper
    rw [hsame]

theorem isCased_toLower (c : Char) : isCased c.toLower = isCased c := eq_of_toLower (by decide +kernel) c

theorem isCaseIgnorable_toLower (c : Char) : isCaseIgnorable c.toLower = isCaseIgnorable c :=
  eq_of_toLower (by decide +kernel) c

theorem lowerChar_toLower (c : Char) : lowerChar c.toLower = lowerChar c := eq_of_toLower (by decide +kernel) c

theorem toLower_eq_sigma (c : Char) : c.toLower = 'Σ' ↔ c = 'Σ' :=
  decide_eq_decide.1 (eq_of_toLower (f := fun c => decide (c = 'Σ')) (by decide +kernel) c)

theorem toLower_eq_dotted (c : Char) : c.toLower = 'İ' ↔ c = 'İ' :=
  decide_eq_decide.1 (eq_of_toLower (f := fun c => decide (c = 'İ')) (by decide +kernel) c)

/-! ## Texts -/

theorem startsCased_map_toLower (t : Text) : startsCased (t.map Char.toLower) = startsCased t := by
  induction t with
  | nil => rfl
  | cons c t ih => rw [List.map_cons, startsCased, startsCased, isCaseIgnorable_toLower, isCased_toLower, ih]

theorem lowerAfter_map_toLower (casedBefore : Bool) (t : Text) :
    lowerAfter casedBefore (t.map Char.toLower) = lowerAfter casedBefore t := by
  induction t generalizing casedBefore with
  | nil => rfl
  | cons c t ih =>
    simp only [List.map_cons, lowerAfter, toLower_eq_sigma, toLower_eq_dotted, startsCased_map_toLower,
      lowerChar_toLower, isCaseIgnorable_toLower, isCased_toLower, ih]

/-- The lower case of a text is that of its ASCII lower case. -/
theorem lower_map_toLower (t : Text) : lower (t.map Char.toLower) = lower t := lowerAfter_map_toLower false t

end Unicode

namespace Text

/-- The same text but for the case of ASCII letters. -/
def Recased (s t : Text) : Prop := s.map Char.toLower = t.map Char.toLower

instance (s t : Text) : Decidable (Recased s t) := inferInstanceAs (Decidable (_ = _))

theorem Recased.lower_eq {s t : Text} (h : Recased s t) : Unicode.lower s = Unicode.lower t := by
  rw [← Unicode.lower_map_toLower s, h, Unicode.lower_map_toLower]

example : Recased "AΣ, aSSΣ".toList "aΣ, AssΣ".toList ∧ Unicode.lower "AΣ, aSSΣ".toList = "aς, assς".toList := by
  decide +kernel

/-- Lists of recased texts have the same lower case. -/
theorem map_lower_eq {ss ts : List Text} (h : List.Forall₂ Recased ss ts) :
    ss.map Unicode.lower = ts.map Unicode.lower := by
  induction h with
  | nil => rfl
  | cons hst _ ih => rw [List.map_cons, List.map_cons, hst.lower_eq, ih]

end Text

end ScriptEval
