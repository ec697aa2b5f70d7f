import ScriptEval.Unicode.Case

/-!
# The length of a lower case

The lower case of a character depends on the characters around it, but how many characters it has does not. So the lower
case of a text is as long as those of its parts together (`length_lower_append`), and no shorter than the text
(`length_le_length_lower`).
-/

namespace ScriptEval.Unicode

theorem length_lowerAfter_cons (casedBefore : Bool) (c : Char) (t : Text) :
    ∃ casedBefore', (lowerAfter casedBefore (c :: t)).length =
      (lowerAfter casedBefore' t).length + if c = 'İ' then 2 else 1 := by
  refine ⟨if isCaseIgnorable c then casedBefore else isCased c, ?_⟩
  rw [lowerAfter]
  by_cases hsigma : c = 'Σ'
  · subst hsigma
    simp
  · rw [if_neg hsigma]
    split <;> simp

theorem length_lowerAfter (casedBefore : Bool) (t : Text) : (lowerAfter casedBefore t).length = (lower t).length := by
  induction t generalizing casedBefore with
  | nil => rfl
  | cons c t ih =>
    obtain ⟨b, hb⟩ := length_lowerAfter_cons casedBefore c t
    obtain ⟨b', hb'⟩ := length_lowerAfter_cons false c t
    rw [lower, hb, hb', ih b, ih b']

theorem length_lower_cons (c : Char) (t : Text) :
    (lower (c :: t)).length = (lower t).length + if c = 'İ' then 2 else 1 := by
  obtain ⟨b, hb⟩ := length_lowerAfter_cons false c t
  rw [lower, hb, length_lowerAfter]

theorem length_lower_append (s t : Text) : (lower (s ++ t)).length = (lower s).length + (lower t).length := by
  induction s with
  | nil => simp [lower, lowerAfter]
  | cons c s ih => rw [List.cons_append, length_lower_cons, length_lower_cons, ih, Nat.add_right_comm]

theorem length_le_length_lower (t : Text) : t.length ≤ (lower t).length := by
  induction t with
  | nil => exact Nat.le_refl _
  | cons c t ih =>
    rw [length_lower_cons, List.length_cons]
    split <;> omega

/-- Only all of a text has the lower case of the text. -/
theorem eq_nil_of_lower_eq {left middle right : Text} (h : lower (left ++ middle ++ right) = lower middle) :
    left = [] ∧ right = [] := by
  have hlength := congrArg List.length h
  rw [length_lower_append, length_lower_append] at hlength
  have hleft := length_le_length_lower left
  have hright := length_le_length_lower right
  exact ⟨List.eq_nil_of_length_eq_zero (by omega), List.eq_nil_of_length_eq_zero (by omega)⟩

end ScriptEval.Unicode
