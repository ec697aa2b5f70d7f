import ScriptEval.Text.Basic
import Mathlib.Data.List.DropRight
import Mathlib.Data.List.TakeWhile

/-!
# The ends of a text

Trimming takes a run of characters off either end (`exists_append_trim`) and leaves a text that neither starts nor ends
with such a character (`head?_trim`, `getLast?_trim`), so that trimming again takes off nothing more (`trim_trim`). It
does not matter which end comes first (`trimLeft_trimRight`), nor which runs of such characters stand at the ends
(`trim_append`).
-/

namespace ScriptEval.Text

variable (p : Char → Bool)

/-! ## One end -/

theorem exists_append_trimLeft (t : Text) : ∃ left, t = left ++ trimLeft p t ∧ ∀ c ∈ left, p c = true :=
  ⟨t.takeWhile p, List.takeWhile_append_dropWhile.symm, fun _ hc => List.mem_takeWhile_imp hc⟩

theorem exists_append_trimRight (t : Text) : ∃ right, t = trimRight p t ++ right ∧ ∀ c ∈ right, p c = true :=
  ⟨t.rtakeWhile p, List.rdropWhile_append_rtakeWhile.symm, fun _ hc => List.mem_rtakeWhile_imp hc⟩

theorem head?_trimLeft (t : Text) : ∀ c ∈ (trimLeft p t).head?, p c = false := by
  intro c hc
  have hhead := List.head?_dropWhile_not p t
  rwa [show (t.dropWhile p).head? = some c from hc] at hhead

theorem getLast?_trimRight (t : Text) : ∀ c ∈ (trimRight p t).getLast?, p c = false := by
  intro c hc
  rw [trimRight, List.getLast?_reverse] at hc
  exact head?_trimLeft p t.reverse c hc

variable {p}

theorem trimLeft_append {left : Text} (h : ∀ c ∈ left, p c = true) (t : Text) :
    trimLeft p (left ++ t) = trimLeft p t := List.dropWhile_append_of_pos h

theorem trimRight_append {right : Text} (h : ∀ c ∈ right, p c = true) (t : Text) :
    trimRight p (t ++ right) = trimRight p t := by
  rw [trimRight, trimRight, List.reverse_append, List.dropWhile_append_of_pos fun c hc => h c (List.mem_reverse.1 hc)]

theorem trimLeft_eq_self {t : Text} (h : ∀ c ∈ t.head?, p c = false) : trimLeft p t = t := by
  cases t with
  | nil => rfl
  | cons c t => exact List.dropWhile_cons_of_neg (by simp [h c rfl])

theorem trimRight_eq_self {t : Text} (h : ∀ c ∈ t.getLast?, p c = false) : trimRight p t = t := by
  have hleft : t.reverse.dropWhile p = t.reverse := trimLeft_eq_self fun c hc => h c (List.head?_reverse ▸ hc)
  rw [trimRight, hleft, List.reverse_reverse]

variable (p)

theorem trimLeft_trimLeft (t : Text) : trimLeft p (trimLeft p t) = trimLeft p t := trimLeft_eq_self (head?_trimLeft p t)

theorem trimRight_trimRight (t : Text) : trimRight p (trimRight p t) = trimRight p t :=
  trimRight_eq_self (getLast?_trimRight p t)

/-! ## Both ends -/

/-- What is left of a text, and the runs that were taken off. -/
theorem exists_append_trim (t : Text) :
    ∃ left right, t = left ++ trim p t ++ right ∧ (∀ c ∈ left, p c = true) ∧ ∀ c ∈ right, p c = true := by
  obtain ⟨left, hleft, hl⟩ := exists_append_trimLeft p t
  obtain ⟨right, hright, hr⟩ := exists_append_trimRight p (trimLeft p t)
  refine ⟨left, right, ?_, hl, hr⟩
  rw [List.append_assoc, trim, ← hright, ← hleft]

theorem getLast?_trim (t : Text) : ∀ c ∈ (trim p t).getLast?, p c = false := getLast?_trimRight p (trimLeft p t)

/-- What is taken off the right end does not bring up another start. -/
theorem head?_trim (t : Text) : ∀ c ∈ (trim p t).head?, p c = false := by
  intro c hc
  obtain ⟨right, hright, -⟩ := exists_append_trimRight p (trimLeft p t)
  apply head?_trimLeft p t c
  rw [hright]
  exact List.mem_head?_append_of_mem_head? hc

theorem trim_trim (t : Text) : trim p (trim p t) = trim p t := by
  conv_lhs => rw [trim, trimLeft_eq_self (head?_trim p t), trimRight_eq_self (getLast?_trim p t)]

/-- The right end may as well be trimmed first. -/
theorem trimLeft_trimRight (t : Text) : trimLeft p (trimRight p t) = trim p t := by
  obtain ⟨left, right, ht, hleft, hright⟩ := exists_append_trim p t
  have hcut : trimRight p t = trimRight p (left ++ trim p t) := by
    conv_lhs => rw [ht, trimRight_append hright]
  by_cases hnil : trim p t = []
  · rw [hcut, hnil, List.append_nil, ← List.nil_append left, trimRight_append hleft]
    rfl
  · have hlast : ∀ c ∈ (left ++ trim p t).getLast?, p c = false := by
      rw [List.getLast?_append_of_ne_nil _ hnil]
      exact getLast?_trim p t
    rw [hcut, trimRight_eq_self hlast, trimLeft_append hleft, trimLeft_eq_self (head?_trim p t)]

variable {p}

/-- Runs at the ends do not matter. -/
theorem trim_append {left right : Text} (hleft : ∀ c ∈ left, p c = true) (hright : ∀ c ∈ right, p c = true) (t : Text) :
    trim p (left ++ t ++ right) = trim p t := by
  rw [← trimLeft_trimRight, trimRight_append hright, trimLeft_trimRight, trim, trimLeft_append hleft, ← trim]

end ScriptEval.Text
