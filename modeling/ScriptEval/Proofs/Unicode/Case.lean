import ScriptEval.Proofs.Unicode.Runs
import Mathlib.Data.List.Forall2

/-!
# Upper case, character by character

A text whose upper case consists of characters that are never all of the upper case of one character has it character
by character (`forall₂_upper`). A backslash is its own upper case and no other character's
(`eq_backslash_of_upperChar`).
-/

namespace ScriptEval.Unicode

/-- No character beyond ASCII has an upper case of one character that is a backslash. -/
theorem mapByRuns_upperRuns_ne {n m : Nat} (h : mapByRuns upperRuns n = some m) : m ≠ '\\'.toNat := by
  have hruns : ∀ r ∈ upperRuns, r.last + r.shift < 92 ∨ 92 < r.first + r.shift := by decide +kernel
  rcases mapByRuns_cases upperRuns n with ⟨r, hr, ⟨hfirst, hlast, -⟩, hsome⟩ | ⟨-, hnone⟩
  · have hbounds := hruns r hr
    obtain rfl := Option.some.inj (h.symm.trans hsome)
    show (n + r.shift : Int).toNat ≠ 92
    omega
  · rw [hnone] at h
    cases h

theorem ofNat_ne_backslash {n : Nat} (h : n ≠ '\\'.toNat) : Char.ofNat n ≠ '\\' := by
  intro heq
  by_cases hv : n.isValidChar
  · exact h ((toNat_ofNat hv).symm.trans (congrArg Char.toNat heq))
  · rw [Char.ofNat, dif_neg hv] at heq
    exact absurd heq (by decide)

/-- Only the backslash has an upper case that ends with one. -/
theorem eq_backslash_of_upperChar {c : Char} (h : (upperChar c).getLast? = some '\\') : c = '\\' := by
  unfold upperChar at h
  split at h
  next hascii =>
    have hall : ∀ n < 128, Char.toUpper (Char.ofNat n) = '\\' → Char.ofNat n = '\\' := by decide
    have hc : c.toNat < 128 := UInt32.lt_iff_toNat_lt.1 hascii
    have hup : Char.toUpper c = '\\' := by simpa using h
    rw [← Char.ofNat_toNat c] at hup ⊢
    exact hall _ hc hup
  next hascii =>
    split at h
    next expansion he =>
      have hexp : ∀ e ∈ upperExpansions, ∀ n ∈ e.2.getLast?, n ≠ '\\'.toNat := by decide +kernel
      rw [List.getLast?_map] at h
      obtain ⟨n, hn, heq⟩ := Option.map_eq_some_iff.1 h
      obtain ⟨l₁, l₂, hl, -⟩ := List.lookup_eq_some_iff.1 he
      have hmem : (c.toNat, expansion) ∈ upperExpansions := by rw [hl]; simp
      exact absurd heq (ofNat_ne_backslash (hexp _ hmem n hn))
    next =>
      cases hm : mapByRuns upperRuns c.toNat with
      | none => rw [hm] at h; simpa using h
      | some m =>
        rw [hm] at h
        exact absurd (by simpa using h) (ofNat_ne_backslash (mapByRuns_upperRuns_ne hm))

/-- If some characters are never all of an upper case of several characters, then a text whose upper case consists of
them has it character by character. -/
theorem forall₂_upper (letters : List Char) (hletters : ∀ e ∈ upperExpansions, ∃ n ∈ e.2, Char.ofNat n ∉ letters)
    {t : Text} (h : ∀ d ∈ upper t, d ∈ letters) : List.Forall₂ (fun c d => upperChar c = [d]) t (upper t) := by
  have hsingle (c : Char) (hc : ∀ d ∈ upperChar c, d ∈ letters) : ∃ d, upperChar c = [d] := by
    unfold upperChar at hc ⊢
    split at hc
    next hascii => exact ⟨_, if_pos hascii⟩
    next hascii =>
      rw [if_neg hascii]
      split at hc
      next expansion he =>
        obtain ⟨l₁, l₂, hl, -⟩ := List.lookup_eq_some_iff.1 he
        obtain ⟨n, hn, hnot⟩ := hletters (c.toNat, expansion) (by rw [hl]; simp)
        exact absurd (hc _ (List.mem_map_of_mem hn)) hnot
      next => exact ⟨_, rfl⟩
  induction t with
  | nil => exact .nil
  | cons c t ih =>
    rw [upper, List.flatMap_cons, ← upper] at h ⊢
    obtain ⟨d, hd⟩ := hsingle c fun d hd => h d (List.mem_append_left _ hd)
    rw [hd]
    exact .cons hd (ih fun d hd => h d (List.mem_append_right _ hd))

end ScriptEval.Unicode
