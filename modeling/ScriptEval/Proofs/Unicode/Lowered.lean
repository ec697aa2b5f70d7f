import ScriptEval.Proofs.Unicode.Case
import ScriptEval.Proofs.Unicode.Recasing

/-!
# The lower case of a lower case

The lower case of a character is kept by lower case (`isKept_lowerChar`), since the images of the runs of the table are
points of no run (`not_has_image`). So the lower case of a text consists of characters that are kept
(`isKept_of_mem_lowerAfter`), and such a text is its own lower case, whatever stands before it (`lowerAfter_of_isKept`).
Hence `lower_lower`.
-/

namespace ScriptEval.Unicode

/-! ## Runs -/

/-- Whether the images of the points of `r` lie behind `s`, before it, or between its points. -/
def CaseRun.misses (r s : CaseRun) : Bool :=
  Nat.blt s.last (r.image r.first) || Nat.blt (r.image r.last) s.first ||
    (s.stride == 2 && (r.stride == 2 || r.first == r.last) && (r.image r.first - s.first) % 2 == 1)

theorem CaseRun.not_has_of_misses {r s : CaseRun} (h : r.misses s = true) {n : Nat} (hn : r.Has n) :
    ¬s.Has (r.image n) := by
  rintro ⟨hfirst, hlast, heven⟩
  obtain ⟨hle, hge, hstride⟩ := hn
  simp only [misses, image, Bool.or_eq_true, Bool.and_eq_true, beq_iff_eq, Nat.blt_eq] at h hfirst hlast heven
  rcases h with (h | h) | ⟨⟨hs, hr⟩, hodd⟩
  · omega
  · omega
  · -- the image is at an odd distance from the start of `s`, as that of the first point of `r` is
    rw [hs] at heven
    rcases hr with hr | hr
    · rw [hr] at hstride
      omega
    · omega

-- all pairs of runs are compared, and on numbers, which the kernel computes with
theorem lowerRuns_misses : lowerRuns.all (fun r => lowerRuns.all r.misses) = true := by decide +kernel

/-- **No image in the table is a point of a run.** -/
theorem not_has_image {r s : CaseRun} (hr : r ∈ lowerRuns) (hs : s ∈ lowerRuns) {n : Nat} (hn : r.Has n) :
    ¬s.Has (r.image n) :=
  CaseRun.not_has_of_misses (List.all_eq_true.1 (List.all_eq_true.1 lowerRuns_misses r hr) s hs) hn

/-- No image in the table is an ASCII capital, or `İ`, whose lower case is two characters. -/
theorem lowerRuns_bounds : ∀ r ∈ lowerRuns, (r.last + r.shift < 65 ∨ 90 < r.first + r.shift) ∧
    (r.last + r.shift < 0x130 ∨ 0x130 < r.first + r.shift) := by decide +kernel

/-! ## Characters -/

/-- A character that lower case keeps. -/
def IsKept (c : Char) : Prop := lowerChar c = c ∧ c ≠ 'İ'

instance (c : Char) : Decidable (IsKept c) := inferInstanceAs (Decidable (_ ∧ _))

theorem isKept_of_not_has {c : Char} (hrun : ∀ r ∈ lowerRuns, ¬r.Has c.toNat)
    (hcapital : c.toNat < 65 ∨ 90 < c.toNat) (hdotted : c ≠ 'İ') : IsKept c := by
  refine ⟨?_, hdotted⟩
  rw [lowerChar]
  split
  next hascii =>
    have hall : ∀ n < 128, n < 65 ∨ 90 < n → (Char.ofNat n).toLower = Char.ofNat n := by decide
    have hsame := hall c.toNat (UInt32.lt_iff_toNat_lt.1 hascii) hcapital
    rwa [Char.ofNat_toNat] at hsame
  next =>
    rcases mapByRuns_cases lowerRuns c.toNat with ⟨r, hr, hn, -⟩ | ⟨-, hnone⟩
    · exact absurd hn (hrun r hr)
    · rw [hnone]
      rfl

theorem isKept_image {r : CaseRun} (hr : r ∈ lowerRuns) {n : Nat} (hn : r.Has n) : IsKept (Char.ofNat (r.image n)) := by
  by_cases hv : (r.image n).isValidChar
  · have hm : (Char.ofNat (r.image n)).toNat = r.image n := toNat_ofNat hv
    have himage : r.image n = (n + r.shift : Int).toNat := rfl
    have hmissed : ∀ s ∈ lowerRuns, ¬s.Has (r.image n) := fun s hs => not_has_image hr hs hn
    obtain ⟨hcapital, hdotted⟩ := lowerRuns_bounds r hr
    obtain ⟨hfirst, hlast, -⟩ := hn
    rw [← hm] at hmissed
    refine isKept_of_not_has hmissed (by omega) fun heq => ?_
    have hcode : r.image n = 0x130 := hm.symm.trans (congrArg Char.toNat heq)
    omega
  · -- no character has this number
    rw [Char.ofNat, dif_neg hv]
    decide +kernel

/-- **The lower case of a character** is kept by lower case. -/
theorem isKept_lowerChar {c : Char} (hc : c ≠ 'İ') : IsKept (lowerChar c) := by
  by_cases hascii : c.val < 128
  · have hlower : lowerChar c = c.toLower := if_pos hascii
    rw [hlower]
    exact ⟨(lowerChar_toLower c).trans hlower, mt (toLower_eq_dotted c).1 hc⟩
  · rw [lowerChar, if_neg hascii]
    rcases mapByRuns_cases lowerRuns c.toNat with ⟨r, hr, hn, hsome⟩ | ⟨hnot, hnone⟩
    · rw [hsome]
      exact isKept_image hr hn
    · rw [hnone]
      have hlarge : 128 ≤ c.toNat := Nat.not_lt.1 fun hlt => hascii (UInt32.lt_iff_toNat_lt.2 hlt)
      exact isKept_of_not_has hnot (Or.inr (Nat.lt_of_lt_of_le (by decide) hlarge)) hc

/-! ## Texts -/

theorem isKept_of_mem_lowerAfter {casedBefore : Bool} {t : Text} {c : Char} (h : c ∈ lowerAfter casedBefore t) :
    IsKept c := by
  induction t generalizing casedBefore with
  | nil => cases h
  | cons d t ih =>
    rw [lowerAfter] at h
    rcases List.mem_append.1 h with himage | h
    · split at himage
      · rw [List.mem_singleton.1 himage]
        split <;> decide +kernel
      · split at himage
        next =>
          have hletter : IsKept 'i' := by decide +kernel
          have hdot : IsKept '\u0307' := by decide +kernel
          exact List.forall_mem_cons.2 ⟨hletter, List.forall_mem_singleton.2 hdot⟩ c himage
        next hdotted =>
          rw [List.mem_singleton.1 himage]
          exact isKept_lowerChar hdotted
    · exact ih h

theorem lowerAfter_of_isKept {t : Text} (h : ∀ c ∈ t, IsKept c) (casedBefore : Bool) :
    lowerAfter casedBefore t = t := by
  induction t generalizing casedBefore with
  | nil => rfl
  | cons c t ih =>
    obtain ⟨⟨hkept, hdotted⟩, ht⟩ := List.forall_mem_cons.1 h
    have hsigma : c ≠ 'Σ' := by
      rintro rfl
      exact absurd hkept (by decide +kernel)
    rw [lowerAfter, if_neg hsigma, if_neg hdotted, hkept, ih ht]
    rfl

/-- **The lower case of a text is its own lower case.** -/
theorem lower_lower (t : Text) : lower (lower t) = lower t :=
  lowerAfter_of_isKept (fun _ => isKept_of_mem_lowerAfter) false

end ScriptEval.Unicode
