import ScriptEval.Proofs.Value.Decimal
import Mathlib.Data.List.Forall2

/-!
# The order of padded numbers

Of two numbers that fit into a width, padded with zeros to it, the smaller one has the smaller text
(`ofNatPadded_lt_iff`). Where widths are fixed, this goes from number to number: the texts of two lists of numbers, put
together, are in the order of the lists (`placed_lt_iff`).
-/

namespace ScriptEval.Text

/-- Lists that start with parts of one length are in the order of these parts, and of the rest if the parts are the
same. -/
theorem append_lt_append_iff {α : Type} [LT α] {s s' t t' : List α} (h : s.length = s'.length) :
    s ++ t < s' ++ t' ↔ s < s' ∨ s = s' ∧ t < t' := by
  induction s generalizing s' with
  | nil =>
    obtain rfl := List.length_eq_zero_iff.1 h.symm
    simp
  | cons c s ih =>
    obtain ⟨c', s', rfl⟩ := List.exists_cons_of_length_eq_add_one h.symm
    rw [List.cons_append, List.cons_append, List.cons_lt_cons_iff, List.cons_lt_cons_iff, ih (Nat.succ.inj h),
      List.cons.injEq]
    tauto

/-! ## One number -/

theorem toNat_ofNatPadded (width n : Nat) : toNat (ofNatPadded width n) = n := by
  have hzeros (k : Nat) : (List.replicate k '0').foldl (fun n c => 10 * n + (c.toNat - '0'.toNat)) 0 = 0 := by
    induction k with
    | zero => rfl
    | succ k ih => exact ih
  rw [ofNatPadded, toNat, List.foldl_append, hzeros]
  exact toNat_ofNat n

theorem ofNatPadded_inj {width m n : Nat} : ofNatPadded width m = ofNatPadded width n ↔ m = n := by
  refine ⟨fun h => ?_, fun h => h ▸ rfl⟩
  rw [← toNat_ofNatPadded width m, h, toNat_ofNatPadded]

theorem ofNatPadded_one {n : Nat} (h : n < 10) : ofNatPadded 1 n = [Nat.digitChar n] := by
  rw [ofNatPadded, ofNat, if_pos h]
  rfl

theorem length_ofNat_of_le {n : Nat} (h : 10 ≤ n) : (ofNat n).length = (ofNat (n / 10)).length + 1 := by
  rw [ofNat, if_neg (Nat.not_lt.2 h), List.length_append, List.length_singleton]

/-- A number with digits enough is not padded. -/
theorem ofNatPadded_of_le {width n : Nat} (h : width ≤ (ofNat n).length) : ofNatPadded width n = ofNat n := by
  rw [ofNatPadded, Nat.sub_eq_zero_of_le h]
  rfl

/-- The last digit of a padded number. -/
theorem ofNatPadded_succ (width n : Nat) :
    ofNatPadded (width + 2) n = ofNatPadded (width + 1) (n / 10) ++ [Nat.digitChar (n % 10)] := by
  by_cases h : n < 10
  · have hzero : ofNat (n / 10) = ['0'] := by
      rw [Nat.div_eq_of_lt h, ofNat, if_pos (by decide)]
      rfl
    rw [ofNatPadded, ofNatPadded, ofNat, if_pos h, hzero, Nat.mod_eq_of_lt h]
    show List.replicate (width + 1) '0' ++ _ = List.replicate width '0' ++ ['0'] ++ _
    rw [List.replicate_succ']
  · have hdigits : ofNat n = ofNat (n / 10) ++ [Nat.digitChar (n % 10)] := by rw [ofNat, if_neg h]
    have hzeros : width + 2 - (ofNat n).length = width + 1 - (ofNat (n / 10)).length := by
      rw [hdigits, List.length_append, List.length_singleton]
      omega
    rw [ofNatPadded, ofNatPadded, hzeros, hdigits, List.append_assoc]

/-- A number has no more digits than there are places. -/
def Fits (width n : Nat) : Prop := (ofNatPadded width n).length = width

theorem not_fits_zero (n : Nat) : ¬Fits 0 n := by simp [Fits, ofNatPadded, ofNat_ne_nil]

theorem fits_one_iff {n : Nat} : Fits 1 n ↔ n < 10 := by
  by_cases h : n < 10
  · simp [Fits, ofNatPadded_one h, h]
  · have hlength : 0 < (ofNat (n / 10)).length := List.length_pos_iff.2 (ofNat_ne_nil _)
    refine iff_of_false ?_ h
    rw [Fits, ofNatPadded, ofNat, if_neg h]
    simp only [List.length_append, List.length_replicate, List.length_singleton]
    omega

theorem fits_succ_iff {width n : Nat} : Fits (width + 2) n ↔ Fits (width + 1) (n / 10) := by
  rw [Fits, ofNatPadded_succ, List.length_append, List.length_singleton, Fits]
  omega

theorem fits_two {n : Nat} (h : n < 100) : Fits 2 n := by
  rw [fits_succ_iff, fits_one_iff]
  omega

theorem fits_four {n : Nat} (h : n < 10000) : Fits 4 n := by
  rw [fits_succ_iff, fits_succ_iff, fits_succ_iff, fits_one_iff]
  omega

theorem digitChar_lt_iff {m n : Nat} (hm : m < 10) (hn : n < 10) : Nat.digitChar m < Nat.digitChar n ↔ m < n := by
  have hall : ∀ m < 10, ∀ n < 10, Nat.digitChar m < Nat.digitChar n ↔ m < n := by decide
  exact hall m hm n hn

/-- **Padded numbers of one width** are in the order of the numbers. -/
theorem ofNatPadded_lt_iff {width m n : Nat} (hm : Fits width m) (hn : Fits width n) :
    ofNatPadded width m < ofNatPadded width n ↔ m < n := by
  -- on the last digit: the numbers without it fit into one place less
  induction width using Nat.twoStepInduction generalizing m n with
  | zero => exact absurd hm (not_fits_zero m)
  | one =>
    rw [fits_one_iff] at hm hn
    rw [ofNatPadded_one hm, ofNatPadded_one hn, List.cons_lt_cons_iff, digitChar_lt_iff hm hn]
    simp
  | more width _ ih =>
    rw [fits_succ_iff] at hm hn
    have hlast : Nat.digitChar (m % 10) < Nat.digitChar (n % 10) ↔ m % 10 < n % 10 :=
      digitChar_lt_iff (Nat.mod_lt m (by decide)) (Nat.mod_lt n (by decide))
    rw [ofNatPadded_succ, ofNatPadded_succ, append_lt_append_iff (hm.trans hn.symm), ih hm hn, ofNatPadded_inj,
      List.cons_lt_cons_iff, hlast]
    simp only [List.not_lt_nil, and_false, or_false]
    omega

/-! ## Numbers one after the other -/

/-- Numbers one after the other, each padded to its width. -/
def placed (widths numbers : List Nat) : Text := (List.zipWith ofNatPadded widths numbers).flatten

variable {widths ms ns : List Nat}

theorem length_placed (h : List.Forall₂ Fits widths ms) : (placed widths ms).length = widths.foldr (· + ·) 0 := by
  induction h with
  | nil => rfl
  | cons hfits _ ih =>
    rw [placed, List.zipWith_cons_cons, List.flatten_cons, List.length_append, hfits, ← placed, ih]
    rfl

theorem placed_inj (hm : List.Forall₂ Fits widths ms) (hn : List.Forall₂ Fits widths ns) :
    placed widths ms = placed widths ns ↔ ms = ns := by
  refine ⟨fun h => ?_, fun h => h ▸ rfl⟩
  induction hm generalizing ns with
  | nil =>
    cases hn
    rfl
  | @cons width m widths ms hfits _ ih =>
    cases hn with
    | @cons _ n _ ns hfits' hn =>
      obtain ⟨hfirst, hrest⟩ := List.append_inj h (hfits.trans hfits'.symm)
      rw [ofNatPadded_inj.1 hfirst, ih hn hrest]

/-- **Numbers placed one after the other** are in the order of the lists of the numbers. -/
theorem placed_lt_iff (hm : List.Forall₂ Fits widths ms) (hn : List.Forall₂ Fits widths ns) :
    placed widths ms < placed widths ns ↔ ms < ns := by
  induction hm generalizing ns with
  | nil =>
    cases hn
    exact iff_of_false (List.not_lt_nil _) (List.not_lt_nil _)
  | @cons width m widths ms hfits _ ih =>
    cases hn with
    | @cons _ n _ ns hfits' hn =>
      rw [placed, placed, List.zipWith_cons_cons, List.zipWith_cons_cons, List.flatten_cons, List.flatten_cons,
        append_lt_append_iff (hfits.trans hfits'.symm), ofNatPadded_lt_iff hfits hfits', ofNatPadded_inj, ← placed,
        ← placed, ih hn, List.cons_lt_cons_iff]

end ScriptEval.Text
