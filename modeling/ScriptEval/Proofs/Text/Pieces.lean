import Mathlib.Logic.Basic
import ScriptEval.Text.Basic

/-!
# Occurrences in a text

A text is cut at the first occurrence of another, if there is one (`cut?_eq_none_iff`): no occurrence ends before that
one does (`eq_nil_of_cut?`). Hence the pieces of a text around the occurrences of another are those that a reader from
the left finds (`exists_pieces`). They make up the text (`join_pieces`), so nothing changes when an occurrence is
replaced by itself, and nothing changes for any replacement exactly if there is no occurrence
(`not_infix_iff_replaceAll`).
-/

namespace ScriptEval.Text

variable {w s before after : Text}

/-! ## The first occurrence -/

theorem cut?_eq_none_iff : cut? w s = none ↔ ¬w <:+: s := by
  induction s with
  | nil => simp [cut?]
  | cons c rest ih =>
    rw [cut?, List.infix_cons_iff, not_or, ← ih]
    split
    next hp => simp [List.isPrefixOf_iff_prefix.1 hp]
    next hp =>
      rw [List.isPrefixOf_iff_prefix] at hp
      simp [hp]

theorem hasPiece_iff : hasPiece w s = true ↔ w <:+: s := by
  rw [hasPiece, Option.isSome_iff_ne_none, ne_eq, cut?_eq_none_iff, not_not]

/-- No occurrence ends before the first one does. -/
theorem eq_nil_of_cut? (h : cut? w s = some (before, after)) {u v : Text} (hoccurs : before ++ w = u ++ w ++ v) :
    v = [] := by
  have hlast {u v : Text} (hw : w = u ++ w ++ v) : v = [] := by
    have hlength := congrArg List.length hw
    rw [List.length_append, List.length_append] at hlength
    exact List.eq_nil_of_length_eq_zero (by omega)
  induction s generalizing before u with
  | nil =>
    obtain ⟨-, rfl, -⟩ := by simpa [cut?] using h
    exact hlast hoccurs
  | cons c rest ih =>
    rw [cut?] at h
    split at h
    next =>
      obtain ⟨rfl, -⟩ := by simpa using h
      exact hlast hoccurs
    next hp =>
      obtain ⟨⟨b, a⟩, hb, heq⟩ := Option.map_eq_some_iff.1 h
      obtain ⟨rfl, rfl⟩ := by simpa using heq
      cases u with
      | nil =>
        -- an occurrence at the start, where there is none
        have hstart : w <+: c :: b ++ w ++ a := ⟨v ++ a, by rw [hoccurs]; simp⟩
        rw [cut?_eq_append hb] at hp
        exact absurd (List.isPrefixOf_iff_prefix.2 hstart) (by simpa using hp)
      | cons d u => exact ih hb (List.cons.inj hoccurs).2

/-! ## Pieces -/

theorem pieces_eq_singleton (h : ¬w <:+: s) : pieces w s = [s] := by
  have hw : w ≠ [] := by
    rintro rfl
    exact h List.nil_infix
  rw [pieces, dif_neg hw]
  split
  next => rfl
  next hcut =>
    rw [cut?_eq_none_iff.2 h] at hcut
    cases hcut

theorem pieces_of_cut? (hw : w ≠ []) (h : cut? w s = some (before, after)) :
    pieces w s = before :: pieces w after := by
  rw [pieces, dif_neg hw]
  split
  next hcut =>
    rw [h] at hcut
    cases hcut
  next hcut =>
    rw [h] at hcut
    cases hcut
    rfl

theorem pieces_ne_nil (w s : Text) : pieces w s ≠ [] := by
  fun_cases pieces w s <;> simp

/-- What a reader from the left finds: in the last piece no occurrence of `w`, and in each other piece with `w` behind
it none but that at the end. There is more than one piece exactly if `w` occurs. -/
theorem exists_pieces (hw : w ≠ []) (s : Text) :
    ∃ firsts last, pieces w s = firsts ++ [last] ∧ ¬w <:+: last ∧
      (∀ p ∈ firsts, ∀ before after, p ++ w = before ++ w ++ after → after = []) ∧
      (1 ≤ firsts.length ↔ w <:+: s) := by
  fun_induction pieces w s with
  | case1 _ hnil => exact absurd hnil hw
  | case2 s _ hcut =>
    have hnone : ¬w <:+: s := cut?_eq_none_iff.1 hcut
    exact ⟨[], s, rfl, hnone, nofun, by simp [hnone]⟩
  | case3 s _ before after hcut _ ih =>
    obtain ⟨firsts, last, hpieces, hlast, hfirsts, -⟩ := ih
    have hoccurs : w <:+: s := ⟨before, after, (cut?_eq_append hcut).symm⟩
    refine ⟨before :: firsts, last, by rw [hpieces]; rfl, hlast, ?_, by simp [hoccurs]⟩
    exact List.forall_mem_cons.2 ⟨fun _ _ => eq_nil_of_cut? hcut, hfirsts⟩

/-- There are two pieces at least around an occurrence. -/
theorem exists_cons_pieces (h : w <:+: s) : ∃ first later, later ≠ [] ∧ pieces w s = first :: later := by
  by_cases hw : w = []
  · subst hw
    rw [pieces, dif_pos rfl]
    exact ⟨[], s.map ([·]) ++ [[]], by simp, rfl⟩
  · cases hcut : cut? w s with
    | none => exact absurd h (cut?_eq_none_iff.1 hcut)
    | some parts => exact ⟨parts.1, pieces w parts.2, pieces_ne_nil w parts.2, pieces_of_cut? hw hcut⟩

theorem join_cons {pieces : List Text} (sep first : Text) (h : pieces ≠ []) :
    join sep (first :: pieces) = first ++ sep ++ join sep pieces := by
  cases pieces with
  | nil => exact absurd rfl h
  | cons _ _ => rfl

theorem join_nil (pieces : List Text) : join [] pieces = pieces.flatten := by
  induction pieces with
  | nil => rfl
  | cons first pieces ih =>
    cases pieces with
    | nil => simp [join]
    | cons next pieces => rw [join_cons [] first (by simp), ih, List.append_nil, ← List.flatten_cons]

/-- The pieces make up the text. -/
theorem join_pieces (w s : Text) : join w (pieces w s) = s := by
  fun_induction pieces w s with
  | case1 s hw =>
    have hflat : (s.map ([·])).flatten = s := by rw [← List.flatMap_def, List.flatMap_singleton']
    simp [hw, join_nil, hflat]
  | case2 s => rfl
  | case3 s _ before after hcut _ ih => rw [join_cons w before (pieces_ne_nil w after), ih, ← cut?_eq_append hcut]

/-! ## Replacing -/

theorem replaceAll_eq_self (h : ¬w <:+: s) (r : Text) : replaceAll w r s = s := by
  rw [replaceAll, pieces_eq_singleton h]
  rfl

/-- Where there is an occurrence, the replacement comes up. -/
theorem infix_replaceAll (h : w <:+: s) (r : Text) : r <:+: replaceAll w r s := by
  obtain ⟨first, later, hlater, hpieces⟩ := exists_cons_pieces h
  exact ⟨first, join r later, by rw [replaceAll, hpieces, join_cons r first hlater]⟩

theorem not_infix_iff_replaceAll : ¬w <:+: s ↔ ∀ r, replaceAll w r s = s := by
  refine ⟨replaceAll_eq_self, fun hall hoccurs => ?_⟩
  -- a replacement longer than the text
  have hlong := (infix_replaceAll hoccurs ('x' :: s)).length_le
  rw [hall, List.length_cons] at hlong
  omega

end ScriptEval.Text
