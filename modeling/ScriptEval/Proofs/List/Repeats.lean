import Mathlib.Data.List.Induction
import Mathlib.Data.List.Nodup

/-!
# Lists whose repeats are dropped

`List.eraseDups` keeps each element once, where it comes first: none is there twice (`nodup_eraseDups`), and what a list
begins with stays at the beginning (`eraseDups_prefix_append`). So one element comes before another if it does so in the
list for the first time (`pair_sublist_eraseDups_iff`).
-/

namespace ScriptEval

variable {α : Type} [BEq α] [LawfulBEq α]

/-- A list whose repeats are dropped has none. -/
theorem nodup_eraseDups : ∀ l : List α, l.eraseDups.Nodup
  | [] => List.nodup_nil
  | a :: l => by
    have : (l.filter fun b => !b == a).length < l.length + 1 := Nat.lt_succ_of_le (List.length_filter_le _ _)
    rw [List.eraseDups_cons, List.nodup_cons]
    exact ⟨by simp, nodup_eraseDups _⟩
termination_by l => l.length

theorem eraseDups_prefix_append (l more : List α) : l.eraseDups <+: (l ++ more).eraseDups := by
  rw [List.eraseDups_append]
  exact List.prefix_append _ _

/-- What is taken out of a list does not depend on repeats. -/
theorem removeAll_eraseDups (l out : List α) : l.removeAll out.eraseDups = l.removeAll out := by
  apply List.filter_congr
  intro a _
  rw [Bool.eq_iff_iff]
  simp

/-- A list with one more element at its end. -/
theorem eraseDups_concat (l : List α) (a : α) :
    (l ++ [a]).eraseDups = if a ∈ l then l.eraseDups else l.eraseDups ++ [a] := by
  rw [List.eraseDups_append]
  split
  next h => simp [List.removeAll, h]
  next h => simp [List.removeAll, h, List.eraseDups_cons]

/-- A list without repeats is kept. -/
theorem eraseDups_of_nodup {l : List α} (h : l.Nodup) : l.eraseDups = l := by
  induction l using List.reverseRecOn with
  | nil => rfl
  | append_singleton l a ih =>
    obtain ⟨hl, -, hdisjoint⟩ := List.nodup_append.1 h
    have ha : a ∉ l := fun hmem => hdisjoint a hmem a (List.mem_singleton_self a) rfl
    rw [eraseDups_concat, if_neg ha, ih hl]

/-- Repeats may be dropped before a partial function is applied. -/
theorem eraseDups_filterMap_eraseDups {β : Type} [BEq β] [LawfulBEq β] (f : β → Option α) (l : List β) :
    (l.eraseDups.filterMap f).eraseDups = (l.filterMap f).eraseDups := by
  induction l using List.reverseRecOn with
  | nil => rfl
  | append_singleton l b ih =>
    rw [eraseDups_concat]
    split
    next hb =>
      rw [ih, List.filterMap_append]
      cases hf : f b with
      | none => simp [hf]
      | some a =>
        have ha : a ∈ l.filterMap f := List.mem_filterMap.2 ⟨b, hb, hf⟩
        rw [List.filterMap_cons_some hf, List.filterMap_nil, eraseDups_concat, if_pos ha]
    next =>
      rw [List.filterMap_append, List.filterMap_append, List.eraseDups_append, List.eraseDups_append, ih,
        ← removeAll_eraseDups, ih, removeAll_eraseDups]

/-- Where repeats are dropped, an element comes before another one if it does so in the list for the first time. -/
theorem pair_sublist_eraseDups_iff {x y : α} {l : List α} :
    [x, y].Sublist l.eraseDups ↔
      x ≠ y ∧ ∃ front back, l = front ++ x :: back ∧ y ∉ front ∧ y ∈ back := by
  constructor
  · intro h
    obtain ⟨hne, hnodup⟩ : x ≠ y ∧ l.eraseDups.Nodup := ⟨by simpa using h.nodup (nodup_eraseDups l), nodup_eraseDups l⟩
    have hx : x ∈ l := List.mem_eraseDups.1 (h.subset (by simp))
    have hy : y ∈ l := List.mem_eraseDups.1 (h.subset (by simp))
    obtain ⟨front, back, rfl, hfront⟩ := List.eq_append_cons_of_mem hx
    rw [List.eraseDups_append] at h hnodup
    have hyfront : y ∉ front := by
      intro hmem
      -- then the other one is not in front, and both come after it
      obtain ⟨start, rest, hsplit, hstart, hrest⟩ := List.sublist_append_iff.1 h
      cases start with
      | nil =>
        obtain rfl : [x, y] = rest := hsplit
        exact (List.nodup_append.1 hnodup).2.2 y (List.mem_eraseDups.2 hmem) y (hrest.subset (by simp)) rfl
      | cons a start =>
        obtain ⟨rfl, -⟩ := List.cons.inj hsplit
        exact hfront (List.mem_eraseDups.1 (hstart.subset List.mem_cons_self))
    refine ⟨hne, front, back, rfl, hyfront, ?_⟩
    rcases List.mem_append.1 hy with hmem | hmem
    · exact absurd hmem hyfront
    · exact (List.mem_cons.1 hmem).resolve_left hne.symm
  · rintro ⟨hne, front, back, rfl, hfront, hback⟩
    have hsplit : front ++ x :: back = (front ++ [x]) ++ back := by simp
    rw [hsplit, List.eraseDups_append]
    have hx : [x].Sublist (front ++ [x]).eraseDups := by simp
    have hy : [y].Sublist (back.removeAll (front ++ [x])).eraseDups := by
      simp [List.removeAll, hback, hfront, hne.symm]
    exact hx.append hy

/-- The same for a partial function: the first value that gives the element is before the first that gives the other. -/
theorem pair_sublist_eraseDups_filterMap_iff {β : Type} {f : β → Option α} {x y : α} {l : List β} :
    [x, y].Sublist (l.filterMap f).eraseDups ↔
      x ≠ y ∧ ∃ front b back, l = front ++ b :: back ∧ f b = some x ∧ (∀ c ∈ front, f c ≠ some y) ∧
        ∃ c ∈ back, f c = some y := by
  rw [pair_sublist_eraseDups_iff]
  refine and_congr_right fun _ => ⟨?_, ?_⟩
  · rintro ⟨front, back, hsplit, hfront, hback⟩
    obtain ⟨l₁, l₂, rfl, rfl, hl₂⟩ := List.filterMap_eq_append_iff.1 hsplit
    obtain ⟨m₁, b, m₂, rfl, hnone, hb, rfl⟩ := List.filterMap_eq_cons_iff.1 hl₂
    refine ⟨l₁ ++ m₁, b, m₂, by simp, hb, fun c hc hy => ?_, List.mem_filterMap.1 hback⟩
    rcases List.mem_append.1 hc with hc | hc
    · exact hfront (List.mem_filterMap.2 ⟨c, hc, hy⟩)
    · rw [hnone c hc] at hy
      cases hy
  · rintro ⟨front, b, back, rfl, hb, hfront, hback⟩
    refine ⟨front.filterMap f, back.filterMap f, by simp [hb], fun hy => ?_, List.mem_filterMap.2 hback⟩
    obtain ⟨c, hc, hy⟩ := List.mem_filterMap.1 hy
    exact hfront c hc hy

end ScriptEval
