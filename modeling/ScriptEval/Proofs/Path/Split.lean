import Mathlib.Data.List.Induction
import ScriptEval.Proofs.Path.Drive

/-!
# Taking a path apart and putting it together

A path is its drive, a front that is empty or ends with a separator, a last component without separators, and an empty
end (`Splits`, `exists_splits`). With another last component the path has the same drive and front (`split_change`),
and so the same directory (`dir_eq_of_split`).
-/

namespace ScriptEval.Path

variable {s : Style} {p d front name tail other : Text}

/-! ## The parts of a path -/

/-- A text that is empty or ends with a separator. -/
def Closed (s : Style) (t : Text) : Prop := ∀ c ∈ t.getLast?, s.isSeparator c = true

/-- The parts of a path after its drive. -/
structure Splits (s : Style) (p front name tail : Text) : Prop where
  rest : (s.splitDrive p).2 = front ++ (name ++ tail)
  closed : Closed s front
  plain : Plain s name
  emptyEnd : EmptyEnd s tail
  split_eq : split s p = ((s.splitDrive p).1 ++ front, name)

theorem takeWhile_reverse_append (hfront : Closed s front) (hname : Plain s name) :
    ((front ++ name).reverse.takeWhile (!s.isSeparator ·)).reverse = name ∧
      ((front ++ name).reverse.dropWhile (!s.isSeparator ·)).reverse = front := by
  have hpos : ∀ c ∈ name.reverse, (!s.isSeparator c) = true := fun c hc => by simp [hname.reverse c hc]
  rw [List.reverse_append, List.takeWhile_append_of_pos hpos, List.dropWhile_append_of_pos hpos]
  cases hr : front.reverse with
  | nil => simpa using (List.reverse_eq_nil_iff.1 hr).symm
  | cons c r =>
    have hc : s.isSeparator c = true := hfront c (by rw [← List.head?_reverse, hr]; rfl)
    rw [List.takeWhile_cons_of_neg (by simp [hc]), List.dropWhile_cons_of_neg (by simp [hc]), ← hr]
    simp

/-- A path is split before the last component of its body. -/
theorem split_of_body {rest : Text} (hdrive : s.splitDrive p = (d, rest)) (hbody : body s rest = front ++ name)
    (hfront : Closed s front) (hname : Plain s name) : split s p = (d ++ front, name) := by
  obtain ⟨hlast, hhead⟩ := takeWhile_reverse_append hfront hname
  rw [split, hdrive]
  simp only [hbody, hlast, hhead]

/-- Empty ends after a drive make no difference. -/
theorem split_eq_of_body {q rest rest' : Text} (hp : s.splitDrive p = (d, rest)) (hq : s.splitDrive q = (d, rest'))
    (hbody : body s rest = body s rest') : split s p = split s q := by
  simp only [split, hp, hq, hbody]

/-- A text is cut after its last separator. -/
theorem exists_closed_append_plain (s : Style) (t : Text) :
    ∃ front name, Closed s front ∧ Plain s name ∧ t = front ++ name := by
  refine ⟨(t.reverse.dropWhile (!s.isSeparator ·)).reverse, (t.reverse.takeWhile (!s.isSeparator ·)).reverse, ?_,
    (plain_takeWhile s _).reverse, ?_⟩
  · intro c hc
    rw [List.getLast?_reverse] at hc
    exact isSeparator_of_head?_dropWhile hc
  · rw [← List.reverse_append, List.takeWhile_append_dropWhile, List.reverse_reverse]

/-- Every path has its parts. -/
theorem exists_splits (s : Style) (p : Text) : ∃ front name tail, Splits s p front name tail := by
  obtain ⟨tail, htail, heq⟩ := body_append_tail s (s.splitDrive p).2
  obtain ⟨front, name, hfront, hname, hbody⟩ := exists_closed_append_plain s (body s (s.splitDrive p).2)
  refine ⟨front, name, tail, ?_, hfront, hname, htail, split_of_body rfl hbody hfront hname⟩
  rw [← List.append_assoc, ← hbody]
  exact heq

/-- The parts together are the path. -/
theorem Splits.append_eq (h : Splits s p front name tail) : p = (split s p).1 ++ (name ++ tail) := by
  have := s.splitDrive_append p
  rw [h.rest] at this
  rw [h.split_eq, List.append_assoc]
  exact this.symm

/-- Without its empty end a path ends with its last component. -/
theorem Splits.body_eq (h : Splits s p front name tail) : body s (s.splitDrive p).2 = front ++ name := by
  obtain ⟨front', name', hfront, hname, hbody⟩ := exists_closed_append_plain s (body s (s.splitDrive p).2)
  have hsplit := (split_of_body rfl hbody hfront hname).symm.trans h.split_eq
  obtain ⟨hhead, rfl⟩ := Prod.mk.inj hsplit
  rw [hbody, List.append_cancel_left hhead]

/-- Nothing but a drive stands before a last component that names nothing, or that would be in the empty end too. -/
theorem Splits.front_eq_nil (h : Splits s p front name tail) (hname : name = [] ∨ name = ['.']) : front = [] := by
  cases front using List.reverseRecOn with
  | nil => rfl
  | append_singleton front c =>
    have hc : s.isSeparator c = true := h.closed c (by simp)
    have hend : EmptyEnd s (c :: name) := by
      rcases hname with rfl | rfl
      · exact .separator hc .nil
      · exact .dot hc .nil
    have hbody : body s (s.splitDrive p).2 = front ++ c :: name := by rw [h.body_eq, List.append_assoc]; rfl
    exact absurd (eq_nil_of_body_eq_append hbody hend) (by simp)

/-- A start of the last component keeps the drive. -/
theorem Splits.splitDrive_prefix (h : Splits s p front name tail) (hne : name ≠ []) (hstart : other <+: name) :
    s.splitDrive ((s.splitDrive p).1 ++ (front ++ other)) = ((s.splitDrive p).1, front ++ other) := by
  obtain ⟨rest, rfl⟩ := hstart
  refine splitDrive_change h.rest h.plain hne (plain_append_iff.1 h.plain).1 fun hcolon => ?_
  rw [← List.append_assoc]
  exact List.getElem?_append_left (List.getElem?_eq_some_iff.1 hcolon).1 ▸ hcolon

/-- **Another last component** keeps the drive and the front. -/
theorem Splits.change (h : Splits s p front name tail) (hne : name ≠ []) (hother : Plain s other) (hothne : other ≠ [])
    (hdot : other ≠ ['.']) (hcolon : (front ++ other)[1]? = some ':' → (front ++ name)[1]? = some ':') :
    split s ((split s p).1 ++ other) = ((split s p).1, other) := by
  have hdrive := splitDrive_change h.rest h.plain hne hother hcolon
  rw [h.split_eq, List.append_assoc]
  exact split_of_body hdrive (body_append_plain hother hothne hdot front) h.closed hother

/-! ## File names and directories -/

theorem fileName_of_split (h : (split s p).2 = name) (hdot : name ≠ ['.']) (hdots : name ≠ ['.', '.']) :
    fileName s p = name := by
  simp only [fileName, h]
  rw [if_neg (not_or.2 ⟨hdot, hdots⟩)]

/-- A file name is the last component and neither `.` nor `..`. -/
theorem split_of_fileName_ne_nil (h : fileName s p ≠ []) :
    (split s p).2 = fileName s p ∧ fileName s p ≠ ['.'] ∧ fileName s p ≠ ['.', '.'] := by
  by_cases hdots : (split s p).2 = ['.'] ∨ (split s p).2 = ['.', '.']
  · exact absurd (if_pos hdots) h
  · have heq : fileName s p = (split s p).2 := if_neg hdots
    rw [heq]
    exact ⟨rfl, not_or.1 hdots⟩

/-- The last component of a path with a file name is that. -/
theorem exists_splits_fileName (h : fileName s p ≠ []) : ∃ front tail, Splits s p front (fileName s p) tail := by
  obtain ⟨front, name, tail, hsplits⟩ := exists_splits s p
  obtain rfl : name = fileName s p := by rw [← (split_of_fileName_ne_nil h).1, hsplits.split_eq]
  exact ⟨front, tail, hsplits⟩

theorem plain_fileName (h : fileName s p ≠ []) : Plain s (fileName s p) := by
  obtain ⟨front, tail, hsplits⟩ := exists_splits_fileName h
  exact hsplits.plain

/-- The directory of a path with a last component depends on what stands before that only. -/
theorem dir_eq_of_split {q : Text} (hhead : (split s p).1 = (split s q).1) (hp : (split s p).2 ≠ [])
    (hq : (split s q).2 ≠ []) : dir s p = dir s q := by
  simp only [dir, hhead, List.isEmpty_iff, if_neg hp, if_neg hq]

end ScriptEval.Path
