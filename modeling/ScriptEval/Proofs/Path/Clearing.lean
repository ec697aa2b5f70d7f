import ScriptEval.Proofs.Path.Directory
import ScriptEval.Proofs.Path.Extension

/-!
# Clearing the extension of a path

`with_ext` with an empty extension leaves the stem in the place of the file name. That is the file name of the result,
in the same directory, unless the stem is `.` or `..`, as in a name that starts with two or three dots and has no other
(`withExt_clear`). A stem `.` names nothing at the end of a path (`split_append_dot`), and `..` is no file name.
-/

namespace ScriptEval.Path

variable {s : Style} {p front tail : Text}

/-- A stem that names something is split off in the place of the file name. -/
theorem split_append_stem (hname : fileName s p ≠ []) (hdot : stem s p ≠ ['.']) :
    split s ((split s p).1 ++ stem s p) = ((split s p).1, stem s p) := by
  obtain ⟨front, tail, h⟩ := exists_splits_fileName hname
  have hplain := plain_stem h.plain
  have hdrive := h.splitDrive_prefix hname (stem_prefix_fileName s p)
  have hbody := body_append_plain hplain (stem_ne_nil hname) hdot front
  rw [h.split_eq, List.append_assoc]
  exact split_of_body hdrive hbody h.closed hplain

theorem dir_append_stem (hname : fileName s p ≠ []) (hdot : stem s p ≠ ['.']) :
    dir s ((split s p).1 ++ stem s p) = dir s p := by
  have hsplit := split_append_stem hname hdot
  refine dir_eq_of_split (by rw [hsplit]) (by rw [hsplit]; exact stem_ne_nil hname) ?_
  rw [(split_of_fileName_ne_nil hname).1]
  exact hname

theorem splitDrive_append_dot (h : Splits s p front (fileName s p) tail) (hname : fileName s p ≠ [])
    (hdot : stem s p = ['.']) :
    s.splitDrive ((split s p).1 ++ ['.']) = ((s.splitDrive p).1, front ++ ['.']) := by
  rw [h.split_eq, List.append_assoc, ← hdot]
  exact h.splitDrive_prefix hname (stem_prefix_fileName s p)

/-- Right after a drive, a `.` is the last component. -/
theorem split_append_dot_of_nil (h : Splits s p [] (fileName s p) tail) (hname : fileName s p ≠ [])
    (hdot : stem s p = ['.']) : split s ((split s p).1 ++ ['.']) = ((split s p).1, ['.']) := by
  have hbody : body s ([] ++ ['.']) = [] ++ ['.'] := by simp [body, dropEmptyEnd, isSeparator_dot]
  have hplain : Plain s ['.'] := plain_cons_iff.2 ⟨isSeparator_dot s, plain_nil s⟩
  rw [split_of_body (splitDrive_append_dot h hname hdot) hbody h.closed hplain, h.split_eq]

/-- After a separator, a `.` names nothing. -/
theorem split_append_dot (h : Splits s p front (fileName s p) tail) (hname : fileName s p ≠ [])
    (hdot : stem s p = ['.']) (hfront : front ≠ []) :
    split s ((split s p).1 ++ ['.']) = split s ((s.splitDrive p).1 ++ front) := by
  have hclosed := h.closed
  have hbody : body s (front ++ ['.']) = body s front := by
    cases front using List.reverseRecOn with
    | nil => exact absurd rfl hfront
    | append_singleton front c =>
      have hc : s.isSeparator c = true := hclosed c (by simp)
      rw [List.append_assoc, List.singleton_append, body_concat_dot hc, body_concat_separator hc]
  exact split_eq_of_body (splitDrive_append_dot h hname hdot) (h.splitDrive_front hname) hbody

/-! ## Without the extension -/

theorem fileName_ne_dots (s : Style) (p : Text) : fileName s p ≠ ['.'] ∧ fileName s p ≠ ['.', '.'] := by
  by_cases hname : fileName s p = []
  · simp [hname]
  · exact (split_of_fileName_ne_nil hname).2

/-- The stem in the place of the file name is the file name if it can be one. -/
theorem fileName_append_stem_iff (hname : fileName s p ≠ []) :
    fileName s ((split s p).1 ++ stem s p) = stem s p ↔ stem s p ≠ ['.'] ∧ stem s p ≠ ['.', '.'] := by
  constructor
  · intro heq
    rw [← heq]
    exact fileName_ne_dots s _
  · rintro ⟨hdot, hdots⟩
    exact fileName_of_split (by rw [split_append_stem hname hdot]) hdot hdots

/-- After a separator, a stem `.` takes the path one directory up. -/
theorem dir_append_stem_iff (hname : fileName s p ≠ []) :
    dir s ((split s p).1 ++ stem s p) = dir s p ↔ stem s p ≠ ['.'] ∨ (split s p).1 = (s.splitDrive p).1 := by
  by_cases hdot : stem s p = ['.']
  · obtain ⟨front, tail, h⟩ := exists_splits_fileName hname
    have hlast : (split s p).2 ≠ [] := by rwa [h.split_eq]
    rw [hdot]
    by_cases hfront : front = []
    · subst hfront
      have hsplit := split_append_dot_of_nil h hname hdot
      have hdir := dir_eq_of_split (q := p) (by rw [hsplit]) (by rw [hsplit]; simp) hlast
      have hhead : (split s p).1 = (s.splitDrive p).1 := by rw [h.split_eq, List.append_nil]
      exact iff_of_true hdir (Or.inr hhead)
    · have hhead : (split s p).1 ≠ (s.splitDrive p).1 := by simpa [h.split_eq] using hfront
      refine iff_of_false (fun heq => ?_) (not_or.2 ⟨not_not.2 rfl, hhead⟩)
      have hshorter := length_dir_front_lt h hname hfront
      rw [← heq, dir, dir, split_append_dot h hname hdot hfront] at hshorter
      exact Nat.lt_irrefl _ hshorter
  · exact iff_of_true (dir_append_stem hname hdot) (Or.inl hdot)

/-- **Clearing the extension** of a path with a file name gives a path with the stem as its file name exactly if the
stem is neither `.` nor `..`, and one in the same directory exactly if the stem is not `.` or stands right after the
drive. -/
theorem withExt_clear (s : Style) (p : Text) (hname : fileName s p ≠ []) :
    ∃ r, Functions.withExt s [.text p, .text []] = .ok (.text r) ∧ stem s p ≠ [] ∧
      (fileName s r = stem s p ↔ stem s p ≠ ['.'] ∧ stem s p ≠ ['.', '.']) ∧
      (dir s r = dir s p ↔ stem s p ≠ ['.'] ∨ (split s p).1 = (s.splitDrive p).1) := by
  have hclear := withExt_eq hname (plain_nil s)
  rw [if_pos List.isEmpty_nil, List.append_nil] at hclear
  exact ⟨_, hclear, stem_ne_nil hname, fileName_append_stem_iff hname, dir_append_stem_iff hname⟩

/-- A hidden name on a network path, whose stem starts with dots but has more to it. -/
theorem withExt_clear_network :
    let p := "\\\\host\\share\\..a.tar\\./".toList
    fileName .windows p ≠ [] ∧ ∃ r, Functions.withExt .windows [.text p, .text []] = .ok (.text r) ∧
      fileName .windows r = "..a".toList ∧ dir .windows r = "\\\\host\\share\\".toList := by
  intro p
  have hname : fileName .windows p = "..a.tar".toList := by decide +kernel
  have hdir : dir .windows p = "\\\\host\\share\\".toList := by decide +kernel
  have hstem : stem .windows p = "..a".toList := by decide +kernel
  have hne : fileName .windows p ≠ [] := by rw [hname]; decide
  obtain ⟨r, hr, -, hfile, hsame⟩ := withExt_clear .windows p hne
  rw [hstem] at hfile hsame
  exact ⟨hne, r, hr, hfile.2 (by decide), (hsame.2 (Or.inl (by decide))).trans hdir⟩

/-- Without its extension the name `..a` is a `.`, and the path is that of the directory it was in. -/
theorem withExt_clear_dots :
    let p := "x/..a".toList
    fileName .posix p = "..a".toList ∧ stem .posix p = ".".toList ∧ dir .posix p = "x".toList ∧
      ∃ r, Functions.withExt .posix [.text p, .text []] = .ok (.text r) ∧
        fileName .posix r = "x".toList ∧ dir .posix r = [] := by
  refine ⟨by decide +kernel, by decide +kernel, by decide +kernel, "x/.".toList, ?_, ?_, ?_⟩
  · rfl
  · decide +kernel
  · decide +kernel

end ScriptEval.Path
