import Mathlib.Logic.Function.Iterate
import ScriptEval.Proofs.Path.Components
import ScriptEval.Proofs.Path.Directory

/-!
# Going up from a path

A path with a last component is its directory, a run of separators, that component and an empty end
(`Splits.cutsLast`). So its directory is a start of it (`dir_prefix_self`) and shorter (`length_dir_lt`), and going up
from directory to directory ends with the empty path, after no more steps than the path has characters (`iterate_dir`).
-/

namespace ScriptEval.Path

variable {s : Style} {p front name tail bared : Text}

/-! ## The cut before the last component -/

/-- The directory that is the root of a path: the drive and one separator. -/
def IsRoot (s : Style) (p d : Text) : Prop := ∃ c, s.isSeparator c = true ∧ d = (s.splitDrive p).1 ++ [c]

/-- A path cut before its last component: a directory `d` on the same drive, separators, the last component and an empty
end. The directory ends with a separator only if it is the root, and touches the last component only if it is the root,
empty or nothing but a drive. -/
structure CutsLast (s : Style) (p d run last tail : Text) : Prop where
  append : p = d ++ run ++ last ++ tail
  drive : (s.splitDrive d).1 = (s.splitDrive p).1
  run_separators : ∀ c ∈ run, s.isSeparator c = true
  last_plain : Plain s last
  last_named : last ≠ ['.'] → (named s (s.splitDrive p).2).getLast? = some last
  tail_emptyEnd : EmptyEnd s tail
  root : (∃ c ∈ d.getLast?, s.isSeparator c = true) → IsRoot s p d
  touches : run = [] → IsRoot s p d ∨ d = [] ∨ d = (s.splitDrive p).1

/-- What is bare of separators ends with one only if that is all of it. -/
theorem IsBare.eq_singleton {c : Char} (h : IsBare s front bared) (hlast : c ∈ bared.getLast?)
    (hc : s.isSeparator c = true) : bared = [c] := by
  cases h with
  | nothing => cases hlast
  | root _ _ => simpa using hlast
  | @stripped kept run b d hb _ _ =>
    obtain rfl : b = c := by simpa using hlast
    rw [hb] at hc
    cases hc

/-- Nothing is taken off only where there is nothing but one separator at most. -/
theorem IsBare.eq_nil_or_singleton (h : IsBare s front bared) (heq : front = bared) :
    bared = [] ∨ ∃ c, s.isSeparator c = true ∧ bared = [c] := by
  cases h with
  | nothing => exact Or.inl rfl
  | root hc _ => exact Or.inr ⟨_, hc, rfl⟩
  | stripped _ _ _ => simp at heq

/-- A drive that a last component stands right after does not end with a separator. -/
theorem Splits.drive_not_closed (h : Splits s p [] name tail) (hne : name ≠ []) {c : Char}
    (hlast : c ∈ (s.splitDrive p).1.getLast?) : s.isSeparator c = false := by
  obtain ⟨b, name, rfl⟩ := List.exists_cons_of_ne_nil hne
  have hdrive := drive_before_name h.rest (plain_cons_iff.1 h.plain).1
  have hcolon : c = ':' := by
    rw [Option.mem_def.1 hlast] at hdrive
    simpa using hdrive
  rw [hcolon, isSeparator_colon]

/-- **A path with a last component** is cut before that. -/
theorem Splits.cutsLast (h : Splits s p front name tail) (hne : name ≠ []) :
    ∃ run, CutsLast s p (dir s p) run name tail := by
  have hbare := isBare_bare h.closed
  obtain ⟨run, hrun, hsep⟩ := hbare.exists_append
  have hdir := dir_eq h hne
  have happend : p = dir s p ++ run ++ name ++ tail := by
    have hsplit := h.append_eq
    rw [h.split_eq, hrun] at hsplit
    rw [hdir]
    simpa using hsplit
  refine ⟨run, happend, ?_, hsep, h.plain, fun hdot => ?_, h.emptyEnd, ?_, fun hnil => ?_⟩
  · rw [splitDrive_dir h hne]
  · rw [getLast?_named h, if_neg (not_or.2 ⟨hne, hdot⟩)]
  · rintro ⟨c, hlast, hc⟩
    rw [hdir] at hlast ⊢
    by_cases hnil : bare s front = []
    · -- then the directory is the drive, and the last component stands right after it
      have hfront : front = [] := by
        by_contra hfront
        exact hbare.ne_nil hfront hnil
      subst hfront
      rw [hnil, List.append_nil] at hlast
      rw [h.drive_not_closed hne hlast] at hc
      cases hc
    · rw [List.getLast?_append_of_ne_nil _ hnil] at hlast
      exact ⟨c, hc, by rw [hbare.eq_singleton hlast hc]⟩
  · rw [hnil, List.append_nil] at hrun
    rcases hbare.eq_nil_or_singleton hrun with hnothing | ⟨c, hc, hroot⟩
    · right; right
      rw [hdir, hnothing, List.append_nil]
    · exact Or.inl ⟨c, hc, by rw [hdir, hroot]⟩

/-! ## Going up -/

theorem dir_prefix_self (s : Style) (p : Text) : dir s p <+: p := by
  obtain ⟨front, name, tail, h⟩ := exists_splits s p
  by_cases hne : name = []
  · rw [dir_eq_nil (by rw [h.split_eq, hne])]
    exact List.nil_prefix
  · obtain ⟨run, hcut⟩ := h.cutsLast hne
    exact ⟨run ++ name ++ tail, by simpa using hcut.append.symm⟩

theorem length_dir_lt (hne : p ≠ []) : (dir s p).length < p.length := by
  obtain ⟨front, name, tail, h⟩ := exists_splits s p
  by_cases hname : name = []
  · rw [dir_eq_nil (by rw [h.split_eq, hname])]
    exact List.length_pos_of_ne_nil hne
  · obtain ⟨run, hcut⟩ := h.cutsLast hname
    have hlength := congrArg List.length hcut.append
    have hpos := List.length_pos_of_ne_nil hname
    simp only [List.length_append] at hlength
    omega

/-- **Going up ends**: each step that is not from the empty path takes a character off at least. -/
theorem iterate_dir (n : Nat) (hn : p.length ≤ n) : (dir s)^[n] p = [] := by
  induction n generalizing p with
  | zero => exact List.eq_nil_of_length_eq_zero (Nat.le_zero.1 hn)
  | succ n ih =>
    rw [Function.iterate_succ_apply]
    apply ih
    by_cases hne : p = []
    · rw [hne, List.prefix_nil.1 (dir_prefix_self s [])]
      exact Nat.zero_le n
    · have hlt := length_dir_lt (s := s) hne
      omega

/-- **`dir` cuts off one component.** For either style, calls of `dir` on the directory before give one directory after
the other, each a start of the path before and shorter, until the empty path is reached. Where a path has a last
component it is cut before that. -/
theorem dir_cuts_last (services : Services) (world : World) (p : Text) :
    let s := services.style
    (∀ n, Gives services world "dir" [(dir s)^[n] p] ((dir s)^[n + 1] p)) ∧ (dir s)^[p.length] p = [] ∧
      dir s p <+: p ∧ (p ≠ [] → (dir s p).length < p.length) ∧
      ((split s p).2 ≠ [] → ∃ run tail, CutsLast s p (dir s p) run (split s p).2 tail) := by
  intro s
  refine ⟨fun n => ?_, iterate_dir p.length (Nat.le_refl _), dir_prefix_self s p, length_dir_lt, fun hne => ?_⟩
  · rw [Function.iterate_succ_apply']
    exact gives_dir services world _
  · obtain ⟨front, name, tail, h⟩ := exists_splits s p
    obtain rfl : name = (split s p).2 := by rw [h.split_eq]
    obtain ⟨run, hcut⟩ := h.cutsLast hne
    exact ⟨run, tail, hcut⟩

/-- On a share, with separators of both kinds before the last component and an empty end. -/
theorem dir_cuts_last_share :
    let services : Services := { platform := {}, style := .windows, clock := ({} : World).clock }
    let p := "\\\\host\\share\\\\a/\\b\\./".toList
    let d := "\\\\host\\share\\\\a".toList
    (split .windows p).2 ≠ [] ∧ Gives services {} "dir" [p] d ∧
      ∃ run tail, run ≠ [] ∧ CutsLast .windows p d run "b".toList tail := by
  intro services p d
  have hdir : dir .windows p = d := by decide +kernel
  have hlast : (split .windows p).2 = "b".toList := by decide +kernel
  have hdrive : (Style.windows.splitDrive p).1 = "\\\\host\\share".toList := by decide +kernel
  have hne : (split .windows p).2 ≠ [] := by rw [hlast]; decide
  obtain ⟨hcalls, -, -, -, hcuts⟩ := dir_cuts_last services {} p
  obtain ⟨run, tail, hcut⟩ := hcuts hne
  have hgives := hcalls 0
  rw [Function.iterate_succ_apply', Function.iterate_zero_apply, show dir services.style p = d from hdir] at hgives
  replace hcut : CutsLast .windows p d run "b".toList tail := by rwa [← hdir, ← hlast]
  refine ⟨hne, hgives, run, tail, fun hnil => ?_, hcut⟩
  rcases hcut.touches hnil with ⟨c, -, hroot⟩ | hempty | hbare
  · have hlength := congrArg List.length hroot
    rw [hdrive, List.length_append, List.length_singleton] at hlength
    exact absurd hlength (by decide)
  · exact absurd hempty (by decide)
  · rw [hdrive] at hbare
    exact absurd hbare (by decide)

/-- Nothing stands between the root, a bare drive or an empty directory and the last component. -/
example : dir .posix "/a".toList = "/".toList ∧ dir .windows "C:a".toList = "C:".toList ∧
    dir .posix "a".toList = [] := by
  decide +kernel

end ScriptEval.Path
