import ScriptEval.Proofs.Path.Calls
import ScriptEval.Proofs.Path.Stem

/-!
# A file name and its parts

The file name of a path is its stem and, after a dot, its extension, or it is the stem alone and has no dot but in front
(`fileName_cases`). Taken as a path of its own, a file name that does not start as a drive is its own file name
(`fileName_fileName`), so it has the same stem and extension, and it lies in no directory (`dir_fileName`).
-/

namespace ScriptEval.Path

variable {s : Style} {p : Text}

/-! ## The parts of a file name -/

/-- A file name with an extension, or a trailing dot, and a file name without one. -/
theorem fileName_cases (s : Style) (p : Text) :
    (stem s p ≠ [] ∧ fileName s p = stem s p ++ '.' :: ext s p) ∨
      ext s p = [] ∧ fileName s p = stem s p ∧ '.' ∉ (fileName s p).tail := by
  rcases stemExt_cases (fileName s p) with ⟨heq, hdot⟩ | ⟨stem', ext', hne, -, hname, heq⟩
  · exact Or.inr ⟨by rw [ext, heq], by rw [stem, heq], hdot⟩
  · left
    rw [stem, ext, heq]
    exact ⟨hne, hname⟩

theorem stem_eq_nil_iff : stem s p = [] ↔ fileName s p = [] := by
  constructor
  · intro h
    by_contra hname
    exact stem_ne_nil hname h
  · intro h
    have hstart := stem_prefix_fileName s p
    rwa [h, List.prefix_nil] at hstart

theorem plain_fileName_or_nil (s : Style) (p : Text) : Plain s (fileName s p) := by
  by_cases hname : fileName s p = []
  · rw [hname]
    exact plain_nil s
  · exact plain_fileName hname

/-! ## A file name as a path -/

section NoDrive

variable (hdrive : s.splitDrive (fileName s p) = ([], fileName s p))

include hdrive

theorem split_fileName (hname : fileName s p ≠ []) : split s (fileName s p) = ([], fileName s p) := by
  have hplain := plain_fileName hname
  have hbody := body_append_plain hplain hname (split_of_fileName_ne_nil hname).2.1 []
  exact split_of_body hdrive hbody (by nofun) hplain

theorem fileName_fileName : fileName s (fileName s p) = fileName s p := by
  by_cases hname : fileName s p = []
  · rw [hname]
    cases s <;> rfl
  · obtain ⟨-, hdot, hdots⟩ := split_of_fileName_ne_nil hname
    exact fileName_of_split (by rw [split_fileName hdrive hname]) hdot hdots

theorem stem_fileName : stem s (fileName s p) = stem s p := by rw [stem, fileName_fileName hdrive, stem]

theorem ext_fileName : ext s (fileName s p) = ext s p := by rw [ext, fileName_fileName hdrive, ext]

theorem dir_fileName : dir s (fileName s p) = [] := by
  by_cases hname : fileName s p = []
  · rw [hname]
    cases s <;> rfl
  · have hempty : s.splitDrive [] = ([], []) := by cases s <;> rfl
    simp [dir, split_fileName hdrive hname, hempty, Text.trimRight]

end NoDrive

/-- **The stem and the extension make up the file name**, for either style. The extension has no dot and no separator,
and the stem is empty only where there is no file name. The file name is the two with a dot between them, or the stem
alone if it has no dot but in front. Without drives, a file name has itself as its file name, the same stem and
extension, and no directory. -/
theorem stem_ext_recompose (services : Services) (world : World) (p : Text) :
    ∃ name n e, Gives services world "filename" [p] name ∧ Gives services world "stem" [p] n ∧
      Gives services world "ext" [p] e ∧ '.' ∉ e ∧ Plain services.style e ∧ (n = [] ↔ name = []) ∧
      ((n ≠ [] ∧ name = n ++ '.' :: e) ∨ e = [] ∧ name = n ∧ '.' ∉ name.tail) ∧
      (e ≠ [] → n ++ '.' :: e = name) ∧
      (services.style = .posix → Gives services world "filename" [name] name ∧ Gives services world "stem" [name] n ∧
        Gives services world "ext" [name] e ∧ Gives services world "dir" [name] []) := by
  refine ⟨_, _, _, gives_filename services world p, gives_stem services world p, gives_ext services world p,
    not_mem_ext _ p, plain_ext (plain_fileName_or_nil _ p), stem_eq_nil_iff, fileName_cases _ p,
    fun he => (fileName_eq_append he).symm, fun hposix => ?_⟩
  have hdrive : services.style.splitDrive (fileName services.style p) = ([], fileName services.style p) := by
    rw [hposix]
    rfl
  have hname := gives_filename services world (fileName services.style p)
  have hstem := gives_stem services world (fileName services.style p)
  have hext := gives_ext services world (fileName services.style p)
  have hdir := gives_dir services world (fileName services.style p)
  rw [fileName_fileName hdrive] at hname
  rw [stem_fileName hdrive] at hstem
  rw [ext_fileName hdrive] at hext
  rw [dir_fileName hdrive] at hdir
  exact ⟨hname, hstem, hext, hdir⟩

end ScriptEval.Path
