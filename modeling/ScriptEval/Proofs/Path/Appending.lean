import ScriptEval.Proofs.Path.Calls
import ScriptEval.Proofs.Path.Extension

/-!
# Appending an extension

`add_ext` puts an extension after the text of a path, whatever that is. If the path ends with its file name
(`eq_append_fileName`), that name is the stem of what comes out, since a dot after it starts an extension also where
the name is hidden or made of dots only. So `with_ext` takes off again what was appended (`addExt_undone`).
-/

namespace ScriptEval.Path

variable {s : Style} {p e : Text}

/-- An extension without the dot that it may be given with. -/
def undotted (e : Text) : Text := if e.head? = some '.' then e.tail else e

theorem addExt_eq (hne : e ≠ []) (p : Text) : addExt p e = p ++ '.' :: undotted e := by
  obtain ⟨c, e, rfl⟩ := List.exists_cons_of_ne_nil hne
  by_cases hc : c = '.' <;> simp [addExt, undotted, hc]

theorem undotted_suffix (e : Text) : undotted e <:+ e := by
  unfold undotted
  split
  · exact List.tail_suffix e
  · exact List.suffix_refl e

theorem plain_undotted (h : Plain s e) : Plain s (undotted e) := fun c hc => h c ((undotted_suffix e).subset hc)

/-- A path that ends with its file name has no empty end. -/
theorem eq_append_fileName (hname : fileName s p ≠ []) (hend : fileName s p <:+ p) :
    (split s p).1 ++ fileName s p = p := by
  obtain ⟨front, tail, h⟩ := exists_splits_fileName hname
  obtain ⟨start, hstart⟩ := hend
  have happend : p = ((split s p).1 ++ fileName s p) ++ tail := by rw [List.append_assoc, ← h.append_eq]
  have hbody : body s (start ++ fileName s p) = start ++ fileName s p :=
    body_append_plain h.plain hname (split_of_fileName_ne_nil hname).2.1 start
  rw [hstart] at hbody
  have htail : tail = [] := eq_nil_of_body_eq_append (hbody.trans happend) h.emptyEnd
  rw [htail, List.append_nil] at happend
  exact happend.symm

/-- The parts of a path with an extension appended: the file name has become the stem. -/
structure Appended (s : Style) (p e r : Text) : Prop where
  stem_eq : stem s r = fileName s p
  ext_eq : ext s r = e
  dir_eq : dir s r = dir s p
  withExt_eq : Functions.withExt s [.text r, .text []] = .ok (.text p)

theorem appended_dot (hname : fileName s p ≠ []) (hend : fileName s p <:+ p) (he : Plain s e) (hdot : '.' ∉ e) :
    Appended s p e (p ++ '.' :: e) := by
  have hwhole := eq_append_fileName hname hend
  have hr : p ++ '.' :: e = (split s p).1 ++ (fileName s p ++ '.' :: e) := by rw [← List.append_assoc, hwhole]
  have hstart : fileName s p <+: fileName s p := List.prefix_refl _
  have hdots : fileName s p ≠ ['.'] ∨ e ≠ [] := Or.inl (split_of_fileName_ne_nil hname).2.1
  have hsplit := split_start_append hname hstart hname he
  have hfile := fileName_start_append hname hstart hname he hdots
  obtain ⟨hstem, hext⟩ := stem_ext_start_append hname hstart hname he hdots hdot
  rw [hr]
  refine ⟨hstem, hext, dir_start_append hname hstart hname he, ?_⟩
  rw [Path.withExt_eq (by rw [hfile]; simp) (plain_nil s), hsplit, hstem, if_pos List.isEmpty_nil, List.append_nil,
    hwhole]

/-- **Appending an extension is undone by clearing it.** Let a path end with its own file name, and let an extension
have no separators and no dot but the one that it may be given with. The path with the extension appended has the file
name as its stem, what follows the dot as its extension and the same directory, and clearing the extension gives the
path back as it was. -/
theorem addExt_undone (services : Services) (world : World) (p e : Text) (hname : fileName services.style p ≠ [])
    (hend : fileName services.style p <:+ p) (hne : e ≠ []) (he : Plain services.style e) (hdot : '.' ∉ undotted e) :
    ∃ r name d, Gives services world "add_ext" [p, e] r ∧ Gives services world "with_ext" [r, []] p ∧
      Gives services world "filename" [p] name ∧ Gives services world "stem" [r] name ∧
      Gives services world "ext" [r] (undotted e) ∧
      Gives services world "dir" [p] d ∧ Gives services world "dir" [r] d := by
  have h := appended_dot hname hend (plain_undotted he) hdot
  rw [← addExt_eq hne] at h
  refine ⟨_, _, _, gives_addExt services world p e, gives_withExt h.withExt_eq, gives_filename services world p, ?_, ?_,
    gives_dir services world p, ?_⟩
  · rw [← h.stem_eq]
    exact gives_stem services world _
  · conv_rhs => rw [← h.ext_eq]
    exact gives_ext services world _
  · rw [← h.dir_eq]
    exact gives_dir services world _

/-- A name of dots only on a share, and an extension that is nothing but its dot. -/
theorem addExt_undone_dots :
    let services : Services := { platform := {}, style := .windows, clock := ({} : World).clock }
    let p := "\\\\host\\share\\x/...".toList
    fileName .windows p ≠ [] ∧ fileName .windows p <:+ p ∧ Plain .windows ['.'] ∧ '.' ∉ undotted ['.'] ∧
      ∃ r name d, Gives services {} "add_ext" [p, ['.']] r ∧ Gives services {} "with_ext" [r, []] p ∧
        Gives services {} "filename" [p] name ∧ Gives services {} "stem" [r] name ∧
        Gives services {} "ext" [r] [] ∧ Gives services {} "dir" [p] d ∧ Gives services {} "dir" [r] d := by
  intro services p
  have hname : fileName .windows p = "...".toList := by decide +kernel
  have hne : fileName .windows p ≠ [] := by rw [hname]; decide
  have hend : fileName .windows p <:+ p := by rw [hname]; decide
  have hplain : Plain .windows ['.'] := by decide
  have hdot : '.' ∉ undotted ['.'] := by decide
  exact ⟨hne, hend, hplain, hdot, addExt_undone services {} p ['.'] hne hend (by decide) hplain hdot⟩

end ScriptEval.Path
