import ScriptEval.Proofs.Path.Extension
import ScriptEval.Proofs.Path.FileName

/-!
# Changing the stem of a path

On a path with a file name, `with_stem` is `with_filename` with the extension of the path put after the stem. Where
there is no file name the two differ, as one of them joins to the directory and the other to all of the path: the empty
path apart, what `with_stem` gives for a name is shorter (`withStem_agrees_iff`).

A stem and an extension put together are read back (`stemExt_ofParts`), also after they were joined to a directory
(`stem_ext_join`). So on a path with a file name `with_stem` is the update of a field, which keeps the directory and the
extension, and it does not matter whether the stem or the extension is set first (`withStem_update`).
-/

namespace ScriptEval.Path

variable {s : Style} {p n : Text}

/-! ## Stems and file names -/

theorem withStem_eq (hn : n ≠ []) :
    Functions.withStem s [.text p, .text n] =
      .ok (.text (join s (dir s p) [if (ext s p).isEmpty then n else n ++ '.' :: ext s p])) := by
  cases n with
  | nil => exact absurd rfl hn
  | cons c n => rfl

/-- A stem is set as the file name made of it and the extension that the path has. -/
def SetsFileName (s : Style) (p n : Text) : Prop :=
  (ext s p ≠ [] → Functions.withStem s [.text p, .text n] =
    Functions.withFileName s [.text p, .text (n ++ '.' :: ext s p)]) ∧
  (ext s p = [] → Functions.withStem s [.text p, .text n] = Functions.withFileName s [.text p, .text n])

theorem setsFileName_of_base (hn : n ≠ [])
    (hbase : ∀ m, Functions.withFileName s [.text p, .text m] = .ok (.text (join s (dir s p) [m]))) :
    SetsFileName s p n := by
  constructor
  · intro hext
    rw [withStem_eq hn, hbase, if_neg (by simpa using hext)]
  · intro hext
    rw [withStem_eq hn, hbase, hext]
    rfl

/-! ## Paths without a file name -/

theorem length_gap_le (s : Style) (path : Text) : (gap s path).length ≤ 1 := by
  simp only [gap]
  split_ifs <;> simp

theorem gap_of_concat {rest : Text} {c : Char} (hrest : (s.splitDrive p).2 = rest ++ [c])
    (hc : s.isSeparator c = false) : gap s p = [s.separator] := by
  simp [gap, hrest, hc]

/-- A name joined to the directory of a path without a file name leaves out more than the separator that it adds. -/
theorem length_join_dir_lt (hname : fileName s p = []) (hne : p ≠ []) (hn : IsName s n) :
    (join s (dir s p) [n]).length < (join s p [n]).length := by
  obtain ⟨front, last, tail, h⟩ := exists_splits s p
  have hlength := congrArg List.length h.append_eq
  have hdir := length_dir_le s p
  have hgap := length_gap_le s (dir s p)
  have hpos := List.length_pos_of_ne_nil hne
  simp only [join_name hn, List.length_append] at hlength ⊢
  by_cases hlast : last = []
  · have hnil : dir s p = [] := dir_eq_nil (by rw [h.split_eq, hlast])
    have hnogap : gap s [] = [] := by cases s <;> rfl
    rw [hnil, hnogap, List.length_nil]
    omega
  · have hdots : last = ['.'] ∨ last = ['.', '.'] := by
      by_contra hno
      obtain ⟨hdot, hdots⟩ := not_or.1 hno
      exact hlast ((fileName_of_split (by rw [h.split_eq]) hdot hdots).symm.trans hname)
    rcases hdots with rfl | rfl
    · cases tail with
      | nil =>
        -- the path ends with the dot, so that a separator is added to it
        have hgap' : gap s p = [s.separator] := gap_of_concat h.rest (isSeparator_dot s)
        rw [hgap', List.length_singleton]
        rw [List.length_singleton] at hlength
        omega
      | cons c tail =>
        rw [List.length_singleton, List.length_cons] at hlength
        omega
    · rw [List.length_cons, List.length_singleton] at hlength
      omega

/-- What `with_stem` gives for a name leaves out some of a path without a file name. -/
theorem withStem_shorter (hname : fileName s p = []) (hne : p ≠ []) :
    ext s p = [] ∧ ∀ n, IsName s n → ∃ a b, Functions.withStem s [.text p, .text n] = .ok (.text a) ∧
      Functions.withFileName s [.text p, .text n] = .ok (.text b) ∧ a.length < b.length := by
  have hext : ext s p = [] := by rw [ext, hname]; rfl
  refine ⟨hext, fun n hn => ⟨_, _, ?_, withFileName_of_eq_nil hname n, length_join_dir_lt hname hne hn⟩⟩
  rw [withStem_eq hn.ne_nil, hext]
  rfl

/-- **Setting a stem and setting a file name** agree, for all stems, exactly on the paths that have a file name and on
the empty one. On other paths, which have no extension, they differ for every name: `with_stem` keeps the directory
only, `with_filename` all of the path. -/
theorem withStem_agrees_iff (s : Style) (p : Text) :
    ((∀ n, n ≠ [] → SetsFileName s p n) ↔ fileName s p ≠ [] ∨ p = []) ∧
      (fileName s p = [] → p ≠ [] → ext s p = [] ∧ ∀ n, IsName s n → ∃ a b,
        Functions.withStem s [.text p, .text n] = .ok (.text a) ∧
        Functions.withFileName s [.text p, .text n] = .ok (.text b) ∧ a.length < b.length) := by
  refine ⟨⟨fun hagree => ?_, ?_⟩, withStem_shorter⟩
  · by_contra hno
    obtain ⟨hname, hne⟩ : fileName s p = [] ∧ p ≠ [] := by simpa using hno
    obtain ⟨hext, hshorter⟩ := withStem_shorter hname hne
    have hx : IsName s ['x'] := by cases s <;> decide
    obtain ⟨a, b, ha, hb, hlt⟩ := hshorter ['x'] hx
    have hsame := (hagree ['x'] hx.ne_nil).2 hext
    rw [ha, hb] at hsame
    cases hsame
    exact Nat.lt_irrefl _ hlt
  · rintro (hname | rfl) n hn
    · exact setsFileName_of_base hn (withFileName_eq hname)
    · have hempty : fileName s [] = [] ∧ dir s [] = [] := by cases s <;> exact ⟨rfl, rfl⟩
      refine setsFileName_of_base hn fun m => ?_
      rw [withFileName_of_eq_nil hempty.1, hempty.2]

/-- At the root the two differ: one of them leaves the root. -/
theorem withStem_root_differs :
    ext .posix ['/'] = [] ∧ Functions.withStem .posix [.text ['/'], .text ['s']] = .ok (.text ['s']) ∧
      Functions.withFileName .posix [.text ['/'], .text ['s']] = .ok (.text ['/', 's']) ∧
      ¬ SetsFileName .posix ['/'] ['s'] := by
  refine ⟨rfl, rfl, rfl, fun h => ?_⟩
  cases h.2 rfl

/-! ## File names from a stem and an extension -/

/-- The file name with a stem and an extension; the empty extension has no dot. -/
def ofParts (stem extension : Text) : Text := if extension.isEmpty then stem else stem ++ '.' :: extension

theorem ofParts_of_ne_nil {e : Text} (he : e ≠ []) (n : Text) : ofParts n e = n ++ '.' :: e :=
  if_neg (by simpa using he)

theorem stemExt_of_not_mem (h : '.' ∉ n) : stemExt n = (n, []) := by
  rcases stemExt_cases n with ⟨heq, -⟩ | ⟨stem', ext', -, -, rfl, -⟩
  · exact heq
  · exact absurd (by simp) h

theorem not_mem_ext (s : Style) (p : Text) : '.' ∉ ext s p := by
  rcases stemExt_cases (fileName s p) with ⟨heq, -⟩ | ⟨stem', ext', -, hext, -, heq⟩
  · rw [ext, heq]
    exact List.not_mem_nil
  · rw [ext, heq]
    exact hext

/-- A stem and an extension that a file name can be made of: the extension has no dot, the stem has one only if an
extension follows, and no drive is made. -/
structure AreParts (s : Style) (n e : Text) : Prop where
  stem_plain : Plain s n
  stem_ne_nil : n ≠ []
  no_colon : s = .windows → ':' ∉ n
  ext_plain : Plain s e
  ext_no_dot : '.' ∉ e
  stem_no_dot : e = [] → '.' ∉ n

variable {e : Text}

/-- **The stem and the extension** of a file name made of them. -/
theorem stemExt_ofParts (h : AreParts s n e) : stemExt (ofParts n e) = (n, e) := by
  by_cases he : e = []
  · subst he
    exact stemExt_of_not_mem (h.stem_no_dot rfl)
  · rw [ofParts_of_ne_nil he]
    exact stemExt_append h.stem_ne_nil h.ext_no_dot

theorem isName_ofParts (h : AreParts s n e) : IsName s (ofParts n e) := by
  by_cases he : e = []
  · subst he
    have hdot := h.stem_no_dot rfl
    exact ⟨h.stem_plain, h.stem_ne_nil, by rintro rfl; simp at hdot, by rintro rfl; simp at hdot,
      fun hs hcolon => h.no_colon hs (List.mem_of_mem_take hcolon)⟩
  · rw [ofParts_of_ne_nil he]
    have hlength : 2 < (n ++ '.' :: e).length := by
      have := List.length_pos_of_ne_nil h.stem_ne_nil
      have := List.length_pos_of_ne_nil he
      rw [List.length_append, List.length_cons]
      omega
    refine ⟨plain_append_iff.2 ⟨h.stem_plain, plain_cons_iff.2 ⟨isSeparator_dot s, h.ext_plain⟩⟩, by simp, ?_, ?_, ?_⟩
    · intro heq
      simp [heq] at hlength
    · intro heq
      simp [heq] at hlength
    · intro hs hcolon
      -- the first two characters are of the stem, or one of it and the dot
      obtain ⟨c, n, rfl⟩ := List.exists_cons_of_ne_nil h.stem_ne_nil
      have hnot := h.no_colon hs
      cases n with
      | nil =>
        have hc : ':' = c := by simpa using hcolon
        exact hnot (List.mem_singleton.2 hc)
      | cons d n =>
        have hcd : ':' = c ∨ ':' = d := by simpa using hcolon
        rcases hcd with rfl | rfl
        · exact hnot (by simp)
        · exact hnot (by simp)

/-! ## The stem as a field -/

/-- What is joined to a directory is split off again. -/
theorem split_join (hname : fileName s p ≠ []) (hn : IsName s n) :
    split s (join s (dir s p) [n]) = (dir s p ++ gap s (dir s p), n) := by
  obtain ⟨front, tail, h⟩ := exists_splits_fileName hname
  obtain ⟨hdrive, hjoined⟩ := h.splits_join hname hn
  rw [hjoined.split_eq, hdrive, ← List.append_assoc, ← dir_eq h hname]

theorem dir_join (hname : fileName s p ≠ []) (hn : IsName s n) : dir s (join s (dir s p) [n]) = dir s p := by
  obtain ⟨front, tail, h⟩ := exists_splits_fileName hname
  obtain ⟨hdrive, hjoined⟩ := h.splits_join hname hn
  rw [dir_eq hjoined hn.ne_nil, hdrive, (isBare_gap h hname).eq, dir_eq h hname]

/-- **A file name made of parts** and joined to a directory is read back, and so are the parts. -/
theorem stem_ext_join (hname : fileName s p ≠ []) (h : AreParts s n e) :
    let r := join s (dir s p) [ofParts n e]
    fileName s r = ofParts n e ∧ stem s r = n ∧ ext s r = e := by
  intro r
  have hn := isName_ofParts h
  have hsplit : split s r = (dir s p ++ gap s (dir s p), ofParts n e) := split_join hname hn
  have hfile : fileName s r = ofParts n e := fileName_of_split (by rw [hsplit]) hn.ne_dot hn.ne_dots
  have hparts : stemExt (fileName s r) = (n, e) := by rw [hfile, stemExt_ofParts h]
  exact ⟨hfile, by rw [stem, hparts], by rw [ext, hparts]⟩

/-- After the extension was set, a stem is joined to the same directory, with the new extension. -/
theorem withStem_stem_append (hname : fileName s p ≠ []) (hn : n ≠ []) (he : e ≠ []) (heplain : Plain s e)
    (hedot : '.' ∉ e) :
    Functions.withStem s [.text ((split s p).1 ++ (stem s p ++ '.' :: e)), .text n] =
      .ok (.text (join s (dir s p) [ofParts n e])) := by
  rw [withStem_eq hn, dir_stem_append hname heplain, (stem_ext_stem_append hname he heplain hedot).2]
  rfl

/-- After a stem was set, an extension takes the place of the one that was joined with the stem. -/
theorem withExt_join {e₂ : Text} (hname : fileName s p ≠ []) (h : AreParts s n e) (he₂ : e₂ ≠ [])
    (hplain : Plain s e₂) :
    Functions.withExt s [.text (join s (dir s p) [ofParts n e]), .text e₂] =
      .ok (.text (dir s p ++ gap s (dir s p) ++ ofParts n e₂)) := by
  have hn := isName_ofParts h
  obtain ⟨hfile, hstem, -⟩ := stem_ext_join hname h
  rw [withExt_eq (by rw [hfile]; exact hn.ne_nil) hplain, hstem, split_join hname hn, if_neg (by simpa using he₂),
    ofParts_of_ne_nil he₂]

/-- **`with_stem` updates a field.** On a path with a file name, a separator-free stem is set, and the directory and the
extension are kept. The stem must not bring a colon where there are drives, nor a dot where no extension follows. It
does not matter whether the stem or an extension without dots is set first. -/
theorem withStem_update (s : Style) (p n : Text) (hname : fileName s p ≠ []) (hplain : Plain s n) (hne : n ≠ [])
    (hcolon : s = .windows → ':' ∉ n) (hdot : '.' ∈ n → ext s p ≠ []) :
    ∃ r, Functions.withStem s [.text p, .text n] = .ok (.text r) ∧
      dir s r = dir s p ∧ stem s r = n ∧ ext s r = ext s p ∧
      ∀ e, e ≠ [] → Plain s e → '.' ∉ e → ∃ q t, Functions.withExt s [.text p, .text e] = .ok (.text q) ∧
        Functions.withStem s [.text q, .text n] = .ok (.text t) ∧
        Functions.withExt s [.text r, .text e] = .ok (.text t) := by
  have hparts : AreParts s n (ext s p) :=
    ⟨hplain, hne, hcolon, plain_ext (plain_fileName hname), not_mem_ext s p, fun hext hmem => hdot hmem hext⟩
  obtain ⟨-, hstem, hext⟩ := stem_ext_join hname hparts
  have hdir := dir_join hname (isName_ofParts hparts)
  refine ⟨_, withStem_eq hne, hdir, hstem, hext, fun e he heplain hedot => ?_⟩
  have hnew : AreParts s n e := ⟨hplain, hne, hcolon, heplain, hedot, fun hnil => absurd hnil he⟩
  have hset := withExt_eq hname heplain
  rw [if_neg (by simpa using he)] at hset
  refine ⟨_, _, hset, withStem_stem_append hname hne he heplain hedot, ?_⟩
  rw [join_name (isName_ofParts hnew), ← List.append_assoc]
  exact withExt_join hname hparts he heplain

/-- A stem with dots on a share with a doubled separator and an empty end, before and after the extension is set. -/
theorem withStem_update_share :
    let p := "\\\\host\\share\\\\.a.tar\\./".toList
    let n := "..c".toList
    fileName .windows p ≠ [] ∧ Plain .windows n ∧ n ≠ [] ∧ ':' ∉ n ∧ ext .windows p ≠ [] ∧
      ∃ r, Functions.withStem .windows [.text p, .text n] = .ok (.text r) ∧
        dir .windows r = "\\\\host\\share\\".toList ∧ stem .windows r = n ∧ ext .windows r = "tar".toList ∧
        ∃ q t, Functions.withExt .windows [.text p, .text "g:z".toList] = .ok (.text q) ∧
          Functions.withStem .windows [.text q, .text n] = .ok (.text t) ∧
          Functions.withExt .windows [.text r, .text "g:z".toList] = .ok (.text t) := by
  intro p n
  have hname : fileName .windows p ≠ [] := by decide +kernel
  have hdir : dir .windows p = "\\\\host\\share\\".toList := by decide +kernel
  have hext : ext .windows p = "tar".toList := by decide +kernel
  have hne : ext .windows p ≠ [] := by rw [hext]; decide
  obtain ⟨r, hr, hkeep, hset, hkeepExt, hcomm⟩ :=
    withStem_update .windows p n hname (by decide) (by decide) (fun _ => by decide) fun _ => hne
  exact ⟨hname, by decide, by decide, by decide, hne, r, hr, hkeep.trans hdir, hset, hkeepExt.trans hext,
    hcomm _ (by decide) (by decide) (by decide)⟩

end ScriptEval.Path
