import ScriptEval.Functions.Paths
import ScriptEval.Proofs.Path.Directory

/-!
# Changing the file name of a path

Joining a name to a path puts a separator between the two where one is missing (`gap`, `join_name`). A name joined to
the directory of a path is split off again, and the directory is read back (`Splits.splits_join`). So `with_filename` is
the update of a field: it sets the file name, keeps the directory, and a later update overwrites an earlier one
(`withFileName_update`).
-/

namespace ScriptEval.Path

open Style (windows)

variable {s : Style} {p front name tail n : Text}

/-! ## Joining a name -/

/-- A name that a path can have and that makes no drive where it stands: with drives, its first two characters are no
colons. -/
structure IsName (s : Style) (n : Text) : Prop where
  plain : Plain s n
  ne_nil : n ≠ []
  ne_dot : n ≠ ['.']
  ne_dots : n ≠ ['.', '.']
  no_colon : s = windows → ':' ∉ n.take 2

instance (s : Style) (n : Text) : Decidable (IsName s n) :=
  decidable_of_iff (Plain s n ∧ n ≠ [] ∧ n ≠ ['.'] ∧ n ≠ ['.', '.'] ∧ (s = windows → ':' ∉ n.take 2))
    ⟨fun ⟨hplain, hnil, hdot, hdots, hcolon⟩ => ⟨hplain, hnil, hdot, hdots, hcolon⟩,
      fun h => ⟨h.plain, h.ne_nil, h.ne_dot, h.ne_dots, h.no_colon⟩⟩

/-- What joining a name to a path puts between the two. -/
def gap (s : Style) (path : Text) : Text :=
  let (drive, rest) := s.splitDrive path
  if rest.isEmpty then if drive.getLast?.any (· != ':') then [s.separator] else []
  else if rest.getLast?.any s.isSeparator then [] else [s.separator]

theorem isSeparator_separator (s : Style) : s.isSeparator s.separator = true := by cases s <;> rfl

theorem IsName.splitDrive (hn : IsName windows n) : windows.splitDrive n = ([], n) := by
  refine splitDrive_of_no_drive (fun h1 => ?_) fun hnet => ?_
  · exact hn.no_colon rfl (mem_take_of_getElem? h1 (by decide))
  · obtain ⟨a, b, rest, rfl, ha, -⟩ := hnet
    exact hn.plain.not_isSeparator List.mem_cons_self ha

theorem appendPosix_name (hn : IsName .posix n) (path : Text) :
    appendPosix path n = path ++ (gap .posix path ++ n) := by
  have hhead : n.head? ≠ some '/' := fun h => hn.plain.not_isSeparator (List.mem_of_head? h) rfl
  rw [appendPosix, if_neg hhead]
  cases path using List.reverseRecOn with
  | nil => rfl
  | append_singleton path c =>
    by_cases hc : c = '/' <;> simp [gap, Style.splitDrive, Style.isSeparator, Style.separator, hc]

theorem appendWindows_name (hn : IsName windows n) (drive rest : Text) :
    appendWindows (drive, rest) ([], n) =
      (drive, rest ++ ((if rest.isEmpty || rest.getLast?.any windows.isSeparator then [] else ['\\']) ++ n)) := by
  have hhead : n.head?.any windows.isSeparator = false := by
    cases hc : n.head? with
    | none => rfl
    | some c => exact hn.plain c (List.mem_of_head? hc)
  simp [appendWindows, hhead]

/-- **Joining a name** puts it after the path and what is missing between the two. -/
theorem join_name (hn : IsName s n) (path : Text) : join s path [n] = path ++ (gap s path ++ n) := by
  cases s with
  | posix => exact appendPosix_name hn path
  | windows =>
    have hdrive := windows.splitDrive_append path
    have hbefore (c : Char) (rest : Text) (hrest : (windows.splitDrive path).2 = c :: rest)
        (hc : windows.isSeparator c = false) := drive_before_name hrest hc
    rw [join, gap]
    simp only [List.foldl_cons, List.foldl_nil, hn.splitDrive]
    generalize windows.splitDrive path = parts at *
    obtain ⟨drive, rest⟩ := parts
    obtain rfl : drive ++ rest = path := hdrive
    rw [appendWindows_name hn]
    cases rest with
    | nil =>
      obtain ⟨c, name, rfl⟩ := List.exists_cons_of_ne_nil hn.ne_nil
      have hc := (plain_cons_iff.1 hn.plain).1
      by_cases hcolon : drive.getLast?.any (· != ':') = true <;> simp [fuse, hc, hcolon, Style.separator]
    | cons c rest =>
      -- a network drive is followed by a separator
      have hfuse (t : Text) : fuse drive (c :: t) = drive ++ c :: t := by
        cases hc : windows.isSeparator c with
        | true => simp [fuse, hc]
        | false => simp [fuse, hbefore c rest rfl hc]
      simp [hfuse, Style.separator]

/-- Without drives, what is joined to stands before a separator or nothing. -/
theorem closed_append_gap (path : Text) : Closed .posix (path ++ gap .posix path) := by
  cases path using List.reverseRecOn with
  | nil => nofun
  | append_singleton path c =>
    by_cases hc : c = '/' <;> simp [Closed, gap, Style.splitDrive, Style.isSeparator, Style.separator, hc]

/-! ## A name after a directory -/

/-- A separator is missing after a directory exactly if that ends with a name. -/
theorem gap_dir_cases (h : Splits s p front name tail) (hne : name ≠ []) :
    (gap s (dir s p) = [] ∧ IsBare s (bare s front) (bare s front)) ∨
      gap s (dir s p) = [s.separator] ∧ ∃ kept b, bare s front = kept ++ [b] ∧ s.isSeparator b = false := by
  have hrest := h.rest
  have hbare := isBare_bare h.closed
  rw [gap, splitDrive_dir h hne]
  generalize bare s front = bared at *
  cases hbare with
  | nothing =>
    obtain ⟨c, name, rfl⟩ := List.exists_cons_of_ne_nil hne
    have hdrive := drive_before_name hrest (plain_cons_iff.1 h.plain).1
    exact Or.inl ⟨by simp [hdrive], .nothing⟩
  | root hc hrun => exact Or.inl ⟨by simp [hc], .root hc nofun⟩
  | @stripped kept run b c hb hc hrun => exact Or.inr ⟨by simp [hb], kept, b, rfl, hb⟩

theorem isBare_gap (h : Splits s p front name tail) (hne : name ≠ []) :
    IsBare s (bare s front ++ gap s (dir s p)) (bare s front) := by
  rcases gap_dir_cases h hne with ⟨hgap, hbare⟩ | ⟨hgap, kept, b, hbare, hb⟩
  · rwa [hgap, List.append_nil]
  · rw [hgap, hbare]
    exact .stripped hb (isSeparator_separator s) nofun

/-- **A name joined to a directory** is split off again. -/
theorem Splits.splits_join (h : Splits s p front name tail) (hne : name ≠ []) (hn : IsName s n) :
    (s.splitDrive (join s (dir s p) [n])).1 = (s.splitDrive p).1 ∧
      Splits s (join s (dir s p) [n]) (bare s front ++ gap s (dir s p)) n [] := by
  have hjoin : join s (dir s p) [n] = (s.splitDrive p).1 ++ (bare s front ++ gap s (dir s p) ++ n) := by
    rw [join_name hn]
    generalize gap s (dir s p) = between
    rw [dir_eq h hne, List.append_assoc, List.append_assoc]
  have hdrive : s.splitDrive (join s (dir s p) [n]) = ((s.splitDrive p).1, bare s front ++ gap s (dir s p) ++ n) := by
    rw [hjoin]
    cases s with
    | posix => rfl
    | windows =>
      rw [List.append_assoc]
      refine (h.fits_bare hne ?_ ?_).splitDrive_eq
      · rcases gap_dir_cases h hne with ⟨hgap, -⟩ | ⟨hgap, -⟩
        · rw [hgap]
          exact hn.no_colon rfl
        · have htake : n.take 1 = (n.take 2).take 1 := by rw [List.take_take]; rfl
          rw [hgap]
          simp only [List.singleton_append, List.take_succ_cons, List.mem_cons, not_or]
          exact ⟨by decide, fun hcolon => hn.no_colon rfl (List.mem_of_mem_take (htake ▸ hcolon))⟩
      · intro c hc hsep
        rcases gap_dir_cases h hne with ⟨hgap, -⟩ | ⟨-, kept, b, hbare, hb⟩
        · rw [hgap] at hc
          exact absurd hsep (hn.plain.not_isSeparator (List.mem_of_head? hc))
        · exact ⟨b, by simp [hbare], hb⟩
  have hclosed := (isBare_gap h hne).closed
  have hbody := body_append_plain hn.plain hn.ne_nil hn.ne_dot (bare s front ++ gap s (dir s p))
  refine ⟨by rw [hdrive], ?_, hclosed, hn.plain, .nil, ?_⟩
  · rw [hdrive, List.append_nil]
  · rw [hdrive]
    exact split_of_body hdrive hbody hclosed hn.plain

/-! ## The update -/

theorem withFileName_eq (hname : fileName s p ≠ []) (m : Text) :
    Functions.withFileName s [.text p, .text m] = .ok (.text (join s (dir s p) [m])) := by
  have hempty : (fileName s p).isEmpty = false := by simpa using hname
  show Except.ok (Value.text (join s (if (fileName s p).isEmpty then p else dir s p) [m])) = _
  rw [hempty]
  rfl

theorem withFileName_of_eq_nil (hname : fileName s p = []) (m : Text) :
    Functions.withFileName s [.text p, .text m] = .ok (.text (join s p [m])) := by
  show Except.ok (Value.text (join s (if (fileName s p).isEmpty then p else dir s p) [m])) = _
  rw [hname]
  rfl

/-- **`with_filename` updates a field.** On a path with a file name, a name is set and the directory is kept, and a
later update, with any text, overwrites an earlier one. To a path without a file name, if there are no drives, a name is
joined as the file name. -/
theorem withFileName_update (s : Style) (p n : Text) (hn : IsName s n) :
    (fileName s p ≠ [] → ∃ r, Functions.withFileName s [.text p, .text n] = .ok (.text r) ∧
      fileName s r = n ∧ dir s r = dir s p ∧
      ∀ m, ∃ q, Functions.withFileName s [.text r, .text m] = .ok (.text q) ∧
        Functions.withFileName s [.text p, .text m] = .ok (.text q)) ∧
    (fileName s p = [] → s = .posix → ∃ r, Functions.withFileName s [.text p, .text n] = .ok (.text r) ∧
      fileName s r = n) := by
  constructor
  · intro hname
    obtain ⟨front, tail, h⟩ := exists_splits_fileName hname
    obtain ⟨hdrive, hjoined⟩ := h.splits_join hname hn
    have hset : fileName s (join s (dir s p) [n]) = n :=
      fileName_of_split (by rw [hjoined.split_eq]) hn.ne_dot hn.ne_dots
    have hkeep : dir s (join s (dir s p) [n]) = dir s p := by
      rw [dir_eq hjoined hn.ne_nil, hdrive, (isBare_gap h hname).eq, dir_eq h hname]
    refine ⟨_, withFileName_eq hname n, hset, hkeep, fun m => ⟨_, ?_, withFileName_eq hname m⟩⟩
    rw [withFileName_eq (by rw [hset]; exact hn.ne_nil), hkeep]
  · rintro hname rfl
    have hjoin : join .posix p [n] = p ++ gap .posix p ++ n := by rw [join_name hn, List.append_assoc]
    have hsplit : split .posix (join .posix p [n]) = (p ++ gap .posix p, n) := by
      rw [hjoin]
      have hbody := body_append_plain hn.plain hn.ne_nil hn.ne_dot (p ++ gap .posix p)
      exact split_of_body (d := []) rfl hbody (closed_append_gap p) hn.plain
    exact ⟨_, withFileName_of_eq_nil hname n, fileName_of_split (by rw [hsplit]) hn.ne_dot hn.ne_dots⟩

/-- A share with a doubled separator and an empty end, and a path that ends with `..`. -/
theorem withFileName_update_share :
    let p := "\\\\host\\share\\\\a.b\\./".toList
    let n := "..c:d".toList
    let q := "x/..".toList
    IsName windows n ∧ IsName .posix n ∧ fileName windows p ≠ [] ∧ fileName .posix q = [] ∧
      (∃ r, Functions.withFileName windows [.text p, .text n] = .ok (.text r) ∧ fileName windows r = n ∧
        dir windows r = "\\\\host\\share\\".toList ∧
        ∃ t, Functions.withFileName windows [.text r, .text "C:m".toList] = .ok (.text t) ∧
          Functions.withFileName windows [.text p, .text "C:m".toList] = .ok (.text t)) ∧
      ∃ r, Functions.withFileName .posix [.text q, .text n] = .ok (.text r) ∧ fileName .posix r = n := by
  intro p n q
  have hn : IsName windows n := by decide
  have hn' : IsName .posix n := by decide
  have hname : fileName windows p ≠ [] := by decide +kernel
  have hname' : fileName .posix q = [] := by decide +kernel
  have hdir : dir windows p = "\\\\host\\share\\".toList := by decide +kernel
  obtain ⟨r, hr, hset, hkeep, hover⟩ := (withFileName_update windows p n hn).1 hname
  exact ⟨hn, hn', hname, hname', ⟨r, hr, hset, hkeep.trans hdir, hover _⟩,
    (withFileName_update .posix q n hn').2 hname' rfl⟩

end ScriptEval.Path
