import ScriptEval.Proofs.Text.Ends
import ScriptEval.Proofs.Path.Split

/-!
# The directory of a path

The directory of a path is its drive and what stands before its last component, bare of the separators at the end
(`dir_eq`): if there is nothing but separators the first of them stays, as the root (`IsBare`). The directory has the
drive of the path (`splitDrive_dir`) and is no longer than the text before the last component (`length_dir_le`).
-/

namespace ScriptEval.Path

open Style (windows)

variable {s : Style} {p front name tail bared : Text}

/-! ## Bare of separators -/

/-- What stands before a last component, without the separators at the end unless they are all of it. -/
def bare (s : Style) (front : Text) : Text :=
  let stripped := Text.trimRight s.isSeparator front
  if stripped.isEmpty then front.take 1 else stripped

/-- A text that is empty or ends with separators, and what is left of it without them. -/
inductive IsBare (s : Style) : Text → Text → Prop
  | nothing : IsBare s [] []
  | root {c : Char} {run : Text} : s.isSeparator c = true → (∀ d ∈ run, s.isSeparator d = true) →
      IsBare s (c :: run) [c]
  | stripped {kept run : Text} {b c : Char} : s.isSeparator b = false → s.isSeparator c = true →
      (∀ d ∈ run, s.isSeparator d = true) → IsBare s (kept ++ [b] ++ c :: run) (kept ++ [b])

theorem exists_isBare (hfront : Closed s front) : ∃ bared, IsBare s front bared := by
  have happend := List.rdropWhile_append_rtakeWhile (p := s.isSeparator) (l := front)
  have hrun : ∀ d ∈ front.rtakeWhile s.isSeparator, s.isSeparator d = true := fun d hd =>
    List.mem_takeWhile_imp (List.mem_reverse.1 hd)
  have hlast := List.rdropWhile_last_not s.isSeparator front
  generalize front.rtakeWhile s.isSeparator = run at *
  generalize front.rdropWhile s.isSeparator = kept at *
  subst happend
  cases kept using List.reverseRecOn with
  | nil =>
    cases run with
    | nil => exact ⟨[], .nothing⟩
    | cons c run => exact ⟨[c], .root (hrun c (by simp)) fun d hd => hrun d (by simp [hd])⟩
  | append_singleton kept b =>
    have hb : s.isSeparator b = false := by simpa using hlast (by simp)
    cases run with
    | nil =>
      have hsep : s.isSeparator b = true := hfront b (by simp)
      rw [hb] at hsep
      cases hsep
    | cons c run => exact ⟨kept ++ [b], .stripped hb (hrun c (by simp)) fun d hd => hrun d (by simp [hd])⟩

theorem IsBare.eq (h : IsBare s front bared) : bare s front = bared := by
  cases h with
  | nothing => rfl
  | @root c run hc hrun =>
    have hall : ∀ d ∈ c :: run, s.isSeparator d = true := List.forall_mem_cons.2 ⟨hc, hrun⟩
    have htrim := Text.trimRight_append hall []
    rw [List.nil_append] at htrim
    rw [bare, htrim]
    rfl
  | @stripped kept run b c hb hc hrun =>
    have hall : ∀ d ∈ c :: run, s.isSeparator d = true := List.forall_mem_cons.2 ⟨hc, hrun⟩
    have htrim := Text.trimRight_append hall (kept ++ [b])
    have hkept : Text.trimRight s.isSeparator (kept ++ [b]) = kept ++ [b] := by simp [Text.trimRight, hb]
    rw [bare, htrim, hkept]
    simp

theorem isBare_bare (hfront : Closed s front) : IsBare s front (bare s front) := by
  obtain ⟨bared, h⟩ := exists_isBare hfront
  rwa [h.eq]

theorem IsBare.closed (h : IsBare s front bared) : Closed s front := by
  intro d hd
  cases h with
  | nothing => cases hd
  | @root c run hc hrun =>
    have hall : ∀ d ∈ c :: run, s.isSeparator d = true := List.forall_mem_cons.2 ⟨hc, hrun⟩
    exact hall d (List.mem_of_getLast? hd)
  | @stripped kept run b c hb hc hrun =>
    have hall : ∀ d ∈ c :: run, s.isSeparator d = true := List.forall_mem_cons.2 ⟨hc, hrun⟩
    rw [List.getLast?_append_of_ne_nil _ (by simp)] at hd
    exact hall d (List.mem_of_getLast? hd)

theorem IsBare.ne_nil (h : IsBare s front bared) (hfront : front ≠ []) : bared ≠ [] := by
  cases h with
  | nothing => exact absurd rfl hfront
  | root _ _ => simp
  | stripped _ _ _ => simp

/-- Only separators are taken off. -/
theorem IsBare.exists_append (h : IsBare s front bared) :
    ∃ run, front = bared ++ run ∧ ∀ d ∈ run, s.isSeparator d = true := by
  cases h with
  | nothing => exact ⟨[], rfl, nofun⟩
  | @root c run hc hrun => exact ⟨run, rfl, hrun⟩
  | @stripped kept run b c hb hc hrun => exact ⟨c :: run, rfl, List.forall_mem_cons.2 ⟨hc, hrun⟩⟩

/-! ## The directory -/

/-- A path with a last component is split at its drive as its directory is. -/
theorem Splits.splitDrive_front (h : Splits s p front name tail) (hne : name ≠ []) :
    s.splitDrive ((s.splitDrive p).1 ++ front) = ((s.splitDrive p).1, front) := by
  have hdrive := h.splitDrive_prefix hne List.nil_prefix
  rwa [List.append_nil] at hdrive

/-- **The directory** of a path with a last component. -/
theorem dir_eq (h : Splits s p front name tail) (hne : name ≠ []) : dir s p = (s.splitDrive p).1 ++ bare s front := by
  simp only [dir, bare, h.split_eq, List.isEmpty_iff, if_neg hne, h.splitDrive_front hne]

/-- After a directory any text fits that brings no colon to a place where it would make a drive, and that starts with a
separator only where none stands before it. -/
theorem Splits.fits_bare (h : Splits windows p front name tail) (hne : name ≠ []) {w : Text} (hcolon : ':' ∉ w.take 2)
    (hjoint : ∀ c ∈ w.head?, windows.isSeparator c = true →
      ∃ b ∈ (bare windows front).getLast?, windows.isSeparator b = false) : Fits p (bare windows front ++ w) := by
  have hrest := h.rest
  have hbare := isBare_bare h.closed
  generalize bare windows front = bared at *
  cases hbare with
  | nothing =>
    obtain ⟨c, name, rfl⟩ := List.exists_cons_of_ne_nil hne
    refine Fits.of_name hrest (plain_cons_iff.1 h.plain).1 (fun h1 => ?_) fun hnet => ?_
    · exact hcolon (mem_take_of_getElem? h1 (by decide))
    · obtain ⟨a, b, rest, rfl, ha, -⟩ : IsNetwork w := hnet
      obtain ⟨d, hd, -⟩ := hjoint a rfl ha
      cases hd
  | @root c run hc hrun =>
    refine Fits.of_append (u := [c]) hrest (by simp) (fun h1 => ?_) fun hnet => ?_
    · exact absurd (mem_take_of_getElem? (i := 0) h1 (by decide)) hcolon
    · obtain ⟨a, b, rest, heq, ha, hb⟩ := hnet
      obtain ⟨rfl, rfl⟩ := List.cons.inj heq
      obtain ⟨d, hd, hdsep⟩ := hjoint b rfl hb
      obtain rfl : c = d := by simpa using hd
      rw [hc] at hdsep
      cases hdsep
  | @stripped kept run b c hb hc hrun =>
    refine Fits.of_append (v := c :: run ++ (name ++ tail)) (by rw [hrest, List.append_assoc]) (by simp) (fun h1 => ?_)
      fun hnet => ?_
    · rcases kept with _ | ⟨d, kept⟩
      · exact absurd (mem_take_of_getElem? (i := 0) h1 (by decide)) hcolon
      · simp
    · rcases kept with _ | ⟨d, kept⟩
      · obtain ⟨a, b', rest, heq, ha, -⟩ := hnet
        obtain ⟨rfl, -⟩ := List.cons.inj heq
        rw [hb] at ha
        cases ha
      · simp

/-- The directory has the drive of the path. -/
theorem splitDrive_dir (h : Splits s p front name tail) (hne : name ≠ []) :
    s.splitDrive (dir s p) = ((s.splitDrive p).1, bare s front) := by
  rw [dir_eq h hne]
  cases s with
  | posix => rfl
  | windows =>
    have hfits := h.fits_bare hne (w := []) (by simp) nofun
    rw [List.append_nil] at hfits
    exact hfits.splitDrive_eq

theorem dir_eq_nil (h : (split s p).2 = []) : dir s p = [] := by simp [dir, h]

theorem length_dir_le (s : Style) (p : Text) : (dir s p).length ≤ (split s p).1.length := by
  obtain ⟨front, name, tail, h⟩ := exists_splits s p
  by_cases hne : name = []
  · rw [dir_eq_nil (by rw [h.split_eq, hne])]
    exact Nat.zero_le _
  · obtain ⟨run, hrun, -⟩ := (isBare_bare h.closed).exists_append
    have hlength := congrArg List.length hrun
    rw [dir_eq h hne, h.split_eq, List.length_append, List.length_append]
    rw [List.length_append] at hlength
    omega

/-- The directory that a path lies in lies in a shorter one. -/
theorem length_dir_front_lt (h : Splits s p front name tail) (hne : name ≠ []) (hfront : front ≠ []) :
    (dir s ((s.splitDrive p).1 ++ front)).length < (dir s p).length := by
  have hbare := isBare_bare h.closed
  have hbody : (body s front).length ≤ (bare s front).length := by
    obtain ⟨run, hrun, hsep⟩ := hbare.exists_append
    generalize bare s front = bared at hrun ⊢
    rw [hrun, body_append_emptyEnd (emptyEnd_of_separators hsep)]
    exact length_body_le s bared
  have hdrive := h.splitDrive_front hne
  obtain ⟨front', name', tail', h'⟩ := exists_splits s ((s.splitDrive p).1 ++ front)
  have hsplit : split s ((s.splitDrive p).1 ++ front) = ((s.splitDrive p).1 ++ front', name') := by
    have hsplit := h'.split_eq
    rwa [hdrive] at hsplit
  have hbody' : body s front = front' ++ name' := by
    have hbody' := h'.body_eq
    rwa [hdrive] at hbody'
  rw [dir_eq h hne, List.length_append]
  by_cases hne' : name' = []
  · have hpos := List.length_pos_of_ne_nil (hbare.ne_nil hfront)
    rw [dir_eq_nil (by rw [hsplit, hne']), List.length_nil]
    omega
  · have hpos := List.length_pos_of_ne_nil hne'
    have hdir := length_dir_le s ((s.splitDrive p).1 ++ front)
    have hlength := congrArg List.length hbody'
    rw [hsplit, List.length_append] at hdir
    rw [List.length_append] at hlength
    omega

end ScriptEval.Path
