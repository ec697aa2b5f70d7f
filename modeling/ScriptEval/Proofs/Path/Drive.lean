import ScriptEval.Proofs.Path.Ending
import ScriptEval.Proofs.Unicode.Case

/-!
# Drives

A path that starts with two separators is a network path. With drives, the drive of a path is one of these
(`drive_cases`): nothing, a letter with a colon, the host and share of a network path, or all of a network path without
a share that is followed by something. What stands after a drive can be exchanged for any text that does not start as a
drive itself and starts with a separator where the old one did: the drive stays the same (`Fits.splitDrive_eq`). So a
drive does not depend on the names that stand after it (`splitDrive_change`).
-/

namespace ScriptEval.Path

open Style (windows afterShare? isLongShare longShareStart)

theorem isSeparator_colon (s : Style) : s.isSeparator ':' = false := by cases s <;> rfl

/-- The text before the first separator has none. -/
theorem exists_plain_of_dropWhile {s : Style} {c : Char} {t rest : Text}
    (h : t.dropWhile (!s.isSeparator ·) = c :: rest) :
    ∃ name, Plain s name ∧ s.isSeparator c = true ∧ t = name ++ c :: rest := by
  refine ⟨t.takeWhile (!s.isSeparator ·), plain_takeWhile s t, isSeparator_of_head?_dropWhile (by rw [h]; rfl), ?_⟩
  rw [← h, List.takeWhile_append_dropWhile]

theorem dropWhile_plain_append {s : Style} {c : Char} {name : Text} (hname : Plain s name)
    (hc : s.isSeparator c = true) (rest : Text) :
    (name ++ c :: rest).dropWhile (!s.isSeparator ·) = c :: rest := by
  rw [List.dropWhile_append_of_pos fun d hd => by simp [hname d hd], List.dropWhile_cons_of_neg (by simp [hc])]

/-! ## Network paths -/

/-- A network path: one with two separators at its start. -/
def IsNetwork (t : Text) : Prop :=
  ∃ a b rest, t = a :: b :: rest ∧ windows.isSeparator a = true ∧ windows.isSeparator b = true

/-- What follows the leading part of a network path: a host, a share, and `rest` after it, which starts with a
separator. -/
structure HasShare (t host : Text) (a : Char) (share rest : Text) : Prop where
  eq : t = host ++ a :: (share ++ rest)
  host_plain : Plain windows host
  separator : windows.isSeparator a = true
  share_plain : Plain windows share
  rest_starts : ∃ b path, rest = b :: path ∧ windows.isSeparator b = true

theorem HasShare.afterShare? {t host share rest : Text} {a : Char} (h : HasShare t host a share rest) :
    afterShare? t = some rest := by
  obtain ⟨rfl, hhost, ha, hshare, b, path, rfl, hb⟩ := h
  rw [Style.afterShare?, dropWhile_plain_append hhost ha]
  simp only [dropWhile_plain_append hshare hb]

theorem exists_hasShare {t rest : Text} (h : afterShare? t = some rest) :
    ∃ host a share, HasShare t host a share rest := by
  unfold Style.afterShare? at h
  split at h
  · cases h
  next a after ha =>
    split at h
    · cases h
    next hne =>
      cases h
      obtain ⟨host, hhost, hsep, rfl⟩ := exists_plain_of_dropWhile ha
      cases hb : after.dropWhile (!windows.isSeparator ·) with
      | nil => exact absurd hb hne
      | cons b path =>
        obtain ⟨share, hshare, hsepb, rfl⟩ := exists_plain_of_dropWhile hb
        exact ⟨host, a, share, ⟨rfl, hhost, hsep, hshare, b, path, rfl, hsepb⟩⟩

/-! ## The long form -/

theorem Plain.map_isSeparator {s : Style} {t : Text} (h : Plain s t) :
    t.map s.isSeparator = List.replicate t.length false :=
  List.map_eq_replicate_iff.2 h

/-- A path in the long form has its separators where the start of the form does. -/
theorem map_isSeparator_of_isLongShare {t : Text} (h : isLongShare t = true) :
    (t.take 8).map windows.isSeparator = [true, true, false, true, false, false, false, true] := by
  have hupper := eq_of_beq h
  have hall := Unicode.forall₂_upper longShareStart (by decide +kernel)
    (fun d hd => by rwa [hupper] at hd)
  rw [hupper, List.forall₂_map_left_iff] at hall
  have hpattern : longShareStart.map (· == '\\') = [true, true, false, true, false, false, false, true] := by decide
  rw [← hpattern, ← List.forall₂_eq_eq_eq, List.forall₂_map_left_iff, List.forall₂_map_right_iff]
  refine hall.imp fun c d hd => ?_
  have hback : (if c = '/' then '\\' else c) = '\\' ↔ d = '\\' := by
    constructor
    · intro hc
      rw [hc] at hd
      exact (List.singleton_inj.1 hd).symm
    · rintro rfl
      exact Unicode.eq_backslash_of_upperChar (by rw [hd]; rfl)
  rw [Bool.eq_iff_iff, beq_iff_eq, ← hback]
  by_cases hc : c = '/' <;> simp [hc, Style.isSeparator]

/-- A path in the long form, read as a network path, has a host of one character and a share of three. -/
theorem length_drive_of_isLongShare {x y a b : Char} {host share rest : Text} (hhost : Plain windows host)
    (ha : windows.isSeparator a = true) (hshare : Plain windows share) (hb : windows.isSeparator b = true)
    (h : isLongShare ([x, y] ++ (host ++ a :: (share ++ b :: rest))) = true) :
    host.length = 1 ∧ share.length = 3 := by
  have hpattern := map_isSeparator_of_isLongShare h
  simp only [List.map_take, List.map_append, List.map_cons, hhost.map_isSeparator, hshare.map_isSeparator, ha, hb]
    at hpattern
  generalize host.length = m at *
  generalize share.length = n at *
  -- a separator stands at the fourth place and the next one at the eighth
  rcases m with _ | _ | m
  · simp at hpattern
  · rcases n with _ | _ | _ | _ | n <;> simp [List.replicate_succ] at hpattern ⊢
  · simp [List.replicate_succ] at hpattern

/-- After seven characters any separator makes the long form, if one does. -/
theorem isLongShare_separator {d : Text} {b b' : Char} (hd : 7 ≤ d.length) (hb : windows.isSeparator b = true)
    (hb' : windows.isSeparator b' = true) (path path' : Text) :
    isLongShare (d ++ b :: path) = isLongShare (d ++ b' :: path') := by
  have hslash {c : Char} (hc : windows.isSeparator c = true) : (if c = '/' then '\\' else c) = '\\' := by
    by_cases h : c = '/'
    · rw [if_pos h]
    · rw [if_neg h]
      simpa [Style.isSeparator, h] using hc
  rw [isLongShare, isLongShare, List.take_append, List.take_append, List.map_append, List.map_append]
  rcases Nat.lt_or_ge 7 d.length with h8 | h7
  · rw [Nat.sub_eq_zero_of_le h8, List.take_zero, List.take_zero]
  · have hlength : 8 - d.length = 1 := by omega
    simp only [hlength, List.take_succ_cons, List.take_zero, List.map_cons, hslash hb, hslash hb']

/-! ## Drives -/

theorem splitDrive_of_no_drive {t : Text} (hcolon : t[1]? ≠ some ':') (hnet : ¬IsNetwork t) :
    windows.splitDrive t = ([], t) := by
  match t with
  | [] => rfl
  | [_] => rfl
  | a :: b :: rest =>
    have hsep : ¬(windows.isSeparator a && windows.isSeparator b) = true := fun h =>
      hnet ⟨a, b, rest, rfl, by simpa using h⟩
    rw [Style.splitDrive, if_neg hsep, if_neg fun h => hcolon (by rw [h]; rfl)]

theorem splitDrive_colon (a : Char) (rest : Text) : windows.splitDrive (a :: ':' :: rest) = ([a, ':'], rest) := by
  rw [Style.splitDrive, if_neg (by simp [isSeparator_colon]), if_pos rfl]

/-- How many characters of a network path stand before its host. -/
def leadLength (t : Text) : Nat := if isLongShare t then 8 else 2

theorem splitDrive_network {t : Text} (h : IsNetwork t) :
    windows.splitDrive t =
      match afterShare? (t.drop (leadLength t)) with
      | none => (t, [])
      | some path => (t.take (t.length - path.length), t.drop (t.length - path.length)) := by
  obtain ⟨a, b, rest, rfl, ha, hb⟩ := h
  rw [Style.splitDrive, if_pos (by simp [ha, hb]), leadLength]
  cases isLongShare (a :: b :: rest) <;> rfl

theorem splitDrive_share {lead u host share rest : Text} {a : Char} (hnet : IsNetwork (lead ++ u))
    (hlead : lead.length = leadLength (lead ++ u)) (hu : HasShare u host a share rest) :
    windows.splitDrive (lead ++ u) = (lead ++ (host ++ a :: share), rest) := by
  have hsplit : lead ++ u = (lead ++ (host ++ a :: share)) ++ rest := by rw [hu.eq]; simp
  have hlen : (lead ++ u).length - rest.length = (lead ++ (host ++ a :: share)).length := by
    rw [hsplit, List.length_append]; omega
  rw [splitDrive_network hnet, ← hlead, List.drop_left, hu.afterShare?]
  simp only [hlen]
  rw [hsplit, List.take_left, List.drop_left]

/-- **The drives there are.** -/
theorem drive_cases (t : Text) :
    (t[1]? ≠ some ':' ∧ ¬IsNetwork t) ∨ (∃ a rest, t = a :: ':' :: rest) ∨
      (IsNetwork t ∧ windows.splitDrive t = (t, [])) ∨
      ∃ lead u host a share rest, t = lead ++ u ∧ IsNetwork t ∧ lead.length = leadLength t ∧
        HasShare u host a share rest := by
  by_cases hnet : IsNetwork t
  · right; right
    cases hshare : afterShare? (t.drop (leadLength t)) with
    | none => exact Or.inl ⟨hnet, by rw [splitDrive_network hnet, hshare]⟩
    | some rest =>
      obtain ⟨host, a, share, hu⟩ := exists_hasShare hshare
      have hlen : leadLength t ≤ t.length := by
        have := congrArg List.length hu.eq
        simp only [List.length_drop, List.length_append, List.length_cons] at this
        omega
      exact Or.inr ⟨t.take (leadLength t), t.drop (leadLength t), host, a, share, rest,
        (List.take_append_drop _ _).symm, hnet, List.length_take_of_le hlen, hu⟩
  · by_cases hcolon : t[1]? = some ':'
    · match t, hcolon with
      | a :: b :: rest, hcolon =>
        obtain rfl : b = ':' := by simpa using hcolon
        exact Or.inr (Or.inl ⟨a, rest, rfl⟩)
    · exact Or.inl ⟨hcolon, hnet⟩

/-! ## After a drive -/

theorem two_le_leadLength (t : Text) : 2 ≤ leadLength t := by
  unfold leadLength
  split <;> decide

theorem IsNetwork.of_append {lead u : Text} (h : IsNetwork (lead ++ u)) (hlead : 2 ≤ lead.length) (rest : Text) :
    IsNetwork (lead ++ rest) := by
  obtain ⟨a, b, tail, heq, ha, hb⟩ := h
  match lead, hlead with
  | x :: y :: lead, _ =>
    simp only [List.cons_append, List.cons.injEq] at heq
    exact ⟨x, y, lead ++ rest, rfl, heq.1 ▸ ha, heq.2.1 ▸ hb⟩

/-- The two separators of a network path do not stand in a name. -/
theorem IsNetwork.of_append_plain {front name : Text} (h : IsNetwork (front ++ name)) (hname : Plain windows name)
    (rest : Text) : IsNetwork (front ++ rest) := by
  rcases front with _ | ⟨x, _ | ⟨y, front⟩⟩
  · obtain ⟨a, b, tail, rfl, ha, -⟩ : IsNetwork name := h
    exact absurd ha (hname.not_isSeparator List.mem_cons_self)
  · obtain ⟨a, b, tail, heq, -, hb⟩ := h
    obtain rfl : name = b :: tail := (List.cons.inj heq).2
    exact absurd hb (hname.not_isSeparator List.mem_cons_self)
  · exact h.of_append (by simp) rest

/-- What follows the share of a network path does not decide on its form. -/
theorem leadLength_share {lead u host share rest : Text} {a b : Char} (hlead : lead.length = leadLength (lead ++ u))
    (hu : HasShare u host a share rest) (hb : windows.isSeparator b = true) (path : Text) :
    leadLength (lead ++ (host ++ a :: (share ++ b :: path))) = lead.length := by
  obtain ⟨b₀, path₀, hrest, hb₀⟩ := hu.rest_starts
  have hsplit (r : Text) : lead ++ (host ++ a :: (share ++ r)) = (lead ++ (host ++ a :: share)) ++ r := by simp
  have hsame (h7 : 7 ≤ (lead ++ (host ++ a :: share)).length) :
      isLongShare (lead ++ (host ++ a :: (share ++ b :: path))) = isLongShare (lead ++ u) := by
    rw [hu.eq, hrest, hsplit, hsplit]
    exact isLongShare_separator h7 hb hb₀ path path₀
  unfold leadLength at hlead ⊢
  cases hlong : isLongShare (lead ++ u) with
  | true =>
    rw [hlong, if_pos rfl] at hlead
    rw [hsame (by rw [List.length_append]; omega), hlong, if_pos rfl, hlead]
  | false =>
    rw [hlong] at hlead
    cases hnew : isLongShare (lead ++ (host ++ a :: (share ++ b :: path))) with
    | false => exact hlead.symm
    | true =>
      -- then the drive has seven characters, and the old path is in the long form too
      match lead, hlead with
      | [x, y], _ =>
        obtain ⟨hhost, hshare⟩ := length_drive_of_isLongShare hu.host_plain hu.separator hu.share_plain hb hnew
        rw [hsame (by simp [hhost, hshare]), hlong] at hnew
        cases hnew

/-- A text that can stand after the drive of a path: it does not start as a drive if there is none, it starts with a
separator if the old rest did, and it is empty if the old rest was. -/
structure Fits (p u : Text) : Prop where
  no_colon : (windows.splitDrive p).1 = [] → u[1]? ≠ some ':'
  no_network : (windows.splitDrive p).1 = [] → ¬IsNetwork u
  starts : (∃ b path, (windows.splitDrive p).2 = b :: path ∧ windows.isSeparator b = true) →
    ∃ b path, u = b :: path ∧ windows.isSeparator b = true
  eq_nil : (windows.splitDrive p).2 = [] → u = []

/-- **A drive does not depend on what stands after it.** -/
theorem Fits.splitDrive_eq {p u : Text} (h : Fits p u) :
    windows.splitDrive ((windows.splitDrive p).1 ++ u) = ((windows.splitDrive p).1, u) := by
  rcases drive_cases p with ⟨hcolon, hnet⟩ | ⟨a, rest, rfl⟩ | ⟨hnet, hnone⟩ |
    ⟨lead, v, host, a, share, rest, rfl, hnet, hlead, hv⟩
  · have hdrive := splitDrive_of_no_drive hcolon hnet
    rw [hdrive]
    exact splitDrive_of_no_drive (h.no_colon (by rw [hdrive])) (h.no_network (by rw [hdrive]))
  · rw [splitDrive_colon]
    exact splitDrive_colon a u
  -- all of the path is the drive, and nothing stands after it
  · obtain rfl : u = [] := h.eq_nil (by rw [hnone])
    rw [hnone, List.append_nil, hnone]
  · have hdrive := splitDrive_share hnet hlead hv
    obtain ⟨b, path, rfl, hb⟩ := h.starts (by rw [hdrive]; exact hv.rest_starts)
    have hsplit : (lead ++ (host ++ a :: share)) ++ b :: path = lead ++ (host ++ a :: (share ++ b :: path)) := by simp
    rw [hdrive, hsplit]
    exact splitDrive_share (hnet.of_append (hlead ▸ two_le_leadLength _) _) (leadLength_share hlead hv hb path).symm
      ⟨rfl, hv.host_plain, hv.separator, hv.share_plain, b, path, rfl, hb⟩

theorem mem_take_of_getElem? {t : Text} {c : Char} {i n : Nat} (h : t[i]? = some c) (hi : i < n) : c ∈ t.take n :=
  List.mem_of_getElem? ((List.getElem?_take_of_lt hi).trans h)

theorem no_drive_of_eq_nil {p : Text} (h : (windows.splitDrive p).1 = []) :
    p[1]? ≠ some ':' ∧ ¬IsNetwork p ∧ (windows.splitDrive p).2 = p := by
  rcases drive_cases p with ⟨hcolon, hnet⟩ | ⟨a, rest, rfl⟩ | ⟨hnet, hnone⟩ |
    ⟨lead, v, host, a, share, rest, rfl, hnet, hlead, hv⟩
  · exact ⟨hcolon, hnet, by rw [splitDrive_of_no_drive hcolon hnet]⟩
  · rw [splitDrive_colon] at h
    cases h
  · obtain ⟨a, b, rest, rfl, -⟩ := hnet
    rw [hnone] at h
    cases h
  · rw [splitDrive_share hnet hlead hv] at h
    simp at h

/-- What starts as the rest of the path does fits, unless it is only what follows that makes it start as a drive. -/
theorem Fits.of_append {p u v w : Text} (hrest : (windows.splitDrive p).2 = u ++ v) (hu : u ≠ [])
    (hcolon : (u ++ w)[1]? = some ':' → 2 ≤ u.length) (hnet : IsNetwork (u ++ w) → 2 ≤ u.length) :
    Fits p (u ++ w) := by
  refine ⟨fun hd h => ?_, fun hd h => ?_, fun hstarts => ?_, fun hnil => ?_⟩
  · obtain ⟨hno, -, hp⟩ := no_drive_of_eq_nil hd
    have hlt : 1 < u.length := hcolon h
    rw [← hp, hrest, List.getElem?_append_left hlt] at hno
    rw [List.getElem?_append_left hlt] at h
    exact hno h
  · obtain ⟨-, hno, hp⟩ := no_drive_of_eq_nil hd
    rw [← hp, hrest] at hno
    exact hno (h.of_append (hnet h) v)
  · obtain ⟨b, path, heq, hb⟩ := hstarts
    obtain ⟨c, u, rfl⟩ := List.exists_cons_of_ne_nil hu
    obtain ⟨rfl, -⟩ := List.cons.inj (hrest.symm.trans heq)
    exact ⟨c, u ++ w, rfl, hb⟩
  · exact absurd (hrest.symm.trans hnil) (by simp [hu])

/-- Before a name there is a letter with a colon or no drive at all, so what does not start as a drive fits. -/
theorem Fits.of_name {p u rest : Text} {c : Char} (hrest : (windows.splitDrive p).2 = c :: rest)
    (hc : windows.isSeparator c = false) (hcolon : u[1]? ≠ some ':') (hnet : ¬IsNetwork u) : Fits p u := by
  refine ⟨fun _ => hcolon, fun _ => hnet, fun hstarts => ?_, fun hnil => ?_⟩
  · obtain ⟨b, path, heq, hb⟩ := hstarts
    obtain ⟨rfl, -⟩ := List.cons.inj (hrest.symm.trans heq)
    rw [hc] at hb
    cases hb
  · cases hrest.symm.trans hnil

/-- Before what does not start with a separator there is a drive with a colon or none. -/
theorem drive_before_name {s : Style} {p rest : Text} {c : Char} (hrest : (s.splitDrive p).2 = c :: rest)
    (hc : s.isSeparator c = false) : (s.splitDrive p).1.getLast?.any (· != ':') = false := by
  cases s with
  | posix => rfl
  | windows =>
    rcases drive_cases p with ⟨hcolon, hnet⟩ | ⟨a, rest, rfl⟩ | ⟨hnet, hnone⟩ |
      ⟨lead, v, host, a, share, rest', rfl, hnet, hlead, hv⟩
    · rw [splitDrive_of_no_drive hcolon hnet]
      rfl
    · rw [splitDrive_colon]
      rfl
    · rw [hnone] at hrest
      cases hrest
    · obtain ⟨b, path, hstarts, hb⟩ := hv.rest_starts
      rw [splitDrive_share hnet hlead hv, hstarts] at hrest
      obtain ⟨rfl, -⟩ := List.cons.inj hrest
      rw [hc] at hb
      cases hb

/-- **The drive of a path does not depend on the name at its end.** The other name must not bring a colon to the second
place, where it would make a drive. -/
theorem splitDrive_change {s : Style} {p front name tail other : Text}
    (hrest : (s.splitDrive p).2 = front ++ (name ++ tail)) (hname : Plain s name) (hne : name ≠ [])
    (hother : Plain s other)
    (hcolon : (front ++ other)[1]? = some ':' → (front ++ name)[1]? = some ':') :
    s.splitDrive ((s.splitDrive p).1 ++ (front ++ other)) = ((s.splitDrive p).1, front ++ other) := by
  cases s with
  | posix => rfl
  | windows =>
    refine Fits.splitDrive_eq ⟨fun hd h => ?_, fun hd h => ?_, fun hstarts => ?_, fun hnil => ?_⟩
    · obtain ⟨hno, -, hp⟩ := no_drive_of_eq_nil hd
      apply hno
      rw [← hp, hrest, ← List.append_assoc]
      exact List.getElem?_append_left (List.getElem?_eq_some_iff.1 (hcolon h)).1 ▸ hcolon h
    · obtain ⟨-, hno, hp⟩ := no_drive_of_eq_nil hd
      apply hno
      rw [← hp, hrest]
      exact h.of_append_plain hother _
    · obtain ⟨b, path, heq, hb⟩ := hstarts
      rw [hrest] at heq
      cases front with
      | cons c front => exact ⟨c, front ++ other, rfl, by obtain ⟨rfl, -⟩ := List.cons.inj heq; exact hb⟩
      | nil =>
        obtain ⟨c, name, rfl⟩ := List.exists_cons_of_ne_nil hne
        obtain ⟨rfl, -⟩ := List.cons.inj heq
        exact absurd hb (hname.not_isSeparator List.mem_cons_self)
    · exact absurd (hrest.symm.trans hnil) (by simp [hne])

end ScriptEval.Path
