import Mathlib.Data.List.TakeDrop
import ScriptEval.Functions.Paths
import ScriptEval.Proofs.Path.Split

/-!
# Changing the extension of a path

A file name is its stem, and after a dot its extension (`stemExt_append`, `stemExt_cases`). `with_ext` is the update of
a field: it keeps the directory and the stem of a path, sets the extension, a later update overwrites an earlier one,
and setting the extension that is there already only takes off the empty end of the path (`withExt_update`).
-/

namespace ScriptEval.Path

variable {s : Style} {p e start : Text}

/-! ## Stem and extension of a file name -/

/-- A stem with an extension without dots is read back. -/
theorem stemExt_append {stem ext : Text} (hstem : stem ≠ []) (hext : '.' ∉ ext) :
    stemExt (stem ++ '.' :: ext) = (stem, ext) := by
  have hrev : (stem ++ '.' :: ext).reverse = ext.reverse ++ '.' :: stem.reverse := by simp
  have hpos : ∀ c ∈ ext.reverse, (c != '.') = true := fun c hc => by
    simpa using fun h : c = '.' => hext (h ▸ List.mem_reverse.1 hc)
  have hspan : (stem ++ '.' :: ext).reverse.span (· != '.') = (ext.reverse, '.' :: stem.reverse) := by
    rw [List.span_eq_takeWhile_dropWhile, hrev, List.takeWhile_append_of_pos hpos, List.dropWhile_append_of_pos hpos,
      List.takeWhile_cons_of_neg (by decide), List.dropWhile_cons_of_neg (by decide), List.append_nil]
  obtain ⟨c, r, hr⟩ := List.exists_cons_of_ne_nil (show stem.reverse ≠ [] by simpa using hstem)
  rw [stemExt, hspan, hr]
  simp only [← hr, List.reverse_reverse]

/-- A file name has an extension, or it has no dot but in front. -/
theorem stemExt_cases (name : Text) :
    (stemExt name = (name, []) ∧ '.' ∉ name.tail) ∨
      ∃ stem ext, stem ≠ [] ∧ '.' ∉ ext ∧ name = stem ++ '.' :: ext ∧ stemExt name = (stem, ext) := by
  have hname : name = (name.reverse.dropWhile (· != '.')).reverse ++ (name.reverse.takeWhile (· != '.')).reverse := by
    rw [← List.reverse_append, List.takeWhile_append_dropWhile, List.reverse_reverse]
  have hext : '.' ∉ (name.reverse.takeWhile (· != '.')).reverse := fun h => by
    simpa using List.all_eq_true.1 List.all_takeWhile '.' (List.mem_reverse.1 h)
  have hspan := List.span_eq_takeWhile_dropWhile (· != '.') name.reverse
  have hdot := List.head?_dropWhile_not (· != '.') name.reverse
  generalize name.reverse.takeWhile (· != '.') = ext at *
  generalize name.reverse.dropWhile (· != '.') = stem at *
  match stem with
  | [] =>
    refine Or.inl ⟨by rw [stemExt, hspan], fun h => hext ?_⟩
    rw [List.reverse_nil, List.nil_append] at hname
    rw [← hname]
    exact List.mem_of_mem_tail h
  | [c] =>
    refine Or.inl ⟨by rw [stemExt, hspan], fun h => hext ?_⟩
    rw [hname] at h
    exact h
  | c :: d :: stem =>
    obtain rfl : c = '.' := by simpa using hdot
    refine Or.inr ⟨(d :: stem).reverse, ext.reverse, by simp, hext, ?_, by rw [stemExt, hspan]⟩
    rw [hname]
    simp

theorem stem_ne_nil (h : fileName s p ≠ []) : stem s p ≠ [] := by
  rcases stemExt_cases (fileName s p) with ⟨heq, -⟩ | ⟨stem', ext', hne, -, -, heq⟩
  · rw [stem, heq]; exact h
  · rw [stem, heq]; exact hne

/-- The file name starts with the stem. -/
theorem stem_prefix_fileName (s : Style) (p : Text) : stem s p <+: fileName s p := by
  rcases stemExt_cases (fileName s p) with ⟨heq, -⟩ | ⟨stem', ext', -, -, hname, heq⟩
  · exact ⟨[], by rw [stem, heq, List.append_nil]⟩
  · refine ⟨'.' :: ext', ?_⟩
    rw [stem, heq]
    exact hname.symm

/-- A file name with an extension is the stem, a dot and the extension. -/
theorem fileName_eq_append (h : ext s p ≠ []) : fileName s p = stem s p ++ '.' :: ext s p := by
  rcases stemExt_cases (fileName s p) with ⟨heq, -⟩ | ⟨stem', ext', -, -, hname, heq⟩
  · exact absurd (by rw [ext, heq]) h
  · rw [stem, ext, heq]
    exact hname

/-! ## Another extension -/

/-- With a dot after the stem no colon comes to the second place. -/
theorem colon_of_stem {front stem rest : Text} (hstem : stem ≠ [])
    (h : (front ++ (stem ++ '.' :: e))[1]? = some ':') : (front ++ (stem ++ rest))[1]? = some ':' := by
  have hpos : 0 < stem.length := List.length_pos_of_ne_nil hstem
  rw [← List.append_assoc] at h ⊢
  rcases Nat.lt_or_ge 1 (front ++ stem).length with hlt | hle
  · rwa [List.getElem?_append_left hlt] at h ⊢
  · have hlen : (front ++ stem).length = 1 := by
      rw [List.length_append] at hle ⊢
      omega
    rw [List.getElem?_append_right hle, hlen] at h
    simp at h

theorem plain_stem (h : Plain s (fileName s p)) : Plain s (stem s p) := by
  obtain ⟨rest, hrest⟩ := stem_prefix_fileName s p
  rw [← hrest] at h
  exact (plain_append_iff.1 h).1

theorem plain_ext (h : Plain s (fileName s p)) : Plain s (ext s p) := by
  by_cases hext : ext s p = []
  · rw [hext]
    exact plain_nil s
  · rw [fileName_eq_append hext] at h
    exact (plain_cons_iff.1 (plain_append_iff.1 h).2).2

/-- **With a dot and an extension after a start of the file name** a path is split before that as it was. -/
theorem split_start_append (hname : fileName s p ≠ []) (hstart : start <+: fileName s p) (hne : start ≠ [])
    (he : Plain s e) : split s ((split s p).1 ++ (start ++ '.' :: e)) = ((split s p).1, start ++ '.' :: e) := by
  obtain ⟨front, tail, hsplits⟩ := exists_splits_fileName hname
  obtain ⟨rest, hrest⟩ := hstart
  have hplain := hsplits.plain
  rw [← hrest] at hplain
  have hother : Plain s (start ++ '.' :: e) :=
    plain_append_iff.2 ⟨(plain_append_iff.1 hplain).1, plain_cons_iff.2 ⟨isSeparator_dot s, he⟩⟩
  refine hsplits.change hname hother (by simp) ?_ fun h => ?_
  · intro h
    have hlen := congrArg List.length h
    have hpos := List.length_pos_of_ne_nil hne
    rw [List.length_append, List.length_cons, List.length_singleton] at hlen
    omega
  · rw [← hrest]
    exact colon_of_stem hne h

theorem dir_start_append (hname : fileName s p ≠ []) (hstart : start <+: fileName s p) (hne : start ≠ [])
    (he : Plain s e) : dir s ((split s p).1 ++ (start ++ '.' :: e)) = dir s p := by
  have hsplit := split_start_append hname hstart hne he
  refine dir_eq_of_split (by rw [hsplit]) (by rw [hsplit]; simp) ?_
  rw [(split_of_fileName_ne_nil hname).1]
  exact hname

theorem fileName_start_append (hname : fileName s p ≠ []) (hstart : start <+: fileName s p) (hne : start ≠ [])
    (he : Plain s e) (hdots : start ≠ ['.'] ∨ e ≠ []) :
    fileName s ((split s p).1 ++ (start ++ '.' :: e)) = start ++ '.' :: e := by
  obtain ⟨c, start, rfl⟩ := List.exists_cons_of_ne_nil hne
  refine fileName_of_split (by rw [split_start_append hname hstart hne he]) (by simp) fun h => ?_
  -- two characters in all: the start is a dot, and nothing follows the dot after it
  obtain ⟨rfl, hrest⟩ := List.cons.inj h
  rcases List.append_eq_cons_iff.1 hrest with ⟨rfl, hend⟩ | ⟨rest, -, hend⟩
  · rcases hdots with hlone | hempty
    · exact hlone rfl
    · exact hempty (List.cons.inj hend).2
  · simp at hend

/-- An extension without dots is read back, and so is the start as the stem. -/
theorem stem_ext_start_append (hname : fileName s p ≠ []) (hstart : start <+: fileName s p) (hne : start ≠ [])
    (he : Plain s e) (hdots : start ≠ ['.'] ∨ e ≠ []) (hdot : '.' ∉ e) :
    stem s ((split s p).1 ++ (start ++ '.' :: e)) = start ∧ ext s ((split s p).1 ++ (start ++ '.' :: e)) = e := by
  have hread := stemExt_append hne hdot
  rw [← fileName_start_append hname hstart hne he hdots] at hread
  constructor
  · show (stemExt _).1 = _
    rw [hread]
  · show (stemExt _).2 = _
    rw [hread]

theorem split_stem_append (hname : fileName s p ≠ []) (he : Plain s e) :
    split s ((split s p).1 ++ (stem s p ++ '.' :: e)) = ((split s p).1, stem s p ++ '.' :: e) :=
  split_start_append hname (stem_prefix_fileName s p) (stem_ne_nil hname) he

theorem dir_stem_append (hname : fileName s p ≠ []) (he : Plain s e) :
    dir s ((split s p).1 ++ (stem s p ++ '.' :: e)) = dir s p :=
  dir_start_append hname (stem_prefix_fileName s p) (stem_ne_nil hname) he

theorem fileName_stem_append (hname : fileName s p ≠ []) (hne : e ≠ []) (he : Plain s e) :
    fileName s ((split s p).1 ++ (stem s p ++ '.' :: e)) = stem s p ++ '.' :: e :=
  fileName_start_append hname (stem_prefix_fileName s p) (stem_ne_nil hname) he (Or.inr hne)

theorem stem_ext_stem_append (hname : fileName s p ≠ []) (hne : e ≠ []) (he : Plain s e) (hdot : '.' ∉ e) :
    stem s ((split s p).1 ++ (stem s p ++ '.' :: e)) = stem s p ∧
      ext s ((split s p).1 ++ (stem s p ++ '.' :: e)) = e :=
  stem_ext_start_append hname (stem_prefix_fileName s p) (stem_ne_nil hname) he (Or.inr hne) hdot

/-! ## The update -/

/-- `q` is `p` without its empty end. -/
def IsTrimmed (s : Style) (p q : Text) : Prop :=
  (∃ tail, EmptyEnd s tail ∧ p = q ++ tail) ∧ ∀ front tail, EmptyEnd s tail → q = front ++ tail → tail = []

/-- A path with a file name, cut after that, is the path without its empty end. -/
theorem isTrimmed_fileName (hname : fileName s p ≠ []) : IsTrimmed s p ((split s p).1 ++ fileName s p) := by
  obtain ⟨front, tail, hsplits⟩ := exists_splits_fileName hname
  have hdot := (split_of_fileName_ne_nil hname).2.1
  refine ⟨⟨tail, hsplits.emptyEnd, ?_⟩, fun front' tail' htail' heq => ?_⟩
  · rw [List.append_assoc]
    exact hsplits.append_eq
  · have hbody := body_append_plain hsplits.plain hname hdot (split s p).1
    exact eq_nil_of_body_eq_append (hbody.trans heq) htail'

theorem withExt_eq (hname : fileName s p ≠ []) (he : Plain s e) :
    Functions.withExt s [.text p, .text e] =
      .ok (.text ((split s p).1 ++ (stem s p ++ if e.isEmpty then [] else '.' :: e))) := by
  have hsep := plain_iff.1 he
  have hempty : (fileName s p).isEmpty = false := by simpa using hname
  have hedit : withExt? s p e = some ((split s p).1 ++ stem s p ++ if e.isEmpty then [] else '.' :: e) := by
    rw [withExt?, if_neg (by simp [hempty]), if_neg (by simp [hsep])]
  rw [← List.append_assoc]
  simp only [Functions.withExt, Value.toText, bind, Except.bind, hempty, hedit]
  rfl

/-- After an extension without dots, another one replaces it. -/
theorem withExt_stem_append {e₂ : Text} (hname : fileName s p ≠ []) (hne : e ≠ []) (he : Plain s e) (hdot : '.' ∉ e)
    (he₂ : Plain s e₂) :
    Functions.withExt s [.text ((split s p).1 ++ (stem s p ++ '.' :: e)), .text e₂] =
      Functions.withExt s [.text p, .text e₂] := by
  have hname' : fileName s ((split s p).1 ++ (stem s p ++ '.' :: e)) ≠ [] := by
    rw [fileName_stem_append hname hne he]
    simp
  rw [withExt_eq hname' he₂, withExt_eq hname he₂, split_stem_append hname he,
    (stem_ext_stem_append hname hne he hdot).1]

/-- **`with_ext` updates a field.** On a path with a file name, a separator-free extension is set and all else is kept:
the directory and the stem. An extension without dots is read back, and a later update overwrites an earlier one.
Setting the extension that is there already takes off the empty end of the path and no more. -/
theorem withExt_update (s : Style) (p : Text) (hname : fileName s p ≠ []) :
    (∀ e, e ≠ [] → Plain s e → ∃ r, Functions.withExt s [.text p, .text e] = .ok (.text r) ∧
      dir s r = dir s p ∧ fileName s r = stem s p ++ '.' :: e ∧
      ('.' ∉ e → stem s r = stem s p ∧ ext s r = e ∧
        ∀ e₂, Plain s e₂ → ∃ q, Functions.withExt s [.text r, .text e₂] = .ok (.text q) ∧
          Functions.withExt s [.text p, .text e₂] = .ok (.text q))) ∧
    (ext s p ≠ [] → ∃ q, Functions.withExt s [.text p, .text (ext s p)] = .ok (.text q) ∧ IsTrimmed s p q) := by
  constructor
  · intro e hne he
    have hset := withExt_eq hname he
    rw [if_neg (by simpa using hne)] at hset
    refine ⟨_, hset, dir_stem_append hname he, fileName_stem_append hname hne he, fun hdot => ?_⟩
    obtain ⟨hstem, hext⟩ := stem_ext_stem_append hname hne he hdot
    refine ⟨hstem, hext, fun e₂ he₂ => ?_⟩
    rw [withExt_stem_append hname hne he hdot he₂]
    exact ⟨_, withExt_eq hname he₂, withExt_eq hname he₂⟩
  · intro hext
    refine ⟨_, withExt_eq hname (plain_ext (plain_fileName hname)), ?_⟩
    rw [if_neg (by simpa using hext), ← fileName_eq_append hext]
    exact isTrimmed_fileName hname

/-- A hidden name with two dots on a network path with an empty end. -/
theorem withExt_update_network :
    let p := "\\\\host\\share\\dir\\.a.b.tar\\./".toList
    fileName .windows p ≠ [] ∧
      (∃ r, Functions.withExt .windows [.text p, .text "gz".toList] = .ok (.text r) ∧
        dir .windows r = "\\\\host\\share\\dir".toList ∧ fileName .windows r = ".a.b.gz".toList ∧
        stem .windows r = ".a.b".toList ∧ ext .windows r = "gz".toList ∧
        ∃ q, Functions.withExt .windows [.text r, .text []] = .ok (.text q) ∧
          Functions.withExt .windows [.text p, .text []] = .ok (.text q)) ∧
      ∃ q, Functions.withExt .windows [.text p, .text "tar".toList] = .ok (.text q) ∧ IsTrimmed .windows p q := by
  intro p
  have hname : fileName .windows p = ".a.b.tar".toList := by decide +kernel
  have hdir : dir .windows p = "\\\\host\\share\\dir".toList := by decide +kernel
  have hstem : stem .windows p = ".a.b".toList := by decide +kernel
  have hext : ext .windows p = "tar".toList := by decide +kernel
  have hplain : Plain .windows "gz".toList := by decide
  obtain ⟨hset, hkeep⟩ := withExt_update .windows p (by rw [hname]; decide)
  refine ⟨by rw [hname]; decide, ?_, ?_⟩
  · obtain ⟨r, hr, hdir', hname', hread⟩ := hset "gz".toList (by decide) hplain
    obtain ⟨hstem', hext', hover⟩ := hread (by decide)
    rw [hdir] at hdir'
    rw [hstem] at hname' hstem'
    exact ⟨r, hr, hdir', hname', hstem', hext', hover [] (plain_nil _)⟩
  · rw [hext] at hkeep
    exact hkeep (by decide)

end ScriptEval.Path
