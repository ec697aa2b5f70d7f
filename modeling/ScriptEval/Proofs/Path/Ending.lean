import ScriptEval.Path.Split

/-!
# The end of a path

Separators and components `.` at the end of a path name nothing (`EmptyEnd`). `body` takes off such an end
(`body_append_tail`), takes off all of it (`eq_nil_of_body_eq_append`), and nothing else: a path that ends with a name
stays as it is (`body_append_plain`).
-/

namespace ScriptEval.Path

variable {s : Style} {c : Char} {t name tail : Text}

/-- A text without separators. -/
def Plain (s : Style) (t : Text) : Prop := ∀ c ∈ t, s.isSeparator c = false

theorem plain_iff : Plain s t ↔ t.any s.isSeparator = false := by simp [Plain]

instance (s : Style) (t : Text) : Decidable (Plain s t) := decidable_of_iff _ plain_iff.symm

theorem plain_nil (s : Style) : Plain s [] := fun _ h => absurd h List.not_mem_nil

theorem plain_cons_iff : Plain s (c :: t) ↔ s.isSeparator c = false ∧ Plain s t := List.forall_mem_cons

theorem plain_append_iff {u : Text} : Plain s (t ++ u) ↔ Plain s t ∧ Plain s u := List.forall_mem_append

theorem Plain.not_isSeparator (h : Plain s t) (hc : c ∈ t) : ¬s.isSeparator c = true := by
  rw [h c hc]
  exact Bool.false_ne_true

theorem Plain.reverse (h : Plain s t) : Plain s t.reverse := fun c hc => h c (List.mem_reverse.1 hc)

/-- The text before the first separator is plain. -/
theorem plain_takeWhile (s : Style) (t : Text) : Plain s (t.takeWhile (!s.isSeparator ·)) := fun c hc => by
  simpa using List.all_eq_true.1 List.all_takeWhile c hc

theorem isSeparator_of_head?_dropWhile (h : (t.dropWhile (!s.isSeparator ·)).head? = some c) :
    s.isSeparator c = true := by
  have := List.head?_dropWhile_not (!s.isSeparator ·) t
  rw [h] at this
  simpa using this

/-- Separators, and components `.` after a separator. -/
inductive EmptyEnd (s : Style) : Text → Prop
  | nil : EmptyEnd s []
  | separator {c : Char} {t : Text} : s.isSeparator c = true → EmptyEnd s t → EmptyEnd s (c :: t)
  | dot {c : Char} {t : Text} : s.isSeparator c = true → EmptyEnd s t → EmptyEnd s (c :: '.' :: t)

theorem isSeparator_dot (s : Style) : s.isSeparator '.' = false := by cases s <;> rfl

theorem EmptyEnd.append {t u : Text} (h : EmptyEnd s t) (h' : EmptyEnd s u) : EmptyEnd s (t ++ u) := by
  induction h with
  | nil => exact h'
  | separator hc _ ih => exact .separator hc ih
  | dot hc _ ih => exact .dot hc ih

theorem emptyEnd_of_separators (h : ∀ c ∈ t, s.isSeparator c = true) : EmptyEnd s t := by
  induction t with
  | nil => exact .nil
  | cons c t ih =>
    obtain ⟨hc, ht⟩ := List.forall_mem_cons.1 h
    exact .separator hc (ih ht)

theorem EmptyEnd.eq_nil_or_starts (h : EmptyEnd s tail) :
    tail = [] ∨ ∃ c rest, tail = c :: rest ∧ s.isSeparator c = true := by
  cases h with
  | nil => exact Or.inl rfl
  | separator hc _ => exact Or.inr ⟨_, _, rfl, hc⟩
  | dot hc _ => exact Or.inr ⟨_, _, rfl, hc⟩

/-- What is dropped of a reversed path is an empty end. -/
theorem dropEmptyEnd_append_tail (s : Style) (r : Text) :
    ∃ tail, EmptyEnd s tail ∧ r.reverse = (dropEmptyEnd s r).reverse ++ tail := by
  fun_induction dropEmptyEnd s r with
  | case1 => exact ⟨[], .nil, rfl⟩
  | case2 c hc => exact ⟨[c], .separator hc .nil, rfl⟩
  | case3 c hc => exact ⟨[], .nil, by simp⟩
  | case4 c d rest hc ih =>
    obtain ⟨tail, htail, heq⟩ := ih
    exact ⟨tail ++ [c], htail.append (.separator hc .nil), by rw [List.reverse_cons, heq, List.append_assoc]⟩
  | case5 c d rest hc hd ih =>
    obtain ⟨tail, htail, heq⟩ := ih
    obtain ⟨rfl, hd⟩ : c = '.' ∧ s.isSeparator d = true := by simpa using hd
    refine ⟨tail ++ [d, '.'], htail.append (.dot hd .nil), ?_⟩
    rw [List.reverse_cons, List.reverse_cons, heq]
    simp
  | case6 c d rest hc hd => exact ⟨[], .nil, by simp⟩

/-- The body of a path is the path without an empty end. -/
theorem body_append_tail (s : Style) (t : Text) : ∃ tail, EmptyEnd s tail ∧ t = body s t ++ tail := by
  obtain ⟨tail, htail, heq⟩ := dropEmptyEnd_append_tail s t.reverse
  exact ⟨tail, htail, by rwa [List.reverse_reverse] at heq⟩

theorem length_body_le (s : Style) (t : Text) : (body s t).length ≤ t.length := by
  obtain ⟨tail, -, heq⟩ := body_append_tail s t
  have := congrArg List.length heq
  rw [List.length_append] at this
  omega

theorem body_concat_separator (hc : s.isSeparator c = true) (t : Text) : body s (t ++ [c]) = body s t := by
  rw [body, body, List.reverse_append, List.reverse_singleton, List.singleton_append]
  cases t.reverse with
  | nil => simp [dropEmptyEnd, hc]
  | cons d rest => rw [dropEmptyEnd, if_pos hc]

theorem body_concat_dot (hc : s.isSeparator c = true) (t : Text) : body s (t ++ [c, '.']) = body s t := by
  have h : (t ++ [c, '.']).reverse = '.' :: c :: t.reverse := by simp
  rw [body, body, h, dropEmptyEnd, if_neg (by simp [isSeparator_dot]), if_pos (by simp [hc])]

/-- The body does not depend on an empty end. -/
theorem body_append_emptyEnd (h : EmptyEnd s tail) (t : Text) : body s (t ++ tail) = body s t := by
  induction h generalizing t with
  | nil => rw [List.append_nil]
  | @separator c tail hc _ ih => rw [List.append_cons, ih, body_concat_separator hc]
  | @dot c tail hc _ ih =>
    have h : t ++ c :: '.' :: tail = (t ++ [c, '.']) ++ tail := by simp
    rw [h, ih, body_concat_dot hc]

theorem body_body (s : Style) (t : Text) : body s (body s t) = body s t := by
  obtain ⟨tail, htail, heq⟩ := body_append_tail s t
  calc body s (body s t) = body s (body s t ++ tail) := (body_append_emptyEnd htail _).symm
    _ = body s t := by rw [← heq]

/-- No empty end is left. -/
theorem eq_nil_of_body_eq_append {front : Text} (h : body s t = front ++ tail) (htail : EmptyEnd s tail) :
    tail = [] := by
  have hbody : front ++ tail = body s front := by
    rw [← body_append_emptyEnd htail front, ← h, body_body]
  have hlen := congrArg List.length hbody
  have := length_body_le s front
  rw [List.length_append] at hlen
  exact List.eq_nil_of_length_eq_zero (by omega)

/-- A path that ends with a name has no empty end. -/
theorem body_append_plain (hname : Plain s name) (hne : name ≠ []) (hdot : name ≠ ['.']) (t : Text) :
    body s (t ++ name) = t ++ name := by
  have hrev : dropEmptyEnd s (name.reverse ++ t.reverse) = name.reverse ++ t.reverse := by
    have hplain : Plain s name.reverse := hname.reverse
    have hdot : name.reverse ≠ ['.'] := fun h => hdot (by simpa using congrArg List.reverse h)
    have hne : name.reverse ≠ [] := by simpa using hne
    generalize name.reverse = r at *
    match r with
    | [] => exact absurd rfl hne
    | [c] =>
      have hc := (plain_cons_iff.1 hplain).1
      have hcdot : c ≠ '.' := fun h => hdot (by rw [h])
      cases t.reverse with
      | nil => simp [dropEmptyEnd, hc]
      | cons d rest => simp [dropEmptyEnd, hc, hcdot]
    | c :: d :: rest =>
      obtain ⟨hc, hd, -⟩ : _ ∧ _ ∧ _ := (plain_cons_iff.1 hplain).imp_right plain_cons_iff.1
      simp [dropEmptyEnd, hc, hd]
  rw [body, List.reverse_append, hrev, List.reverse_append, List.reverse_reverse, List.reverse_reverse]

end ScriptEval.Path
