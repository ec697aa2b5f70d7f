import ScriptEval.Proofs.Path.Split
import ScriptEval.Proofs.Path.Calls

/-!
# Components of a path

The components of a text are the pieces between its separators, and those that are not empty and not `.` name
something (`named`). An empty end names nothing (`named_append_emptyEnd`), so the component that a path is split before
is the last one that names something, if there is one (`getLast?_named`). A split loses nothing of a path but an empty
end, and the file name is read off the components (`split_lossless`).
-/

namespace ScriptEval.Path

variable {s : Style} {c : Char} {p front name tail : Text}

/-- The components of a text that name something. -/
def named (s : Style) (t : Text) : List Text := (t.splitOnP s.isSeparator).filter fun part => part ≠ [] ∧ part ≠ ['.']

/-- The file name of a path by its components: the last one after the drive that names something, unless it is `..`. -/
def lastNamed (s : Style) (p : Text) : Text :=
  match (named s (s.splitDrive p).2).getLast? with
  | none => []
  | some part => if part = ['.', '.'] then [] else part

/-! ## Texts and their components -/

/-- A separator ends a component. -/
theorem named_append_separator (hc : s.isSeparator c = true) (t u : Text) :
    named s (t ++ c :: u) = named s t ++ named s u := by
  rw [named, List.splitOnP_append_cons t u hc, List.filter_append, named, named]

theorem named_plain (hname : Plain s name) : named s name = if name = [] ∨ name = ['.'] then [] else [name] := by
  rw [named, List.splitOnP_eq_singleton hname]
  by_cases h : name = [] ∨ name = ['.']
  · rw [if_pos h]
    rcases h with rfl | rfl <;> rfl
  · rw [if_neg h]
    simpa using not_or.1 h

theorem named_nil (s : Style) : named s [] = [] := named_plain (plain_nil s)

theorem named_dot (s : Style) : named s ['.'] = [] :=
  named_plain (plain_cons_iff.2 ⟨isSeparator_dot s, plain_nil s⟩)

/-- An empty end names nothing. -/
theorem named_append_emptyEnd (h : EmptyEnd s tail) (t : Text) : named s (t ++ tail) = named s t := by
  induction h generalizing t with
  | nil => rw [List.append_nil]
  | @separator c tail hc _ ih =>
    have htail : named s tail = [] := (ih []).trans (named_nil s)
    rw [named_append_separator hc, htail, List.append_nil]
  | @dot c tail hc _ ih =>
    have htail : named s ('.' :: tail) = [] := (ih ['.']).trans (named_dot s)
    rw [named_append_separator hc, htail, List.append_nil]

theorem named_closed_append (hfront : Closed s front) (name : Text) :
    named s (front ++ name) = named s front ++ named s name := by
  cases front using List.reverseRecOn with
  | nil => rw [named_nil]; rfl
  | append_singleton front c =>
    have hc : s.isSeparator c = true := hfront c (by simp)
    rw [List.append_assoc, List.singleton_append, named_append_separator hc,
      named_append_emptyEnd (.separator hc .nil)]

/-! ## The last component -/

/-- **The component that a path is split before** is the last one that names something, if there is one. -/
theorem getLast?_named (h : Splits s p front name tail) :
    (named s (s.splitDrive p).2).getLast? = if name = [] ∨ name = ['.'] then none else some name := by
  rw [h.rest, ← List.append_assoc, named_append_emptyEnd h.emptyEnd, named_closed_append h.closed, named_plain h.plain]
  split
  next hname => rw [h.front_eq_nil hname, named_nil]; rfl
  next => exact List.getLast?_concat

theorem fileName_eq_lastNamed (s : Style) (p : Text) : fileName s p = lastNamed s p := by
  obtain ⟨front, name, tail, h⟩ := exists_splits s p
  have hlast : (split s p).2 = name := by rw [h.split_eq]
  rw [fileName, lastNamed, getLast?_named h, hlast]
  by_cases hname : name = [] ∨ name = ['.']
  · rw [if_pos hname]
    rcases hname with rfl | rfl <;> rfl
  · rw [if_neg hname]
    have hdot : name ≠ ['.'] := (not_or.1 hname).2
    simp [hdot]

/-- A call of `filename` gives the file name of its argument. -/
theorem invoke_filename (services : Services) (world : World) (p : Text) :
    (Registry.standard services).invoke world "filename".toList [.text p] =
      { result := .ok (.text (fileName services.style p)) } :=
  gives_filename services world p

/-- **Splitting a path loses nothing**, for either style. A path is the text before its last component, which is the
drive and what is empty or ends with a separator, that component, which has no separators, and a tail that is empty or
starts with a separator and names nothing. The file name that a call gives is the last component after the drive that
names something, and empty if there is none or if it is `..`. -/
theorem split_lossless (services : Services) (world : World) (p : Text) :
    let s := services.style
    ∃ front tail,
      (s.splitDrive p).1 ++ (s.splitDrive p).2 = p ∧
      p = (split s p).1 ++ (split s p).2 ++ tail ∧
      (split s p).1 = (s.splitDrive p).1 ++ front ∧ Closed s front ∧
      Plain s (split s p).2 ∧
      (tail = [] ∨ ∃ c rest, tail = c :: rest ∧ s.isSeparator c = true) ∧ named s tail = [] ∧
      (Registry.standard services).invoke world "filename".toList [.text p] =
        { result := .ok (.text (lastNamed s p)) } := by
  intro s
  obtain ⟨front, name, tail, h⟩ := exists_splits s p
  have htail : named s tail = [] := (named_append_emptyEnd h.emptyEnd []).trans (named_nil s)
  refine ⟨front, tail, s.splitDrive_append p, ?_, ?_, h.closed, ?_, h.emptyEnd.eq_nil_or_starts, htail, ?_⟩
  · have happend := h.append_eq
    rw [h.split_eq] at happend ⊢
    rwa [← List.append_assoc] at happend
  · rw [h.split_eq]
  · rw [h.split_eq]
    exact h.plain
  · rw [invoke_filename, fileName_eq_lastNamed]

end ScriptEval.Path
