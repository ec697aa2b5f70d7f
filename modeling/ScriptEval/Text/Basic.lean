/-!
# Text

A text is a list of characters. This module holds the operations on texts that know nothing of any character's
meaning: joining and splitting, taking off the ends, and searching for a piece.

`Text.pieces w s` are the parts of `s` around the occurrences of `w`, leftmost first and without overlap; replacing `w`
by `r` is joining them with `r`.
-/

namespace ScriptEval

/-- A text: its characters in order. -/
abbrev Text := List Char

namespace Text

/-! ## The ends of a text -/

/-- The text without the longest run of characters in `p` at its start. -/
def trimLeft (p : Char → Bool) (t : Text) : Text := t.dropWhile p

/-- The text without the longest run of characters in `p` at its end. -/
def trimRight (p : Char → Bool) (t : Text) : Text := (t.reverse.dropWhile p).reverse

/-- The text without the runs of characters in `p` at both ends. -/
def trim (p : Char → Bool) (t : Text) : Text := trimRight p (trimLeft p t)

/-! ## Joining and splitting -/

/-- The pieces one after the other, `sep` between neighbours. -/
def join (sep : Text) : List Text → Text
  | [] => []
  | [t] => t
  | t :: ts => t ++ sep ++ join sep ts

/-- The pieces of a text between the occurrences of a character: one piece more than there are occurrences. -/
def splitOn (sep : Char) : Text → List Text
  | [] => [[]]
  | c :: rest =>
    if c = sep then [] :: splitOn sep rest
    else match splitOn sep rest with
      | [] => [[c]]
      | piece :: pieces => (c :: piece) :: pieces

theorem splitOn_ne_nil (sep : Char) (t : Text) : splitOn sep t ≠ [] := by
  cases t with
  | nil => simp [splitOn]
  | cons c rest =>
    rw [splitOn]
    split
    · simp
    · split <;> simp

/-- The text before the first occurrence of a character and, if there is one, the text after it. -/
def cutAtChar (sep : Char) (t : Text) : Text × Option Text :=
  match t.span (· != sep) with
  | (before, []) => (before, none)
  | (before, _ :: after) => (before, some after)

/-! ## Searching -/

/-- The text around the first occurrence of `w`. -/
def cut? (w : Text) : Text → Option (Text × Text)
  | [] => if w.isEmpty then some ([], []) else none
  | c :: rest =>
    if w.isPrefixOf (c :: rest) then some ([], (c :: rest).drop w.length)
    else (cut? w rest).map fun (before, after) => (c :: before, after)

theorem cut?_eq_append {w s before after : Text} (h : cut? w s = some (before, after)) :
    s = before ++ w ++ after := by
  induction s generalizing before with
  | nil => simp [cut?] at h; obtain ⟨h, rfl, rfl⟩ := h; simp [h]
  | cons c rest ih =>
    rw [cut?] at h
    split at h
    next hp =>
      obtain ⟨rfl, rfl⟩ := by simpa using h
      obtain ⟨u, hu⟩ := List.isPrefixOf_iff_prefix.1 hp
      simp [← hu]
    next =>
      obtain ⟨⟨b, a⟩, hb, heq⟩ := Option.map_eq_some_iff.1 h
      obtain ⟨rfl, rfl⟩ := by simpa using heq
      simp [ih hb]

/-- Whether `w` occurs in the text. -/
def hasPiece (w s : Text) : Bool := (cut? w s).isSome

theorem length_after_lt {w s before after : Text} (hw : w ≠ []) (h : cut? w s = some (before, after)) :
    after.length < s.length := by
  have hs := congrArg List.length (cut?_eq_append h)
  have : 0 < w.length := List.length_pos_iff.2 hw
  simp at hs
  omega

/-- The parts of a text around the occurrences of `w`, leftmost first and without overlap. The empty text occurs
before and after every character. -/
def pieces (w s : Text) : List Text :=
  if hw : w = [] then [] :: s.map ([·]) ++ [[]]
  else match hs : cut? w s with
    | none => [s]
    | some (before, after) =>
      have : after.length < s.length := length_after_lt hw hs
      before :: pieces w after
termination_by s.length

/-- Every occurrence of `w` replaced by `r`. -/
def replaceAll (w r s : Text) : Text := join r (pieces w s)

end Text

end ScriptEval
