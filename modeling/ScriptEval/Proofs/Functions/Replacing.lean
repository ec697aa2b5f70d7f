import ScriptEval.Proofs.Functions.Candidates
import ScriptEval.Proofs.Text.Items

/-!
# Replacing

A call of `replace` puts the third argument, or nothing, in place of the second one between the pieces of the first
(`returns_replace`). The pieces are the same for every replacement and those that a reader from the left finds, and
`contains` tells whether there is more than one of them (`replace_all`).
-/

namespace ScriptEval.Functions

section

variable (services : Services) (world : World) {subject what : Value} {s w : Text} (hs : subject.toText = .ok s)
  (hw : what.toText = .ok w)

include hs hw

theorem returns_replace {rest : List Value} {r : Option Text} (hr : rest.head?.mapM Value.toText = .ok r) :
    Returns services world "replace" (subject :: what :: rest) (.text (Text.replaceAll w (r.getD []) s)) := by
  refine (returns_iff_of_string ⟨_, List.mem_of_getElem? (i := 8) rfl, rfl, rfl⟩).2 ?_
  rcases optional_cases hr with ⟨rfl, rfl⟩ | ⟨v, more, t, rfl, hv, rfl⟩
  · rw [replace, hs, hw]
    rfl
  · simp only [replace, hs, hw, hv]
    rfl

theorem returns_contains :
    (Returns services world "contains" [subject, what] (.int 1) ↔ w <:+: s) ∧
      (Returns services world "contains" [subject, what] (.int 0) ↔ ¬w <:+: s) := by
  have hread : [what].mapM Value.toText = .ok [w] := by
    rw [List.mapM_cons, hw]
    rfl
  have hcontains := returns_comparison services world .contains hs hread (List.cons_ne_nil what [])
  simpa [Comparison.Passes, Comparison.name] using hcontains

end

/-- **All occurrences are replaced, leftmost first.** A text is cut at the occurrences of another that a reader from the
left finds: each piece with that other text behind it holds it at the end only, and the last piece nowhere. The same
pieces are joined by whatever replaces it, or by nothing, and it is contained if there is more than one of them. Put in
its own place, it changes nothing; and it is not contained exactly if no replacement changes anything. -/
theorem replace_all (services : Services) (world : World) {subject what : Value} {s w : Text}
    (hs : subject.toText = .ok s) (hw : what.toText = .ok w) :
    (w ≠ [] → ∃ (firsts : List Text) (last : Text),
      s = w.intercalate (firsts ++ [last]) ∧ ¬w <:+: last ∧
      (∀ p ∈ firsts, ∀ before after, p ++ w = before ++ w ++ after → after = []) ∧
      (∀ (rest : List Value) (r : Option Text), rest.head?.mapM Value.toText = .ok r →
        Returns services world "replace" (subject :: what :: rest)
          (.text ((r.getD []).intercalate (firsts ++ [last])))) ∧
      (Returns services world "contains" [subject, what] (.int 1) ↔ 1 ≤ firsts.length)) ∧
    Returns services world "replace" [subject, what, what] (.text s) ∧
    (Returns services world "contains" [subject, what] (.int 0) ↔
      ∀ r t, r.toText = .ok t → Returns services world "replace" [subject, what, r] (.text s)) := by
  have hreplace {r : Value} {t : Text} (hr : r.toText = .ok t) :
      Returns services world "replace" [subject, what, r] (.text (Text.replaceAll w t s)) := by
    have hread : [r].head?.mapM Value.toText = .ok (some t) := by
      rw [List.head?_cons, Option.mapM_some, hr]
      rfl
    exact returns_replace services world hs hw hread
  obtain ⟨hone, hzero⟩ := returns_contains services world hs hw
  refine ⟨fun hne => ?_, ?_, ?_⟩
  · obtain ⟨firsts, last, hpieces, hlast, hfirsts, hcount⟩ := Text.exists_pieces hne s
    refine ⟨firsts, last, ?_, hlast, hfirsts, fun rest r hr => ?_, by rw [hone, hcount]⟩
    · rw [← hpieces, ← Text.join_eq, Text.join_pieces]
    · rw [← hpieces, ← Text.join_eq]
      exact returns_replace services world hs hw hr
  · have hself := hreplace hw
    rwa [Text.replaceAll, Text.join_pieces] at hself
  · rw [hzero, Text.not_infix_iff_replaceAll]
    refine ⟨fun hall r t hr => ?_, fun hall t => ?_⟩
    · rw [← hall t]
      exact hreplace hr
    · have ht : (Value.text t).toText = .ok t := rfl
      exact Value.text.inj ((hreplace ht).unique (hall _ t ht))

/-- Occurrences that overlap: the first two letters are replaced, and of the third none is left over for another
occurrence. Nor does the scan go back into what was put in. -/
theorem replace_all_overlapping :
    let services := ({} : World).services {}
    let subject : Value := .text "aaa".toList
    let what : Value := .text "aa".toList
    subject.toText = .ok "aaa".toList ∧ what.toText = .ok "aa".toList ∧
      (∃ (firsts : List Text) (last : Text), "aaa".toList = "aa".toList.intercalate (firsts ++ [last]) ∧
        1 ≤ firsts.length ∧ ¬"aa".toList <:+: last ∧
        Returns services {} "replace" [subject, what, .text "a".toList]
          (.text ("a".toList.intercalate (firsts ++ [last])))) ∧
      Returns services {} "replace" [subject, what, what] (.text "aaa".toList) := by
  intro services subject what
  have hs : subject.toText = .ok "aaa".toList := rfl
  have hw : what.toText = .ok "aa".toList := rfl
  obtain ⟨hpieces, hself, -⟩ := replace_all services {} hs hw
  obtain ⟨firsts, last, heq, hlast, -, hreplace, hcount⟩ := hpieces (by decide)
  have hcontains : Returns services {} "contains" [subject, what] (.int 1) :=
    (returns_contains services {} hs hw).1.2 ⟨[], "a".toList, rfl⟩
  exact ⟨hs, hw, ⟨firsts, last, heq, hcount.1 hcontains, hlast, hreplace [.text "a".toList] (some "a".toList) rfl⟩,
    hself⟩

end ScriptEval.Functions
