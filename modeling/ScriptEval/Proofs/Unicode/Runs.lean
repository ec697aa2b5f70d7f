import ScriptEval.Unicode.Case

/-!
# Runs of code points

A code point that is a point of some run of a table is mapped to its image under one of them, and any other code point
is not in the table (`mapByRuns_cases`).
-/

namespace ScriptEval.Unicode

namespace CaseRun

/-- What a point of the run is mapped to. -/
def image (r : CaseRun) (n : Nat) : Nat := (n + r.shift : Int).toNat

/-- The points of a run. -/
def Has (r : CaseRun) (n : Nat) : Prop := r.first ≤ n ∧ n ≤ r.last ∧ (n - r.first) % r.stride = 0

end CaseRun

theorem mapByRuns_cases (runs : List CaseRun) (n : Nat) :
    (∃ r ∈ runs, r.Has n ∧ mapByRuns runs n = some (r.image n)) ∨
      (∀ r ∈ runs, ¬r.Has n) ∧ mapByRuns runs n = none := by
  rw [mapByRuns]
  cases hfind : runs.find? _ with
  | some r =>
    have hn := List.find?_some hfind
    simp only [Bool.and_eq_true, decide_eq_true_eq, beq_iff_eq] at hn
    exact Or.inl ⟨r, List.mem_of_find?_eq_some hfind, ⟨hn.1.1, hn.1.2, hn.2⟩, rfl⟩
  | none =>
    refine Or.inr ⟨fun r hr hn => List.find?_eq_none.1 hfind r hr ?_, rfl⟩
    simp only [Bool.and_eq_true, decide_eq_true_eq, beq_iff_eq]
    exact ⟨⟨hn.1, hn.2.1⟩, hn.2.2⟩

theorem toNat_ofNat {n : Nat} (h : n.isValidChar) : (Char.ofNat n).toNat = n := by
  rw [Char.ofNat, dif_pos h]
  rfl

end ScriptEval.Unicode
