import ScriptEval.Proofs.Registry.Lookup

/-!
# Calls that give values

A call of a standard function that looks at its arguments alone gives a value exactly if the rule of the function does,
and the same one (`returns_iff_of_rule`). The string functions are of this kind (`invoke_of_string`,
`returns_iff_of_string`). Some of them have an argument that may be left out (`optional_cases`).
-/

namespace ScriptEval

/-- An argument that may be left out is, or there is one and it has a text. -/
theorem optional_cases {rest : List Value} {r : Option Text} (h : rest.head?.mapM Value.toText = .ok r) :
    (rest = [] ∧ r = none) ∨ ∃ v more t, rest = v :: more ∧ v.toText = .ok t ∧ r = some t := by
  cases rest with
  | nil =>
    cases h
    exact Or.inl ⟨rfl, rfl⟩
  | cons v more =>
    rw [List.head?_cons, Option.mapM_some] at h
    cases hv : v.toText with
    | error why =>
      rw [hv] at h
      cases h
    | ok t =>
      rw [hv] at h
      cases h
      exact Or.inr ⟨v, more, t, rfl, hv, rfl⟩

theorem ofBool_eq_one_iff {b : Bool} : Value.ofBool b = .int 1 ↔ b = true := by cases b <;> decide

theorem ofBool_eq_zero_iff {b : Bool} : Value.ofBool b = .int 0 ↔ b = false := by cases b <;> decide

/-- A call of a standard function gives a value and writes nothing. -/
def Returns (services : Services) (world : World) (name : String) (args : List Value) (v : Value) : Prop :=
  (Registry.standard services).invoke world name.toList args = { result := .ok v }

variable {services : Services} {world : World} {name : String} {rule : List Value → Except Failure Value}
  {args : List Value} {v : Value}

theorem Returns.unique {w : Value} (hv : Returns services world name args v) (hw : Returns services world name args w) :
    v = w := by simpa using hv.symm.trans hw

theorem returns_iff_of_rule
    (h : ∃ f ∈ Functions.standard services, f.name = name.toList ∧ f.run = Outcome.ofArguments rule) :
    Returns services world name args v ↔ rule args = .ok v := by
  rw [Returns, Registry.invoke_of_rule h]
  cases hrule : rule args with
  | ok w => simp [Except.mapError]
  | error why => simp [Except.mapError]

variable (h : ∃ f ∈ Functions.strings services.runtime, f.name = name.toList ∧ f.run = Outcome.ofArguments rule)

include h

theorem exists_standard_of_string :
    ∃ f ∈ Functions.standard services, f.name = name.toList ∧ f.run = Outcome.ofArguments rule := by
  obtain ⟨f, hf, hname, hrun⟩ := h
  exact ⟨f, List.mem_append_left _ (List.mem_append_right _ hf), hname, hrun⟩

/-- A call of a string function. -/
theorem invoke_of_string (world : World) (args : List Value) :
    (Registry.standard services).invoke world name.toList args =
      { result := (rule args).mapError (Failure.named name.toList) } :=
  Registry.invoke_of_rule (exists_standard_of_string h) world args

theorem returns_iff_of_string : Returns services world name args v ↔ rule args = .ok v :=
  returns_iff_of_rule (exists_standard_of_string h)

end ScriptEval
