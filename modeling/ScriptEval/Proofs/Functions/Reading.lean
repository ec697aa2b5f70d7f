import ScriptEval.Proofs.Registry.Lookup
import ScriptEval.Proofs.Value.Decimal
import Mathlib.Data.List.Forall2

/-!
# How the standard functions read their arguments

The standard functions look at their arguments only through the projections `toText`, `toInt` and `toRawText`: on
arguments that are read alike they have the same outcome, text written included (`Function.ReadsAlike`). Three of them
give a single argument back as it is (`Function.GivesBack`); with one argument their outcomes are the arguments, and
with more arguments the same again. `standard_readsAlike_or_givesBack` goes through all standard functions.
-/

namespace ScriptEval

/-- Argument lists that are read alike, one argument after the other. -/
abbrev AlikeArguments : List Value → List Value → Prop := List.Forall₂ Value.Alike

/-- The outcome depends on how the arguments are read only. -/
def Function.ReadsAlike (f : Function) : Prop :=
  ∀ (world : World) {args args' : List Value}, AlikeArguments args args' → f.run world args = f.run world args'

/-- A single argument is given back; otherwise the outcome depends on how the arguments are read only. -/
def Function.GivesBack (f : Function) : Prop :=
  (∀ (world : World) (v : Value), f.run world [v] = { result := .ok v }) ∧
    ∀ (world : World) {args args' : List Value}, AlikeArguments args args' → args.length ≠ 1 →
      f.run world args = f.run world args'

namespace Functions

variable {args args' : List Value}

/-! ## Lists of arguments -/

theorem mapM_toText_congr (h : AlikeArguments args args') : args.mapM Value.toText = args'.mapM Value.toText := by
  induction h with
  | nil => rfl
  | cons hv _ ih => rw [List.mapM_cons, List.mapM_cons, hv.toText, ih]

theorem allPass_congr (test : Text → Bool) (h : AlikeArguments args args') : allPass test args = allPass test args' := by
  induction h with
  | nil => rfl
  | cons hv _ ih => rw [allPass, allPass, hv.toText, ih]

theorem anyPasses_congr (test : Text → Except Failure Bool) (h : AlikeArguments args args') :
    anyPasses test args = anyPasses test args' := by
  induction h with
  | nil => rfl
  | cons hv _ ih => rw [anyPasses, anyPasses, hv.toText, ih]

/-! ## Rules -/

theorem part_congr (select : Text → Text) (h : AlikeArguments args args') : part select args = part select args' := by
  cases h with
  | nil => rfl
  | cons hv _ => rw [part, part, hv.toText]

theorem change_congr (f : Text → Text) (h : AlikeArguments args args') : change f args = change f args' := by
  cases h with
  | nil => rfl
  | cons hv _ => rw [change, change, hv.toText]

theorem withExt_congr (s : Path.Style) (h : AlikeArguments args args') (hl : args.length ≠ 1) :
    withExt s args = withExt s args' := by
  cases h with
  | nil => rfl
  | cons hv h =>
    cases h with
    | nil => exact absurd rfl hl
    | cons hw _ => rw [withExt, withExt, hv.toText, hw.toText]

theorem addExt_congr (h : AlikeArguments args args') (hl : args.length ≠ 1) : addExt args = addExt args' := by
  cases h with
  | nil => rfl
  | cons hv h =>
    cases h with
    | nil => exact absurd rfl hl
    | cons hw _ => rw [addExt, addExt, hv.toText, hw.toText]

theorem join_congr (s : Path.Style) (h : AlikeArguments args args') (hl : args.length ≠ 1) :
    join s args = join s args' := by
  cases h with
  | nil => rfl
  | cons hv h =>
    cases h with
    | nil => exact absurd rfl hl
    | cons hw h => rw [join, join, hv.toText, mapM_toText_congr (.cons hw h)]; all_goals simp

theorem withFileName_congr (s : Path.Style) (h : AlikeArguments args args') :
    withFileName s args = withFileName s args' := by
  cases h with
  | nil => rfl
  | cons hv h =>
    cases h with
    | nil => rfl
    | cons hw _ => rw [withFileName, withFileName, hv.toText, hw.toText]

theorem withStem_congr (s : Path.Style) (h : AlikeArguments args args') : withStem s args = withStem s args' := by
  cases h with
  | nil => rfl
  | cons hv h =>
    cases h with
    | nil => rfl
    | cons hw _ => rw [withStem, withStem, hv.toText, hw.toText]

theorem trimWith_congr (trim : (Char → Bool) → Text → Text) (h : AlikeArguments args args') :
    trimWith trim args = trimWith trim args' := by
  cases h with
  | nil => rfl
  | cons hv h =>
    cases h with
    | nil => rw [trimWith, trimWith, hv.toText]
    | cons hw _ => rw [trimWith, trimWith, hv.toText, hw.toText]

theorem compareWith_congr (test : Text → Text → Except Failure Bool) (h : AlikeArguments args args') :
    compareWith test args = compareWith test args' := by
  cases h with
  | nil => rfl
  | cons hv h =>
    cases h with
    | nil => rfl
    | cons hw h => simp only [compareWith, hv.toText, anyPasses_congr _ (List.Forall₂.cons hw h)]

theorem replace_congr (h : AlikeArguments args args') : replace args = replace args' := by
  cases h with
  | nil => rfl
  | cons hv h =>
    cases h with
    | nil => rfl
    | cons hw h =>
      cases h with
      | nil => rw [replace, replace, hv.toText, hw.toText]
      | cons hr _ => simp only [replace, hv.toText, hw.toText, hr.toText]

/-- Padding reads the width as an integer. -/
theorem pad_congr (r : Runtime) (side : Side) (h : AlikeArguments args args') : pad r side args = pad r side args' := by
  cases h with
  | nil => rfl
  | cons ht h =>
    cases h with
    | nil => rfl
    | cons htoken h =>
      cases h with
      | nil => rfl
      | cons hwidth h =>
        cases h with
        | nil => rw [pad, pad, ht.toText, htoken.toText, hwidth.toInt]
        | cons _ _ => rfl

theorem formatTime_congr (clock : Calendar.Moment) (h : AlikeArguments args args') :
    formatTime clock args = formatTime clock args' := by
  cases h with
  | nil => rfl
  | cons hv _ => simp only [formatTime, hv.toRawText]

theorem writeAll_congr (ending : Text) (h : AlikeArguments args args') : writeAll ending args = writeAll ending args' := by
  rw [writeAll, writeAll, mapM_toText_congr h]

/-! ## Functions -/

/-- A function of its arguments alone reads them alike if its rule does. -/
theorem readsAlike_ofArguments {f : Function} {rule : List Value → Except Failure Value}
    (hrun : f.run = Outcome.ofArguments rule)
    (hrule : ∀ {args args' : List Value}, AlikeArguments args args' → rule args = rule args') : f.ReadsAlike := by
  intro world args args' h
  rw [hrun, Outcome.ofArguments, Outcome.ofArguments, hrule h]

theorem givesBack_ofArguments {f : Function} {rule : List Value → Except Failure Value}
    (hrun : f.run = Outcome.ofArguments rule) (hone : ∀ v, rule [v] = .ok v)
    (hrule : ∀ {args args' : List Value}, AlikeArguments args args' → args.length ≠ 1 → rule args = rule args') :
    f.GivesBack := by
  refine ⟨fun world v => ?_, fun world args args' h hl => ?_⟩
  · rw [hrun, Outcome.ofArguments, hone]
  · rw [hrun, Outcome.ofArguments, Outcome.ofArguments, hrule h hl]

theorem fileTest_readsAlike (name : String) (aliases : List String) (test : FileTree → Text → Bool) :
    (fileTest name aliases test).ReadsAlike := by
  intro world args args' h
  have hempty : args.isEmpty = args'.isEmpty := by cases h <;> rfl
  simp only [fileTest, hempty, allPass_congr _ h]

theorem facts_readsAlike (p : Platform) : ∀ f ∈ facts p, f.ReadsAlike := by
  intro f hf
  obtain ⟨fact, _, rfl⟩ := List.mem_map.1 hf
  exact fun _ _ _ _ => rfl

theorem fileTests_readsAlike : ∀ f ∈ fileTests, f.ReadsAlike := by
  simp only [fileTests, List.forall_mem_cons]
  exact ⟨fileTest_readsAlike _ _ _, fileTest_readsAlike _ _ _, fileTest_readsAlike _ _ _, by simp⟩

/-- Locations do not look at their arguments. -/
theorem locations_readsAlike : ∀ f ∈ locations, f.ReadsAlike := by
  simp only [locations, List.forall_mem_cons]
  exact ⟨fun _ _ _ _ => rfl, fun _ _ _ _ => rfl, fun _ _ _ _ => rfl, fun _ _ _ _ => rfl, by simp⟩

theorem output_readsAlike : ∀ f ∈ output, f.ReadsAlike := by
  simp only [output, List.forall_mem_cons]
  exact ⟨fun _ _ _ h => writeAll_congr _ h, fun _ _ _ h => writeAll_congr _ h, by simp⟩

theorem time_readsAlike (clock : Calendar.Moment) : ∀ f ∈ time clock, f.ReadsAlike := by
  simp only [time, List.forall_mem_cons]
  exact ⟨readsAlike_ofArguments rfl (formatTime_congr _), by simp⟩

theorem strings_readsAlike (r : Runtime) : ∀ f ∈ strings r, f.ReadsAlike := by
  have htrim (f : Function) trim (h : f.run = Outcome.ofArguments (trimWith trim)) : f.ReadsAlike :=
    readsAlike_ofArguments h (trimWith_congr _)
  have hcompare (f : Function) test (h : f.run = Outcome.ofArguments (compareWith test)) : f.ReadsAlike :=
    readsAlike_ofArguments h (compareWith_congr _)
  have hchange (f : Function) g (h : f.run = Outcome.ofArguments (change g)) : f.ReadsAlike :=
    readsAlike_ofArguments h (change_congr _)
  simp only [strings, List.forall_mem_cons]
  exact ⟨htrim _ _ rfl, htrim _ _ rfl, htrim _ _ rfl, hcompare _ _ rfl, hcompare _ _ rfl, hchange _ _ rfl,
    hchange _ _ rfl, hcompare _ _ rfl, readsAlike_ofArguments rfl replace_congr, hcompare _ _ rfl, by simp⟩

theorem padding_readsAlike (r : Runtime) : ∀ f ∈ padding r, f.ReadsAlike := by
  intro f hf
  obtain ⟨⟨name, synonym, side⟩, _, rfl⟩ := List.mem_map.1 hf
  exact readsAlike_ofArguments rfl (pad_congr r _)

/-- The names of the functions that give a single argument back. -/
def givingBack : List Text := ["add_ext".toList, "with_ext".toList, "join".toList]

theorem paths_readsAlike_or_givesBack (s : Path.Style) :
    ∀ f ∈ paths s, f.ReadsAlike ∨ f.GivesBack ∧ f.name ∈ givingBack := by
  have hpart (f : Function) select (h : f.run = Outcome.ofArguments (part select)) :
      f.ReadsAlike ∨ f.GivesBack ∧ f.name ∈ givingBack := Or.inl (readsAlike_ofArguments h (part_congr _))
  simp only [paths, List.forall_mem_cons]
  refine ⟨hpart _ _ rfl, hpart _ _ rfl, hpart _ _ rfl, hpart _ _ rfl, Or.inr ⟨?_, by simp [givingBack]⟩,
    Or.inr ⟨?_, by simp [givingBack]⟩, Or.inl ?_, Or.inl ?_, Or.inr ⟨?_, by simp [givingBack]⟩, by simp⟩
  · exact givesBack_ofArguments rfl (fun _ => rfl) addExt_congr
  · exact givesBack_ofArguments rfl (fun _ => rfl) (withExt_congr s)
  · exact readsAlike_ofArguments rfl (withFileName_congr s)
  · exact readsAlike_ofArguments rfl (withStem_congr s)
  · exact givesBack_ofArguments rfl (fun _ => rfl) (join_congr s)

/-- Every standard function reads its arguments alike, or gives a single one back. -/
theorem standard_readsAlike_or_givesBack {s : Services} {f : Function} (hf : f ∈ standard s) :
    f.ReadsAlike ∨ f.GivesBack ∧ f.name ∈ givingBack := by
  simp only [standard, List.mem_append] at hf
  rcases hf with ((((((hf | hf) | hf) | hf) | hf) | hf) | hf) | hf
  · exact Or.inl (facts_readsAlike _ f hf)
  · exact Or.inl (fileTests_readsAlike f hf)
  · exact paths_readsAlike_or_givesBack _ f hf
  · exact Or.inl (locations_readsAlike f hf)
  · exact Or.inl (output_readsAlike f hf)
  · exact Or.inl (time_readsAlike _ f hf)
  · exact Or.inl (strings_readsAlike _ f hf)
  · exact Or.inl (padding_readsAlike _ f hf)

end Functions

/-! ## Calls -/

/-- The same failure, or values that are read alike. -/
inductive AlikeResults : Except Failure Value → Except Failure Value → Prop
  | value {v w : Value} (h : v.Alike w) : AlikeResults (.ok v) (.ok w)
  | failure (e : Failure) : AlikeResults (.error e) (.error e)

theorem AlikeResults.refl : ∀ r : Except Failure Value, AlikeResults r r
  | .ok v => .value (.refl v)
  | .error e => .failure e

/-- A call whose arguments are read alike has the same outcome, unless it gives its only argument back. -/
theorem invoke_alike {s : Services} {args args' : List Value} (h : AlikeArguments args args') (world : World)
    (name : Text) :
    (Registry.standard s).invoke world name args = (Registry.standard s).invoke world name args' ∨
      ∃ v v' f, args = [v] ∧ args' = [v'] ∧ (Registry.standard s).find? name = some f ∧
        f.name ∈ Functions.givingBack ∧ (Registry.standard s).invoke world name [v] = { result := .ok v } ∧
        (Registry.standard s).invoke world name [v'] = { result := .ok v' } := by
  cases hf : (Registry.standard s).find? name with
  | none => exact Or.inl (by rw [Registry.invoke_of_find?_eq_none hf, Registry.invoke_of_find?_eq_none hf])
  | some f =>
    rcases Functions.standard_readsAlike_or_givesBack (Registry.mem_standard_of_find? hf) with hr | ⟨hb, hname⟩
    · exact Or.inl (by rw [Registry.invoke_of_find? hf, Registry.invoke_of_find? hf, hr world h])
    · by_cases hl : args.length = 1
      · obtain ⟨v, rfl⟩ := List.length_eq_one_iff.1 hl
        obtain ⟨v', rfl⟩ := List.length_eq_one_iff.1 (h.length_eq ▸ hl)
        refine Or.inr ⟨v, v', f, rfl, rfl, rfl, hname, ?_, ?_⟩
        · rw [Registry.invoke_of_find? hf, hb.1]; rfl
        · rw [Registry.invoke_of_find? hf, hb.1]; rfl
      · exact Or.inl (by rw [Registry.invoke_of_find? hf, Registry.invoke_of_find? hf, hb.2 world h hl])

/-- **An integer may as well be given as the text of its digits.** In a call of the standard functions, at any place
among the arguments, an integer that has a text and that text lead to the same text written and to the same failure or
to values that are read alike. The values are the same, unless the integer is the only argument of a function that
gives it back. -/
theorem invoke_int_or_text (s : Services) (world : World) (name : Text) (before after : List Value) (n : Int)
    (hn : (Nat.toDigits 10 n.natAbs).length ≤ digitLimit) :
    let byInt := (Registry.standard s).invoke world name (before ++ .int n :: after)
    let byText := (Registry.standard s).invoke world name (before ++ .text (Text.ofInt n) :: after)
    byInt.written = byText.written ∧ AlikeResults byInt.result byText.result ∧
      (byInt.result = byText.result ∨
        before = [] ∧ after = [] ∧ byInt.result = .ok (.int n) ∧ byText.result = .ok (.text (Text.ofInt n)) ∧
          ∃ f, (Registry.standard s).find? name = some f ∧ f.name ∈ Functions.givingBack) := by
  intro byInt byText
  have hsame (args : List Value) : AlikeArguments args args := List.forall₂_same.2 fun v _ => .refl v
  have halike : AlikeArguments (before ++ .int n :: after) (before ++ .text (Text.ofInt n) :: after) :=
    List.rel_append (hsame before) (.cons (Value.alike_int_text hn) (hsame after))
  rcases invoke_alike halike world name (s := s) with h | ⟨v, v', f, hv, hv', hf, hname, hrun, hrun'⟩
  · have heq : byInt = byText := h
    rw [heq]
    exact ⟨rfl, AlikeResults.refl _, Or.inl rfl⟩
  · rcases List.append_eq_singleton_iff.1 hv with ⟨rfl, hv⟩ | ⟨-, hv⟩
    · obtain ⟨rfl, rfl⟩ := List.cons.inj hv
      obtain ⟨rfl, -⟩ := List.cons.inj hv'
      have hint : byInt = { result := .ok (.int n) } := hrun
      have htext : byText = { result := .ok (.text (Text.ofInt n)) } := hrun'
      rw [hint, htext]
      exact ⟨rfl, .value (Value.alike_int_text hn), Or.inr ⟨rfl, rfl, rfl, rfl, f, hf, hname⟩⟩
    · cases hv

/-- The width of a padding, given as a text. -/
theorem pad_left_int_or_text :
    let r := Registry.standard { platform := {}, clock := ({} : World).clock }
    let byInt := r.invoke {} "PAD_left".toList ([.text "7".toList, .text "ab".toList] ++ .int 8 :: [])
    let byText := r.invoke {} "PAD_left".toList ([.text "7".toList, .text "ab".toList] ++ .text (Text.ofInt 8) :: [])
    (Nat.toDigits 10 (8 : Int).natAbs).length ≤ digitLimit ∧
      byInt.result.toOption = some (.text "ababab7".toList) ∧
      byInt.written = byText.written ∧ AlikeResults byInt.result byText.result := by
  intro r byInt byText
  have hn : (Nat.toDigits 10 (8 : Int).natAbs).length ≤ digitLimit := by decide
  have h := invoke_int_or_text { platform := {}, clock := ({} : World).clock } {} "PAD_left".toList
    [.text "7".toList, .text "ab".toList] [] 8 hn
  exact ⟨hn, by decide +kernel, h.1, h.2.1⟩

end ScriptEval
