import ScriptEval.Proofs.Failure.Results
import ScriptEval.Proofs.Registry.Usage
import ScriptEval.Proofs.Value.Decimal

/-!
# What calls of the standard functions write

Of the standard functions only `print` and `println` write (`Functions.standard_writes`), and these write all of their
arguments or, if one of them has no text, nothing (`Functions.writeAll_cases`). So every call has a piece of the output
(`Call.piece`), which is empty if the call fails (`Call.tells_outcome`), and the output of any calls is their pieces one
after the other (`output_of_calls`).
-/

namespace ScriptEval

/-! ## Arguments -/

/-- Arguments have no texts if one of them has none. -/
theorem mapM_toText_of_tooLong {args : List Value} (h : ∃ v ∈ args, v.IsTooLong) :
    args.mapM Value.toText = .error (.number .tooLong) := by
  induction args with
  | nil => exact absurd h (by simp)
  | cons v args ih =>
    rw [List.mapM_cons]
    by_cases hv : v.IsTooLong
    · rw [hv.toText_eq]
      rfl
    · obtain ⟨t, ht⟩ := Value.exists_toText_eq hv
      have hargs : ∃ w ∈ args, w.IsTooLong := by simpa [hv] using h
      rw [ht, ih hargs]
      rfl

theorem exists_mapM_toText {args : List Value} (h : ¬∃ v ∈ args, v.IsTooLong) :
    ∃ texts, args.mapM Value.toText = .ok texts := by
  rcases mapM_cases Value.toText args with ⟨texts, htexts, -⟩ | ⟨before, v, after, e, rfl, -, hv, -⟩
  · exact ⟨texts, htexts⟩
  · obtain ⟨t, ht⟩ := Value.exists_toText_eq fun hlong => h ⟨v, by simp, hlong⟩
    rw [ht] at hv
    cases hv

/-! ## Functions -/

/-- The function writes nothing, whatever the world and the arguments are. -/
def Function.Silent (f : Function) : Prop := ∀ world args, (f.run world args).written = []

namespace Functions

theorem silent_ofArguments {f : Function} {rule : List Value → Except Failure Value}
    (hrun : f.run = Outcome.ofArguments rule) : f.Silent := by
  intro world args
  rw [hrun]
  rfl

theorem facts_silent (p : Platform) : ∀ f ∈ facts p, f.Silent := by
  intro f hf
  obtain ⟨fact, _, rfl⟩ := List.mem_map.1 hf
  exact silent_ofArguments rfl

theorem fileTests_silent : ∀ f ∈ fileTests, f.Silent := by
  simp only [fileTests, List.forall_mem_cons]
  exact ⟨fun _ _ => rfl, fun _ _ => rfl, fun _ _ => rfl, by simp⟩

theorem paths_silent (s : Path.Style) : ∀ f ∈ paths s, f.Silent := by
  simp only [paths, List.forall_mem_cons]
  exact ⟨silent_ofArguments rfl, silent_ofArguments rfl, silent_ofArguments rfl, silent_ofArguments rfl,
    silent_ofArguments rfl, silent_ofArguments rfl, silent_ofArguments rfl, silent_ofArguments rfl,
    silent_ofArguments rfl, by simp⟩

theorem location_silent (name : String) (aliases : List String) (what : String)
    (select : Locations → Except ForeignFault (Option Text)) : (location name aliases what select).Silent := by
  intro world args
  simp only [location]
  split
  · rfl
  · split <;> rfl

theorem locations_silent : ∀ f ∈ locations, f.Silent := by
  simp only [locations, List.forall_mem_cons]
  exact ⟨fun _ _ => rfl, location_silent _ _ _ _, location_silent _ _ _ _, location_silent _ _ _ _, by simp⟩

theorem time_silent (clock : Calendar.Moment) : ∀ f ∈ time clock, f.Silent := by
  simp only [time, List.forall_mem_cons]
  exact ⟨silent_ofArguments rfl, by simp⟩

theorem strings_silent (r : Runtime) : ∀ f ∈ strings r, f.Silent := by
  simp only [strings, List.forall_mem_cons]
  exact ⟨silent_ofArguments rfl, silent_ofArguments rfl, silent_ofArguments rfl, silent_ofArguments rfl,
    silent_ofArguments rfl, silent_ofArguments rfl, silent_ofArguments rfl, silent_ofArguments rfl,
    silent_ofArguments rfl, silent_ofArguments rfl, by simp⟩

theorem padding_silent (r : Runtime) : ∀ f ∈ padding r, f.Silent := by
  intro f hf
  obtain ⟨⟨name, synonym, side⟩, _, rfl⟩ := List.mem_map.1 hf
  exact silent_ofArguments rfl

/-- Every standard function is for output or writes nothing. -/
theorem mem_output_or_silent {s : Services} {f : Function} (hf : f ∈ standard s) : f ∈ output ∨ f.Silent := by
  simp only [standard, List.mem_append] at hf
  rcases hf with ((((((hf | hf) | hf) | hf) | hf) | hf) | hf) | hf
  · exact Or.inr (facts_silent _ f hf)
  · exact Or.inr (fileTests_silent f hf)
  · exact Or.inr (paths_silent _ f hf)
  · exact Or.inr (locations_silent f hf)
  · exact Or.inl hf
  · exact Or.inr (time_silent _ f hf)
  · exact Or.inr (strings_silent _ f hf)
  · exact Or.inr (padding_silent _ f hf)

/-- What the function of a name writes after its arguments; `none` if it writes nothing at all. -/
def ending? (name : Text) : Option Text :=
  if name = "print".toList then some [] else if name = "println".toList then some ['\n'] else none

theorem output_writes : ∀ f ∈ output, ∃ ending, ending? f.name = some ending ∧ f.run = fun _ => writeAll ending := by
  simp only [output, List.forall_mem_cons]
  exact ⟨⟨[], by decide, rfl⟩, ⟨['\n'], by decide, rfl⟩, by simp⟩

/-- The functions for output are among the standard ones by their names. -/
theorem mem_output_of_ending {s : Services} {f : Function} (hf : f ∈ standard s) {ending : Text}
    (h : ending? f.name = some ending) : f ∈ output := by
  have hname : ∃ g ∈ output, g.name = f.name := by
    simp only [ending?] at h
    split at h
    next hprint => exact ⟨_, List.mem_cons_self, hprint.symm⟩
    next =>
      split at h
      next hprintln => exact ⟨_, List.mem_cons_of_mem _ List.mem_cons_self, hprintln.symm⟩
      next => cases h
  obtain ⟨g, hg, hgf⟩ := hname
  have hgs : g ∈ standard s := by simp [standard, hg]
  -- no other standard function has the name
  rwa [Registry.eq_of_answersTo hf hgs ⟨f.name, List.mem_cons_self, rfl⟩ ⟨g.name, List.mem_cons_self, by rw [hgf]⟩]

/-- **What a standard function writes**: all its arguments and an ending, or nothing, which its name tells. -/
theorem standard_writes {s : Services} {f : Function} (hf : f ∈ standard s) :
    (∃ ending, ending? f.name = some ending ∧ f.run = fun _ => writeAll ending) ∨ ending? f.name = none ∧ f.Silent := by
  cases hending : ending? f.name with
  | none =>
    rcases mem_output_or_silent hf with hf | hf
    · obtain ⟨ending, hsome, -⟩ := output_writes f hf
      rw [hending] at hsome
      cases hsome
    · exact Or.inr ⟨rfl, hf⟩
  | some ending =>
    obtain ⟨ending', hsome, hrun⟩ := output_writes f (mem_output_of_ending hf hending)
    rw [hending] at hsome
    exact Or.inl ⟨ending, rfl, by rw [hrun, Option.some.inj hsome]⟩

end Functions

/-! ## Calls -/

namespace Registry

namespace Call

/-- Texts with spaces between them and an ending, if there are texts and an ending. -/
def joined : Option Text → Except Failure (List Text) → Text
  | some ending, .ok texts => Text.join [' '] texts ++ ending
  | _, _ => []

variable (s : Services) (c : Call)

/-- The outcome of a call of the standard functions. -/
def outcome : Outcome := (Registry.standard s).invoke c.world c.name c.args

/-- What the function that the call finds writes after its arguments; `none` if it writes nothing at all, or if the
call finds none. -/
def ending? : Option Text := ((Registry.standard s).find? c.name).bind fun f => Functions.ending? f.name

/-- The piece of a call in the output: for `print` the texts of the arguments with spaces between them, for `println`
these and a new line; nothing if an argument has no text, and nothing for all other calls. -/
def piece : Text := joined (c.ending? s) (c.args.mapM Value.toText)

/-- What the result of a call tells of its piece. A call that fails has none, and neither has one that does not find
`print` or `println`. A call of these gives 1 and has all of its arguments in its piece, unless one of them is an integer
of too many digits. Then it fails, also if there are other arguments. -/
structure Tells (result : Except Failure Value) : Prop where
  failed : ∀ e, result = .error e → c.piece s = []
  silent : c.ending? s = none → c.piece s = []
  printed : ∀ ending, c.ending? s = some ending → (¬∃ v ∈ c.args, v.IsTooLong) →
    ∃ texts, c.args.mapM Value.toText = .ok texts ∧ c.piece s = Text.join [' '] texts ++ ending ∧ result = .ok (.int 1)
  tooLong : ∀ ending, c.ending? s = some ending → (∃ v ∈ c.args, v.IsTooLong) →
    c.piece s = [] ∧ result = .error (.number .tooLong)

variable {s c}

theorem piece_of_ending_eq_none (h : c.ending? s = none) : c.piece s = [] := by
  rw [piece, h]
  rfl

theorem piece_of_tooLong (h : ∃ v ∈ c.args, v.IsTooLong) : c.piece s = [] := by
  rw [piece, mapM_toText_of_tooLong h]
  cases c.ending? s <;> rfl

theorem piece_of_ending {ending : Text} (hending : c.ending? s = some ending) {texts : List Text}
    (htexts : c.args.mapM Value.toText = .ok texts) : c.piece s = Text.join [' '] texts ++ ending := by
  rw [piece, hending, htexts]
  rfl

/-- A call that finds no function for output writes nothing. -/
theorem written_of_ending_eq_none (h : c.ending? s = none) : (c.outcome s).written = [] := by
  cases hfind : (Registry.standard s).find? c.name with
  | none => rw [outcome, invoke_of_find?_eq_none hfind]
  | some f =>
    have hf : Functions.ending? f.name = none := by
      have hbind := h
      rwa [ending?, hfind] at hbind
    rw [outcome, invoke_of_find? hfind]
    rcases Functions.standard_writes (mem_standard_of_find? hfind) with ⟨ending, hsome, -⟩ | ⟨-, hsilent⟩
    · rw [hf] at hsome
      cases hsome
    · exact hsilent c.world c.args

/-- A call that finds a function for output has the outcome of writing all arguments. -/
theorem outcome_of_ending {ending : Text} (h : c.ending? s = some ending) :
    c.outcome s =
      { written := (Functions.writeAll ending c.args).written,
        result := (Functions.writeAll ending c.args).result.mapError (Failure.named c.name) } := by
  obtain ⟨f, hfind, hf⟩ := Option.bind_eq_some_iff.1 h
  rw [outcome, invoke_of_find? hfind]
  rcases Functions.standard_writes (mem_standard_of_find? hfind) with ⟨ending', hsome, hrun⟩ | ⟨hnone, -⟩
  · rw [hf] at hsome
    rw [hrun, Option.some.inj hsome]
  · rw [hf] at hnone
    cases hnone

/-- **One call** writes its piece. -/
theorem written_outcome : (c.outcome s).written = c.piece s := by
  cases hending : c.ending? s with
  | none => rw [written_of_ending_eq_none hending, piece_of_ending_eq_none hending]
  | some ending =>
    rw [outcome_of_ending hending, Functions.writeAll]
    by_cases hlong : ∃ v ∈ c.args, v.IsTooLong
    · rw [mapM_toText_of_tooLong hlong, piece_of_tooLong hlong]
    · obtain ⟨texts, htexts⟩ := exists_mapM_toText hlong
      rw [htexts, piece_of_ending hending htexts]

theorem tells_outcome : c.Tells s (c.outcome s).result := by
  have hprinted (ending : Text) (hending : c.ending? s = some ending) (hshort : ¬∃ v ∈ c.args, v.IsTooLong) :
      ∃ texts, c.args.mapM Value.toText = .ok texts ∧ c.piece s = Text.join [' '] texts ++ ending ∧
        (c.outcome s).result = .ok (.int 1) := by
    obtain ⟨texts, htexts⟩ := exists_mapM_toText hshort
    refine ⟨texts, htexts, piece_of_ending hending htexts, ?_⟩
    rw [outcome_of_ending hending, Functions.writeAll, htexts]
    rfl
  refine { failed := ?_, silent := piece_of_ending_eq_none, printed := hprinted, tooLong := ?_ }
  · intro e he
    cases hending : c.ending? s with
    | none => exact piece_of_ending_eq_none hending
    | some ending =>
      by_cases hlong : ∃ v ∈ c.args, v.IsTooLong
      · exact piece_of_tooLong hlong
      · obtain ⟨-, -, -, hok⟩ := hprinted ending hending hlong
        rw [hok] at he
        cases he
  · intro ending hending hlong
    refine ⟨piece_of_tooLong hlong, ?_⟩
    rw [outcome_of_ending hending, Functions.writeAll, mapM_toText_of_tooLong hlong]
    rfl

end Call

/-! ## Any calls -/

open Usage in
/-- Calls leave the registry as it is, and each adds its piece to the stream and its result to the results. -/
theorem run_calls (s : Services) (calls : List Call) :
    (start s).run id (calls.map .call) =
      { registry := .standard s
        stream := calls.flatMap (·.piece s)
        results := calls.map fun c => (c.outcome s).result } := by
  induction calls using List.reverseRecOn with
  | nil => rfl
  | append_singleton calls c ih =>
    rw [List.map_append, List.map_singleton, run_concat, ih, List.flatMap_append, List.flatMap_singleton,
      List.map_append, List.map_singleton, ← Call.written_outcome]
    rfl

open Usage in
/-- **What any calls write.** The output of calls of the standard functions, one after the other, is the pieces of the
calls in their order. Every call has a result, which tells of its piece: calls that fail have none. -/
theorem output_of_calls (s : Services) (calls : List Call) :
    let used := (start s).run id (calls.map .call)
    used.stream = calls.flatMap (·.piece s) ∧ used.results = calls.map (fun c => (c.outcome s).result) ∧
      List.Forall₂ (fun c result => c.Tells s result) calls used.results := by
  intro used
  have hused : used = _ := run_calls s calls
  rw [hused]
  refine ⟨rfl, rfl, List.forall₂_map_right_iff.2 (List.forall₂_same.2 ?_)⟩
  exact fun c _ => c.tells_outcome

end Registry

end ScriptEval
