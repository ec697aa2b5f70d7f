import ScriptEval.Proofs.Functions.Calls

/-!
# Calls of the path functions

A path function is called by its name, and what the call gives is what the rule of the function gives for the arguments
(`gives_of_rule`). The functions for the parts of a path share one rule (`gives_part`).
-/

namespace ScriptEval.Path

/-- A call of a standard function on texts gives a text and writes nothing. -/
def Gives (services : Services) (world : World) (name : String) (args : List Text) (t : Text) : Prop :=
  (Registry.standard services).invoke world name.toList (args.map Value.text) = { result := .ok (.text t) }

variable {services : Services} {world : World} {name : String} {args : List Text} {t : Text}

theorem gives_of_rule {rule : List Value → Except Failure Value}
    (h : ∃ f ∈ Functions.paths services.style, f.name = name.toList ∧ f.run = Outcome.ofArguments rule)
    (hrule : rule (args.map Value.text) = .ok (.text t)) : Gives services world name args t := by
  obtain ⟨f, hf, hname, hrun⟩ := h
  have hmem : f ∈ Functions.standard services := by
    simp only [Functions.standard, List.mem_append, hf, true_or, or_true]
  exact (returns_iff_of_rule ⟨f, hmem, hname, hrun⟩).2 hrule

/-- The functions that give a part of a path. -/
def parts (s : Style) : List (String × (Text → Text)) :=
  [("stem", stem s), ("ext", ext s), ("dir", dir s), ("filename", fileName s)]

theorem gives_part {select : Text → Text} (h : (name, select) ∈ parts services.style) (p : Text) :
    Gives services world name [p] (select p) := by
  have hrule : Functions.part select ([p].map Value.text) = .ok (.text (select p)) := rfl
  refine gives_of_rule ?_ hrule
  simp only [parts, List.mem_cons, Prod.mk.injEq, List.not_mem_nil, or_false] at h
  rcases h with ⟨rfl, rfl⟩ | ⟨rfl, rfl⟩ | ⟨rfl, rfl⟩ | ⟨rfl, rfl⟩
  · exact ⟨_, .head _, rfl, rfl⟩
  · exact ⟨_, .tail _ (.head _), rfl, rfl⟩
  · exact ⟨_, .tail _ (.tail _ (.head _)), rfl, rfl⟩
  · exact ⟨_, .tail _ (.tail _ (.tail _ (.head _))), rfl, rfl⟩

theorem gives_withExt {p e : Text} (h : Functions.withExt services.style [.text p, .text e] = .ok (.text t)) :
    Gives services world "with_ext" [p, e] t :=
  gives_of_rule ⟨_, .tail _ (.tail _ (.tail _ (.tail _ (.tail _ (.head _))))), rfl, rfl⟩ h

variable (services world) (p e : Text)

theorem gives_stem : Gives services world "stem" [p] (stem services.style p) := gives_part (.head _) p

theorem gives_ext : Gives services world "ext" [p] (ext services.style p) := gives_part (.tail _ (.head _)) p

theorem gives_dir : Gives services world "dir" [p] (dir services.style p) :=
  gives_part (.tail _ (.tail _ (.head _))) p

theorem gives_filename : Gives services world "filename" [p] (fileName services.style p) :=
  gives_part (.tail _ (.tail _ (.tail _ (.head _)))) p

theorem gives_addExt : Gives services world "add_ext" [p, e] (addExt p e) := by
  have hrule : Functions.addExt ([p, e].map Value.text) = .ok (.text (addExt p e)) := rfl
  exact gives_of_rule ⟨_, .tail _ (.tail _ (.tail _ (.tail _ (.head _)))), rfl, rfl⟩ hrule

end ScriptEval.Path
