import ScriptEval.Platform.Detect
import ScriptEval.Proofs.Unicode.Lowered

/-!
# Detecting a detected platform

The name of a system is one of a few tokens or, if it is in no table, the lower case of what the host says
(`systemName_cases`), and so is the name of an architecture (`architectureName_cases`). The tokens stand for themselves,
so detecting a platform from what was detected changes nothing (`detect_detected`).
-/

namespace ScriptEval.Platform

/-- A name in lower case that `read` leaves as it is. -/
structure Settled (read : Text → Text) (name : Text) : Prop where
  lower : Unicode.lower name = name
  read : read name = name

instance (read : Text → Text) (name : Text) : Decidable (Settled read name) :=
  decidable_of_iff (Unicode.lower name = name ∧ read name = name) ⟨fun h => ⟨h.1, h.2⟩, fun h => ⟨h.1, h.2⟩⟩

/-- What a reader of lower case passes on is settled. -/
theorem settled_of_passes {read : Text → Text} {t : Text}
    (h : ∀ name, Unicode.lower name = Unicode.lower t → read name = Unicode.lower t) : Settled read (read t) := by
  rw [h t rfl]
  exact ⟨Unicode.lower_lower t, h _ (Unicode.lower_lower t)⟩

theorem mem_of_lookup {names : List (Text × Text)} {key name : Text} (h : names.lookup key = some name) :
    name ∈ names.map (·.2) := by
  obtain ⟨before, after, rfl, -⟩ := List.lookup_eq_some_iff.1 h
  simp

/-! ## Systems -/

theorem systemName_cases (system : Text) :
    systemName system ∈ systemNames.map (·.2) ∨ systemName system ∈ versionedSystems ∨
      systemNames.lookup (Unicode.lower system) = none ∧
        versionedSystems.find? (·.isPrefixOf (Unicode.lower system)) = none := by
  simp only [systemName]
  cases hname : systemNames.lookup (Unicode.lower system) with
  | some name => exact Or.inl (mem_of_lookup hname)
  | none =>
    cases hversioned : versionedSystems.find? (·.isPrefixOf (Unicode.lower system)) with
    | some name => exact Or.inr (Or.inl (List.mem_of_find?_eq_some hversioned))
    | none => exact Or.inr (Or.inr ⟨rfl, rfl⟩)

theorem settled_systemName (system : Text) : Settled systemName (systemName system) := by
  have hnames : ∀ name ∈ systemNames.map (·.2), Settled systemName name := by decide +kernel
  have hversioned : ∀ name ∈ versionedSystems, Settled systemName name := by decide +kernel
  rcases systemName_cases system with h | h | ⟨hlookup, hfind⟩
  · exact hnames _ h
  · exact hversioned _ h
  · refine settled_of_passes fun name heq => ?_
    simp only [systemName, heq, hlookup, hfind, Option.getD_none]

/-- A versioned system is told by the start of its name; no version makes it another system. -/
theorem systemName_of_versioned {system name : Text} (hname : name ∈ versionedSystems)
    (hstart : name <+: Unicode.lower system) : systemName system = name := by
  have hkeys : ∀ key ∈ systemNames.map (·.1), ∀ name ∈ versionedSystems, ¬name <+: key := by decide +kernel
  have hapart : ∀ one ∈ versionedSystems, ∀ other ∈ versionedSystems, one <+: other → one = other := by
    decide +kernel
  have hlookup : systemNames.lookup (Unicode.lower system) = none := by
    refine List.lookup_eq_none_iff.2 fun entry hentry => bne_iff_ne.2 fun heq => ?_
    exact hkeys entry.1 (List.mem_map_of_mem hentry) name hname (heq ▸ hstart)
  cases hfind : versionedSystems.find? (·.isPrefixOf (Unicode.lower system)) with
  | none => exact absurd (List.isPrefixOf_iff_prefix.2 hstart) (List.find?_eq_none.1 hfind name hname)
  | some found =>
    have hmem := List.mem_of_find?_eq_some hfind
    have hfound := List.find?_some hfind
    rw [List.isPrefixOf_iff_prefix] at hfound
    have hsame : found = name := by
      rcases List.prefix_or_prefix_of_prefix hfound hstart with h | h
      · exact hapart _ hmem _ hname h
      · exact (hapart _ hname _ hmem h).symm
    simp only [systemName, hlookup, hfind, Option.getD_none, Option.getD_some, hsame]

/-! ## Architectures -/

theorem architectureName_cases (processor : Text) :
    architectureName processor = "arm".toList ∨ architectureName processor ∈ architectureNames.map (·.2) ∨
      ¬("armv".toList.isPrefixOf (Unicode.lower processor) ∨ Unicode.lower processor = "arm".toList) ∧
        architectureNames.lookup (Unicode.lower processor) = none := by
  simp only [architectureName]
  split
  next => exact Or.inl rfl
  next harm =>
    cases hname : architectureNames.lookup (Unicode.lower processor) with
    | some name => exact Or.inr (Or.inl (mem_of_lookup hname))
    | none => exact Or.inr (Or.inr ⟨harm, rfl⟩)

theorem settled_architectureName (processor : Text) : Settled architectureName (architectureName processor) := by
  have harm : Settled architectureName "arm".toList := by decide +kernel
  have hnames : ∀ name ∈ architectureNames.map (·.2), Settled architectureName name := by decide +kernel
  rcases architectureName_cases processor with h | h | ⟨hother, hlookup⟩
  · rw [h]
    exact harm
  · exact hnames _ h
  · refine settled_of_passes fun name heq => ?_
    simp only [architectureName, heq, if_neg hother, hlookup, Option.getD_none]

/-! ## Facts -/

/-- **Detection is a normalisation.** Whatever a host says of itself, the names of the system and of the architecture
are in lower case, and the family is told from the system, which loses its version. Detecting a platform from what was
detected gives the same facts. -/
theorem detect_detected (m : Machine) :
    let p := detect m
    Unicode.lower p.os = p.os ∧ Unicode.lower p.arch = p.arch ∧
      (p.family = "windows".toList ↔ p.os = "windows".toList) ∧
      (p.os ≠ "windows".toList → p.family = "unix".toList) ∧
      (∀ name ∈ versionedSystems, name <+: Unicode.lower m.system → p.os = name) ∧
      detect { m with system := p.os, processor := p.arch } = p := by
  intro p
  have hos : Settled systemName p.os := settled_systemName m.system
  have harch : Settled architectureName p.arch := settled_architectureName m.processor
  have hfamily : p.family = if p.os = "windows".toList then "windows".toList else "unix".toList := rfl
  refine ⟨hos.lower, harch.lower, ?_, fun h => ?_, fun _ => systemName_of_versioned, ?_⟩
  · rw [hfamily]
    split
    next h => exact iff_of_true rfl h
    next h => exact iff_of_false (by decide) h
  · rw [hfamily, if_neg h]
  · simp only [detect, hos.read, harch.read]
    rfl

end ScriptEval.Platform
