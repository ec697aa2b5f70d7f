import ScriptEval.Path.Normal
import ScriptEval.Proofs.Text.Items

/-!
# Components in normal form

The components of a path are texts without separators that are neither empty nor `.`
(`isComponent_of_mem_components`), and its normal form has the same ones (`components_normalize`). So a character that
is in no separator and no component `.` is in a path exactly if it is in the normal form (`mem_normalize_iff`).
-/

namespace ScriptEval.Path

/-! ## Components -/

/-- A text that can be a component of a path in normal form. -/
structure IsComponent (t : Text) : Prop where
  ne_nil : t ≠ []
  ne_dot : t ≠ ['.']
  not_mem : '/' ∉ t

theorem mem_components_iff {path t : Text} :
    t ∈ components path ↔ t ∈ Text.splitOn '/' path ∧ t ≠ [] ∧ t ≠ ['.'] := by
  simp [components]

theorem isComponent_of_mem_components {path t : Text} (h : t ∈ components path) : IsComponent t := by
  obtain ⟨hmem, hne, hdot⟩ := mem_components_iff.1 h
  exact ⟨hne, hdot, Text.not_mem_of_mem_splitOn hmem⟩

theorem components_slash (path : Text) : components ('/' :: path) = components path := by
  simp [components, Text.splitOn]

theorem components_slashes {slashes : Text} (h : ∀ c ∈ slashes, c = '/') (path : Text) :
    components (slashes ++ path) = components path := by
  induction slashes with
  | nil => rfl
  | cons c slashes ih =>
    obtain ⟨rfl, hslashes⟩ := List.forall_mem_cons.1 h
    rw [List.cons_append, components_slash, ih hslashes]

/-- Components joined are the components of the joined text. -/
theorem components_join {names : List Text} (h : ∀ name ∈ names, IsComponent name) :
    components (Text.join ['/'] names) = names := by
  by_cases hnil : names = []
  · rw [hnil]
    rfl
  · rw [components, Text.splitOn_join hnil fun name hname => (h name hname).not_mem, List.filter_eq_self]
    intro name hname
    simp [(h name hname).ne_nil, (h name hname).ne_dot]

/-! ## Normal form -/

theorem eq_slash_of_mem_root {path : Text} {c : Char} (h : c ∈ root path) : c = '/' := by
  rw [root] at h
  split at h <;> simp_all

/-- **The normal form of a path has the same components.** -/
theorem components_normalize (path : Text) : components (normalize path) = components path := by
  have hnormal : components (root path ++ Text.join ['/'] (components path)) = components path := by
    rw [components_slashes fun _ => eq_slash_of_mem_root, components_join fun _ => isComponent_of_mem_components]
  simp only [normalize]
  split
  next hempty =>
    rw [List.isEmpty_iff.1 hempty] at hnormal
    exact hnormal
  next => exact hnormal

/-! ## Characters -/

theorem mem_iff_components {path : Text} {c : Char} (hsep : c ≠ '/') (hdot : c ≠ '.') :
    c ∈ path ↔ ∃ name ∈ components path, c ∈ name := by
  rw [← Text.exists_mem_splitOn_iff hsep]
  refine ⟨fun ⟨piece, hpiece, hc⟩ => ⟨piece, mem_components_iff.2 ⟨hpiece, ?_, ?_⟩, hc⟩,
    fun ⟨name, hname, hc⟩ => ⟨name, (mem_components_iff.1 hname).1, hc⟩⟩
  · exact List.ne_nil_of_mem hc
  · rintro rfl
    exact hdot (List.mem_singleton.1 hc)

theorem mem_normalize_iff {path : Text} {c : Char} (hsep : c ≠ '/') (hdot : c ≠ '.') :
    c ∈ normalize path ↔ c ∈ path := by
  rw [mem_iff_components hsep hdot, mem_iff_components hsep hdot, components_normalize]

end ScriptEval.Path
