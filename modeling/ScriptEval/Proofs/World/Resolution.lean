import ScriptEval.Proofs.Path.Normal
import ScriptEval.World.FileTree

/-!
# Paths that lead somewhere

A path that leads somewhere has no NUL in it and is not too long, and neither is any of its components, since the walk
comes to all of them (`FileTree.byteLength_le_of_walk`). So there are texts that no tree has a path for (`IsNoPath`),
whether or not they are brought to normal form before (`IsNoPath.eq_nil_of_resolve`). Links that stand for each other
lead nowhere, as the number of links to follow is limited (`FileTree.walk_cycle`).
-/

namespace ScriptEval

namespace FileTree

variable {tree : FileTree}

/-! ## Steps of a walk -/

/-- A name that a walk looks up in the tree. -/
def IsEntry (name : Text) : Prop :=
  ¬name.isEmpty ∧ name ≠ ['.'] ∧ name ≠ ['.', '.'] ∧ byteLength name ≤ nameLimit

instance (name : Text) : Decidable (IsEntry name) := inferInstanceAs (Decidable (_ ∧ _))

/-- A directory in which names may be looked up. -/
def MaySearch (tree : FileTree) (here : List Text) : Prop := (tree.rights here).search = true

section

variable {links : Nat} {here names : List Text} {name target : Text}

theorem walk_dot (hsearch : MaySearch tree here) :
    tree.walk links here (['.'] :: names) = tree.walk links here names := by
  rw [MaySearch] at hsearch
  rw [walk, if_neg (by decide), if_neg (by simp [hsearch]), if_pos rfl]

/-- A name that is looked up: what stands there decides how the walk goes on. -/
theorem walk_entry (hsearch : MaySearch tree here) (h : IsEntry name) :
    tree.walk links here (name :: names) = match tree.node? (here ++ [name]) with
      | none => .error .missing
      | some (.dir _) => tree.walk links (here ++ [name]) names
      | some (.file opened) => if names.isEmpty then .ok (.file opened) else .error .notDirectory
      | some (.special opened) => if names.isEmpty then .ok (.special opened) else .error .notDirectory
      | some (.link target) =>
        if links = 0 then .error .linkLoop
        else tree.walk (links - 1) (if target.head? = some '/' then [] else here)
          (Text.splitOn '/' target ++ names) := by
  obtain ⟨hempty, hdot, hparent, hlength⟩ := h
  rw [MaySearch] at hsearch
  rw [walk, if_neg hempty, if_neg (by simp [hsearch]), if_neg hdot, if_neg hparent, if_neg (Nat.not_lt.2 hlength)]
  cases links <;> rfl

theorem walk_dir {rights : Rights} (hsearch : MaySearch tree here) (h : IsEntry name)
    (hnode : tree.node? (here ++ [name]) = some (.dir rights)) :
    tree.walk links here (name :: names) = tree.walk links (here ++ [name]) names := by
  rw [walk_entry hsearch h, hnode]

/-- A file at the end of the path. -/
theorem walk_file {opened : Opened} (hsearch : MaySearch tree here) (h : IsEntry name)
    (hnode : tree.node? (here ++ [name]) = some (.file opened)) :
    tree.walk links here [name] = .ok (.file opened) := by
  rw [walk_entry hsearch h, hnode]
  rfl

/-- The target of a link takes the place of its name, and starts at the root if it is absolute. -/
theorem walk_link (hsearch : MaySearch tree here) (h : IsEntry name)
    (hnode : tree.node? (here ++ [name]) = some (.link target)) :
    tree.walk links here (name :: names) =
      if links = 0 then .error .linkLoop
      else tree.walk (links - 1) (if target.head? = some '/' then [] else here)
        (Text.splitOn '/' target ++ names) := by
  rw [walk_entry hsearch h, hnode]

end

/-! ## Whole walks -/

/-- Two links that stand for each other lead nowhere. -/
theorem walk_cycle {here names names' : List Text}
    (hforth : ∀ links, tree.walk links here names =
      if links = 0 then .error .linkLoop else tree.walk (links - 1) here names')
    (hback : ∀ links, tree.walk links here names' =
      if links = 0 then .error .linkLoop else tree.walk (links - 1) here names) (links : Nat) :
    tree.walk links here names = .error .linkLoop ∧ tree.walk links here names' = .error .linkLoop := by
  induction links with
  | zero => exact ⟨hforth 0, hback 0⟩
  | succ links ih =>
    rw [hforth (links + 1), hback (links + 1), if_neg (Nat.succ_ne_zero links), if_neg (Nat.succ_ne_zero links)]
    exact ih.symm

/-- All names that a walk to a target comes to are short enough. -/
theorem byteLength_le_of_walk {links : Nat} {here names : List Text} {target : Target}
    (h : tree.walk links here names = .ok target) : ∀ name ∈ names, byteLength name ≤ nameLimit := by
  -- along the walk: a link brings its target in front of the names that are still to come
  fun_induction walk tree links here names with
  | case1 => nofun
  | case2 links here name names hempty ih =>
    have hname : byteLength name ≤ nameLimit := by
      rw [List.isEmpty_iff.1 hempty]
      decide
    exact List.forall_mem_cons.2 ⟨hname, ih h⟩
  | case4 links here names _ _ ih => exact List.forall_mem_cons.2 ⟨by decide, ih h⟩
  | case5 links here names _ _ _ ih => exact List.forall_mem_cons.2 ⟨by decide, ih h⟩
  | case8 links here name names _ _ _ _ hname _ _ ih => exact List.forall_mem_cons.2 ⟨Nat.not_lt.1 hname, ih h⟩
  | case9 links here name names _ _ _ _ hname _ _ hend =>
    rw [List.isEmpty_iff.1 hend]
    exact List.forall_mem_singleton.2 (Nat.not_lt.1 hname)
  | case11 links here name names _ _ _ _ hname _ _ hend =>
    rw [List.isEmpty_iff.1 hend]
    exact List.forall_mem_singleton.2 (Nat.not_lt.1 hname)
  | case14 here name names _ _ _ _ hname linked _ links ih =>
    exact List.forall_mem_cons.2 ⟨Nat.not_lt.1 hname, (List.forall_mem_append.1 (ih h)).2⟩
  | case3 | case6 | case7 | case10 | case12 | case13 => cases h

theorem of_resolve {path : Text} {target : Target} (h : tree.resolve path = .ok target) :
    '\x00' ∉ path ∧ byteLength path ≤ pathLimit ∧
      ∀ name ∈ Text.splitOn '/' path, byteLength name ≤ nameLimit := by
  rw [resolve] at h
  split at h
  next => cases h
  next hnul =>
    split at h
    next => cases h
    next hlong => exact ⟨by simpa using hnul, Nat.not_lt.1 hlong, byteLength_le_of_walk h⟩

end FileTree

/-- A text that is no path in any tree: it is empty, has a NUL in it, or is too long, in one of its components or as a
whole. -/
inductive IsNoPath (path : Text) : Prop
  | empty (h : path = [])
  | nul (h : '\x00' ∈ path)
  | longName {name : Text} (h : name ∈ Path.components path) (hlong : FileTree.nameLimit < FileTree.byteLength name)
  | long (h : FileTree.pathLimit < FileTree.byteLength (Path.normalize path))

/-- **A text that is no path** leads nowhere, but for the empty one, whose normal form is the working directory. -/
theorem IsNoPath.eq_nil_of_resolve {tree : FileTree} {path : Text} {target : FileTree.Target} (h : IsNoPath path)
    (hresolve : tree.resolve (Path.normalize path) = .ok target) : path = [] := by
  obtain ⟨hnul, hlong, hnames⟩ := FileTree.of_resolve hresolve
  cases h with
  | empty h => exact h
  | nul h => exact absurd ((Path.mem_normalize_iff (by decide) (by decide)).2 h) hnul
  | longName hname hlongName =>
    rw [← Path.components_normalize] at hname
    exact absurd hlongName (Nat.not_lt.2 (hnames _ (Path.mem_components_iff.1 hname).1))
  | long h => exact absurd h (Nat.not_lt.2 hlong)

end ScriptEval
