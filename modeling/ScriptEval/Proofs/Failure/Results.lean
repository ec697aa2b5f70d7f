import ScriptEval.Failure
import Mathlib.Data.List.Forall2

/-!
# Results that may be failures

Going through a list with a function that may fail has the outcome of the first element on which it fails, or else the
list of all values (`mapM_cases`, `forall₂_of_mapM`). What failures a computation can have follows from those of its
steps (`FailsOnly.bind`, `FailsOnly.mapM`).
-/

namespace ScriptEval

section

variable {ε α β : Type}

/-- A computation fails in its first step, or from the value of that on. -/
theorem eq_error_or_of_bind {r : Except ε α} {f : α → Except ε β} {e : ε} (h : (r >>= f) = .error e) :
    r = .error e ∨ ∃ a, r = .ok a ∧ f a = .error e := by
  cases r with
  | ok a => exact Or.inr ⟨a, rfl, h⟩
  | error e' => exact Or.inl (congrArg Except.error (Except.error.inj h))

theorem eq_error_of_bind_pure {r : Except ε α} {f : α → β} {e : ε} (h : (r >>= fun a => pure (f a)) = .error e) :
    r = .error e := by
  rcases eq_error_or_of_bind h with h | ⟨a, -, h⟩
  · exact h
  · cases h

/-- All elements have values, and these are the outcome; or there is a first element that fails, and so does the
whole. -/
theorem mapM_cases (f : α → Except ε β) (xs : List α) :
    (∃ ys, xs.mapM f = .ok ys ∧ List.Forall₂ (fun x y => f x = .ok y) xs ys) ∨
      ∃ before x after e, xs = before ++ x :: after ∧ (∀ b ∈ before, ∃ y, f b = .ok y) ∧ f x = .error e ∧
        xs.mapM f = .error e := by
  induction xs with
  | nil => exact Or.inl ⟨[], rfl, .nil⟩
  | cons x xs ih =>
    rw [List.mapM_cons]
    cases hx : f x with
    | error e => exact Or.inr ⟨[], x, xs, e, rfl, nofun, hx, rfl⟩
    | ok y =>
      rcases ih with ⟨ys, hys, hall⟩ | ⟨before, x', after, e, rfl, hbefore, hx', hxs⟩
      · rw [hys]
        exact Or.inl ⟨y :: ys, rfl, .cons hx hall⟩
      · rw [hxs]
        refine Or.inr ⟨x :: before, x', after, e, rfl, ?_, hx', rfl⟩
        intro b hb
        rcases List.mem_cons.1 hb with rfl | hb
        · exact ⟨y, hx⟩
        · exact hbefore b hb

theorem forall₂_of_mapM {f : α → Except ε β} {xs : List α} {ys : List β} (h : xs.mapM f = .ok ys) :
    List.Forall₂ (fun x y => f x = .ok y) xs ys := by
  rcases mapM_cases f xs with ⟨zs, hzs, hall⟩ | ⟨before, x, after, e, -, -, -, herror⟩
  · obtain rfl := Except.ok.inj (h.symm.trans hzs)
    exact hall
  · rw [herror] at h
    cases h

end

theorem eq_ok_of_toOption {ε α : Type} {r : Except ε α} {a : α} (h : r.toOption = some a) : r = .ok a := by
  cases r with
  | ok b => exact congrArg Except.ok (Option.some.inj h)
  | error e => cases h

/-- Only refusals take the name of the function that was called. -/
theorem Failure.named_of_ne_script {why : Failure} (h : ∀ e, why ≠ .script e) (name : Text) : why.named name = why := by
  cases why with
  | script e => exact absurd rfl (h e)
  | _ => rfl

/-- If a result is a failure, it is one with a certain property. -/
def FailsOnly {α : Type} (P : Failure → Prop) (r : Except Failure α) : Prop := ∀ why, r = .error why → P why

namespace FailsOnly

variable {α β : Type} {P Q : Failure → Prop}

theorem ok (a : α) : FailsOnly P (.ok a) := nofun

theorem error {why : Failure} (h : P why) : FailsOnly P (.error why : Except Failure α) := by
  rintro why' heq
  cases heq
  exact h

theorem mono {r : Except Failure α} (h : FailsOnly P r) (hPQ : ∀ why, P why → Q why) : FailsOnly Q r :=
  fun why hr => hPQ why (h why hr)

theorem bind {r : Except Failure α} {f : α → Except Failure β} (hr : FailsOnly P r)
    (hf : ∀ a, r = .ok a → FailsOnly P (f a)) : FailsOnly P (r >>= f) := by
  cases r with
  | ok a => exact hf a rfl
  | error why => exact .error (hr why rfl)

theorem map {r : Except Failure α} (hr : FailsOnly P r) (f : α → β) : FailsOnly P (r.map f) := by
  cases r with
  | ok a => exact .ok (f a)
  | error why => exact .error (hr why rfl)

/-- Going through a list fails as the function does on one of its elements. -/
theorem mapM {f : α → Except Failure β} {xs : List α} (h : ∀ x ∈ xs, FailsOnly P (f x)) :
    FailsOnly P (xs.mapM f) := by
  intro why hxs
  rcases mapM_cases f xs with ⟨ys, hys, -⟩ | ⟨before, x, after, e, rfl, -, hx, he⟩
  · rw [hys] at hxs
    cases hxs
  · rw [he] at hxs
    cases hxs
    exact h x (by simp) why hx

end FailsOnly

end ScriptEval
