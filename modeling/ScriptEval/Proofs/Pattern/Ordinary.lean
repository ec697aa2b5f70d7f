import ScriptEval.Pattern.Reader

/-!
# Parts of the reader of patterns

What a part of the reader does from a reading on is told by what holds if it fails and what holds if it does not
(`Ensures`). Most parts are `Ordinary`: they go forward in the text, leave the flags of the whole pattern as they are,
and fail only where the text breaks a rule of patterns.
-/

namespace ScriptEval.Pattern

/-- The text breaks a rule of patterns. -/
def Fault.IsRule (fault : Fault) : Prop := ∃ reason position, fault = .invalid reason position

section

variable {α β : Type} {r : Reading} {E : Fault → Prop} {P : α → Reading → Prop} {Q : β → Reading → Prop}

/-- From the reading `r` on, `m` fails with `E`, or it has a value and comes to a reading with `Q`. -/
def Ensures (r : Reading) (m : ReadM β) (E : Fault → Prop) (Q : β → Reading → Prop) : Prop :=
  match m r with
  | .ok (b, r') => Q b r'
  | .error fault => E fault

namespace Ensures

theorem pure {b : β} (h : Q b r) : Ensures r (Pure.pure b) E Q := h

theorem throw {fault : Fault} (h : E fault) : Ensures r (MonadExcept.throw fault) E Q := h

theorem bind {m : ReadM α} {f : α → ReadM β} (hm : Ensures r m E P) (hf : ∀ a r', P a r' → Ensures r' (f a) E Q) :
    Ensures r (m >>= f) E Q := by
  unfold Ensures at hm ⊢
  show match (StateT.bind m f) r with
    | .ok (b, r') => Q b r'
    | .error fault => E fault
  unfold StateT.bind
  cases h : m r with
  | error fault =>
    rw [h] at hm
    exact hm
  | ok next =>
    rw [h] at hm
    exact hf next.1 next.2 hm

theorem get_bind {f : Reading → ReadM β} (h : Ensures r (f r) E Q) : Ensures r (get >>= f) E Q := h

theorem modify_bind {change : Reading → Reading} {f : Unit → ReadM β} (h : Ensures (change r) (f ()) E Q) :
    Ensures r (modify change >>= f) E Q := h

theorem mono {m : ReadM β} {E' : Fault → Prop} {Q' : β → Reading → Prop} (h : Ensures r m E Q)
    (hE : ∀ fault, E fault → E' fault) (hQ : ∀ b r', Q b r' → Q' b r') : Ensures r m E' Q' := by
  unfold Ensures at h ⊢
  split at h
  · exact hQ _ _ h
  · exact hE _ h

/-- Either of two steps before the rest. -/
theorem ite_bind {c : Prop} [Decidable c] {m n : ReadM α} {f : α → ReadM β} (hm : c → Ensures r m E P)
    (hn : ¬c → Ensures r n E P) (hf : ∀ a r', P a r' → Ensures r' (f a) E Q) :
    Ensures r (if c then m >>= f else n >>= f) E Q := by
  split
  next h => exact (hm h).bind hf
  next h => exact (hn h).bind hf

/-- A check that nothing passes, before the rest. -/
theorem check {c : Prop} [Decidable c] {fail : ReadM Unit} {f : Unit → ReadM β}
    (hfail : c → Ensures r fail E fun _ _ => False) (h : ¬c → Ensures r (f ()) E Q) :
    Ensures r (if c then fail >>= f else f ()) E Q := by
  split
  next hc => exact (hfail hc).bind nofun
  next hc => exact h hc

end Ensures

end

/-- A part of the reader that goes forward in the text, leaves the flags of the whole pattern as they are, and fails
only for broken rules. -/
def Ordinary {α : Type} (m : ReadM α) : Prop :=
  ∀ r, Ensures r m Fault.IsRule fun _ r' => r'.rest <:+ r.rest ∧ r'.flags = r.flags

namespace Ordinary

variable {α β : Type}

theorem pure (a : α) : Ordinary (Pure.pure a) := fun r => .pure ⟨List.suffix_refl r.rest, rfl⟩

theorem throw (reason : Text) (position : Option Nat) : Ordinary (throw (.invalid reason position) : ReadM α) :=
  fun _ => .throw ⟨reason, position, rfl⟩

theorem bind {m : ReadM α} {f : α → ReadM β} (hm : Ordinary m) (hf : ∀ a, Ordinary (f a)) : Ordinary (m >>= f) := by
  intro r
  refine (hm r).bind fun a r' h => (hf a r').mono (fun _ => id) fun b r'' h' => ?_
  exact ⟨h'.1.trans h.1, h'.2.trans h.2⟩

theorem get : Ordinary get := fun r => ⟨List.suffix_refl r.rest, rfl⟩

theorem modify {change : Reading → Reading} (hrest : ∀ r, (change r).rest = r.rest)
    (hflags : ∀ r, (change r).flags = r.flags) : Ordinary (modify change) := by
  intro r
  show (change r).rest <:+ r.rest ∧ (change r).flags = r.flags
  rw [hrest, hflags]
  exact ⟨List.suffix_refl r.rest, rfl⟩

theorem ite {c : Prop} [Decidable c] {m n : ReadM α} (hm : Ordinary m) (hn : Ordinary n) :
    Ordinary (if c then m else n) := by
  split
  · exact hm
  · exact hn

/-- A check before the rest. -/
theorem check {c : Prop} [Decidable c] {fail : ReadM Unit} {f : Unit → ReadM β} (hfail : Ordinary fail)
    (hf : ∀ u, Ordinary (f u)) : Ordinary (if c then fail >>= f else f ()) := .ite (hfail.bind hf) (hf ())

end Ordinary

open ReadM

/-! ## Tokens -/

theorem failBack_ensures {α : Type} {Q : α → Reading → Prop} (r : Reading) (back : Nat) (reason : Text) :
    Ensures r (failBack back reason) Fault.IsRule Q := .get_bind (.throw ⟨_, _, rfl⟩)

theorem failBack_ordinary {α : Type} (back : Nat) (reason : Text) : Ordinary (failBack back reason : ReadM α) :=
  fun r => failBack_ensures r back reason

theorem failAt_ordinary {α : Type} (position : Nat) (reason : String) : Ordinary (failAt position reason : ReadM α) :=
  .throw _ _

theorem peek_ordinary : Ordinary peek := Ordinary.get.bind fun _ => .pure _

/-- A token and what is left make up the text. -/
theorem firstToken_append (t : Text) :
    ((firstToken t).getD []) ++ t.drop ((firstToken t).getD []).length = t := by
  unfold firstToken
  split <;> simp

theorem moveTo_ensures (r : Reading) (rest : Text) (place : Nat) :
    Ensures r (moveTo rest place) Fault.IsRule fun _ r' => r' = { r with rest, place } := by
  unfold moveTo
  split
  · exact .bind (P := fun _ _ => False) (.throw ⟨_, _, rfl⟩) nofun
  · rfl

/-- The token that is taken, and what it leaves. -/
theorem take?_ensures (r : Reading) :
    Ensures r take? Fault.IsRule fun token r' =>
      token = firstToken r.rest ∧ token.getD [] ++ r'.rest = r.rest ∧ r'.flags = r.flags := by
  refine .get_bind (.get_bind ((moveTo_ensures r _ _).bind ?_))
  rintro _ r' rfl
  exact .pure ⟨rfl, firstToken_append r.rest, rfl⟩

theorem take?_ordinary : Ordinary take? := fun r =>
  (take?_ensures r).mono (fun _ => id) fun _ _ ⟨_, hrest, hflags⟩ => ⟨⟨_, hrest⟩, hflags⟩

theorem peek_ensures (r : Reading) :
    Ensures r peek Fault.IsRule fun token r' => token = firstToken r.rest ∧ r' = r := .get_bind (.pure ⟨rfl, rfl⟩)

/-- Either the character is taken, or the reading stays as it is. -/
theorem accept_ensures (c : Char) (r : Reading) :
    Ensures r (accept c) Fault.IsRule fun found r' =>
      (if found then c :: r'.rest = r.rest else r' = r) ∧ r'.flags = r.flags := by
  refine (peek_ensures r).bind ?_
  rintro token r' ⟨rfl, rfl⟩
  split
  next h =>
    refine (take?_ensures r').bind ?_
    rintro token r'' ⟨rfl, hrest, hflags⟩
    rw [h] at hrest
    exact .pure ⟨hrest, hflags⟩
  next => exact .pure ⟨rfl, rfl⟩

theorem accept_ordinary (c : Char) : Ordinary (accept c) :=
  peek_ordinary.bind fun _ => .ite (take?_ordinary.bind fun _ => .pure _) (.pure _)

/-- The characters that are taken pass the test, and they stood in front of what is left. -/
theorem takeWhile_ensures (p : Char → Bool) (most : Nat) : ∀ r,
    Ensures r (takeWhile p most) Fault.IsRule fun taken r' =>
      (∀ c ∈ taken, p c = true) ∧ taken ++ r'.rest = r.rest ∧ r'.flags = r.flags := by
  induction most with
  | zero => exact fun r => .pure ⟨nofun, rfl, rfl⟩
  | succ most ih =>
    intro r
    refine (peek_ensures r).bind ?_
    rintro token r' ⟨rfl, rfl⟩
    split
    next c h =>
      split
      next hc =>
        refine (take?_ensures r').bind ?_
        rintro token r₁ ⟨rfl, hrest, hflags⟩
        rw [h] at hrest
        refine (ih r₁).bind ?_
        rintro taken r₂ ⟨htaken, hrest', hflags'⟩
        refine .pure ⟨List.forall_mem_cons.2 ⟨hc, htaken⟩, ?_, hflags'.trans hflags⟩
        rw [List.cons_append, hrest']
        exact hrest
      next => exact .pure ⟨nofun, rfl, rfl⟩
    next => exact .pure ⟨nofun, rfl, rfl⟩

theorem takeWhile_ordinary (p : Char → Bool) (most : Nat) : Ordinary (takeWhile p most) := fun r =>
  (takeWhile_ensures p most r).mono (fun _ => id) fun _ _ ⟨_, hrest, hflags⟩ => ⟨⟨_, hrest⟩, hflags⟩

theorem takeUntil_ordinary (terminator : Char) (what : String) : Ordinary (takeUntil terminator what) := by
  have hunterminated (taken : Text) : Ordinary (takeUntil.unterminated terminator what taken) :=
    .ite (failBack_ordinary _ _) (failBack_ordinary _ _)
  have hgo (most : Nat) : ∀ taken, Ordinary (takeUntil.go terminator what most taken) := by
    induction most with
    | zero => exact fun taken => take?_ordinary.bind fun _ => hunterminated taken
    | succ most ih =>
      intro taken
      rw [takeUntil.go]
      refine take?_ordinary.bind fun token => ?_
      cases token with
      | none => exact hunterminated taken
      | some token => exact .ite (.ite (failBack_ordinary _ _) (.pure _)) (ih _)
  exact Ordinary.get.bind fun r => hgo _ _

/-! ## Groups -/

theorem closedWidth?_ordinary (index : Nat) : Ordinary (closedWidth? index) := Ordinary.get.bind fun _ => .pure _

theorem openGroup_ordinary (name : Option Text) : Ordinary (openGroup name) := by
  refine fun r => .get_bind ?_
  cases name with
  | none => exact ⟨List.suffix_refl r.rest, rfl⟩
  | some name =>
    dsimp only
    split
    · exact ((failBack_ordinary _ _).bind fun _ => .pure _) r
    · exact ⟨List.suffix_refl r.rest, rfl⟩

theorem closeGroup_ordinary (index : Nat) (width : Nat × Nat) : Ordinary (closeGroup index width) :=
  .modify (fun _ => rfl) fun _ => rfl

theorem checkBehind_ordinary (index : Nat) : Ordinary (checkBehind index) := by
  refine Ordinary.get.bind fun r => ?_
  split
  · exact .pure _
  · exact (closedWidth?_ordinary index).bind fun _ =>
      .check (failBack_ordinary _ _) fun _ => .ite (failBack_ordinary _ _) (.pure _)

/-! ## Escapes -/

theorem nameEscape_ordinary : Ordinary nameEscape := by
  refine (accept_ordinary _).bind fun _ => .check (failBack_ordinary _ _) fun _ =>
    (takeUntil_ordinary _ _).bind fun name => ?_
  split
  · exact .pure _
  · exact failBack_ordinary _ _

theorem octalEscape_ordinary (escape : Text) : Ordinary (octalEscape escape) :=
  .check (failBack_ordinary _ _) fun _ => .pure _

theorem plainEscape_ordinary (c : Char) : Ordinary (plainEscape c) := .ite (failBack_ordinary _ _) (.pure _)

/-- A reference to a group, which must be closed. -/
theorem backref_ordinary (index back : Nat) (reason : Text) (f : Flags) : Ordinary (do
    match ← closedWidth? index with
    | none => failBack back reason
    | some width =>
      checkBehind index
      return Item.other (.backref index f.mode width)) := by
  refine (closedWidth?_ordinary _).bind fun width => ?_
  cases width with
  | none => exact failBack_ordinary _ _
  | some width => exact (checkBehind_ordinary _).bind fun _ => .pure _

theorem numberEscape_ordinary (f : Flags) (c : Char) : Ordinary (numberEscape f c) := by
  refine (takeWhile_ordinary _ _).bind fun second =>
    .ite ((takeWhile_ordinary _ _).bind fun third => .ite ((octalEscape_ordinary _).bind fun _ => .pure _) ?_) ?_
  all_goals
    exact Ordinary.get.bind fun _ => .check (failBack_ordinary _ _) fun _ => backref_ordinary _ _ _ f

/-! ## Repetitions, flags and names -/

theorem readGreed_ordinary : Ordinary readGreed :=
  (accept_ordinary _).bind fun _ => .ite (.pure _) ((accept_ordinary _).bind fun _ => .ite (.pure _) (.pure _))

theorem repeatLast_ordinary (f : Flags) (position : Nat) (bounds : Nat × Option Nat) (items : List Item) :
    Ordinary (repeatLast f position bounds items) := by
  unfold repeatLast
  split
  · exact failAt_ordinary _ _
  · exact failAt_ordinary _ _
  · exact failAt_ordinary _ _
  · exact readGreed_ordinary.bind fun _ => .pure _

theorem readFlagsOff_ordinary (most : Nat) : ∀ f token, Ordinary (readFlagsOff most f token) := by
  induction most with
  | zero => exact fun _ _ => .pure _
  | succ most ih =>
    intro f token
    rw [readFlagsOff]
    refine .check (failBack_ordinary _ _) fun _ => take?_ordinary.bind fun next => ?_
    split
    · exact failBack_ordinary _ _
    · exact .pure _
    · exact .ite (ih _ _) (failBack_ordinary _ _)

theorem checkName_ordinary (name : Text) : Ordinary (checkName name) := .ite (failBack_ordinary _ _) (.pure _)

theorem groupNamed_ordinary (name : Text) : Ordinary (groupNamed name) := by
  refine Ordinary.get.bind fun _ => ?_
  split
  · exact .pure _
  · exact failBack_ordinary _ _

theorem readNamedReference_ordinary (f : Flags) : Ordinary (readNamedReference f) :=
  (takeUntil_ordinary _ _).bind fun name => (checkName_ordinary name).bind fun _ =>
    (groupNamed_ordinary name).bind fun _ => backref_ordinary _ _ _ f

theorem readCondition_ordinary : Ordinary readCondition := by
  have hnumber (name : Text) : Ordinary (readCondition.byNumber name) := by
    unfold readCondition.byNumber
    dsimp only
    split
    · exact failBack_ordinary _ _
    · refine .check (failBack_ordinary _ _) fun _ => .check (failBack_ordinary _ _) fun _ =>
        .check (failBack_ordinary _ _) fun _ => .check (failBack_ordinary _ _) fun _ =>
        (Ordinary.modify (fun r => ?_) fun r => ?_).bind fun _ => .pure _
      · split <;> rfl
      · split <;> rfl
  have hchecked (index : Nat) : Ordinary (do checkBehind index; return index) :=
    (checkBehind_ordinary index).bind fun _ => .pure _
  exact (takeUntil_ordinary _ _).bind fun name =>
    .ite ((groupNamed_ordinary name).bind hchecked) ((hnumber name).bind hchecked)

/-! ## Comments and parentheses -/

theorem skipComment_ordinary (start most : Nat) : Ordinary (skipComment start most) := by
  induction most with
  | zero => exact .pure _
  | succ most ih =>
    exact peek_ordinary.bind fun _ => .check (failAt_ordinary _ _) fun _ =>
      take?_ordinary.bind fun _ => .ite ih (.pure _)

theorem skipLine_ordinary (most : Nat) : Ordinary (skipLine most) := by
  induction most with
  | zero => exact .pure _
  | succ most ih =>
    refine take?_ordinary.bind fun token => ?_
    split
    · exact .pure _
    · exact .pure _
    · exact ih

theorem closeParenthesis_ordinary (start : Nat) : Ordinary (closeParenthesis start) :=
  (accept_ordinary _).bind fun _ => .ite (failAt_ordinary _ _) (.pure _)

end ScriptEval.Pattern
