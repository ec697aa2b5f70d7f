import ScriptEval.Limits
import ScriptEval.Proofs.Pattern.Ordinary
import Mathlib.Data.List.Infix

/-!
# Readings of a text

What is left to read of a text is always an end of it, and the flags of the whole pattern that matter for its limits
were turned on somewhere in it (`Within`). A part of the reader is `Sound` if it keeps this, and fails only where the text
breaks a rule or goes beyond a limit (`FaultOf`). Ordinary parts are sound, and so are escapes and sets: the number of a
character in an escape is too large only if it takes eight digits.
-/

namespace ScriptEval.Pattern

open ReadM

/-! ## Limits in a text -/

/-- A group of flags in the text turns on the flag of a letter. -/
def TurnsOn (t : Text) (c : Char) : Prop :=
  ∃ letters : Text, (∀ l ∈ letters, isFlagLetter [l] = true) ∧ ['(', '?'] ++ letters ++ [c] <:+: t

/-- Digits in the text that stand where a bound of a repetition does: after a brace or after a comma. -/
structure IsBound (t digits : Text) : Prop where
  isDigit : ∀ c ∈ digits, c.isDigit = true
  place : '\x7b' :: digits <:+: t ∨ ',' :: digits <:+: t

/-- Hexadecimal digits in the text that stand where the number of any character does, which takes eight of them. -/
structure IsCharacterNumber (t digits : Text) : Prop where
  isDigit : ∀ c ∈ digits, isHexDigit c = true
  length : digits.length = 8
  place : ['\\', 'U'] ++ digits <:+: t

/-- The text goes beyond a limit of patterns, with the fault that this may be. -/
inductive ExceedsLimit (t : Text) : Fault → Prop
  | tooManyDigits {digits : Text} (h : IsBound t digits) (hlength : digitLimit < digits.length) :
      ExceedsLimit t (.tooManyDigits digits.length)
  | repetitionTooLarge {digits : Text} (h : IsBound t digits) (hlarge : repetitionLimit ≤ digits.toNat) :
      ExceedsLimit t .repetitionTooLarge
  | characterTooLarge {digits : Text} (h : IsCharacterNumber t digits) (hlarge : characterLimit ≤ hexNumber digits) :
      ExceedsLimit t .characterTooLarge
  | conflictingFlags (hascii : TurnsOn t 'a') (hunicode : TurnsOn t 'u') : ExceedsLimit t .conflictingFlags

/-- The faults that the text may have. -/
def FaultOf (t : Text) (fault : Fault) : Prop := fault.IsRule ∨ ExceedsLimit t fault

/-- The flags that conflict come from the text. -/
structure FlagsOf (t : Text) (f : Flags) : Prop where
  ascii : f.ascii = true → TurnsOn t 'a'
  unicode : f.unicode = true → TurnsOn t 'u'

/-- A reading of the text: what is left is its end, and the flags of the whole pattern come from it. -/
structure Within (t : Text) (r : Reading) : Prop where
  rest : r.rest <:+ t
  flags : FlagsOf t r.flags

variable {t : Text}

theorem Within.of_flags {r r' : Reading} (h : Within t r) (hrest : r'.rest <:+ t) (hflags : r'.flags = r.flags) :
    Within t r' := ⟨hrest, hflags ▸ h.flags⟩

/-- What stood in front has been taken. -/
theorem Within.after {r r' : Reading} {taken : Text} (h : Within t r) (hrest : taken ++ r'.rest = r.rest)
    (hflags : r'.flags = r.flags) : Within t r' := by
  have hsuffix : r'.rest <:+ r.rest := ⟨taken, hrest⟩
  exact h.of_flags (hsuffix.trans h.rest) hflags

section

variable {α β : Type}

/-- A part of the reader that, in any reading of the text, keeps to it and fails as the text may. -/
def Sound (t : Text) (m : ReadM α) : Prop := ∀ r, Within t r → Ensures r m (FaultOf t) fun _ r' => Within t r'

theorem Ordinary.sound {m : ReadM α} (h : Ordinary m) : Sound t m := fun r hr =>
  (h r).mono (fun _ => Or.inl) fun _ _ ⟨hrest, hflags⟩ => hr.of_flags (hrest.trans hr.rest) hflags

theorem Sound.bind {m : ReadM α} {f : α → ReadM β} (hm : Sound t m) (hf : ∀ a, Sound t (f a)) : Sound t (m >>= f) :=
  fun r hr => (hm r hr).bind fun a r' hr' => hf a r' hr'

theorem Sound.pure (a : α) : Sound t (Pure.pure a) := (Ordinary.pure a).sound

theorem Sound.get : Sound t get := Ordinary.get.sound

theorem Sound.modify {change : Reading → Reading} (hrest : ∀ r, (change r).rest = r.rest)
    (hflags : ∀ r, (change r).flags = r.flags) : Sound t (modify change) := (Ordinary.modify hrest hflags).sound

theorem Sound.throw {fault : Fault} (h : FaultOf t fault) : Sound t (throw fault : ReadM α) := fun _ _ => .throw h

theorem Sound.ite {c : Prop} [Decidable c] {m n : ReadM α} (hm : Sound t m) (hn : Sound t n) :
    Sound t (if c then m else n) := by
  split
  · exact hm
  · exact hn

/-- A check before the rest. -/
theorem Sound.check {c : Prop} [Decidable c] {fail : ReadM Unit} {f : Unit → ReadM β} (hfail : c → Sound t fail)
    (hf : ∀ u, Sound t (f u)) : Sound t (if c then fail >>= f else f ()) := by
  split
  next h => exact (hfail h).bind hf
  next => exact hf ()

/-- A step that fails only for broken rules, before the rest. -/
theorem Ensures.bind_rule {r : Reading} {m : ReadM α} {f : α → ReadM β} {P : α → Reading → Prop}
    {Q : β → Reading → Prop} (hm : Ensures r m Fault.IsRule P)
    (hf : ∀ a r', P a r' → Ensures r' (f a) (FaultOf t) Q) : Ensures r (m >>= f) (FaultOf t) Q :=
  (hm.mono (fun _ => Or.inl) fun _ _ => id).bind hf

end


/-- The token that is taken stands in the text, in front of what is left. -/
theorem take?_within {r : Reading} (hr : Within t r) :
    Ensures r take? Fault.IsRule fun token r' =>
      token = firstToken r.rest ∧ token.getD [] ++ r'.rest <:+ t ∧ Within t r' := by
  refine (take?_ensures r).mono (fun _ => id) ?_
  rintro token r' ⟨htoken, happend, hflags⟩
  exact ⟨htoken, happend ▸ hr.rest, hr.after happend hflags⟩

/-! ## Escapes -/

theorem hexDigit_lt {c : Char} (h : isHexDigit c = true) :
    (if c.isDigit then c.toNat - 48 else c.toLower.toNat - 87) < 16 := by
  have hascii : c.toNat < 128 := by
    simp only [isHexDigit, Char.isDigit, Bool.or_eq_true, Bool.and_eq_true, decide_eq_true_eq, Char.le_def,
      UInt32.le_iff_toNat_le] at h
    have hbounds : '9'.val.toNat < 128 ∧ 'f'.val.toNat < 128 ∧ 'F'.val.toNat < 128 := by decide
    show c.val.toNat < 128
    omega
  have hall : ∀ n < 128, isHexDigit (Char.ofNat n) = true →
      (if (Char.ofNat n).isDigit then (Char.ofNat n).toNat - 48 else (Char.ofNat n).toLower.toNat - 87) < 16 := by
    decide +kernel
  have hc := hall c.toNat hascii
  rw [Char.ofNat_toNat] at hc
  exact hc h

/-- Each digit adds a factor to the bound of a number. -/
theorem hexNumber_lt {digits : Text} (h : ∀ c ∈ digits, isHexDigit c = true) :
    hexNumber digits < Nat.pow 16 digits.length := by
  induction digits using List.reverseRecOn with
  | nil => exact Nat.one_pos
  | append_singleton digits c ih =>
    obtain ⟨hdigits, hc⟩ := List.forall_mem_append.1 h
    have hlt := ih hdigits
    have hdigit := hexDigit_lt (hc c (List.mem_singleton_self c))
    have hpow : Nat.pow 16 (digits ++ [c]).length = Nat.pow 16 digits.length * 16 := by
      rw [List.length_append]
      rfl
    rw [hpow, hexNumber, List.foldl_append, ← hexNumber]
    simp only [List.foldl_cons, List.foldl_nil]
    omega

theorem failEscape_ensures {α : Type} {Q : α → Reading → Prop} (r : Reading) (kind : String) (escape : Text) :
    Ensures r (failEscape kind escape) (FaultOf t) Q :=
  (failBack_ensures r escape.length (kind.toList ++ ' ' :: escape)).mono (fun _ => Or.inl) fun _ _ => id

/-- The number of an escape is beyond the limit only if the text is. -/
theorem hexEscape_ensures {start : Text} {count : Nat} {r : Reading} (hr : Within t r)
    (hlimit : ∀ digits, (∀ c ∈ digits, isHexDigit c = true) → digits.length = count → digits <+: r.rest →
      characterLimit ≤ hexNumber digits → ExceedsLimit t .characterTooLarge) :
    Ensures r (hexEscape start count) (FaultOf t) fun _ r' => Within t r' := by
  refine (takeWhile_ensures isHexDigit count r).bind_rule ?_
  rintro digits r' ⟨hdigits, happend, hflags⟩
  refine .check (fun _ => failEscape_ensures _ _ _) fun hlength => ?_
  refine .check (fun hlarge => .throw (Or.inr ?_)) fun _ => .check (fun _ => failEscape_ensures _ _ _) fun _ => ?_
  · exact hlimit digits hdigits (not_not.1 hlength) ⟨r'.rest, happend⟩ hlarge
  · exact .pure (hr.after happend hflags)

/-- Escapes of so few digits are within the limit. -/
theorem hexEscape_sound (start : Text) {count : Nat} (hcount : Nat.pow 16 count ≤ characterLimit) :
    Sound t (hexEscape start count) := by
  refine fun r hr => hexEscape_ensures hr fun digits hdigits hlength _ hlarge => ?_
  have hlt := hexNumber_lt hdigits
  rw [hlength] at hlt
  omega

variable {c : Char} {r : Reading}

theorem commonEscape?_ensures (hr : Within t r) (hrest : c = 'U' → ['\\', 'U'] ++ r.rest <:+ t) :
    Ensures r (commonEscape? c) (FaultOf t) fun _ r' => Within t r' := by
  unfold commonEscape?
  split
  next => exact ((hexEscape_sound _ (by decide)).bind fun _ => .pure _) r hr
  next => exact ((hexEscape_sound _ (by decide)).bind fun _ => .pure _) r hr
  next =>
    refine (hexEscape_ensures hr ?_).bind fun _ r' hr' => .pure hr'
    rintro digits hdigits hlength ⟨after, happend⟩ hlarge
    have hplace := hrest rfl
    rw [← happend, ← List.append_assoc] at hplace
    have hinfix : ['\\', 'U'] ++ digits <:+: t := (List.prefix_append _ _).isInfix.trans hplace.isInfix
    exact .characterTooLarge ⟨hdigits, hlength, hinfix⟩ hlarge
  next => exact (nameEscape_ordinary.bind fun _ => .pure _).sound r hr
  next => exact .pure hr

theorem readEscape_ensures (f : Flags) (hr : Within t r) (hrest : c = 'U' → ['\\', 'U'] ++ r.rest <:+ t) :
    Ensures r (readEscape f c) (FaultOf t) fun _ r' => Within t r' := by
  unfold readEscape
  split
  · exact .pure hr
  · exact .pure hr
  · exact .pure hr
  · exact .pure hr
  · exact ((takeWhile_ordinary _ _).bind fun _ => .pure _).sound r hr
  · split
    · exact .pure hr
    · exact .pure hr
    · refine (commonEscape?_ensures hr hrest).bind fun n r' hr' => ?_
      cases n with
      | some n => exact .pure hr'
      | none =>
        have hother := Ordinary.ite (c := c.isDigit) (numberEscape_ordinary f c)
          ((plainEscape_ordinary c).bind fun n => .pure (Item.other (.test (.char f.mode n false))))
        exact hother.sound r' hr'

/-! ## Sets -/

theorem readSetEscape_ensures (f : Flags) (hr : Within t r) (hrest : c = 'U' → ['\\', 'U'] ++ r.rest <:+ t) :
    Ensures r (readSetEscape f c) (FaultOf t) fun _ r' => Within t r' := by
  unfold readSetEscape
  split
  · exact .pure hr
  · split
    · exact .pure hr
    · exact .pure hr
    · refine (commonEscape?_ensures hr hrest).bind fun n r' hr' => ?_
      cases n with
      | some n => exact .pure hr'
      | none =>
        refine Ordinary.sound ?_ r' hr'
        exact .ite ((takeWhile_ordinary _ _).bind fun _ => (octalEscape_ordinary _).bind fun _ => .pure _)
          (.ite (failBack_ordinary _ _) ((plainEscape_ordinary c).bind fun _ => .pure _))

/-- A token in a set stands in front of what is left. -/
theorem readSetToken_ensures (f : Flags) {token : Text} (hr : Within t r) (hrest : token ++ r.rest <:+ t) :
    Ensures r (readSetToken f token) (FaultOf t) fun _ r' => Within t r' := by
  unfold readSetToken
  split
  next c =>
    refine readSetEscape_ensures f hr ?_
    rintro rfl
    exact hrest
  next => exact .pure hr
  next => exact .pure hr

theorem readSetItems_sound (f : Flags) (start most : Nat) : ∀ items, Sound t (readSetItems f start most items) := by
  induction most with
  | zero => exact fun _ => (failAt_ordinary _ _).sound
  | succ most ih =>
    intro items r hr
    rw [readSetItems]
    refine (take?_within hr).bind_rule ?_
    rintro token r₁ ⟨-, hrest, hr₁⟩
    cases token with
    | none => exact (failAt_ordinary _ _).sound r₁ hr₁
    | some token =>
      dsimp only
      split
      next => exact .pure hr₁
      next =>
        refine (readSetToken_ensures f hr₁ hrest).bind fun first r₂ hr₂ => ?_
        refine ((accept_ordinary '-').sound.bind fun _ => .ite (fun r₃ hr₃ => ?_) (ih _)) r₂ hr₂
        refine (take?_within hr₃).bind_rule ?_
        rintro token r₄ ⟨-, hrest, hr₄⟩
        split
        next => exact (failAt_ordinary _ _).sound r₄ hr₄
        next => exact .pure hr₄
        next =>
          refine (readSetToken_ensures f hr₄ hrest).bind fun last r₅ hr₅ => ?_
          split
          next => exact Sound.ite (failBack_ordinary _ _).sound (ih _) r₅ hr₅
          next => exact (failBack_ordinary _ _).sound r₅ hr₅

theorem readSet_sound (f : Flags) : Sound t (readSet f) := by
  refine Sound.get.bind fun _ => (accept_ordinary _).sound.bind fun _ => Sound.get.bind fun _ =>
    (readSetItems_sound f _ _ _).bind fun items => ?_
  split
  · exact .pure _
  · exact .pure _

end ScriptEval.Pattern
