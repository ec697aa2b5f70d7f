import ScriptEval.Proofs.Pattern.Sound

/-!
# Limits of patterns

Reading a pattern can fail in another way than for a broken rule, but only if its text goes beyond a limit: it has a
bound of a repetition that is too large or too long, the number of a character that is too large, or it asks for the
classes both of ASCII and of Unicode (`Node.read_eq_error`).

Every part of the reader is sound; for the grammar it goes by induction on the bound of its recursion (`soundAt`).
-/

namespace ScriptEval.Pattern

open ReadM

variable {t : Text}

/-! ## Bounds of repetitions -/

theorem readBound_sound {digits : Text} (h : IsBound t digits) : Sound t (readBound digits) :=
  .ite (.pure _) (.check (fun hlength => .throw (Or.inr (.tooManyDigits h hlength))) fun _ =>
    .check (fun hlarge => .throw (Or.inr (.repetitionTooLarge h hlarge))) fun _ => .pure _)

/-- All digits after a brace or a comma are a bound. -/
theorem takeAll_ensures {sign : Char} (hsign : sign = '\x7b' ∨ sign = ',') {r : Reading} (hr : Within t r)
    (hrest : sign :: r.rest <:+ t) :
    Ensures r (takeAll Char.isDigit) Fault.IsRule fun digits r' => IsBound t digits ∧ Within t r' := by
  refine .get_bind ((takeWhile_ensures _ _ r).mono (fun _ => id) ?_)
  rintro digits r' ⟨hdigits, happend, hflags⟩
  have hinfix : sign :: digits <:+: t := by
    rw [← happend, ← List.cons_append] at hrest
    exact (List.prefix_append _ _).isInfix.trans hrest.isInfix
  refine ⟨⟨hdigits, ?_⟩, hr.after happend hflags⟩
  rcases hsign with rfl | rfl
  · exact Or.inl hinfix
  · exact Or.inr hinfix

/-- Bounds are read after a brace. -/
theorem readBounds?_ensures {r : Reading} (hr : Within t r) (hbrace : '\x7b' :: r.rest <:+ t) :
    Ensures r readBounds? (FaultOf t) fun _ r' => Within t r' := by
  have hclose (low high : Text) (hlow : IsBound t low) (hhigh : IsBound t high) : Sound t (do
      if !(← accept '\x7d') then
        moveTo r.rest r.place
        return none
      let least := (← readBound low).getD 0
      let most ← readBound high
      if most.any (· < least) then failAt r.place "min repeat greater than max repeat"
      return some (least, most)) := by
    refine (accept_ordinary _).sound.bind fun closed => .ite (fun r' hr' => (moveTo_ensures r' _ _).bind_rule ?_) ?_
    · rintro _ r'' rfl
      exact .pure (hr'.of_flags hr.rest rfl)
    · exact (readBound_sound hlow).bind fun least => (readBound_sound hhigh).bind fun most =>
        .check (fun _ => (failAt_ordinary _ _).sound) fun _ => .pure _
  refine .get_bind ((peek_ensures r).bind_rule ?_)
  rintro token r' ⟨rfl, rfl⟩
  split
  next => exact .pure hr
  next =>
    refine (takeAll_ensures (Or.inl rfl) hr hbrace).bind_rule ?_
    rintro low r₁ ⟨hlow, hr₁⟩
    refine (accept_ensures ',' r₁).bind_rule ?_
    rintro found r₂ ⟨hfound, hflags⟩
    cases found with
    | false =>
      obtain rfl : r₂ = r₁ := hfound
      exact hclose low low hlow hlow r₂ hr₁
    | true =>
      have happend : [','] ++ r₂.rest = r₁.rest := hfound
      have hr₂ : Within t r₂ := hr₁.after happend hflags
      have hcomma : [','] ++ r₂.rest <:+ t := happend ▸ hr₁.rest
      refine (takeAll_ensures (Or.inr rfl) hr₂ hcomma).bind_rule ?_
      rintro high r₃ ⟨hhigh, hr₃⟩
      exact hclose low high hlow hhigh r₃ hr₃

theorem readQuantifier?_ensures {c : Char} (hc : c = '*' ∨ c = '+' ∨ c = '?' ∨ c = '\x7b') {r : Reading}
    (hr : Within t r) (hrest : c :: r.rest <:+ t) :
    Ensures r (readQuantifier? c) (FaultOf t) fun _ r' => Within t r' := by
  rcases hc with rfl | rfl | rfl | rfl
  · exact .pure hr
  · exact .pure hr
  · exact .pure hr
  · exact readBounds?_ensures hr hrest

/-! ## Flags -/

theorem FlagsOf.none : FlagsOf t {} := ⟨nofun, nofun⟩

theorem FlagsOf.union {f g : Flags} (hf : FlagsOf t f) (hg : FlagsOf t g) : FlagsOf t (f.union g) := by
  constructor
  · intro h
    exact (Bool.or_eq_true_iff.1 h).elim hf.ascii hg.ascii
  · intro h
    exact (Bool.or_eq_true_iff.1 h).elim hf.unicode hg.unicode

/-- The flag of a letter is that of the letter alone. -/
theorem flag?_ascii {c : Char} (h : ((flag? c).getD {}).ascii = true) : c = 'a' := by
  unfold flag? at h
  split at h <;> first | rfl | cases h

theorem flag?_unicode {c : Char} (h : ((flag? c).getD {}).unicode = true) : c = 'u' := by
  unfold flag? at h
  split at h <;> first | rfl | cases h

theorem flagsOf_letter {letters rest : Text} {c : Char} (hletters : ∀ l ∈ letters, isFlagLetter [l] = true)
    (h : ['(', '?'] ++ letters ++ c :: rest <:+ t) : FlagsOf t ((flag? c).getD {}) := by
  have hinfix : ['(', '?'] ++ letters ++ [c] <:+: t := by
    rw [List.append_cons] at h
    exact (List.prefix_append _ _).isInfix.trans h.isInfix
  refine ⟨fun hascii => ?_, fun hunicode => ?_⟩
  · obtain rfl := flag?_ascii hascii
    exact ⟨letters, hletters, hinfix⟩
  · obtain rfl := flag?_unicode hunicode
    exact ⟨letters, hletters, hinfix⟩

/-- The letters so far stand behind the start of the group; `token` is the next. -/
theorem readFlagsOn_ensures (most : Nat) : ∀ {f : Flags} {letters token : Text} {r : Reading}, FlagsOf t f →
    (∀ l ∈ letters, isFlagLetter [l] = true) → isFlagLetter token = true →
    ['(', '?'] ++ letters ++ token ++ r.rest <:+ t →
    Ensures r (readFlagsOn most f token) Fault.IsRule fun on r' =>
      FlagsOf t on.1 ∧ r'.rest <:+ r.rest ∧ r'.flags = r.flags := by
  induction most with
  | zero => exact fun hf _ _ _ => .pure ⟨hf, List.suffix_refl _, rfl⟩
  | succ most ih =>
    intro f letters token r hf hletters htoken hrest
    obtain ⟨c, rfl⟩ : ∃ c, token = [c] := by
      unfold isFlagLetter at htoken
      split at htoken
      next c => exact ⟨c, rfl⟩
      next => cases htoken
    rw [List.append_assoc] at hrest
    have hnext : FlagsOf t (f.union ((flag? c).getD {})) := hf.union (flagsOf_letter hletters hrest)
    have hletters' : ∀ l ∈ letters ++ [c], isFlagLetter [l] = true := by
      intro l hl
      rcases List.mem_append.1 hl with hl | hl
      · exact hletters l hl
      · rwa [List.mem_singleton.1 hl]
    rw [readFlagsOn]
    refine .check (fun _ => failBack_ensures _ _ _) fun _ => .check (fun _ => failBack_ensures _ _ _) fun _ =>
      (take?_ensures r).bind ?_
    rintro next r' ⟨rfl, happend, hflags⟩
    have hsuffix : r'.rest <:+ r.rest := ⟨_, happend⟩
    split
    next => exact failBack_ensures _ _ _
    next => exact .pure ⟨hnext, hsuffix, hflags⟩
    next => exact .pure ⟨hnext, hsuffix, hflags⟩
    next => exact .pure ⟨hnext, hsuffix, hflags⟩
    next token hnexttoken =>
      split
      next htoken' =>
        refine (ih hnext hletters' htoken' ?_).mono (fun _ => id) ?_
        · rw [hnexttoken] at happend
          simpa [← happend] using hrest
        · rintro on r'' ⟨hon, hrest', hflags'⟩
          exact ⟨hon, hrest'.trans hsuffix, hflags'.trans hflags⟩
      next => exact failBack_ensures _ _ _

/-- Flags of the whole pattern are added to those that it has. -/
theorem readFlags_ensures {token : Text} {r : Reading} (hr : Within t r)
    (htoken : isFlagLetter token = true ∨ token = ['-']) (hrest : ['(', '?'] ++ token ++ r.rest <:+ t) :
    Ensures r (readFlags token) (FaultOf t) fun _ r' => Within t r' := by
  refine .get_bind (.ite_bind (P := fun on r' => FlagsOf t on.1 ∧ Within t r') ?_ ?_ ?_)
  · exact fun _ => .pure ⟨.none, hr⟩
  · intro hminus
    have hletter := htoken.resolve_right hminus
    refine (readFlagsOn_ensures _ .none (List.forall_mem_nil _) hletter hrest).mono (fun _ => Or.inl) ?_
    rintro on r' ⟨hon, hrest', hflags⟩
    exact ⟨hon, hr.of_flags (hrest'.trans hr.rest) hflags⟩
  · rintro ⟨on, ending⟩ r' ⟨hon, hr'⟩
    dsimp only
    split
    · exact .modify_bind (.pure ⟨hr'.rest, hr'.flags.union hon⟩)
    · -- The flags to turn off are of no account.
      refine Ordinary.sound (.check (failBack_ordinary _ _) fun _ => .ite ?_ ?_) r' hr'
      · refine take?_ordinary.bind fun next => ?_
        split
        · refine (failBack_ordinary _ _).bind ?_
          exact fun _ => .check (failBack_ordinary _ _) fun _ => .check (failBack_ordinary _ _) fun _ => .pure _
        · refine .ite ((readFlagsOff_ordinary _ _ _).bind ?_) ((failBack_ordinary _ _).bind ?_)
          · exact fun _ => .check (failBack_ordinary _ _) fun _ => .check (failBack_ordinary _ _) fun _ => .pure _
          · exact fun _ => .check (failBack_ordinary _ _) fun _ => .check (failBack_ordinary _ _) fun _ => .pure _
      · refine (Ordinary.pure _).bind ?_
        exact fun _ => .check (failBack_ordinary _ _) fun _ => .check (failBack_ordinary _ _) fun _ => .pure _

/-! ## The grammar -/

/-- The parts of the grammar are sound, up to a bound of the recursion. -/
structure SoundAt (t : Text) (bound : Nat) : Prop where
  alternatives : ∀ outermost f before, Sound t (readAlternatives outermost f bound before)
  sequence : ∀ atStart f items, Sound t (readSequence atStart f bound items)
  parenthesis : ∀ admitted f start r, Within t r → '(' :: r.rest <:+ t →
    Ensures r (readParenthesis admitted f start bound) (FaultOf t) fun _ r' => Within t r'
  group : ∀ kind f start, Sound t (readGroup kind f start bound)

section

variable {bound : Nat}

theorem readAlternatives_sound (h : SoundAt t bound) (outermost : Bool) (f : Flags) (before : List Node) :
    Sound t (readAlternatives outermost f (bound + 1) before) := by
  rw [readAlternatives]
  exact Sound.get.bind fun _ => (h.sequence _ _ _).bind fun n => (accept_ordinary _).sound.bind fun _ =>
    .ite (h.alternatives _ _ _) (.pure _)

theorem readGroup_sound (h : SoundAt t bound) (kind : GroupKind) (f : Flags) (start : Nat) :
    Sound t (readGroup kind f start (bound + 1)) := by
  have hclosed : Sound t (closeParenthesis start) := (closeParenthesis_ordinary start).sound
  cases kind with
  | capture name =>
    rw [readGroup]
    exact (openGroup_ordinary name).sound.bind fun index => (h.alternatives _ _ _).bind fun body =>
      hclosed.bind fun _ => (closeGroup_ordinary _ _).sound.bind fun _ => .pure _
  | plain on off =>
    rw [readGroup]
    exact (h.alternatives _ _ _).bind fun body => hclosed.bind fun _ => .pure _
  | atomic =>
    rw [readGroup]
    exact (h.alternatives _ _ _).bind fun body => hclosed.bind fun _ => .pure _

/-- A token of more than one character is an escape, and that has two. -/
theorem eq_nil_of_firstToken {c : Char} {more rest : Text} (h : firstToken rest = some (c :: more)) :
    more = [] ∨ c = '\\' ∧ ∃ d, more = [d] := by
  unfold firstToken at h
  split at h
  next => cases h
  next d _ =>
    cases h
    exact Or.inr ⟨rfl, d, rfl⟩
  next =>
    cases h
    exact Or.inl rfl

theorem readSequence_sound (h : SoundAt t bound) (atStart : Bool) (f : Flags) (items : List Item) :
    Sound t (readSequence atStart f (bound + 1) items) := by
  intro r hr
  rw [readSequence]
  refine .get_bind ((peek_ensures r).bind_rule ?_)
  rintro token r' ⟨rfl, rfl⟩
  split
  next => exact .pure hr
  next => exact .pure hr
  next => exact .pure hr
  next => exact .pure hr
  next c more _ _ htoken =>
    refine (take?_within hr).bind_rule ?_
    rintro token r₁ ⟨rfl, hrest, hr₁⟩
    rw [htoken] at hrest
    have hmore := eq_nil_of_firstToken htoken
    have hsign (hc : c ≠ '\\') : c :: r₁.rest <:+ t := by
      obtain rfl : more = [] := hmore.resolve_right fun h => hc h.1
      exact hrest
    split
    next => exact h.sequence _ _ _ r₁ hr₁
    next =>
      split
      next =>
        exact (Sound.get.bind fun _ => (skipLine_ordinary _).sound.bind fun _ => h.sequence _ _ _) r₁ hr₁
      next =>
        split
        case h_1 =>
          refine (readEscape_ensures f hr₁ fun hc => ?_).bind fun _ => h.sequence _ _ _
          rcases hmore with rfl | ⟨-, d, rfl⟩
          · cases hc
          · obtain rfl : d = 'U' := hc
            exact hrest
        case h_2 => exact ((readSet_sound f).bind fun _ => h.sequence _ _ _) r₁ hr₁
        case h_3 | h_4 | h_5 | h_6 =>
          refine (readQuantifier?_ensures (by simp) hr₁ (hsign (by decide))).bind ?_
          intro bounds r₂ hr₂
          cases bounds with
          | none => exact h.sequence _ _ _ r₂ hr₂
          | some bounds => exact ((repeatLast_ordinary f _ bounds items).sound.bind fun _ => h.sequence _ _ _) r₂ hr₂
        case h_10 =>
          refine (h.parenthesis _ _ _ r₁ hr₁ (hsign (by decide))).bind ?_
          intro item r₂ hr₂
          cases item with
          | some item => exact h.sequence _ _ _ r₂ hr₂
          | none => exact (Sound.get.bind fun _ => h.sequence _ _ _) r₂ hr₂
        all_goals exact h.sequence _ _ _ r₁ hr₁

theorem takeOption_ensures (r : Reading) :
    Ensures r takeOption Fault.IsRule fun token r' => token ++ r'.rest = r.rest ∧ r'.flags = r.flags := by
  refine (take?_ensures r).bind ?_
  rintro token r' ⟨-, happend, hflags⟩
  cases token with
  | some token => exact .pure ⟨happend, hflags⟩
  | none => exact failBack_ensures _ _ _

theorem takeOption_ordinary : Ordinary takeOption := fun r =>
  (takeOption_ensures r).mono (fun _ => id) fun _ _ ⟨hrest, hflags⟩ => ⟨⟨_, hrest⟩, hflags⟩

theorem readParenthesis_ensures (h : SoundAt t bound) (admitted : Bool) (f : Flags) (start : Nat) {r : Reading}
    (hr : Within t r) (hrest : '(' :: r.rest <:+ t) :
    Ensures r (readParenthesis admitted f start (bound + 1)) (FaultOf t) fun _ r' => Within t r' := by
  have hgroup (kind : GroupKind) : Sound t (do return some (← readGroup kind f start bound)) :=
    (h.group kind f start).bind fun _ => .pure _
  have hbody (node : Node → Item) : Sound t (do
      let body ← readAlternatives false f bound []
      closeParenthesis start
      return some (node body)) :=
    (h.alternatives _ _ _).bind fun _ => (closeParenthesis_ordinary start).sound.bind fun _ => .pure _
  rw [readParenthesis]
  refine (accept_ensures '?' r).bind_rule ?_
  rintro found r₁ ⟨hfound, hflags⟩
  cases found with
  | false =>
    obtain rfl : r₁ = r := hfound
    exact hgroup _ r₁ hr
  | true =>
    have hmark : ['?'] ++ r₁.rest = r.rest := hfound
    have hr₁ : Within t r₁ := hr.after hmark hflags
    refine (takeOption_ensures r₁).bind_rule ?_
    rintro token r₂ ⟨happend, hflags₂⟩
    have hr₂ : Within t r₂ := hr₁.after happend hflags₂
    have hoptions : ['(', '?'] ++ token ++ r₂.rest <:+ t := by
      rw [← hmark, ← happend] at hrest
      exact hrest
    split
    case h_1 =>
      refine ((accept_ordinary '<').sound.bind fun named => .ite ?_ ?_) r₂ hr₂
      · exact (takeUntil_ordinary _ _).sound.bind fun name => (checkName_ordinary name).sound.bind fun _ => hgroup _
      · exact Ordinary.sound ((accept_ordinary '=').bind fun _ =>
          .ite ((readNamedReference_ordinary f).bind fun _ => .pure _)
            (takeOption_ordinary.bind fun _ => failBack_ordinary _ _))
    case h_2 => exact hgroup _ r₂ hr₂
    case h_3 => exact hgroup _ r₂ hr₂
    case h_4 => exact (Ordinary.get.bind fun _ => (skipComment_ordinary _ _).bind fun _ => .pure _).sound r₂ hr₂
    case h_5 => exact hbody _ r₂ hr₂
    case h_6 => exact hbody _ r₂ hr₂
    case h_7 =>
      refine (takeOption_ordinary.sound.bind fun _ =>
        .check (fun _ => (failBack_ordinary _ _).sound) fun _ => ?_) r₂ hr₂
      refine Sound.get.bind fun _ => (Sound.modify ?_ ?_).bind fun _ => (h.alternatives _ _ _).bind fun _ =>
        (Sound.modify ?_ ?_).bind fun _ => (closeParenthesis_ordinary start).sound.bind fun _ => .pure _
      all_goals exact fun _ => rfl
    case h_8 =>
      have hclose (index : Nat) (yes no : Node) : Sound t (do
          if (← peek) = some ['|'] then failBack 0 "conditional backref with more than two branches".toList
          closeParenthesis start
          return some (Item.other (.conditional index yes no))) :=
        (peek_ordinary.bind fun _ => .check (failBack_ordinary _ _) fun _ =>
          (closeParenthesis_ordinary start).bind fun _ => .pure _).sound
      exact (readCondition_ordinary.sound.bind fun index => (h.sequence _ _ _).bind fun yes =>
        (accept_ordinary _).sound.bind fun _ =>
          .ite ((h.sequence _ _ _).bind fun no => hclose index yes no) (hclose index yes .empty)) r₂ hr₂
    case h_9 =>
      split
      next hflag =>
        refine (readFlags_ensures hr₂ hflag hoptions).bind ?_
        intro flags r₃ hr₃
        cases flags with
        | some flags => exact hgroup _ r₃ hr₃
        | none => exact (Ordinary.check (failAt_ordinary _ _) fun _ => .pure _).sound r₃ hr₃
      next => exact (failBack_ordinary _ _).sound r₂ hr₂

end

/-- By induction on the bound: the parts of the grammar are as good as those that they are made of. -/
theorem soundAt (t : Text) (bound : Nat) : SoundAt t bound := by
  induction bound with
  | zero =>
    refine ⟨fun _ _ _ => ?_, fun _ _ _ => ?_, fun _ _ _ r hr _ => ?_, fun kind _ _ => ?_⟩
    · rw [readAlternatives]
      exact .pure _
    · rw [readSequence]
      exact .pure _
    · rw [readParenthesis]
      exact .pure hr
    · rw [readGroup]
      exact .pure _
  | succ bound ih =>
    exact ⟨readAlternatives_sound ih, readSequence_sound ih,
      fun admitted f start _ => readParenthesis_ensures ih admitted f start, readGroup_sound ih⟩

/-! ## Patterns -/

/-- Only flags of the text can conflict. -/
theorem checkWhole_sound : Sound t checkWhole := by
  intro r hr
  refine .get_bind ?_
  refine Sound.check (fun hflags => .throw (Or.inr ?_))
    (fun _ => Ordinary.sound (.check (failBack_ordinary _ _) fun _ => ?_)) r hr
  · obtain ⟨hascii, hunicode⟩ := Bool.and_eq_true_iff.1 hflags
    exact .conflictingFlags (hr.flags.ascii hascii) (hr.flags.unicode hunicode)
  · split
    · exact .throw _ _
    · exact .pure _

/-- What no text could be matched with breaks a rule. -/
theorem Node.check_isRule {n : Node} {fault : Fault} (h : n.check = .error fault) : fault.IsRule := by
  have hboth (a b : Node) (ha : a.check = .error fault → fault.IsRule) (hb : b.check = .error fault → fault.IsRule)
      (hab : (do a.check; b.check) = .error fault) : fault.IsRule := by
    cases hcheck : a.check with
    | ok u => exact hb (by rwa [hcheck] at hab)
    | error why =>
      rw [hcheck] at hab
      exact ha (hcheck.trans hab)
  induction n with
  | empty | test t | anchor a | backref index mode width => cases h
  | seq a b iha ihb => exact hboth a b iha ihb h
  | alt a b iha ihb => exact hboth a b iha ihb h
  | conditional index a b iha ihb => exact hboth a b iha ihb h
  | group index body ih => exact ih h
  | atomic body ih => exact ih h
  | lookAhead negated body ih => exact ih h
  | «repeat» least most greed plain body ih =>
    unfold Node.check at h
    split at h
    · cases h
      exact ⟨_, _, rfl⟩
    · exact ih h
  | lookBehind negated width body ih =>
    rw [Node.check] at h
    split at h
    · cases h
      exact ⟨_, _, rfl⟩
    · split at h
      · cases h
        exact ⟨_, _, rfl⟩
      · exact ih h

/-- A text fails to be a pattern because it breaks a rule, or because it goes beyond a limit. -/
theorem Node.read_eq_error {fault : Fault} (h : Node.read t = .error fault) : FaultOf t fault := by
  have hwhole : Sound t (do
      moveTo t 0
      let n ← readAlternatives true {} (4 * t.length + 8) []
      checkWhole
      return n) := by
    refine Sound.bind (fun r hr => ?_) fun _ => ((soundAt t _).alternatives _ _ _).bind fun n =>
      checkWhole_sound.bind fun _ => .pure _
    refine (moveTo_ensures r t 0).mono (fun _ => Or.inl) ?_
    rintro _ r' rfl
    exact hr.of_flags (List.suffix_refl t) rfl
  have hread := hwhole { rest := t } ⟨List.suffix_refl t, .none⟩
  unfold Ensures at hread
  split at hread
  next n r' hrun =>
    simp only [Node.read, StateT.run, hrun] at h
    change (n.check >>= fun _ => Pure.pure n) = .error fault at h
    cases hcheck : n.check with
    | ok _ => rw [hcheck] at h; cases h
    | error why =>
      rw [hcheck] at h
      cases h
      exact Or.inl (Node.check_isRule hcheck)
  next why hrun =>
    simp only [Node.read, StateT.run, hrun] at h
    cases h
    exact hread

example : Node.read "a\x7b,4294967295\x7d".toList = .error .repetitionTooLarge := by decide +kernel

example : Node.read "[a\\U80000000]".toList = .error .characterTooLarge := by decide +kernel

example : Node.read "(?a)(?iu)b".toList = .error .conflictingFlags := by decide +kernel

end ScriptEval.Pattern
