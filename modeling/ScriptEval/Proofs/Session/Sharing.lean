import ScriptEval.Proofs.Session.Reports

/-!
# Which contexts share a registry

On one host contexts are made, functions are registered through them, and they are worked with, in any order
(`Session.Event`, `Session.afterAll`). A ledger keeps of this the facts that contexts were made with, and who
registered what (`Ledger`). It tells what every registry holds: a registration reaches the context that it was made
through and, if that one is on the facts of the host, all others that are, too (`Ledger.reaches`).

A session follows the ledger of what happened (`Session.Follows`): every event keeps this (`Follows.after`), so that it
holds after any (`follows_ofEvents`). `registrations_shared` reads off what registrations do to lookups and calls, in
other contexts and outside of all.
-/

namespace ScriptEval

namespace Session

/-! ## Events -/

/-- What happens on a host. -/
inductive Event
  /-- A context is made. -/
  | create (platform : Option Platform) (options : Options) (collected : List Text)
  /-- A function is registered through a context. -/
  | register (i : Nat) (f : Function)
  /-- Something else is done with a context: a call, a directive, a report. -/
  | step (i : Nat) (step : Step)
  /-- A function is called outside of all contexts. -/
  | callShared (name : Text) (args : List Value)

/-- The session after an event. -/
def after (s : Session) : Event → Session
  | .create platform options collected => s.addContext platform options collected
  | .register i f => s.register i f
  | .step i step => (s.step i step).1
  | .callShared _ _ => s

/-- The session after events, one after the other. -/
def afterAll (s : Session) (events : List Event) : Session := events.foldl after s

/-- Whether an event is something else than a registration through a context that is not admitted. -/
def Event.isAdmitted (admitted : Nat → Bool) : Event → Bool
  | .register i _ => admitted i
  | _ => true

end Session

/-! ## The ledger -/

/-- What contexts were made with, in their order, and what was registered, each function with the number of the
context that it was registered through. -/
structure Ledger where
  facts : List (Option Platform) := []
  registrations : List (Nat × Function) := []

namespace Ledger

open Session (Event)

/-- The ledger after an event. Nothing can be registered through a context that is not there yet. -/
def enter (l : Ledger) : Event → Ledger
  | .create platform _ _ => { l with facts := l.facts ++ [platform] }
  | .register i f => if i < l.facts.length then { l with registrations := l.registrations ++ [(i, f)] } else l
  | .step _ _ => l
  | .callShared _ _ => l

def ofEvents (events : List Event) : Ledger := events.foldl enter {}

/-- Whether a context was made without facts, or with those of the host. -/
def onHost (l : Ledger) (host : Platform) (i : Nat) : Bool := (l.facts[i]?).any fun platform => platform.all (· = host)

/-- Whether a registration through context `i` is one for context `j`. -/
def reaches (l : Ledger) (host : Platform) (i j : Nat) : Bool := i == j || (l.onHost host i && l.onHost host j)

/-- The functions registered through certain contexts. -/
def through (l : Ledger) (who : Nat → Bool) : List Function := (l.registrations.filter (who ·.1)).map (·.2)

/-- The registry of all contexts on the facts of the host. -/
def shared (l : Ledger) (world : World) : Registry :=
  .ofList (Functions.standard (world.services world.platform) ++ l.through (l.onHost world.platform))

/-- The registry of a context: the standard functions for its facts, and those whose registrations reach it. -/
def registry (l : Ledger) (world : World) (platform : Option Platform) (j : Nat) : Registry :=
  .ofList (Functions.standard (world.services (platform.getD world.platform)) ++
    l.through (l.reaches world.platform · j))

theorem ofEvents_concat (events : List Event) (e : Event) : ofEvents (events ++ [e]) = (ofEvents events).enter e := by
  rw [ofEvents, List.foldl_append]
  rfl

theorem through_concat (l : Ledger) (who : Nat → Bool) (i : Nat) (f : Function) :
    ({ l with registrations := l.registrations ++ [(i, f)] } : Ledger).through who =
      if who i then l.through who ++ [f] else l.through who := by
  rw [through, List.filter_append]
  cases h : who i with
  | true => simp [h, through]
  | false => simp [h, through]

theorem through_congr {l l' : Ledger} (h : l.registrations = l'.registrations) {who who' : Nat → Bool}
    (hwho : ∀ r ∈ l.registrations, who r.1 = who' r.1) : l.through who = l'.through who' := by
  rw [through, through, ← h, List.filter_congr hwho]

/-- Facts that are absent or those of the host. -/
theorem onHost_iff {l : Ledger} {host : Platform} {i : Nat} {platform : Option Platform}
    (h : l.facts[i]? = some platform) : l.onHost host i = true ↔ platform.getD host = host := by
  rw [onHost, h]
  cases platform <;> simp

theorem exists_facts_of_onHost {l : Ledger} {host : Platform} {i : Nat} (h : l.onHost host i = true) :
    ∃ platform, l.facts[i]? = some platform := by
  cases hfacts : l.facts[i]? with
  | none => rw [onHost, hfacts] at h; cases h
  | some platform => exact ⟨platform, rfl⟩

/-- To the contexts on the facts of the host comes what any of them registers. -/
theorem reaches_of_onHost {l : Ledger} {host : Platform} {j : Nat} (h : l.onHost host j = true) (i : Nat) :
    l.reaches host i j = l.onHost host i := by
  rw [reaches, h, Bool.and_true]
  by_cases hij : i = j
  · rw [hij, h, Bool.or_true]
  · rw [beq_eq_false_iff_ne.2 hij, Bool.false_or]

/-- To other contexts comes what they register themselves. -/
theorem reaches_of_not_onHost {l : Ledger} {host : Platform} {j : Nat} (h : l.onHost host j = false) (i : Nat) :
    l.reaches host i j = (i == j) := by
  rw [reaches, h, Bool.and_false, Bool.or_false]

theorem registry_of_onHost {l : Ledger} {world : World} {j : Nat} {platform : Option Platform}
    (hfacts : l.facts[j]? = some platform) (h : l.onHost world.platform j = true) :
    l.registry world platform j = l.shared world := by
  rw [registry, shared, (onHost_iff hfacts).1 h, through_congr rfl fun r _ => reaches_of_onHost h r.1]

/-- A context that no registration reaches has the standard functions only. -/
theorem registry_of_unreached {l : Ledger} {world : World} {platform : Option Platform} {j : Nat}
    (h : ∀ r ∈ l.registrations, l.reaches world.platform r.1 j = false) :
    l.registry world platform j = .standard (world.services (platform.getD world.platform)) := by
  have hnone : l.through (l.reaches world.platform · j) = [] := by
    rw [through, List.map_eq_nil_iff, List.filter_eq_nil_iff]
    exact fun r hr => Bool.eq_false_iff.1 (h r hr)
  rw [registry, hnone, List.append_nil]
  rfl

/-- The ledger without the registrations through contexts that are not admitted. -/
def restrict (l : Ledger) (admitted : Nat → Bool) : Ledger :=
  { l with registrations := l.registrations.filter (admitted ·.1) }

theorem restrict_enter (l : Ledger) (admitted : Nat → Bool) (e : Event) :
    (l.enter e).restrict admitted =
      if e.isAdmitted admitted then (l.restrict admitted).enter e else l.restrict admitted := by
  cases e with
  | create platform options collected => rfl
  | step i step => rfl
  | callShared name args => rfl
  | register i f =>
    by_cases hi : i < l.facts.length <;> cases h : admitted i <;> simp [enter, restrict, Event.isAdmitted, hi, h]

/-- Without some events of registration the ledger is without these registrations. -/
theorem ofEvents_filter (admitted : Nat → Bool) (events : List Event) :
    ofEvents (events.filter (Event.isAdmitted admitted)) = (ofEvents events).restrict admitted := by
  induction events using List.reverseRecOn with
  | nil => rfl
  | append_singleton events e ih =>
    rw [List.filter_append, ofEvents_concat, restrict_enter, ← ih]
    cases h : e.isAdmitted admitted with
    | true => rw [List.filter_singleton, h, cond_true, ofEvents_concat, if_pos rfl]
    | false => simp [h]

/-- The shared registry is the same without what is registered through contexts on other facts. -/
theorem shared_restrict (l : Ledger) (world : World) :
    (l.restrict (l.onHost world.platform)).shared world = l.shared world := by
  have h : (l.restrict (l.onHost world.platform)).through (l.onHost world.platform) =
      l.through (l.onHost world.platform) := by simp [through, restrict, List.filter_filter]
  rw [shared, shared, ← h]
  rfl

/-! ### Entries, one by one -/

/-- Registrations are through contexts that are there. -/
def Known (l : Ledger) : Prop := ∀ r ∈ l.registrations, r.1 < l.facts.length

theorem Known.enter {l : Ledger} (h : l.Known) (e : Event) : (l.enter e).Known := by
  cases e with
  | create platform options collected =>
    intro r hr
    show r.1 < (l.facts ++ [platform]).length
    rw [List.length_append]
    exact Nat.lt_add_right _ (h r hr)
  | step i step => exact h
  | callShared name args => exact h
  | register i f =>
    rw [Ledger.enter]
    split
    next hi =>
      intro r hr
      rcases List.mem_append.1 hr with hr | hr
      · exact h r hr
      · rw [List.mem_singleton.1 hr]
        exact hi
    next => exact h

section Create

variable {l : Ledger} (platform : Option Platform) (options : Options) (collected : List Text)

theorem onHost_create {i : Nat} (hi : i < l.facts.length) (host : Platform) :
    (l.enter (.create platform options collected)).onHost host i = l.onHost host i := by
  rw [onHost, onHost]
  exact congrArg _ (List.getElem?_append_left hi)

theorem onHost_created (host : Platform) :
    (l.enter (.create platform options collected)).onHost host l.facts.length = true ↔ platform.getD host = host :=
  onHost_iff List.getElem?_concat_length

theorem registrations_create : (l.enter (.create platform options collected)).registrations = l.registrations := rfl

/-- One more context changes nothing for the shared registry. -/
theorem shared_create (h : l.Known) (world : World) :
    (l.enter (.create platform options collected)).shared world = l.shared world := by
  rw [shared, shared]
  congr 2
  exact through_congr (registrations_create ..) fun r hr => onHost_create _ _ _ (h r hr) _

/-- Nor does it for the contexts that are there. -/
theorem registry_create (h : l.Known) {j : Nat} (hj : j < l.facts.length) (world : World) (own : Option Platform) :
    (l.enter (.create platform options collected)).registry world own j = l.registry world own j := by
  rw [registry, registry]
  congr 2
  apply through_congr (registrations_create ..)
  intro r hr
  rw [reaches, reaches, onHost_create _ _ _ (h r hr), onHost_create _ _ _ hj]

/-- A new context on facts of its own has the standard functions for them. -/
theorem registry_created (h : l.Known) {world : World} (hplatform : platform.getD world.platform ≠ world.platform) :
    (l.enter (.create platform options collected)).registry world platform l.facts.length =
      .standard (world.services (platform.getD world.platform)) := by
  have hhost : (l.enter (.create platform options collected)).onHost world.platform l.facts.length = false :=
    Bool.eq_false_iff.2 fun hon => hplatform ((onHost_created _ _ _ _).1 hon)
  apply registry_of_unreached
  intro r hr
  rw [reaches_of_not_onHost hhost, beq_eq_false_iff_ne]
  exact Nat.ne_of_lt (h r hr)

end Create

section Register

variable {l : Ledger} {i : Nat} (hi : i < l.facts.length) (f : Function)
include hi

theorem enter_register : l.enter (.register i f) = { l with registrations := l.registrations ++ [(i, f)] } := if_pos hi

theorem facts_register : (l.enter (.register i f)).facts = l.facts := by rw [enter_register hi]

theorem onHost_register (host : Platform) (j : Nat) : (l.enter (.register i f)).onHost host j = l.onHost host j := by
  rw [onHost, onHost, facts_register hi]

/-- The shared registry gets what is registered through a context on the facts of the host. -/
theorem shared_register (world : World) :
    (l.enter (.register i f)).shared world =
      if l.onHost world.platform i then (l.shared world).register f else l.shared world := by
  rw [enter_register hi, shared]
  show Registry.ofList (_ ++ Ledger.through _ (l.onHost world.platform)) = _
  rw [through_concat]
  split
  · rw [← List.append_assoc, Registry.ofList_concat, shared]
  · rfl

/-- The registry of a context gets what reaches the context. -/
theorem registry_register (world : World) (platform : Option Platform) (j : Nat) :
    (l.enter (.register i f)).registry world platform j =
      if l.reaches world.platform i j then (l.registry world platform j).register f
      else l.registry world platform j := by
  rw [enter_register hi, registry]
  show Registry.ofList (_ ++ Ledger.through _ (l.reaches world.platform · j)) = _
  rw [through_concat]
  split
  · rw [← List.append_assoc, Registry.ofList_concat, registry]
  · rfl

/-- What a name finds in the shared registry then. -/
theorem find?_shared_register (world : World) (name : Text) :
    ((l.enter (.register i f)).shared world).find? name =
      if l.onHost world.platform i ∧ f.AnswersTo name then some f else (l.shared world).find? name := by
  rw [shared_register hi]
  cases l.onHost world.platform i with
  | true => rw [if_pos rfl, shared, Registry.find?_register (Registry.ownersRegistered_ofList _)]; simp
  | false => simp

/-- What a name finds in the registry of a context then. -/
theorem find?_registry_register (world : World) (platform : Option Platform) (j : Nat) (name : Text) :
    ((l.enter (.register i f)).registry world platform j).find? name =
      if l.reaches world.platform i j ∧ f.AnswersTo name then some f
      else (l.registry world platform j).find? name := by
  rw [registry_register hi]
  cases l.reaches world.platform i j with
  | true => rw [if_pos rfl, registry, Registry.find?_register (Registry.ownersRegistered_ofList _)]; simp
  | false => simp

end Register

end Ledger

/-! ## Sessions and their ledgers -/

namespace Session

/-- A session on a host in which happened what the ledger tells. -/
structure Follows (s : Session) (world : World) (l : Ledger) : Prop where
  known : l.Known
  world_eq : s.world = world
  shared_eq : s.shared = l.shared world
  length_eq : s.members.length = l.facts.length
  member : ∀ j m, s.members[j]? = some m → ∃ platform, l.facts[j]? = some platform ∧
    m.context.platform = platform.getD world.platform ∧
    m.registry = if l.onHost world.platform j then none else some (l.registry world platform j)

theorem follows_start (world : World) : (start world).Follows world {} where
  known := nofun
  world_eq := rfl
  shared_eq := by
    rw [Ledger.shared]
    show _ = Registry.ofList (_ ++ [])
    rw [List.append_nil]
    rfl
  length_eq := rfl
  member := nofun

theorem Follows.addContext {s : Session} {world : World} {l : Ledger} (h : s.Follows world l)
    (platform : Option Platform) (options : Options) (collected : List Text) :
    (s.addContext platform options collected).Follows world (l.enter (.create platform options collected)) where
  known := h.known.enter _
  world_eq := h.world_eq
  shared_eq := h.shared_eq.trans (Ledger.shared_create _ _ _ h.known world).symm
  length_eq := by
    show (s.members ++ [_]).length = (l.facts ++ [_]).length
    rw [List.length_append, List.length_append, h.length_eq]
    rfl
  member j m hm := by
    obtain ⟨shared_eq⟩ := h.world_eq
    change (s.members ++ [_])[j]? = some m at hm
    by_cases hj : j < s.members.length
    · rw [List.getElem?_append_left hj] at hm
      obtain ⟨own, hown, hplatform, hregistry⟩ := h.member j m hm
      rw [h.length_eq] at hj
      refine ⟨own, (List.getElem?_append_left hj).trans hown, hplatform, ?_⟩
      rw [hregistry, Ledger.onHost_create _ _ _ hj, Ledger.registry_create _ _ _ h.known hj]
    · have hlength : j = s.members.length := by
        have := (List.getElem?_eq_some_iff.1 hm).1
        rw [List.length_append, List.length_singleton] at this
        omega
      subst hlength
      rw [List.getElem?_concat_length] at hm
      cases hm
      refine ⟨platform, by rw [h.length_eq]; exact List.getElem?_concat_length, rfl, ?_⟩
      show registryFor s.world (platform.getD s.world.platform) = _
      rw [registryFor, h.length_eq]
      by_cases hplatform : platform.getD s.world.platform = s.world.platform
      · rw [if_pos hplatform, if_pos ((Ledger.onHost_created _ _ _ _).2 hplatform)]
      · rw [if_neg hplatform, if_neg fun hon => hplatform ((Ledger.onHost_created _ _ _ _).1 hon),
          Ledger.registry_created _ _ _ h.known hplatform]

theorem register_absent {s : Session} {i : Nat} (h : s.members[i]? = none) (f : Function) : s.register i f = s := by
  rw [register, h]

theorem register_shared {s : Session} {i : Nat} {m : Member} (h : s.members[i]? = some m) (hm : m.registry = none)
    (f : Function) : s.register i f = { s with shared := s.shared.register f } := by
  obtain ⟨context, registry⟩ := m
  subst hm
  rw [register, h]

theorem register_own {s : Session} {i : Nat} {m : Member} {r : Registry} (h : s.members[i]? = some m)
    (hm : m.registry = some r) (f : Function) :
    s.register i f =
      { s with members := s.members.modify i fun m => { m with registry := some (r.register f) } } := by
  obtain ⟨context, registry⟩ := m
  subst hm
  rw [register, h]

section Register

variable {s : Session} {world : World} {l : Ledger} (h : s.Follows world l) {i : Nat} (hi : i < l.facts.length)
  (f : Function)
include h hi

/-- A registration through a context on the facts of the host. -/
theorem Follows.registerShared (hhost : l.onHost world.platform i = true) :
    Follows { s with shared := s.shared.register f } world (l.enter (.register i f)) where
  known := h.known.enter _
  world_eq := h.world_eq
  shared_eq := by rw [Ledger.shared_register hi, hhost, if_pos rfl, ← h.shared_eq]
  length_eq := by rw [Ledger.facts_register hi]; exact h.length_eq
  member j m hm := by
    obtain ⟨platform, hfacts, hplatform, hregistry⟩ := h.member j m hm
    refine ⟨platform, by rw [Ledger.facts_register hi]; exact hfacts, hplatform, ?_⟩
    rw [hregistry, Ledger.onHost_register hi, Ledger.registry_register hi]
    cases hhostj : l.onHost world.platform j with
    | true => rfl
    | false =>
      have hij : (i == j) = false := beq_eq_false_iff_ne.2 fun e => by rw [e, hhostj] at hhost; cases hhost
      rw [Ledger.reaches_of_not_onHost hhostj, hij]
      rfl

/-- A registration through a context on other facts. -/
theorem Follows.registerOwn {platform : Option Platform} (hfacts : l.facts[i]? = some platform)
    (hhost : l.onHost world.platform i = false) :
    Follows { s with members := s.members.modify i fun m =>
      { m with registry := some ((l.registry world platform i).register f) } } world (l.enter (.register i f)) where
  known := h.known.enter _
  world_eq := h.world_eq
  shared_eq := by rw [Ledger.shared_register hi, hhost]; exact h.shared_eq
  length_eq := by rw [Ledger.facts_register hi]; exact (List.length_modify ..).trans h.length_eq
  member j m hm := by
    change (s.members.modify i _)[j]? = some m at hm
    rw [List.getElem?_modify] at hm
    obtain ⟨m', hm', rfl⟩ := Option.map_eq_some_iff.1 hm
    obtain ⟨own, hown, hplatform, hregistry⟩ := h.member j m' hm'
    refine ⟨own, by rw [Ledger.facts_register hi]; exact hown, by split <;> exact hplatform, ?_⟩
    rw [Ledger.onHost_register hi, Ledger.registry_register hi]
    split
    next hij =>
      subst hij
      obtain rfl := Option.some.inj (hfacts.symm.trans hown)
      rw [hhost, Ledger.reaches_of_not_onHost hhost, beq_self_eq_true]
      rfl
    next hij =>
      have hreaches : l.reaches world.platform i j = false := by
        rw [Ledger.reaches, hhost, Bool.false_and, Bool.or_false]
        exact beq_eq_false_iff_ne.2 hij
      rw [hregistry, hreaches]
      rfl

end Register

theorem Follows.register {s : Session} {world : World} {l : Ledger} (h : s.Follows world l) (i : Nat) (f : Function) :
    (s.register i f).Follows world (l.enter (.register i f)) := by
  cases hm : s.members[i]? with
  | none =>
    have hi : ¬i < l.facts.length := by
      rw [← h.length_eq]
      exact Nat.not_lt.2 (List.getElem?_eq_none_iff.1 hm)
    rwa [register_absent hm, Ledger.enter, if_neg hi]
  | some m =>
    obtain ⟨platform, hfacts, -, hregistry⟩ := h.member i m hm
    have hi : i < l.facts.length := (List.getElem?_eq_some_iff.1 hfacts).1
    cases hhost : l.onHost world.platform i with
    | true =>
      rw [hhost, if_pos rfl] at hregistry
      rw [register_shared hm hregistry]
      exact h.registerShared hi f hhost
    | false =>
      rw [hhost, if_neg Bool.false_ne_true] at hregistry
      rw [register_own hm hregistry]
      exact h.registerOwn hi f hfacts hhost

/-- A context that is changed, but not in its facts. -/
theorem Follows.setContext {s : Session} {world : World} {l : Ledger} (h : s.Follows world l) {i : Nat} {c : Context}
    (hc : c.platform = (s.context i).platform) : (s.setContext i c).Follows world l where
  known := h.known
  world_eq := h.world_eq
  shared_eq := h.shared_eq
  length_eq := (List.length_modify ..).trans h.length_eq
  member j m hm := by
    change (s.members.modify i _)[j]? = some m at hm
    rw [List.getElem?_modify] at hm
    obtain ⟨m', hm', rfl⟩ := Option.map_eq_some_iff.1 hm
    obtain ⟨platform, hfacts, hplatform, hregistry⟩ := h.member j m' hm'
    refine ⟨platform, hfacts, ?_, by split <;> exact hregistry⟩
    split
    next hij =>
      subst hij
      rw [context, hm'] at hc
      exact hc.trans hplatform
    next => exact hplatform

theorem Follows.step {s : Session} {world : World} {l : Ledger} (h : s.Follows world l) (i : Nat) (step : Step) :
    (s.step i step).1.Follows world l := by
  cases step with
  | isActive directive => exact h.setContext rfl
  | call name args => exact h
  | referenced => exact h
  | unused => exact h
  | addFeatures names => exact h.setContext rfl

/-- **One event**, on the host and in the ledger. -/
theorem Follows.after {s : Session} {world : World} {l : Ledger} (h : s.Follows world l) (e : Event) :
    (s.after e).Follows world (l.enter e) := by
  cases e with
  | create platform options collected => exact h.addContext platform options collected
  | register i f => exact h.register i f
  | step i step => exact h.step i step
  | callShared name args => exact h

/-- **Any events**: the session follows the ledger of them. -/
theorem follows_ofEvents (world : World) (events : List Event) :
    ((start world).afterAll events).Follows world (Ledger.ofEvents events) := by
  induction events using List.reverseRecOn with
  | nil => exact follows_start world
  | append_singleton events e ih =>
    rw [Ledger.ofEvents_concat, afterAll, List.foldl_append]
    exact ih.after e

/-- The member that the ledger tells of. -/
theorem Follows.exists_member {s : Session} {world : World} {l : Ledger} (h : s.Follows world l) {j : Nat}
    {platform : Option Platform} (hfacts : l.facts[j]? = some platform) :
    ∃ m, s.members[j]? = some m ∧ m.context.platform = platform.getD world.platform ∧
      m.registry = if l.onHost world.platform j then none else some (l.registry world platform j) := by
  have hj : j < s.members.length := by rw [h.length_eq]; exact (List.getElem?_eq_some_iff.1 hfacts).1
  obtain ⟨own, hown, hmember⟩ := h.member j _ (List.getElem?_eq_getElem hj)
  obtain rfl := Option.some.inj (hfacts.symm.trans hown)
  exact ⟨_, List.getElem?_eq_getElem hj, hmember⟩

/-- What a context works with: the registry that the ledger tells. -/
theorem Follows.registry_eq {s : Session} {world : World} {l : Ledger} (h : s.Follows world l) {j : Nat}
    {platform : Option Platform} (hfacts : l.facts[j]? = some platform) :
    s.registry j = l.registry world platform j := by
  obtain ⟨m, hm, -, hregistry⟩ := h.exists_member hfacts
  rw [registry, hm, Option.bind_some, hregistry]
  cases hhost : l.onHost world.platform j with
  | true => rw [if_pos rfl, Option.getD_none, h.shared_eq, Ledger.registry_of_onHost hfacts hhost]
  | false => rw [if_neg Bool.false_ne_true, Option.getD_some]

/-- The facts that a context works with: those that it was made with, or else those of the host. -/
theorem Follows.context_platform {s : Session} {world : World} {l : Ledger} (h : s.Follows world l) {j : Nat}
    {platform : Option Platform} (hfacts : l.facts[j]? = some platform) :
    (s.context j).platform = platform.getD world.platform := by
  obtain ⟨m, hm, hplatform, -⟩ := h.exists_member hfacts
  rw [context, hm]
  exact hplatform

/-- **Who sees what is registered.** After any events the registry of a context holds the standard functions for its
facts and what was registered through it; and if it was made without facts or with those of the host, what was
registered through any context of which this holds as well. The shared registry holds the latter.

So one more function, registered through a context, is found by the names that it answers to in that context, and in
another one, or outside of all, exactly if both share the registry; all other lookups stay as they were. A context on
the facts of the host answers every call as it is answered outside of all contexts, and these answers are the same
without the registrations through contexts on other facts. -/
theorem registrations_shared (world : World) (events : List Event) :
    let s := (start world).afterAll events
    let l := Ledger.ofEvents events
    let onHost := l.onHost world.platform
    (s.shared = l.shared world ∧
        ∀ j platform, l.facts[j]? = some platform → s.registry j = l.registry world platform j) ∧
      (∀ i < l.facts.length, ∀ f name,
        (s.register i f).shared.find? name = (if onHost i ∧ f.AnswersTo name then some f else s.shared.find? name) ∧
        ∀ j < l.facts.length, ((s.register i f).registry j).find? name =
          if (i = j ∨ onHost i ∧ onHost j) ∧ f.AnswersTo name then some f else (s.registry j).find? name) ∧
      (∀ j, onHost j → ∀ name args, s.call j name args = s.callShared name args) ∧
      ∀ name args, s.callShared name args =
        ((start world).afterAll (events.filter (Event.isAdmitted onHost))).callShared name args := by
  intro s l onHost
  have h : s.Follows world l := follows_ofEvents world events
  refine ⟨⟨h.shared_eq, fun j platform => h.registry_eq⟩, ?_, ?_, ?_⟩
  · intro i hi f name
    have h' := h.register i f
    rw [h'.shared_eq, h.shared_eq]
    refine ⟨Ledger.find?_shared_register hi f world name, fun j hj => ?_⟩
    have hfacts := List.getElem?_eq_getElem hj
    have hfacts' : (l.enter (.register i f)).facts[j]? = some l.facts[j] := by rw [Ledger.facts_register hi, hfacts]
    rw [h'.registry_eq hfacts', h.registry_eq hfacts, Ledger.find?_registry_register hi]
    simp [Ledger.reaches, onHost]
  · intro j hj name args
    obtain ⟨platform, hfacts⟩ := Ledger.exists_facts_of_onHost hj
    rw [call, callShared, h.registry_eq hfacts, h.shared_eq, Ledger.registry_of_onHost hfacts hj]
  · intro name args
    have hadmitted := follows_ofEvents world (events.filter (Event.isAdmitted onHost))
    rw [Ledger.ofEvents_filter] at hadmitted
    rw [callShared, callShared, h.world_eq, h.shared_eq, hadmitted.world_eq, hadmitted.shared_eq,
      Ledger.shared_restrict]

/-- A context without facts, one on facts of its own and one on those of the host: what the last registers the first
finds, and nobody what the second registers. -/
theorem registrations_shared_three :
    let world : World := {}
    let f : Function := { name := "probe".toList, run := Outcome.ofArguments fun _ => .ok (.int 1) }
    let s := (start world).afterAll
      [.create none {} [], .create (some { os := "windows".toList }) {} [], .create (some world.platform) {} []]
    ((s.register 2 f).registry 0).find? "Probe".toList = some f ∧
      ((s.register 2 f).registry 1).find? "Probe".toList = (s.registry 1).find? "Probe".toList ∧
      ((s.register 1 f).registry 0).find? "Probe".toList = (s.registry 0).find? "Probe".toList ∧
      (s.register 1 f).shared.find? "Probe".toList = s.shared.find? "Probe".toList ∧
      s.call 0 f.name [] = s.callShared f.name [] := by
  intro world f s
  obtain ⟨-, hregister, hcall, -⟩ := registrations_shared world
    [.create none {} [], .create (some { os := "windows".toList }) {} [], .create (some world.platform) {} []]
  refine ⟨?_, ?_, ?_, ?_, hcall 0 (by decide) _ _⟩
  · exact ((hregister 2 (by decide) f _).2 0 (by decide)).trans (if_pos (by decide +kernel))
  · exact ((hregister 2 (by decide) f _).2 1 (by decide)).trans (if_neg (by decide +kernel))
  · exact ((hregister 1 (by decide) f _).2 0 (by decide)).trans (if_neg (by decide +kernel))
  · exact (hregister 1 (by decide) f _).1.trans (if_neg (by decide +kernel))

end Session

end ScriptEval
