import ScriptEval.Proofs.Failure.Results
import ScriptEval.Runtime

/-!
# Data without a text

A datum has no text only if there is an integer in it with more digits than a text may have (`Data.HoldsLong`), or if
the runtime cannot write data nested so deeply (`Runtime.write_eq_error`). The induction goes through a datum as writing
it does, lists and entries being written one part after the other.
-/

namespace ScriptEval

namespace Data

/-- A datum with an integer of too many digits in it. -/
inductive HoldsLong : Data → Prop
  | int {n : Int} (h : digitLimit < (Text.ofNat n.natAbs).length) : HoldsLong (.int n)
  | inList {items : List Data} {d : Data} (hmem : d ∈ items) (h : HoldsLong d) : HoldsLong (.list items)
  | inTuple {items : List Data} {d : Data} (hmem : d ∈ items) (h : HoldsLong d) : HoldsLong (.tuple items)
  | inSet {members : List Data} {d : Data} (hmem : d ∈ members) (h : HoldsLong d) : HoldsLong (.set members)
  | key {entries : List (Data × Data)} {entry : Data × Data} (hmem : entry ∈ entries) (h : HoldsLong entry.1) :
      HoldsLong (.mapping entries)
  | value {entries : List (Data × Data)} {entry : Data × Data} (hmem : entry ∈ entries) (h : HoldsLong entry.2) :
      HoldsLong (.mapping entries)
  | inKnot {id : Nat} {content : Data} (h : HoldsLong content) : HoldsLong (.knot id content)

variable {why : NumberFault}

theorem eq_tooLong_of_ofInt? {n : Int} (h : Text.ofInt? n = .error why) :
    why = .tooLong ∧ digitLimit < (Text.ofNat n.natAbs).length := by
  rw [Text.ofInt?] at h
  split at h
  next hlong => exact ⟨(Except.error.inj h).symm, hlong⟩
  next => cases h

mutual

theorem holdsLong_of_writtenIn (outer : List Nat) :
    (d : Data) → writtenIn outer d = .error why → why = .tooLong ∧ HoldsLong d
  | .null, h | .bool _, h | .float _, h | .text _, h | .bytes _, h | .date _, h | .moment _, h | .set [], h
  | .again .., h => by
    rw [writtenIn] at h
    cases h
  | .int n, h => by
    rw [writtenIn] at h
    exact ⟨(eq_tooLong_of_ofInt? h).1, .int (eq_tooLong_of_ofInt? h).2⟩
  | .list items, h => by
    rw [writtenIn] at h
    obtain ⟨hwhy, d, hmem, hd⟩ := holdsLong_of_writtenAll outer items (eq_error_of_bind_pure h)
    exact ⟨hwhy, .inList hmem hd⟩
  | .tuple [item], h => by
    rw [writtenIn] at h
    obtain ⟨hwhy, hitem⟩ := holdsLong_of_writtenIn outer item (eq_error_of_bind_pure h)
    exact ⟨hwhy, .inTuple (.head _) hitem⟩
  | .tuple [], h => by
    rw [writtenIn] at h
    · cases h
    · simp
  | .tuple (d :: d' :: ds), h => by
    rw [writtenIn] at h
    · obtain ⟨hwhy, d, hmem, hd⟩ := holdsLong_of_writtenAll outer (d :: d' :: ds) (eq_error_of_bind_pure h)
      exact ⟨hwhy, .inTuple hmem hd⟩
    · simp
  | .mapping entries, h => by
    rw [writtenIn] at h
    obtain ⟨hwhy, entry, hmem, hentry⟩ := holdsLong_of_writtenEntries outer entries (eq_error_of_bind_pure h)
    exact ⟨hwhy, hentry.elim (.key hmem) (.value hmem)⟩
  | .set (d :: ds), h => by
    rw [writtenIn] at h
    · obtain ⟨hwhy, d, hmem, hd⟩ := holdsLong_of_writtenAll outer (d :: ds) (eq_error_of_bind_pure h)
      exact ⟨hwhy, .inSet hmem hd⟩
    · simp
  | .knot id content, h => by
    rw [writtenIn] at h
    split at h
    · cases h
    · obtain ⟨hwhy, hcontent⟩ := holdsLong_of_writtenIn (id :: outer) content h
      exact ⟨hwhy, .inKnot hcontent⟩

theorem holdsLong_of_writtenAll (outer : List Nat) :
    (ds : List Data) → writtenAll outer ds = .error why → why = .tooLong ∧ ∃ d ∈ ds, HoldsLong d
  | [], h => by cases h
  | d :: ds, h => by
    rw [writtenAll] at h
    rcases eq_error_or_of_bind h with hd | ⟨t, -, hrest⟩
    · obtain ⟨hwhy, hlong⟩ := holdsLong_of_writtenIn outer d hd
      exact ⟨hwhy, d, .head _, hlong⟩
    · obtain ⟨hwhy, d', hmem, hlong⟩ := holdsLong_of_writtenAll outer ds (eq_error_of_bind_pure hrest)
      exact ⟨hwhy, d', .tail _ hmem, hlong⟩

theorem holdsLong_of_writtenEntries (outer : List Nat) :
    (entries : List (Data × Data)) → writtenEntries outer entries = .error why →
      why = .tooLong ∧ ∃ entry ∈ entries, HoldsLong entry.1 ∨ HoldsLong entry.2
  | [], h => by cases h
  | (key, value) :: entries, h => by
    rw [writtenEntries] at h
    rcases eq_error_or_of_bind h with hkey | ⟨_, -, hvalue⟩
    · obtain ⟨hwhy, hlong⟩ := holdsLong_of_writtenIn outer key hkey
      exact ⟨hwhy, _, .head _, Or.inl hlong⟩
    · rcases eq_error_or_of_bind hvalue with hvalue | ⟨_, -, hrest⟩
      · obtain ⟨hwhy, hlong⟩ := holdsLong_of_writtenIn outer value hvalue
        exact ⟨hwhy, _, .head _, Or.inr hlong⟩
      · obtain ⟨hwhy, entry, hmem, hlong⟩ := holdsLong_of_writtenEntries outer entries (eq_error_of_bind_pure hrest)
        exact ⟨hwhy, entry, .tail _ hmem, hlong⟩

end

end Data

/-- Data that are nested too deeply for the runtime, or have too long an integer in them. -/
theorem Runtime.write_eq_error {r : Runtime} {d : Data} {why : Failure} (h : r.write d = .error why) :
    (∃ detail, r.dataTooDeep d = some detail ∧ why = .tooDeep detail) ∨ d.HoldsLong ∧ why = .number .tooLong := by
  rw [write] at h
  split at h
  next detail hdeep => exact Or.inl ⟨detail, hdeep, (Except.error.inj h).symm⟩
  next =>
    cases hwritten : d.written with
    | ok t => rw [hwritten] at h; cases h
    | error fault =>
      rw [hwritten] at h
      obtain ⟨rfl, hlong⟩ := Data.holdsLong_of_writtenIn [] d hwritten
      exact Or.inr ⟨hlong, (Except.error.inj h).symm⟩

end ScriptEval
