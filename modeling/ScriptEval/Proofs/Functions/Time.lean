import ScriptEval.Proofs.Calendar.Order
import ScriptEval.Proofs.Functions.Calls

/-!
# Default time stamps

Without arguments `time` writes the date and the time of day with all parts padded to their widths (`returns_time`), so
that the stamps of two moments are in the order of what was read off the clock (`stamp_lt_iff`), and of the moments
themselves if the clocks have one offset. `default_stamps_sort` puts these together.
-/

namespace ScriptEval

namespace Calendar

/-! ## Fields of the default template -/

namespace Template

/-- A field with nothing between the percent sign and the letter. -/
def Field.plain (letter : Char) : Field := { letter := some letter, source := ['%', letter] }

theorem Field.number_plain (letter : Char) (places n : Nat) :
    (Field.plain letter).number places n = Text.ofNatPadded places n := by
  have hsign : ¬(n : Int) < 0 := by omega
  rw [Field.number, Field.plain]
  simp [hsign, Text.ofNatPadded]

theorem read_percent {letter : Char} {rest : Text} (h : readField (letter :: rest) = (.plain letter, rest)) :
    read ('%' :: letter :: rest) = .inr (.plain letter) :: read rest := by
  rw [read, h]
  simp

theorem read_copied {c : Char} {rest : Text} (h : c ≠ '%') : read (c :: rest) = .inl c :: read rest := by
  rw [read]
  simpa using h

theorem read_defaultTemplate :
    read Functions.defaultTemplate =
      [.inr (.plain 'Y'), .inr (.plain 'm'), .inr (.plain 'd'), .inl '-', .inr (.plain 'H'), .inr (.plain 'M'),
        .inr (.plain 'S')] := by
  change read ['%', 'Y', '%', 'm', '%', 'd', '-', '%', 'H', '%', 'M', '%', 'S'] = _
  rw [read_percent rfl, read_percent rfl, read_percent rfl, read_copied (by decide), read_percent rfl,
    read_percent rfl, read_percent rfl, read]

end Template

/-! ## Stamps -/

namespace Moment

/-- The date and the time of day without gaps, and a hyphen between them. -/
def stamp (m : Moment) : Text := Text.placed [4, 2, 2] m.date.parts ++ '-' :: Text.placed [2, 2, 2] m.time.parts

theorem Exists.fits_date {m : Moment} (h : m.Exists) : List.Forall₂ Text.Fits [4, 2, 2] m.date.parts := by
  have hyear := h.date.year_le
  have hmonth := h.date.month_le
  have hday : m.date.day ≤ 31 := by
    refine Nat.le_trans h.date.day_le ?_
    rw [monthLength]
    split
    · split <;> decide
    · split <;> decide
  exact .cons (Text.fits_four (by omega)) (.cons (Text.fits_two (by omega)) (.cons (Text.fits_two (by omega)) .nil))

theorem Exists.fits_time {m : Moment} (h : m.Exists) : List.Forall₂ Text.Fits [2, 2, 2] m.time.parts := by
  have hhour := h.hour_lt
  have hminute := h.minute_lt
  have hsecond := h.second_lt
  exact .cons (Text.fits_two (by omega)) (.cons (Text.fits_two (by omega)) (.cons (Text.fits_two (by omega)) .nil))

theorem Exists.length_stamp {m : Moment} (h : m.Exists) : m.stamp.length = 15 := by
  rw [stamp, List.length_append, List.length_cons, Text.length_placed h.fits_date, Text.length_placed h.fits_time]
  rfl

variable {a b : Moment}

theorem length_date_eq (ha : a.Exists) (hb : b.Exists) :
    (Text.placed [4, 2, 2] a.date.parts).length = (Text.placed [4, 2, 2] b.date.parts).length := by
  rw [Text.length_placed ha.fits_date, Text.length_placed hb.fits_date]

theorem stamp_inj (ha : a.Exists) (hb : b.Exists) : a.stamp = b.stamp ↔ a.reading = b.reading := by
  refine ⟨fun h => ?_, fun h => ?_⟩
  · obtain ⟨hdate, htime⟩ := List.append_inj h (length_date_eq ha hb)
    rw [reading, reading, (Text.placed_inj ha.fits_date hb.fits_date).1 hdate,
      (Text.placed_inj ha.fits_time hb.fits_time).1 (List.tail_eq_of_cons_eq htime)]
  · obtain ⟨hdate, htime⟩ := List.append_inj h rfl
    rw [stamp, stamp, hdate, htime]

/-- **Stamps** are in the order of what was read off the clock. -/
theorem stamp_lt_iff (ha : a.Exists) (hb : b.Exists) : a.stamp < b.stamp ↔ a.reading < b.reading := by
  -- the dates are of one length, so the hyphen stands at the same place and does not decide
  rw [stamp, stamp, Text.append_lt_append_iff (length_date_eq ha hb), Text.placed_lt_iff ha.fits_date hb.fits_date,
    Text.placed_inj ha.fits_date hb.fits_date, List.cons_lt_cons_iff, Text.placed_lt_iff ha.fits_time hb.fits_time,
    reading_lt_iff]
  simp

open Template in
/-- What the default template writes for a year of four digits. -/
theorem render_defaultTemplate {m : Moment} (h : m.Exists) (hyear : 1000 ≤ m.date.year) :
    render Functions.defaultTemplate m = m.stamp := by
  have hfilled : (fillZone m (Functions.defaultTemplate.takeWhile (· != '\x00'))).takeWhile (· != '\x00') =
      Functions.defaultTemplate := rfl
  -- the year is written without zeros in front, so it has to have four digits of its own
  have hfour : 4 ≤ (Text.ofNat m.date.year).length := by
    rw [Text.length_ofNat_of_le (by omega), Text.length_ofNat_of_le (by omega), Text.length_ofNat_of_le (by omega)]
    have := List.length_pos_iff.2 (Text.ofNat_ne_nil (m.date.year / 10 / 10 / 10))
    omega
  have hY : (Field.plain 'Y').write m = Text.ofNatPadded 4 m.date.year := by
    rw [Text.ofNatPadded_of_le hfour, ← Text.ofNatPadded_of_le (Nat.le_trans (by decide : 1 ≤ 4) hfour)]
    exact Field.number_plain 'Y' 1 m.date.year
  have hm : (Field.plain 'm').write m = Text.ofNatPadded 2 m.date.month := Field.number_plain 'm' 2 _
  have hd : (Field.plain 'd').write m = Text.ofNatPadded 2 m.date.day := Field.number_plain 'd' 2 _
  have hH : (Field.plain 'H').write m = Text.ofNatPadded 2 m.time.hour := Field.number_plain 'H' 2 _
  have hM : (Field.plain 'M').write m = Text.ofNatPadded 2 m.time.minute := Field.number_plain 'M' 2 _
  have hS : (Field.plain 'S').write m = Text.ofNatPadded 2 m.time.second := Field.number_plain 'S' 2 _
  simp only [render, hfilled, read_defaultTemplate, List.flatMap_cons, List.flatMap_nil, hY, hm, hd, hH, hM, hS]
  have hstamp : Text.ofNatPadded 4 m.date.year ++ (Text.ofNatPadded 2 m.date.month ++ (Text.ofNatPadded 2 m.date.day ++
      (['-'] ++ (Text.ofNatPadded 2 m.time.hour ++ (Text.ofNatPadded 2 m.time.minute ++
        (Text.ofNatPadded 2 m.time.second ++ [])))))) = m.stamp := by
    simp [stamp, Text.placed, Date.parts, TimeOfDay.parts]
  rw [hstamp, if_pos]
  rw [h.length_stamp]
  decide

end Moment

end Calendar

/-! ## Calls -/

namespace Functions

theorem returns_time (services : Services) (world : World) (h : services.clock.Exists)
    (hyear : 1000 ≤ services.clock.date.year) : Returns services world "time" [] (.text services.clock.stamp) := by
  have hrule : ∃ f ∈ standard services, f.name = "time".toList ∧
      f.run = Outcome.ofArguments (formatTime services.clock) := by
    have htime : ∃ f ∈ time services.clock, f.name = "time".toList ∧
        f.run = Outcome.ofArguments (formatTime services.clock) := ⟨_, .head _, rfl, rfl⟩
    obtain ⟨f, hf, hname, hrun⟩ := htime
    exact ⟨f, by simp only [standard, List.mem_append, hf, true_or, or_true], hname, hrun⟩
  have hmail : ¬(Unicode.lower defaultTemplate = "2822".toList ∨
      Unicode.lower defaultTemplate = "rfc2822".toList) := by
    decide +kernel
  have hinternet : ¬(Unicode.lower defaultTemplate = "3339".toList ∨
      Unicode.lower defaultTemplate = "rfc3339".toList) := by
    decide +kernel
  rw [returns_iff_of_rule hrule, ← Calendar.Moment.render_defaultTemplate h hyear]
  simp only [formatTime, bind, Except.bind, if_neg hmail, if_neg hinternet]
  rfl

/-- **Default time stamps sort by time.** From the year 1000 on, the texts that `time` gives for two readings of a clock
have 15 characters each and are in the order of the readings to the second. If the clocks have one offset, or none is
known, this is the order of the moments. -/
theorem default_stamps_sort (services : Services) (world : World) {a b : Calendar.Moment} (ha : a.check = .ok a)
    (hb : b.check = .ok b) (hyearA : 1000 ≤ a.date.year) (hyearB : 1000 ≤ b.date.year) :
    ∃ s t : Text,
      Returns { services with clock := a } world "time" [] (.text s) ∧
        Returns { services with clock := b } world "time" [] (.text t) ∧ s.length = 15 ∧ t.length = 15 ∧
        (s < t ↔ a.reading < b.reading) ∧ (s = t ↔ a.reading = b.reading) ∧
        (a.zone.map Calendar.Zone.offset = b.zone.map Calendar.Zone.offset →
          (s < t ↔ a.universalSeconds < b.universalSeconds) ∧
            (s = t ↔ a.universalSeconds = b.universalSeconds)) := by
  have hA : a.Exists := Calendar.Moment.exists_of_check ha
  have hB : b.Exists := Calendar.Moment.exists_of_check hb
  have hlt := Calendar.Moment.stamp_lt_iff hA hB
  have heq := Calendar.Moment.stamp_inj hA hB
  refine ⟨a.stamp, b.stamp, returns_time { services with clock := a } world hA hyearA,
    returns_time { services with clock := b } world hB hyearB, hA.length_stamp, hB.length_stamp, hlt, heq,
    fun hzone => ⟨?_, ?_⟩⟩
  · rw [hlt, Calendar.Moment.universalSeconds_lt_iff hA hB hzone]
  · rw [heq, Calendar.Moment.universalSeconds_inj hA hB hzone]

/-- The last second of a year and the first one of the next, an hour east of universal time. -/
theorem default_stamps_sort_midnight :
    let zone : Calendar.Zone := { offset := 3600 }
    let a : Calendar.Moment := { date := ⟨1999, 12, 31⟩, time := ⟨23, 59, 59, 999999⟩, zone }
    let b : Calendar.Moment := { date := ⟨2000, 1, 1⟩, zone := some { zone with name := some "CET".toList } }
    let services := ({} : World).services {}
    a.check = .ok a ∧ b.check = .ok b ∧ 1000 ≤ a.date.year ∧ 1000 ≤ b.date.year ∧
      a.zone.map Calendar.Zone.offset = b.zone.map Calendar.Zone.offset ∧
      ∃ s t : Text,
        Returns { services with clock := a } {} "time" [] (.text s) ∧
          Returns { services with clock := b } {} "time" [] (.text t) ∧ s < t ∧
          a.universalSeconds < b.universalSeconds := by
  intro zone a b services
  have ha : a.check = .ok a := rfl
  have hb : b.check = .ok b := rfl
  have hyearA : 1000 ≤ a.date.year := by decide
  have hyearB : 1000 ≤ b.date.year := by decide
  have hzone : a.zone.map Calendar.Zone.offset = b.zone.map Calendar.Zone.offset := rfl
  obtain ⟨s, t, hs, ht, -, -, hlt, -, hmoments⟩ := default_stamps_sort services {} ha hb hyearA hyearB
  have hsorted : s < t := hlt.2 (by decide)
  exact ⟨ha, hb, hyearA, hyearB, hzone, s, t, hs, ht, hsorted, (hmoments hzone).1.1 hsorted⟩

end Functions

end ScriptEval
