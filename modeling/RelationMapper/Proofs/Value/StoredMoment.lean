import RelationMapper.Proofs.Calendar.Reading
import RelationMapper.Value.Decoding

/-!
# Stored moments

A moment is stored without its fraction of a second and without its distance from universal time, and a date without a time. What
is read back (`stored_moment_read_back`) is the moment to the second, or the midnight of the date; so values of one literal are of
one second. Years of four digits are stored in four places, in which they are read.

Of the reader of moments nothing is assumed but that it reads the two forms in which moments and dates are stored
(`ReadsStored`). The reader of the plain forms does (`readsStored_plain`).
-/

namespace RelationMapper

open Calendar

/-- In a year of four digits a day is stored in its written form. -/
theorem Calendar.Date.stored_eq_text {d : Date} (h : 1000 ≤ d.year) : d.stored = d.text := by
  have hlength : ¬(Nat.toDigits 10 d.year).length ≤ 3 := by
    rw [Nat.length_toDigits_le_iff (by decide) (by decide)]
    omega
  have hyear : padded 4 d.year = Nat.repr d.year := by
    rw [← String.toList_inj, toList_padded, Nat.toList_repr, Nat.sub_eq_zero_of_le (by omega)]
    rfl
  rw [Date.stored, Date.text, hyear]

/-- A reader of moments that reads the day and the time of day that were written, in years of four digits. -/
structure ReadsStored (reader : MomentReader) : Prop where
  date : ∀ {d : Date}, d.OnCalendar → 1000 ≤ d.year → reader.read d.text = .ok ⟨d, .midnight, none⟩
  moment : ∀ {d : Date} {t : Time}, d.OnCalendar → 1000 ≤ d.year → t.OnClock →
    reader.read (d.text ++ " " ++ t.clock) = .ok ⟨d, t.toSecond, none⟩

/-- The reader of the plain forms does. -/
theorem readsStored_plain : ReadsStored inferInstance where
  date hd _ := congrArg (Except.mapError _) (read_date hd)
  moment hd _ ht := congrArg (Except.mapError _) (read_moment hd ht)

namespace Value

/-- The moment, to the second, that a moment or a date stands for: of a date it is midnight. -/
def second? : Value → Option Moment
  | .moment m => some ⟨m.date, m.time.toSecond, none⟩
  | .date d => some ⟨d, .midnight, none⟩
  | _ => none

/-- A moment or a date in a year of four digits, and the moment, to the second, that it stands for. -/
structure StandsFor (v : Value) (m : Moment) : Prop where
  second : v.second? = some m
  date : m.date.OnCalendar
  time : m.time.OnClock
  year : 1000 ≤ m.date.year

/-- In a column for moments a text is read as a moment. -/
theorem decode_datetime [reader : MomentReader] {s : String} {m : Moment} (h : reader.read s = .ok m) :
    decode .datetime (.text s) = .ok (.moment m) := by
  have hdecode : decode .datetime (.text s) = ((reader.read s).mapError .badMoment).map .moment := rfl
  rw [hdecode, h]
  rfl

/-- A moment or a date is stored as a text between quotes that is read back as the moment that it stands for. -/
theorem StandsFor.stored [reader : MomentReader] (hreads : ReadsStored reader) {v : Value} {m : Moment} (h : v.StandsFor m)
    (quote : String) :
    ∃ t, v.literal quote (some .datetime) = .ok (quote ++ t ++ quote) ∧ decode .datetime (.text t) = .ok (.moment m) := by
  obtain ⟨hsecond, hdate, htime, hyear⟩ := h
  cases v with
  | moment m' =>
    obtain rfl : _ = m := Option.some.inj hsecond
    have hclock : m'.time.OnClock := ⟨htime.hour, htime.minute, htime.second⟩
    refine ⟨m'.stored, rfl, decode_datetime ?_⟩
    rw [Moment.stored, Date.stored_eq_text hyear]
    exact hreads.moment hdate hyear hclock
  | date d =>
    obtain rfl : _ = m := Option.some.inj hsecond
    refine ⟨d.stored, rfl, decode_datetime ?_⟩
    rw [Date.stored_eq_text hyear]
    exact hreads.date hdate hyear
  | _ => cases hsecond

end Value

/-- A moment or a date in a year of four digits is stored as a text between quotes, and this text is read back as the moment to the
second, or as the midnight of the date, with no distance from universal time. Hence two of them have one literal only if they stand
for the same second. This goes for every reader of moments that reads the two forms. -/
theorem stored_moment_read_back [reader : MomentReader] (hreads : ReadsStored reader) (quote : String) {v : Value} {m : Moment}
    (h : v.StandsFor m) :
    (∃ t, v.literal quote (some .datetime) = .ok (quote ++ t ++ quote) ∧
      Value.decode .datetime (.text t) = .ok (.moment m)) ∧
    ∀ (w : Value) (m' : Moment), w.StandsFor m' → w.literal quote (some .datetime) = v.literal quote (some .datetime) → m' = m := by
  refine ⟨h.stored hreads quote, fun w m' hw hliteral => ?_⟩
  obtain ⟨t, hv, hread⟩ := h.stored hreads quote
  obtain ⟨t', hw, hread'⟩ := hw.stored hreads quote
  rw [hv, hw, Except.ok.injEq, String.append_left_inj, String.append_right_inj] at hliteral
  rw [hliteral, hread] at hread'
  cases hread'
  rfl

/-- The last half second of a leap day, on a clock that is ahead of universal time, is stored between quotes and read back as its
last second, and the leap day itself as its midnight. -/
theorem stored_moment_read_back_leap_day :
    let day : Date := ⟨2024, 2, 29⟩
    let late : Value := .moment ⟨day, ⟨23, 59, 59, 500000⟩, some 19800⟩
    late.StandsFor ⟨day, ⟨23, 59, 59, 0⟩, none⟩ ∧
    (∃ t, late.literal "'" (some .datetime) = .ok ("'" ++ t ++ "'") ∧
      Value.decode .datetime (.text t) = .ok (.moment ⟨day, ⟨23, 59, 59, 0⟩, none⟩)) ∧
    (Value.date day).StandsFor ⟨day, .midnight, none⟩ ∧
    (∃ t, (Value.date day).literal "\"" (some .datetime) = .ok ("\"" ++ t ++ "\"") ∧
      Value.decode .datetime (.text t) = .ok (.moment ⟨day, .midnight, none⟩)) := by
  intro day late
  have hday : day.OnCalendar := ⟨by decide, by decide, by decide⟩
  have hlate : late.StandsFor ⟨day, ⟨23, 59, 59, 0⟩, none⟩ := ⟨rfl, hday, ⟨by decide, by decide, by decide⟩, by decide⟩
  have hdate : (Value.date day).StandsFor ⟨day, .midnight, none⟩ := ⟨rfl, hday, Time.midnight_onClock, by decide⟩
  exact ⟨hlate, (stored_moment_read_back readsStored_plain "'" hlate).1, hdate,
    (stored_moment_read_back readsStored_plain "\"" hdate).1⟩

end RelationMapper
