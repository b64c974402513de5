import Mathlib.Algebra.Ring.Nat
import Mathlib.Data.Option.Basic
import RelationMapper.Calendar.Reading
import RelationMapper.Proofs.Text.Digit

/-!
# Written moments read back

A number that is filled with zeros to a width is read back from its places, whatever follows them (`takeNat?_padded`). Hence a day
of the calendar is read back from its written form, as its midnight (`read_date`), and a day with a time of day as this time to the
second (`read_moment`). Neither has a distance from universal time.
-/

namespace RelationMapper.Calendar

/-- A day that the calendar has. -/
structure Date.OnCalendar (d : Date) : Prop where
  year : 1 ≤ d.year ∧ d.year ≤ 9999
  month : 1 ≤ d.month ∧ d.month ≤ 12
  day : 1 ≤ d.day ∧ d.day ≤ daysInMonth d.year d.month

/-- A time that the clock shows. -/
structure Time.OnClock (t : Time) : Prop where
  hour : t.hour ≤ 23
  minute : t.minute ≤ 59
  second : t.second ≤ 59

/-- A time without its fraction of a second. -/
def Time.toSecond (t : Time) : Time := { t with microsecond := 0 }

theorem daysInMonth_le (year month : Nat) : daysInMonth year month ≤ 31 := by
  unfold daysInMonth
  split
  · split <;> decide
  all_goals decide

theorem Time.midnight_onClock : Time.midnight.OnClock := ⟨by decide, by decide, by decide⟩

theorem Time.OnClock.toSecond {t : Time} (h : t.OnClock) : t.toSecond.OnClock := ⟨h.hour, h.minute, h.second⟩

/-! ## Numbers of a width -/

section

variable {width n : Nat}

theorem toList_padded (width n : Nat) : (padded width n).toList =
    List.replicate (width - (Nat.toDigits 10 n).length) '0' ++ Nat.toDigits 10 n := String.toList_ofList

/-- A number with no more digits than there are places fills them. -/
theorem length_padded (hw : 0 < width) (h : n < 10 ^ width) : (padded width n).toList.length = width := by
  have hdigits : (Nat.toDigits 10 n).length ≤ width := (Nat.length_toDigits_le_iff (by decide) hw).mpr h
  rw [toList_padded, List.length_append, List.length_replicate]
  omega

theorem isDigit_padded (width n : Nat) : ∀ c ∈ (padded width n).toList, c.isDigit = true := by
  rw [toList_padded, List.forall_mem_append]
  exact ⟨Text.isDigit_zeros _, Text.isDigit_toDigits n⟩

/-- A number that is filled with zeros keeps its value. -/
theorem ofDigitChars_padded (width n : Nat) : Nat.ofDigitChars 10 (padded width n).toList 0 = n := by
  rw [toList_padded, Nat.ofDigitChars_append, Nat.ofDigitChars_replicate_zero, Nat.mul_zero, Nat.ofDigitChars_ten_toDigits]

/-- A number is read back from its places. -/
theorem takeNat?_padded (hw : 0 < width) (h : n < 10 ^ width) (rest : List Char) :
    takeNat? width ((padded width n).toList ++ rest) = some (n, rest) := by
  have hlength := length_padded hw h
  have hdigits := List.all_eq_true.mpr (isDigit_padded width n)
  have hread : (padded width n).toList.foldl (fun n c => 10 * n + (c.toNat - 0x30)) 0 = n := ofDigitChars_padded width n
  rw [takeNat?, List.take_left' hlength, List.drop_left' hlength, hread, hlength, hdigits, decide_eq_true rfl, Bool.true_and, if_pos rfl]

end

theorem takeMark?_here (mark : Char) (rest : List Char) : takeMark? mark (mark :: rest) = some rest := if_pos rfl

/-! ## Days and times -/

variable {d : Date} {t : Time}

/-- A day is read back from its written form, whatever follows it. -/
theorem takeDate?_text (h : d.OnCalendar) (rest : List Char) : takeDate? (d.text.toList ++ rest) = some (d, rest) := by
  have hyear : d.year < 10 ^ 4 := Nat.lt_succ_of_le h.year.2
  have hmonth : d.month < 10 ^ 2 := Nat.lt_of_le_of_lt h.month.2 (by decide)
  have hday : d.day < 10 ^ 2 := Nat.lt_of_le_of_lt (Nat.le_trans h.day.2 (daysInMonth_le _ _)) (by decide)
  have htext : d.text.toList ++ rest = (padded 4 d.year).toList ++ '-' ::
      ((padded 2 d.month).toList ++ '-' :: ((padded 2 d.day).toList ++ rest)) := by
    simp [Date.text]
  rw [htext, takeDate?]
  simp only [takeNat?_padded (by decide : 0 < 4) hyear, takeNat?_padded (by decide : 0 < 2) hmonth,
    takeNat?_padded (by decide : 0 < 2) hday, takeMark?_here, Option.bind_eq_bind, Option.bind_some]
  rfl

/-- A time of day is read back from its written form, to the second. -/
theorem takeTime?_clock (h : t.OnClock) : takeTime? t.clock.toList = some (t.toSecond, []) := by
  have hhour : t.hour < 10 ^ 2 := Nat.lt_of_le_of_lt h.hour (by decide)
  have hminute : t.minute < 10 ^ 2 := Nat.lt_of_le_of_lt h.minute (by decide)
  have hsecond : t.second < 10 ^ 2 := Nat.lt_of_le_of_lt h.second (by decide)
  have htext : t.clock.toList = (padded 2 t.hour).toList ++ ':' ::
      ((padded 2 t.minute).toList ++ ':' :: ((padded 2 t.second).toList ++ [])) := by
    simp [Time.clock]
  rw [htext, takeTime?]
  simp only [takeNat?_padded (by decide : 0 < 2) hhour, takeNat?_padded (by decide : 0 < 2) hminute,
    takeNat?_padded (by decide : 0 < 2) hsecond, takeMark?_here, Option.bind_eq_bind, Option.bind_some]
  rfl

/-! ## Moments -/

/-- No field of a day of the calendar and a time of the clock is out of range. -/
theorem outOfRange?_eq_none (hd : d.OnCalendar) (ht : t.OnClock) (offset : Option Int) :
    (Moment.mk d t offset).outOfRange? = none := by
  obtain ⟨hyear, hmonth, hday⟩ := hd
  obtain ⟨hhour, hminute, hsecond⟩ := ht
  rw [Moment.outOfRange?]
  dsimp only
  rw [if_neg (by omega), if_neg (by omega), if_neg (by omega), if_neg (by omega), if_neg (by omega), if_neg (by omega)]

/-- A text is read as the moment whose form it has, if that is one and the text begins with a day in writing. -/
theorem read_of_readForm? (hd : d.OnCalendar) (ht : t.OnClock) {rest : List Char} {s : String}
    (hs : s.toList = d.text.toList ++ rest) {offset : Option Int} (h : readForm? s.toList = some ⟨d, t, offset⟩) :
    Moment.read s = .ok ⟨d, t, offset⟩ := by
  have hdash : '-' ∈ s.toList := by
    rw [hs]
    simp [Date.text]
  have hblank : s.toList.all Text.isBlank = false := List.all_eq_false.mpr ⟨'-', hdash, by decide⟩
  rw [Moment.read, hblank, if_neg Bool.false_ne_true, h]
  dsimp only
  rw [outOfRange?_eq_none hd ht]

/-- A day is read back from its written form, as its midnight. -/
theorem read_date (hd : d.OnCalendar) : Moment.read d.text = .ok ⟨d, .midnight, none⟩ := by
  have htext : d.text.toList = d.text.toList ++ [] := (List.append_nil _).symm
  refine read_of_readForm? hd Time.midnight_onClock htext ?_
  rw [htext, readForm?, takeDate?_text hd]
  rfl

/-- A day and a time of day are read back from their written form, to the second. -/
theorem read_moment (hd : d.OnCalendar) (ht : t.OnClock) :
    Moment.read (d.text ++ " " ++ t.clock) = .ok ⟨d, t.toSecond, none⟩ := by
  have htext : (d.text ++ " " ++ t.clock).toList = d.text.toList ++ ' ' :: t.clock.toList := by simp
  refine read_of_readForm? hd ht.toSecond htext ?_
  rw [htext, readForm?, takeDate?_text hd]
  simp only [Option.bind_eq_bind, Option.bind_some, takeTime?_clock ht]
  rfl

end RelationMapper.Calendar
