import RelationMapper.Proofs.Except
import RelationMapper.Value.Writable

/-!
# Values that can be written

What is in a value that can be written can be written as well (`checkWritable_of_item`, `checkWritable_of_field`). A value that
cannot be is refused for a number or for a distance from universal time (`badValue_of_checkWritable`), and one that can be a key
for a number only (`tooLong_of_checkWritable`).
-/

namespace RelationMapper

open Number

/-! ## Parts of a value -/

/-- An integer that can be written is not too long. -/
theorem isTooLong_of_checkWritable {n : Int} (h : (Value.int n).checkWritable = .ok ()) : isTooLong n = false := by
  obtain ⟨text, ht, -⟩ := bind_eq_ok.mp h
  rw [writeInt] at ht
  cases hn : isTooLong n with
  | false => rfl
  | true =>
    rw [hn] at ht
    cases ht

/-- One that is too long is refused for that. -/
theorem checkWritable_of_isTooLong {n : Int} (h : isTooLong n = true) :
    (Value.int n).checkWritable = .error (.badValue .tooLongToWrite) := by
  rw [Value.checkWritable, writeInt, if_pos h]
  rfl

/-- So can each of several values that can. -/
theorem checkWritable_of_mem {items : List Value} (h : Value.checkAllWritable items = .ok ()) {v : Value} (hv : v ∈ items) :
    v.checkWritable = .ok () := by
  induction items with
  | nil => exact absurd hv List.not_mem_nil
  | cons w items ih =>
    obtain ⟨_, hw, hrest⟩ := bind_eq_ok.mp h
    rcases List.mem_cons.mp hv with rfl | hv
    · exact hw
    · exact ih hrest hv

/-- What a map that can be written has under a key can be written. -/
theorem checkWritable_of_field {fields : List (Value × Value)} (h : Value.checkEntriesWritable fields = .ok ())
    {e : Value × Value} (he : e ∈ fields) : e.2.checkWritable = .ok () := by
  induction fields with
  | nil => exact absurd he List.not_mem_nil
  | cons f fields ih =>
    obtain ⟨_, -, h⟩ := bind_eq_ok.mp h
    obtain ⟨_, hf, hrest⟩ := bind_eq_ok.mp h
    rcases List.mem_cons.mp he with rfl | he
    · exact hf
    · exact ih hrest he

/-- The items of a value that can be written can be written. -/
theorem checkWritable_of_item {v : Value} (h : v.checkWritable = .ok ()) {items : List Value} (hi : v.items? = some items)
    {item : Value} (hm : item ∈ items) : item.checkWritable = .ok () := by
  cases v with
  | list _ | tuple _ | set _ =>
    cases hi
    exact checkWritable_of_mem h hm
  | _ => cases hi

/-! ## The fault -/

mutual

/-- What cannot be written is a number or a distance. -/
theorem badValue_of_checkWritable {f : Fault} : ∀ {v : Value}, v.checkWritable = .error f → ∃ b, f = .badValue b
  | .int n, h => by
    rw [Value.checkWritable, writeInt] at h
    split at h <;> cases h
    exact ⟨_, rfl⟩
  | .moment m, h => by
    rw [Value.checkWritable, Calendar.Moment.checkWritable] at h
    split at h <;> cases h
    exact ⟨_, rfl⟩
  | .list items, h | .tuple items, h | .set items, h => by
    rw [Value.checkWritable] at h
    exact badValue_of_checkAllWritable h
  | .map entries, h => by
    rw [Value.checkWritable] at h
    exact badValue_of_checkEntriesWritable h
  | .null, h | .bool _, h | .real _, h | .text _, h | .bytes _, h | .buffer _, h | .date _, h | .now, h | .object, h => by
    simp only [Value.checkWritable] at h
    cases h

/-- Values that cannot be written in a message are bad values. -/
theorem badValue_of_checkAllWritable {f : Fault} : ∀ {items : List Value}, Value.checkAllWritable items = .error f →
    ∃ b, f = .badValue b
  | [], h => by cases h
  | v :: rest, h => by
    rw [Value.checkAllWritable] at h
    rcases bind_eq_error.mp h with h | ⟨_, -, h⟩
    · exact badValue_of_checkWritable h
    · exact badValue_of_checkAllWritable h

theorem badValue_of_checkEntriesWritable {f : Fault} : ∀ {entries : List (Value × Value)},
    Value.checkEntriesWritable entries = .error f → ∃ b, f = .badValue b
  | [], h => by cases h
  | (key, v) :: rest, h => by
    rw [Value.checkEntriesWritable] at h
    rcases bind_eq_error.mp h with h | ⟨_, -, h⟩
    · exact badValue_of_checkWritable h
    · rcases bind_eq_error.mp h with h | ⟨_, -, h⟩
      · exact badValue_of_checkWritable h
      · exact badValue_of_checkEntriesWritable h

end

mutual

/-- A key cannot be written only if a number in it is too long. -/
theorem tooLong_of_checkWritable {f : Fault} : ∀ {v : Value}, v.isKey = true → v.checkWritable = .error f →
    f = .badValue .tooLongToWrite
  | .int n, _, h => by
    rw [Value.checkWritable, writeInt] at h
    split at h <;> cases h
    rfl
  | .tuple items, hkey, h => by
    rw [Value.checkWritable] at h
    rw [Value.isKey] at hkey
    exact tooLong_of_checkAllWritable hkey h
  | .moment m, hkey, h => by
    rw [Value.isKey] at hkey
    rw [Value.checkWritable, Calendar.Moment.checkWritable, if_pos hkey] at h
    cases h
  | .list _, hkey, _ | .set _, hkey, _ | .map _, hkey, _ | .buffer _, hkey, _ => by cases hkey
  | .null, _, h | .bool _, _, h | .real _, _, h | .text _, _, h | .bytes _, _, h | .date _, _, h | .now, _, h
  | .object, _, h => by
    simp only [Value.checkWritable] at h
    cases h

/-- Among values that can be keys, only integers that are too long cannot be written. -/
theorem tooLong_of_checkAllWritable {f : Fault} : ∀ {items : List Value}, Value.areKeys items = true →
    Value.checkAllWritable items = .error f → f = .badValue .tooLongToWrite
  | [], _, h => by cases h
  | v :: rest, hkeys, h => by
    rw [Value.areKeys, Bool.and_eq_true] at hkeys
    rw [Value.checkAllWritable] at h
    rcases bind_eq_error.mp h with h | ⟨_, -, h⟩
    · exact tooLong_of_checkWritable hkeys.1 h
    · exact tooLong_of_checkAllWritable hkeys.2 h

end

end RelationMapper
