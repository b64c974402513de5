import RelationMapper.Proofs.Except
import RelationMapper.Value.Keyed

/-!
# Names and keys that are set once

A name that is set again keeps its place, and so does a key. What is set under names that differ is a plain list, in the
order of setting (`Fields.setAll_eq_append`), and setting it once more changes nothing (`Fields.setAll_self`). The same holds
of values under keys, where one key may be the same as another without being equal to it (`Keyed.set_fresh`, `Keyed.set_here`).
-/

namespace RelationMapper

/-! ## Named values -/

namespace Fields

variable {fields others : Fields} {name : String} {v : Value}

/-- A name that is not there is set at the end. -/
theorem set_of_not_mem (h : name ∉ fields.map (·.1)) : fields.set name v = fields ++ [(name, v)] := by
  induction fields with
  | nil => rfl
  | cons f fields ih =>
    rw [List.map_cons, List.mem_cons, not_or] at h
    rw [Fields.set, if_neg (Ne.symm h.1), ih h.2, List.cons_append]

/-- Setting a name to the value that it has changes nothing. -/
theorem set_of_mem (hd : (fields.map (·.1)).Nodup) (h : (name, v) ∈ fields) : fields.set name v = fields := by
  induction fields with
  | nil => exact absurd h List.not_mem_nil
  | cons f fields ih =>
    rw [List.map_cons, List.nodup_cons] at hd
    rcases List.mem_cons.mp h with rfl | h
    · rw [Fields.set, if_pos rfl]
    · have hne : f.1 ≠ name := fun he => hd.1 (List.mem_map.mpr ⟨_, h, he.symm⟩)
      rw [Fields.set, if_neg hne, ih hd.2 h]

/-- A name that is not among the first of some fields is set behind them. -/
theorem set_append (h : name ∉ fields.map (·.1)) : (fields ++ others).set name v = fields ++ others.set name v := by
  induction fields with
  | nil => rfl
  | cons f fields ih =>
    rw [List.map_cons, List.mem_cons, not_or] at h
    rw [List.cons_append, Fields.set, if_neg (Ne.symm h.1), ih h.2, List.cons_append]

/-- Setting names that differ from each other and from those that are there appends them. -/
theorem setAll_eq_append (h : ((fields ++ others).map (·.1)).Nodup) : fields.setAll others = fields ++ others := by
  induction others generalizing fields with
  | nil => exact (List.append_nil fields).symm
  | cons o others ih =>
    have hnew : o.1 ∉ fields.map (·.1) := by
      rw [List.map_append, List.nodup_append] at h
      exact fun hm => h.2.2 _ hm _ List.mem_cons_self rfl
    have hcons : fields ++ o :: others = fields ++ [o] ++ others := by rw [List.append_assoc, List.singleton_append]
    change Fields.setAll (fields.set o.1 o.2) others = _
    rw [set_of_not_mem hnew, hcons]
    exact ih (hcons ▸ h)

/-- Setting names to the values that they have changes nothing. -/
theorem setAll_self (hd : (fields.map (·.1)).Nodup) (h : ∀ o ∈ others, o ∈ fields) : fields.setAll others = fields := by
  induction others with
  | nil => rfl
  | cons o others ih =>
    rw [List.forall_mem_cons] at h
    change Fields.setAll (fields.set o.1 o.2) others = _
    rw [set_of_mem hd h.1, ih h.2]

/-- Where names differ, each has the value that stands under it. -/
theorem get?_eq_some (hd : (fields.map (·.1)).Nodup) (h : (name, v) ∈ fields) : fields.get? name = some v := by
  induction fields with
  | nil => exact absurd h List.not_mem_nil
  | cons f fields ih =>
    rw [List.map_cons, List.nodup_cons] at hd
    rcases List.mem_cons.mp h with rfl | h
    · exact List.lookup_cons_self
    · have hne : (name == f.1) = false := beq_false_of_ne fun he => hd.1 (List.mem_map.mpr ⟨_, h, he⟩)
      rw [Fields.get?, List.lookup_cons, hne]
      exact ih hd.2 h

/-- Under columns of different names each cell stands under its column. -/
theorem ofRow_eq (h : (fields.map (·.1)).Nodup) : Fields.ofRow (fields.map (·.1)) (fields.map (·.2)) = fields := by
  rw [Fields.ofRow, ← List.zip_of_prod rfl rfl]
  exact setAll_eq_append h

end Fields

/-! ## Values under keys -/

mutual

/-- The check whether a value can be a key passes exactly the values that can. -/
theorem Value.checkKey_eq_ok : ∀ {v : Value}, v.checkKey = .ok () ↔ v.isKey = true
  | .tuple items => by
    rw [Value.checkKey, Value.isKey]
    exact Value.checkKeys_eq_ok
  | .moment m => by
    rw [Value.checkKey, Value.isKey, Calendar.Moment.checkWritable]
    cases m.hasShortOffset <;> simp
  | .list _ | .set _ | .map _ | .buffer _ => by simp [Value.checkKey, Value.isKey]
  | .null | .bool _ | .int _ | .real _ | .text _ | .bytes _ | .date _ | .now | .object => by
    simp [Value.checkKey, Value.isKey]

theorem Value.checkKeys_eq_ok : ∀ {items : List Value}, Value.checkKeys items = .ok () ↔ Value.areKeys items = true
  | [] => by simp [Value.checkKeys, Value.areKeys]
  | v :: rest => by
    rw [Value.checkKeys, Value.areKeys, bind_eq_ok, Bool.and_eq_true, ← Value.checkKey_eq_ok, ← Value.checkKeys_eq_ok]
    exact ⟨fun ⟨(), hv, hrest⟩ => ⟨hv, hrest⟩, fun ⟨hv, hrest⟩ => ⟨(), hv, hrest⟩⟩

end

mutual

/-- What cannot be a key is of the wrong type, or a moment too far off universal time. -/
theorem Value.fault_of_checkKey {f : Fault} : ∀ {v : Value}, v.checkKey = .error f →
    f = .wrongType ∨ f = .badValue .offsetTooLong
  | .tuple items, h => by
    rw [Value.checkKey] at h
    exact Value.fault_of_checkKeys h
  | .moment m, h => by
    rw [Value.checkKey, Calendar.Moment.checkWritable] at h
    split at h <;> cases h
    exact .inr rfl
  | .list _, h | .set _, h | .map _, h | .buffer _, h => by
    rw [Value.checkKey] at h
    cases h
    exact .inl rfl
  | .null, h | .bool _, h | .int _, h | .real _, h | .text _, h | .bytes _, h | .date _, h | .now, h | .object, h => by
    simp only [Value.checkKey] at h
    cases h

/-- Values that cannot all be keys have one of a wrong type, or a moment too far from universal time. -/
theorem Value.fault_of_checkKeys {f : Fault} : ∀ {items : List Value}, Value.checkKeys items = .error f →
    f = .wrongType ∨ f = .badValue .offsetTooLong
  | [], h => by cases h
  | v :: rest, h => by
    rw [Value.checkKeys] at h
    rcases bind_eq_error.mp h with h | ⟨_, -, h⟩
    · exact Value.fault_of_checkKey h
    · exact Value.fault_of_checkKeys h

end

namespace Keyed

variable {α : Type} {done rest : Keyed α} {key key' : Value} {a : α}

/-- A key is not found among keys that are none like it. -/
theorem find?_fresh (h : ∀ e ∈ done, e.1.sameKey key = false) : Keyed.find? (done ++ rest) key = rest.find? key := by
  have hn : List.find? (fun e : Value × α => e.1.sameKey key) done = none := by
    rw [List.find?_eq_none]
    exact fun e he => by rw [h e he]; exact Bool.false_ne_true
  rw [Keyed.find?, List.find?_append, hn, Option.none_or]
  rfl

theorem find?_here (h : key'.sameKey key = true) : Keyed.find? ((key', a) :: rest) key = some a := by
  have hf : List.find? (fun e : Value × α => e.1.sameKey key) ((key', a) :: rest) = some (key', a) :=
    List.find?_cons_of_pos h
  exact congrArg (Option.map (·.2)) hf

/-- Keys that are none like it stay as they are when a key is set. -/
theorem set_fresh (h : ∀ e ∈ done, e.1.sameKey key = false) : Keyed.set (done ++ rest) key a = done ++ rest.set key a := by
  induction done with
  | nil => rfl
  | cons e done ih =>
    rw [List.forall_mem_cons] at h
    have hc : Keyed.set (e :: (done ++ rest)) key a = e :: Keyed.set (done ++ rest) key a := by
      rw [Keyed.set, Keyed.update, h.1]
      rfl
    rw [List.cons_append, hc, ih h.2, List.cons_append]

/-- A new key is not there. -/
theorem find?_new (h : ∀ e ∈ done, e.1.sameKey key = false) : done.find? key = none := by
  have hf := @find?_fresh α done [] key h
  rwa [List.append_nil] at hf

/-- A new key is added at the end. -/
theorem set_new (h : ∀ e ∈ done, e.1.sameKey key = false) : done.set key a = done ++ [(key, a)] := by
  have hs := @set_fresh α done [] key a h
  rwa [List.append_nil] at hs

/-- A key that is not like it stays as it is when a key is set. -/
theorem set_there {b : α} (h : key'.sameKey key = false) :
    Keyed.set ((key', b) :: rest) key a = (key', b) :: rest.set key a :=
  @set_fresh α [(key', b)] rest key a (List.forall_mem_singleton.mpr h)

theorem set_here {b : α} (h : key'.sameKey key = true) : Keyed.set ((key', b) :: rest) key a = (key', a) :: rest := by
  rw [Keyed.set, Keyed.update, if_pos h]

/-- Setting a key twice to the same is setting it once. -/
theorem set_set (hs : key.sameKey key = true) : (done.set key a).set key a = done.set key a := by
  induction done with
  | nil => exact set_here hs
  | cons e done ih =>
    by_cases he : e.1.sameKey key = true
    · rw [set_here he, set_here he]
    · have hf : e.1.sameKey key = false := Bool.eq_false_iff.mpr he
      rw [set_there hf, set_there hf, ih]

end Keyed

end RelationMapper
