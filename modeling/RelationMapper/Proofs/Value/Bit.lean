import Mathlib.Data.List.Induction
import RelationMapper.Proofs.Value.Keyed
import RelationMapper.Proofs.Value.SameKey
import RelationMapper.Proofs.Value.Writable
import RelationMapper.Value.Decoding

/-!
# What is read as a bit

A bit column is to hold a truth value, zero or one, or a single byte that is zero or one (`Value.IsBit`), and anything else is to be
refused as no truth value. What decides is whether a value, taken as a number, has the value of zero or one, so more is read:
floating point numbers, no bytes at all, and bytes with zeros in front (`Value.LooseBit`). What is not read is refused as it should
be if it can be looked up among keys, which is how it is compared, and can be written, which is how it is named; otherwise the fault
is that it cannot. `bit_read_iff` says so of every value.
-/

namespace RelationMapper

open Number

/-! ## Bytes that stand for zero or one -/

section

variable {bytes : List UInt8} {b : Bool}

/-- One more byte makes the bytes before it worth 256 times as much. -/
theorem bytesToNat_concat (bytes : List UInt8) (last : UInt8) :
    bytesToNat (bytes ++ [last]) = 256 * bytesToNat bytes + last.toNat := by
  rw [bytesToNat, List.foldl_concat]
  rfl

/-- Bytes stand for zero if they are all zero. -/
theorem bytesToNat_eq_zero : bytesToNat bytes = 0 ↔ ∀ byte ∈ bytes, byte = 0 := by
  induction bytes using List.reverseRecOn with
  | nil => simp [bytesToNat]
  | append_singleton bytes last ih =>
    rw [bytesToNat_concat, List.forall_mem_append, List.forall_mem_singleton, ← ih, ← UInt8.toNat_inj, UInt8.toNat_zero]
    omega

/-- Bytes that stand for a bit without being one byte: no bytes, which stand for zero, or zeros in front of the bit. -/
inductive PaddedBit : List UInt8 → Bool → Prop where
  | none : PaddedBit [] false
  | zeros (n : Nat) (b : Bool) : PaddedBit (List.replicate (n + 1) 0 ++ [b.toUInt8]) b

theorem toNat_toUInt8 (b : Bool) : b.toUInt8.toNat = b.toNat := by cases b <;> rfl

/-- Bytes stand for a bit if they are this bit, or are padded. -/
theorem bytesToNat_eq_toNat : bytesToNat bytes = b.toNat ↔ bytes = [b.toUInt8] ∨ PaddedBit bytes b := by
  constructor
  · intro h
    rcases List.eq_nil_or_concat bytes with rfl | ⟨front, last, rfl⟩
    · cases b with
      | false => exact .inr .none
      | true => cases h
    · rw [List.concat_eq_append, bytesToNat_concat] at h
      rw [List.concat_eq_append]
      -- one leaves no room for anything but zeros above the last byte
      have hb := b.toNat_le
      have hfront : front = List.replicate front.length 0 :=
        List.eq_replicate_of_mem (bytesToNat_eq_zero.mp (by omega))
      have hlast : last = b.toUInt8 := UInt8.toNat_inj.mp (by rw [toNat_toUInt8]; omega)
      rw [hlast, hfront]
      cases front.length with
      | zero => exact .inl rfl
      | succ n => exact .inr (.zeros n b)
  · have hzeros (n : Nat) : bytesToNat (List.replicate n 0 ++ [b.toUInt8]) = b.toNat := by
      rw [bytesToNat_concat, bytesToNat_eq_zero.mpr fun _ => List.eq_of_mem_replicate, toNat_toUInt8, Nat.mul_zero,
        Nat.zero_add]
    rintro (rfl | h)
    · exact hzeros 0
    · cases h with
      | none => rfl
      | zeros n => exact hzeros (n + 1)

end

namespace Value

variable {v : Value} {b : Bool}

/-! ## What is read -/

/-- The values that a bit column is to hold: a truth value, zero or one, or a single byte that is zero or one. -/
inductive IsBit : Value → Bool → Prop where
  | bool (b : Bool) : IsBit (.bool b) b
  | int (b : Bool) : IsBit (.int b.toNat) b
  | bytes (b : Bool) : IsBit (.bytes [b.toUInt8]) b
  | buffer (b : Bool) : IsBit (.buffer [b.toUInt8]) b

/-- Bytes that are a bit are a single byte. -/
theorem IsBit.length_bytes {bytes : List UInt8} (h : IsBit (.bytes bytes) b) : bytes.length = 1 := by
  cases h
  rfl

/-- The values that are read besides: floating point numbers that are zero or one, and padded bytes. -/
inductive LooseBit : Value → Bool → Prop where
  | real {x : Binary64} {b : Bool} : x.equalsInt b.toNat = true → LooseBit (.real x) b
  | bytes {bytes : List UInt8} {b : Bool} : PaddedBit bytes b → LooseBit (.bytes bytes) b
  | buffer {bytes : List UInt8} {b : Bool} : PaddedBit bytes b → LooseBit (.buffer bytes) b

theorem hasInt_int {m n : Int} : HasInt m (.int n) ↔ n = m :=
  ⟨fun h => HasInt.unique (.whole rfl) h, fun h => h ▸ .whole rfl⟩

/-- Bytes have the value of a bit, as the number that they stand for, if they are this bit or are padded. -/
theorem hasInt_bytes {bytes : List UInt8} :
    HasInt b.toNat (.int (bytesToNat bytes)) ↔ bytes = [b.toUInt8] ∨ PaddedBit bytes b := by
  rw [hasInt_int, Int.ofNat_inj, bytesToNat_eq_toNat]

/-- The values that have the value of a bit. -/
theorem hasInt_unpacked : HasInt b.toNat v.unpacked ↔ v.IsBit b ∨ v.LooseBit b := by
  constructor
  · intro h
    cases v with
    | bool c =>
      have hc : c.toNat = b.toNat := Int.ofNat_inj.mp (HasInt.unique (.whole rfl) h)
      obtain rfl : c = b := by
        revert hc
        cases c <;> cases b <;> decide
      exact .inl (.bool c)
    | int n =>
      obtain rfl := hasInt_int.mp h
      exact .inl (.int b)
    | real x => exact .inr (.real h.equalsInt)
    | bytes bytes =>
      rcases hasInt_bytes.mp h with rfl | hpadded
      · exact .inl (.bytes b)
      · exact .inr (.bytes hpadded)
    | buffer bytes =>
      rcases hasInt_bytes.mp h with rfl | hpadded
      · exact .inl (.buffer b)
      · exact .inr (.buffer hpadded)
    | _ =>
      cases h
      contradiction
  · rintro (h | h)
    · cases h with
      | bool | int => exact .whole rfl
      | bytes | buffer => exact hasInt_bytes.mpr (.inl rfl)
    · cases h with
      | real h => exact .real h
      | bytes h | buffer h => exact hasInt_bytes.mpr (.inr h)

/-- A number can be a key. -/
theorem HasInt.isKey {n : Int} (h : HasInt n v) : v.isKey = true := by
  cases h with
  | real => rfl
  | whole h => rcases int?_eq_some.mp h with ⟨c, rfl, -⟩ | rfl <;> rfl

/-! ## What is refused -/

/-- A value that can be looked up among keys: bytes as the number that they stand for, and a set as its content. -/
def IsLookedUp (v : Value) : Prop := v.unpacked.isKey = true ∨ ∃ items, v = .set items

/-- The check whether a value can be looked up passes exactly the values that can. -/
theorem checkLookup_eq_ok : v.unpacked.checkLookup = .ok () ↔ v.IsLookedUp := by
  unfold IsLookedUp
  cases v with
  | set items => simp [unpacked, checkLookup]
  | _ => simp [unpacked, checkLookup, checkKey_eq_ok]

/-- A value that cannot be looked up is of a wrong type, or a moment too far from universal time. -/
theorem fault_of_checkLookup {f : Fault} (h : v.checkLookup = .error f) : f = .wrongType ∨ f = .badValue .offsetTooLong := by
  unfold checkLookup at h
  split at h
  · cases h
  · exact fault_of_checkKey h

/-- The reading of a value, step by step; a truth value may go through all of them as well. -/
theorem readBool_eq (v : Value) : v.readBool = v.unpacked.checkLookup >>= fun _ =>
    if v.unpacked.sameNumber (.int 0) then .ok false
    else if v.unpacked.sameNumber (.int 1) then .ok true
    else v.unpacked.checkWritable >>= fun _ => .error (.mismatch (.notBool v.unpacked.shown)) := by
  cases v with
  | bool b => cases b <;> rfl
  | _ => rfl

/-- A value is read as a bit if it has its value. -/
theorem readBool_eq_ok : v.readBool = .ok b ↔ HasInt b.toNat v.unpacked := by
  rw [readBool_eq]
  constructor
  · intro h
    obtain ⟨_, -, h⟩ := bind_eq_ok.mp h
    split at h
    · case isTrue hzero =>
      cases h
      exact sameNumber_int_iff.mp hzero
    · split at h
      · case isTrue hone =>
        cases h
        exact sameNumber_int_iff.mp hone
      · obtain ⟨_, -, h⟩ := bind_eq_ok.mp h
        cases h
  · intro h
    rw [checkLookup_eq_ok.mpr (.inl h.isKey), ok_bind]
    cases b with
    | false => exact if_pos (sameNumber_int_iff.mpr h)
    | true =>
      have hzero : ¬v.unpacked.sameNumber (.int 0) = true := fun hzero => by
        cases (sameNumber_int_iff.mp hzero).unique h
      rw [if_neg hzero]
      exact if_pos (sameNumber_int_iff.mpr h)

/-- With what a value that is no bit is refused: with the reason why it cannot be looked up, or the reason why it cannot be written,
or else as no truth value. -/
inductive NoBit (v : Value) : Fault → Prop where
  | notLookedUp {f : Fault} : v.unpacked.checkLookup = .error f → NoBit v f
  | notWritable {f : Fault} : v.IsLookedUp → v.unpacked.checkWritable = .error f → NoBit v f
  | notBool : v.IsLookedUp → v.unpacked.checkWritable = .ok () → NoBit v (.mismatch (.notBool v.unpacked.shown))

/-- A value is refused if it has the value of no bit. -/
theorem readBool_eq_error {f : Fault} :
    v.readBool = .error f ↔ (∀ b : Bool, ¬HasInt b.toNat v.unpacked) ∧ v.NoBit f := by
  have hrefused (h : ∀ b : Bool, ¬HasInt b.toNat v.unpacked) : v.readBool = v.unpacked.checkLookup >>= fun _ =>
      v.unpacked.checkWritable >>= fun _ => .error (.mismatch (.notBool v.unpacked.shown)) := by
    have hzero : ¬v.unpacked.sameNumber (.int 0) = true := fun hzero => h false (sameNumber_int_iff.mp hzero)
    have hone : ¬v.unpacked.sameNumber (.int 1) = true := fun hone => h true (sameNumber_int_iff.mp hone)
    rw [readBool_eq, if_neg hzero, if_neg hone]
  constructor
  · intro h
    have hnone : ∀ b : Bool, ¬HasInt b.toNat v.unpacked := fun b hb => by
      rw [readBool_eq_ok.mpr hb] at h
      cases h
    refine ⟨hnone, ?_⟩
    rw [hrefused hnone] at h
    rcases bind_eq_error.mp h with h | ⟨_, hlookup, h⟩
    · exact .notLookedUp h
    · rcases bind_eq_error.mp h with h | ⟨_, hwritable, h⟩
      · exact .notWritable (checkLookup_eq_ok.mp hlookup) h
      · cases h
        exact .notBool (checkLookup_eq_ok.mp hlookup) hwritable
  · rintro ⟨hnone, h⟩
    rw [hrefused hnone]
    cases h with
    | notLookedUp h =>
      rw [h]
      rfl
    | notWritable hlookup h =>
      rw [checkLookup_eq_ok.mpr hlookup, ok_bind, h]
      rfl
    | notBool hlookup hwritable =>
      rw [checkLookup_eq_ok.mpr hlookup, ok_bind, hwritable]
      rfl

/-- What is read as a bit are the values that a bit column is to hold and, besides, the loose ones. Of what is not read, exactly the
values that can be looked up and written are refused as no truth value; the others are refused because they cannot. In a bit column
null is null, and every other value is read or refused in this way. -/
theorem bit_read_iff [MomentReader] (v : Value) :
    (∀ b, v.readBool = .ok b ↔ v.IsBit b ∨ v.LooseBit b) ∧
    ((∃ e, v.readBool = .error (.mismatch e)) ↔
      (∀ b, ¬v.IsBit b ∧ ¬v.LooseBit b) ∧ v.IsLookedUp ∧ v.unpacked.checkWritable = .ok ()) ∧
    ((∃ b, v.readBool = .ok b) ∨ v.readBool = .error (.mismatch (.notBool v.unpacked.shown)) ∨
      ¬v.IsLookedUp ∧ (v.readBool = .error .wrongType ∨ v.readBool = .error (.badValue .offsetTooLong)) ∨
      v.unpacked.checkWritable ≠ .ok () ∧ ∃ e, v.readBool = .error (.badValue e)) ∧
    v.decode .bit = match v with
      | .null => .ok .null
      | v => v.readBool.map .bool := by
  have hbit (b : Bool) : ¬HasInt b.toNat v.unpacked ↔ ¬v.IsBit b ∧ ¬v.LooseBit b := by
    rw [hasInt_unpacked, not_or]
  refine ⟨fun b => readBool_eq_ok.trans hasInt_unpacked, ⟨?_, ?_⟩, ?_, ?_⟩
  · rintro ⟨e, he⟩
    obtain ⟨hnone, hfault⟩ := readBool_eq_error.mp he
    cases hfault with
    | notLookedUp h => rcases fault_of_checkLookup h with h | h <;> cases h
    | notWritable _ h =>
      obtain ⟨e', h⟩ := badValue_of_checkWritable h
      cases h
    | notBool hlookup hwritable => exact ⟨fun b => (hbit b).mp (hnone b), hlookup, hwritable⟩
  · rintro ⟨hnone, hlookup, hwritable⟩
    exact ⟨_, readBool_eq_error.mpr ⟨fun b => (hbit b).mpr (hnone b), .notBool hlookup hwritable⟩⟩
  · cases hread : v.readBool with
    | ok b => exact .inl ⟨b, rfl⟩
    | error f =>
      refine .inr ?_
      cases (readBool_eq_error.mp hread).2 with
      | notBool => exact .inl rfl
      | notLookedUp h =>
        have hlookup : ¬v.IsLookedUp := fun hlookup => by
          rw [checkLookup_eq_ok.mpr hlookup] at h
          cases h
        exact .inr (.inl ⟨hlookup, (fault_of_checkLookup h).imp (congrArg _) (congrArg _)⟩)
      | notWritable _ h =>
        obtain ⟨e, rfl⟩ := badValue_of_checkWritable h
        exact .inr (.inr ⟨by simp [h], e, rfl⟩)
  · cases v <;> rfl

/-- A list and an integer with too many digits are not refused as no truth value, and a floating point number, no bytes and two
bytes are read as bits. -/
theorem bits_read_loosely :
    ((Value.list []).readBool = .error .wrongType ∧ ∀ b, ¬(Value.list []).IsBit b) ∧
    ((Value.int leastTooLong).readBool = .error (.badValue .tooLongToWrite) ∧ ∀ b, ¬(Value.int leastTooLong).IsBit b) ∧
    ((Value.real ⟨0x3ff0000000000000⟩).readBool = .ok true ∧ ∀ b, ¬(Value.real ⟨0x3ff0000000000000⟩).IsBit b) ∧
    ((Value.bytes []).readBool = .ok false ∧ ∀ b, ¬(Value.bytes []).IsBit b) ∧
    (Value.bytes [0, 1]).readBool = .ok true ∧ ∀ b, ¬(Value.bytes [0, 1]).IsBit b := by
  have hlong : ∀ b : Bool, ¬HasInt b.toNat (Value.int leastTooLong).unpacked := fun b h => by
    have htoo := isTooLong_least
    rw [hasInt_int.mp h] at htoo
    revert htoo
    cases b <;> decide
  have hone : (Value.real ⟨0x3ff0000000000000⟩).readBool = .ok true := readBool_eq_ok.mpr (.real (by decide))
  refine ⟨⟨rfl, nofun⟩, ⟨?_, fun b h => ?_⟩, ⟨hone, nofun⟩, ⟨rfl, fun b h => absurd h.length_bytes (by decide)⟩,
    rfl, fun b h => absurd h.length_bytes (by decide)⟩
  · exact readBool_eq_error.mpr ⟨hlong, .notWritable (.inl rfl) (checkWritable_of_isTooLong isTooLong_least)⟩
  · exact hlong b (hasInt_unpacked.mpr (.inl h))

end Value

end RelationMapper
