import RelationMapper.Proofs.Text.Utf8
import RelationMapper.Text.Percent

/-!
# Percent encoding loses nothing

A text that was percent-encoded is decoded to the text it was (`percentDecode_percentEncode`), as long as the characters
kept as they are do not look like an escape: all of them are ASCII and the percent sign is not among them (`Plain`).

Both coders go through the UTF-8 bytes of the text. `percentPieces_percentEncode` says that the pieces of an encoded text
are exactly these bytes; the rest is the round trip of UTF-8.
-/

namespace RelationMapper.Text

/-- Characters that mean themselves wherever they stand in an encoded text. -/
def Plain (safe : List Char) : Prop := ∀ c ∈ safe, c.toNat < 0x80 ∧ c ≠ '%'

/-! ## Digits -/

/-- A digit is read as the number it was written for. -/
theorem hexValue?_hexDigit {n : Nat} (h : n < 16) : hexValue? (hexDigit n) = some n := by
  have all : ∀ n < 16, hexValue? (hexDigit n) = some n := by decide
  exact all n h

/-- The two digits of a byte give back the byte. -/
theorem ofNat_digits (b : UInt8) : UInt8.ofNat (16 * (b.toNat / 16) + b.toNat % 16) = b := by
  rw [Nat.div_add_mod]
  exact UInt8.ofNat_toNat

/-! ## Pieces of an encoded text -/

/-- An encoded byte is one piece. -/
theorem percentPieces_percentByte (b : UInt8) (rest : List Char) :
    percentPieces (percentByte b ++ rest) = .byte b :: percentPieces rest := by
  have hb : b.toNat < 256 := b.toNat_lt
  have high : hexValue? (hexDigit (b.toNat / 16)) = some (b.toNat / 16) := hexValue?_hexDigit (by omega)
  have low : hexValue? (hexDigit (b.toNat % 16)) = some (b.toNat % 16) := hexValue?_hexDigit (by omega)
  simp only [percentByte, List.cons_append, List.nil_append, percentPieces, high, low, ofNat_digits]

/-- Percent-encoded bytes are read as these bytes. -/
theorem percentPieces_percentBytes (bs : List UInt8) (rest : List Char) :
    percentPieces (bs.flatMap percentByte ++ rest) = bs.map .byte ++ percentPieces rest := by
  induction bs with
  | nil => rfl
  | cons b bs ih => rw [List.flatMap_cons, List.append_assoc, percentPieces_percentByte, ih, List.map_cons, List.cons_append]

/-- A character that means itself is one piece, its only byte. -/
theorem percentPieces_plain {c : Char} (rest : List Char) (hc : c.toNat < 0x80) (hp : c ≠ '%') :
    percentPieces (c :: rest) = .byte (.ofNat c.toNat) :: percentPieces rest := by
  rw [percentPieces.eq_2 _ _ (fun _ _ _ h _ => hp h), if_pos hc]

/-- An ASCII character is its only byte. -/
theorem utf8Bytes_ascii {c : Char} (hc : c.toNat < 0x80) : utf8Bytes c = [.ofNat c.toNat] := by
  simp only [utf8Bytes, if_pos hc]

/-- The unreserved characters mean themselves. -/
theorem plain_of_isUnreserved {c : Char} (h : isUnreserved c = true) : c.toNat < 0x80 ∧ c ≠ '%' := by
  refine ⟨?_, fun hp => by subst hp; exact absurd h (by decide)⟩
  simp only [isUnreserved, Bool.or_eq_true, Bool.and_eq_true, decide_eq_true_eq, beq_iff_eq] at h
  rcases h with ((((((h | h) | h) | rfl) | rfl) | rfl) | rfl)
  · omega
  · omega
  · omega
  all_goals decide

/-- The characters that are not encoded mean themselves. -/
theorem plain_of_kept {safe : List Char} (hs : Plain safe) {c : Char}
    (h : (isUnreserved c || safe.contains c) = true) : c.toNat < 0x80 ∧ c ≠ '%' := by
  rcases Bool.or_eq_true _ _ ▸ h with hu | hc
  · exact plain_of_isUnreserved hu
  · exact hs c (List.contains_iff_mem.mp hc)

/-- The pieces of an encoded text are the bytes of the text. -/
theorem percentPieces_percentEncode {safe : List Char} (hs : Plain safe) (cs : List Char) :
    percentPieces (percentEncode safe cs) = (cs.flatMap utf8Bytes).map .byte := by
  unfold percentEncode
  induction cs with
  | nil => rfl
  | cons c cs ih =>
    rw [List.flatMap_cons, List.flatMap_cons, List.map_append, ← ih]
    by_cases h : (isUnreserved c || safe.contains c) = true
    · obtain ⟨hc, hp⟩ := plain_of_kept hs h
      rw [if_pos h, List.cons_append, List.nil_append, percentPieces_plain _ hc hp, utf8Bytes_ascii hc]
      rfl
    · rw [if_neg h, percentPieces_percentBytes]

/-- What was encoded is decoded. -/
theorem percentDecode_percentEncode {safe : List Char} (hs : Plain safe) (cs : List Char) :
    percentDecode (percentEncode safe cs) = cs := by
  rw [percentDecode, percentPieces_percentEncode hs, lossyText_utf8Bytes]

/-! ## Characters of an encoded text -/

/-- A digit of an escape is a letter or digit. -/
theorem isUnreserved_hexDigit {n : Nat} (h : n < 16) : isUnreserved (hexDigit n) = true := by
  have all : ∀ n < 16, isUnreserved (hexDigit n) = true := by decide
  exact all n h

/-- An encoded text consists of percent signs, unreserved characters and safe ones. -/
theorem mem_percentEncode {safe cs : List Char} {c : Char} (h : c ∈ percentEncode safe cs) :
    c = '%' ∨ isUnreserved c = true ∨ c ∈ safe := by
  obtain ⟨d, -, hd⟩ := List.mem_flatMap.mp h
  split at hd
  next kept =>
    rw [List.mem_singleton] at hd
    subst hd
    rcases Bool.or_eq_true _ _ ▸ kept with hu | hc
    · exact Or.inr (Or.inl hu)
    · exact Or.inr (Or.inr (List.contains_iff_mem.mp hc))
  next =>
    obtain ⟨b, -, hb⟩ := List.mem_flatMap.mp hd
    have hlt : b.toNat < 256 := b.toNat_lt
    simp only [percentByte, List.mem_cons, List.not_mem_nil, or_false] at hb
    rcases hb with rfl | rfl | rfl
    · exact Or.inl rfl
    · exact Or.inr (Or.inl (isUnreserved_hexDigit (by omega)))
    · exact Or.inr (Or.inl (isUnreserved_hexDigit (by omega)))

/-- A character that encoding never makes was there before. -/
theorem mem_of_mem_percentEncode {safe cs : List Char} {c : Char} (h : c ∈ percentEncode safe cs) (hp : c ≠ '%')
    (hu : isUnreserved c = false) : c ∈ cs := by
  obtain ⟨d, hd, hc⟩ := List.mem_flatMap.mp h
  split at hc
  next => exact List.mem_singleton.mp hc ▸ hd
  next =>
    obtain ⟨b, -, hb⟩ := List.mem_flatMap.mp hc
    have hlt : b.toNat < 256 := b.toNat_lt
    have hdigit : ∀ n < 16, c ≠ hexDigit n := fun n hn he => by rw [he, isUnreserved_hexDigit hn] at hu; cases hu
    simp only [percentByte, List.mem_cons, List.not_mem_nil, or_false] at hb
    rcases hb with he | he | he
    · exact absurd he hp
    · exact absurd he (hdigit _ (by omega))
    · exact absurd he (hdigit _ (by omega))

/-- A text of which every character is kept is encoded as it is. -/
theorem percentEncode_eq_self {safe cs : List Char} (h : ∀ c ∈ cs, (isUnreserved c || safe.contains c) = true) :
    percentEncode safe cs = cs := by
  unfold percentEncode
  induction cs with
  | nil => rfl
  | cons c cs ih =>
    rw [List.forall_mem_cons] at h
    rw [List.flatMap_cons, if_pos h.1, ih h.2]
    rfl

theorem utf8Bytes_ne_nil (c : Char) : utf8Bytes c ≠ [] := by
  unfold utf8Bytes
  dsimp only
  repeat' split
  all_goals exact List.cons_ne_nil _ _

/-- A character that is not kept leaves a percent sign. -/
theorem percent_mem_percentEncode {safe cs : List Char} {c : Char} (hc : c ∈ cs)
    (h : (isUnreserved c || safe.contains c) = false) : '%' ∈ percentEncode safe cs := by
  obtain ⟨b, hb⟩ := List.exists_mem_of_ne_nil _ (utf8Bytes_ne_nil c)
  refine List.mem_flatMap.mpr ⟨c, hc, ?_⟩
  rw [h]
  exact List.mem_flatMap.mpr ⟨b, hb, List.mem_cons_self⟩

end RelationMapper.Text
