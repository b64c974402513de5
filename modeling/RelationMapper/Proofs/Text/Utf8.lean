import RelationMapper.Text.Utf8

/-!
# Decoding encoded characters

The bytes of a character are read back as that character, whatever pieces follow them (`decodeFrom_utf8Bytes`). Hence a
text of encoded characters is read back without a replacement (`lossyText_utf8Bytes`).

A character of more than one byte is followed byte by byte: `beginChar_two`, `beginChar_three` and `beginChar_four` say in
which state its first byte leaves the reader, `continue?_more` and `continue?_last` what the further bytes do.
-/

namespace RelationMapper.Text

/-- The code points of characters leave out the surrogates and what lies beyond Unicode. -/
theorem toNat_scalar (c : Char) : c.toNat < 0xd800 ∨ (0xdfff < c.toNat ∧ c.toNat < 0x110000) := c.valid

/-- A number below 256 is its own byte. -/
theorem toNat_ofNat_byte {n : Nat} (h : n < 256) : (UInt8.ofNat n).toNat = n := by
  rw [UInt8.toNat_ofNat', Nat.mod_eq_of_lt h]

/-! ## First bytes -/

/-- A byte below 0x80 is a character by itself. -/
theorem beginChar_one {n : Nat} (h : n < 0x80) : beginChar (.ofNat n) = ([some (Char.ofNat n)], none) := by
  simp only [beginChar, toNat_ofNat_byte (show n < 256 by omega), if_pos h]

/-- The first of two bytes. -/
theorem beginChar_two {x : Nat} (h1 : 2 ≤ x) (h2 : x ≤ 0x1f) :
    beginChar (.ofNat (0xc0 + x)) = ([], some ⟨1, x, 0x80, 0xbf⟩) := by
  simp only [beginChar, toNat_ofNat_byte (show 0xc0 + x < 256 by omega)]
  rw [if_neg (by omega), if_pos (by omega), Nat.add_sub_cancel_left]

/-- The first of three bytes. The second one is bounded from below after the first lead and from above before the
surrogates. -/
theorem beginChar_three {x : Nat} (h : x ≤ 0xf) :
    beginChar (.ofNat (0xe0 + x)) =
      ([], some ⟨2, x, if x = 0 then 0xa0 else 0x80, if x = 0xd then 0x9f else 0xbf⟩) := by
  simp only [beginChar, toNat_ofNat_byte (show 0xe0 + x < 256 by omega)]
  rw [if_neg (by omega), if_neg (by omega)]
  by_cases h0 : x = 0
  · subst h0
    rfl
  · by_cases hd : x = 0xd
    · subst hd
      rfl
    · rw [if_neg (by omega), if_neg (by omega), if_pos (by omega), if_neg h0, if_neg hd, Nat.add_sub_cancel_left]

/-- The first of four bytes. The second one is bounded from below after the first lead and from above after the last. -/
theorem beginChar_four {x : Nat} (h : x ≤ 4) :
    beginChar (.ofNat (0xf0 + x)) =
      ([], some ⟨3, x, if x = 0 then 0x90 else 0x80, if x = 4 then 0x8f else 0xbf⟩) := by
  simp only [beginChar, toNat_ofNat_byte (show 0xf0 + x < 256 by omega)]
  rw [if_neg (by omega), if_neg (by omega), if_neg (by omega), if_neg (by omega), if_neg (by omega)]
  by_cases h0 : x = 0
  · subst h0
    rfl
  · by_cases h4 : x = 4
    · subst h4
      rfl
    · rw [if_neg (by omega), if_pos (by omega), if_neg h0, if_neg h4, Nat.add_sub_cancel_left]

/-! ## Further bytes -/

/-- A further byte that is not the last one adds six bits. -/
theorem continue?_more {missing bits low high x : Nat} (hm : 2 ≤ missing) (hx : x < 0x40) (hl : low ≤ 0x80 + x)
    (hh : 0x80 + x ≤ high) :
    (Partial.mk missing bits low high).continue? (.ofNat (0x80 + x)) =
      some ([], some ⟨missing - 1, 0x40 * bits + x, 0x80, 0xbf⟩) := by
  simp only [Partial.continue?, toNat_ofNat_byte (show 0x80 + x < 256 by omega)]
  rw [if_pos ⟨hl, hh⟩, if_neg (by omega), Nat.add_sub_cancel_left]

/-- The last byte completes the character. -/
theorem continue?_last {bits low high x : Nat} (hx : x < 0x40) (hl : low ≤ 0x80 + x) (hh : 0x80 + x ≤ high) :
    (Partial.mk 1 bits low high).continue? (.ofNat (0x80 + x)) =
      some ([some (Char.ofNat (0x40 * bits + x))], none) := by
  simp only [Partial.continue?, toNat_ofNat_byte (show 0x80 + x < 256 by omega)]
  rw [if_pos ⟨hl, hh⟩, if_pos (Nat.le_refl 1), Nat.add_sub_cancel_left]

/-! ## Whole characters -/

/-- A byte that begins a character waits for more. -/
theorem decodeFrom_begin {b : UInt8} {rest : List Piece} {p : Partial} (h : beginChar b = ([], some p)) :
    decodeFrom none (.byte b :: rest) = decodeFrom (some p) rest := by
  rw [decodeFrom, h, List.nil_append]

/-- A byte goes on with the character that was begun, or completes it. -/
theorem decodeFrom_continue {p : Partial} {b : UInt8} {rest : List Piece} {read : List (Option Char)}
    {p' : Option Partial} (h : p.continue? b = some (read, p')) :
    decodeFrom (some p) (.byte b :: rest) = read ++ decodeFrom p' rest := by
  rw [decodeFrom, h]

/-- The bytes of a character are read as that character. -/
theorem decodeFrom_utf8Bytes (c : Char) (rest : List Piece) :
    decodeFrom none ((utf8Bytes c).map .byte ++ rest) = some c :: decodeFrom none rest := by
  have hs := toNat_scalar c
  have hc : Char.ofNat c.toNat = c := Char.ofNat_toNat c
  unfold utf8Bytes
  generalize c.toNat = n at hs hc
  by_cases h1 : n < 0x80
  · rw [if_pos h1]
    simp only [List.map_cons, List.map_nil, List.cons_append, List.nil_append]
    rw [decodeFrom, beginChar_one h1, hc]
    rfl
  by_cases h2 : n < 0x800
  · rw [if_neg h1, if_pos h2]
    simp only [List.map_cons, List.map_nil, List.cons_append, List.nil_append]
    rw [decodeFrom_begin (beginChar_two (by omega) (by omega)),
      decodeFrom_continue (continue?_last (by omega) (by omega) (by omega)),
      show 0x40 * (n / 0x40) + n % 0x40 = n by omega, hc]
    rfl
  by_cases h3 : n < 0x10000
  · rw [if_neg h1, if_neg h2, if_pos h3]
    simp only [List.map_cons, List.map_nil, List.cons_append, List.nil_append]
    rw [decodeFrom_begin (beginChar_three (by omega)),
      decodeFrom_continue (continue?_more (by omega) (by omega) (by split <;> omega) (by split <;> omega)),
      List.nil_append,
      decodeFrom_continue (continue?_last (by omega) (by omega) (by omega)),
      show 0x40 * (0x40 * (n / 0x1000) + n / 0x40 % 0x40) + n % 0x40 = n by omega, hc]
    rfl
  · rw [if_neg h1, if_neg h2, if_neg h3]
    simp only [List.map_cons, List.map_nil, List.cons_append, List.nil_append]
    rw [decodeFrom_begin (beginChar_four (by omega)),
      decodeFrom_continue (continue?_more (by omega) (by omega) (by split <;> omega) (by split <;> omega)),
      List.nil_append,
      decodeFrom_continue (continue?_more (by omega) (by omega) (by omega) (by omega)),
      List.nil_append,
      decodeFrom_continue (continue?_last (by omega) (by omega) (by omega)),
      show 0x40 * (0x40 * (0x40 * (n / 0x40000) + n / 0x1000 % 0x40) + n / 0x40 % 0x40) + n % 0x40 = n by omega, hc]
    rfl

/-- Encoded characters are read back as they were, without a replacement. -/
theorem lossyText_utf8Bytes (cs : List Char) : lossyText ((cs.flatMap utf8Bytes).map .byte) = cs := by
  unfold lossyText
  induction cs with
  | nil => rfl
  | cons c cs ih =>
    rw [List.flatMap_cons, List.map_append, decodeFrom_utf8Bytes, List.map_cons, ih]
    rfl

end RelationMapper.Text
