import Mathlib.Data.List.TakeWhile
import RelationMapper.Proofs.Entry.WellTyped
import RelationMapper.Proofs.Value.TextLiteral

/-!
# Numerals in number columns

A text fits a number column if it is a numeral (`fits_iff_isNumeral`), and the digits of a numeral may be those of any script. A
literal, however, keeps characters of ASCII only. `numeral_kept_iff_ascii` says what this comes to: a numeral reaches the database
as it is exactly if it is ASCII, and otherwise what reaches the database is no numeral (`foreign_digits_encoded`).
-/

namespace RelationMapper

open Number Text

variable {s : String} {cs : List Char} {c : Char}

/-! ## The characters of a numeral -/

/-- A character that may stand in a numeral. -/
def IsNumeralChar (c : Char) : Prop := isDigit c = true ∨ c = '+' ∨ c = '-' ∨ c = '.' ∨ c = 'e' ∨ c = 'E'

theorem mem_takeSign (h : c ∈ cs) : c = '+' ∨ c = '-' ∨ c ∈ (takeSign cs).2 := by
  unfold takeSign
  split
  · rcases List.mem_cons.mp h with rfl | h
    · exact .inr (.inl rfl)
    · exact .inr (.inr h)
  · rcases List.mem_cons.mp h with rfl | h
    · exact .inl rfl
    · exact .inr (.inr h)
  · exact .inr (.inr h)

/-- A text is of numeral characters if what follows its sign is. -/
theorem isNumeralChar_of_takeSign (h : ∀ c ∈ (takeSign cs).2, IsNumeralChar c) : ∀ c ∈ cs, IsNumeralChar c := by
  intro c hc
  rcases mem_takeSign hc with rfl | rfl | hc
  · exact .inr (.inl rfl)
  · exact .inr (.inr (.inl rfl))
  · exact h c hc

theorem isNumeralChar_of_isExponent (h : isExponent cs = true) : ∀ c ∈ cs, IsNumeralChar c := by
  cases cs with
  | nil => exact List.forall_mem_nil _
  | cons e rest =>
    rw [isExponent, Bool.and_eq_true, Bool.or_eq_true, beq_iff_eq, beq_iff_eq, isNumber, Bool.and_eq_true] at h
    obtain ⟨he, -, hdigits⟩ := h
    refine List.forall_mem_cons.mpr ⟨.inr (.inr (.inr (.inr he))), isNumeralChar_of_takeSign fun c hc => ?_⟩
    exact .inl (List.all_eq_true.mp hdigits c hc)

/-- A numeral without a sign consists of characters that stand in numerals. -/
theorem isNumeralChar_of_isUnsignedNumeral (h : isUnsignedNumeral cs = true) : ∀ c ∈ cs, IsNumeralChar c := by
  have digits : ∀ cs : List Char, ∀ c ∈ cs.takeWhile isDigit, IsNumeralChar c :=
    fun cs c hc => .inl (List.mem_takeWhile_imp hc)
  -- a numeral is its whole part and what follows it
  have split : ∀ (cs : List Char), (∀ c ∈ cs.dropWhile isDigit, IsNumeralChar c) → ∀ c ∈ cs, IsNumeralChar c := by
    intro cs hrest
    rw [← List.takeWhile_append_dropWhile (p := isDigit) (l := cs)]
    exact List.forall_mem_append.mpr ⟨digits cs, hrest⟩
  refine split cs ?_
  unfold isUnsignedNumeral at h
  dsimp only at h
  split at h
  · case h_1 rest hdrop =>
    rw [hdrop]
    refine List.forall_mem_cons.mpr ⟨.inr (.inr (.inr (.inl rfl))), split rest ?_⟩
    exact isNumeralChar_of_isExponent (Bool.and_eq_true _ _ ▸ h).2
  · exact isNumeralChar_of_isExponent (Bool.and_eq_true _ _ ▸ h).2

/-- A numeral consists of digits, signs, a point and the letter of an exponent. -/
theorem isNumeralChar_of_isNumeral (h : isNumeral s = true) : ∀ c ∈ s.toList, IsNumeralChar c :=
  isNumeralChar_of_takeSign (isNumeralChar_of_isUnsignedNumeral h)

/-! ## Which characters a literal keeps -/

/-- The digits of ASCII are the only ones there. -/
theorem isUnreserved_of_isDigit (h : isDigit c = true) (hc : c.toNat < 0x80) : isUnreserved c = true := by
  obtain ⟨n, hn⟩ := Option.isSome_iff_exists.mp h
  obtain ⟨z, hz, -⟩ := Option.map_eq_some_iff.mp hn
  have hbounds := List.find?_some hz
  rw [Bool.and_eq_true, decide_eq_true_eq, decide_eq_true_eq] at hbounds
  have hall : ∀ z ∈ digitZeros, z = 0x30 ∨ 0x80 ≤ z := by decide
  have hzero := hall z (List.mem_of_find?_eq_some hz)
  have hrange : 0x30 ≤ c.toNat ∧ c.toNat ≤ 0x39 := by omega
  simp [isUnreserved, hrange]

/-- Of the characters of a numeral, those of ASCII are kept. -/
theorem kept_iff_ascii (h : IsNumeralChar c) :
    (isUnreserved c || storedSafe.contains c) = true ↔ c.toNat < 0x80 := by
  refine ⟨fun hkept => (plain_of_kept plain_storedSafe hkept).1, fun hc => ?_⟩
  rcases h with hdigit | rfl | rfl | rfl | rfl | rfl
  · rw [isUnreserved_of_isDigit hdigit hc, Bool.true_or]
  all_goals decide

theorem not_isNumeralChar_percent : ¬IsNumeralChar '%' := by
  unfold IsNumeralChar
  decide

/-- The quotes are no characters of a numeral, and encoding makes none. -/
theorem mark_notMem_percentEncode (d : Dialect) (h : ∀ c ∈ cs, IsNumeralChar c) : d.mark ∉ percentEncode storedSafe cs := by
  intro hm
  have hmark : ¬IsNumeralChar d.mark ∧ d.mark ≠ '%' ∧ isUnreserved d.mark = false := by
    unfold IsNumeralChar
    cases d <;> decide
  exact hmark.1 (h _ (mem_of_mem_percentEncode hm hmark.2.1 hmark.2.2))

/-! ## Literals -/

/-- A text fits a number column exactly if it is a numeral. -/
theorem fits_iff_isNumeral {type : ColumnType} (htype : type = .int ∨ type = .double) (name s : String) :
    assertFits name (.text s) type = .ok () ↔ isNumeral s = true := by
  have hboolean : isBooleanText s = true → isNumeral s = false := by
    intro hs
    rw [isBooleanText, Bool.or_eq_true, beq_iff_eq, beq_iff_eq] at hs
    rcases hs with rfl | rfl <;> decide
  rw [assertFits_eq_ok]
  simp only [Value.kind, Except.ok.injEq, exists_eq_left']
  cases hb : isBooleanText s with
  | true =>
    rw [hboolean hb]
    rcases htype with rfl | rfl <;> decide
  | false =>
    cases isNumeral s <;> rcases htype with rfl | rfl <;> decide

/-- In a number column, a text is a literal in quotes. -/
theorem literal_number {type : ColumnType} (htype : type = .int ∨ type = .double) (quote s : String) :
    (Value.text s).literal quote (some type) = .ok (textLiteral quote s) := by
  refine if_neg fun h => ?_
  rcases htype with rfl | rfl <;> cases h.1

/-- A text that fits a number column is written between quotes of which none is in it, percent-encoded; it is there as it is
exactly if it is ASCII, and if it is not, then what is there is no numeral any more. -/
theorem numeral_kept_iff_ascii (d : Dialect) {type : ColumnType} (htype : type = .int ∨ type = .double) {name s : String}
    (h : assertFits name (.text s) type = .ok ()) :
    ∃ body : String, (Value.text s).literal d.quote (some type) = .ok (d.quote ++ body ++ d.quote) ∧
      body = String.ofList (percentEncode storedSafe s.toList) ∧
      ((Value.text s).literal d.quote (some type) = .ok (d.quote ++ s ++ d.quote) ↔ ∀ c ∈ s.toList, c.toNat < 0x80) ∧
      (isNumeral body = true ↔ ∀ c ∈ s.toList, c.toNat < 0x80) := by
  have hchars := isNumeralChar_of_isNumeral ((fits_iff_isNumeral htype name s).mp h)
  have hliteral : (Value.text s).literal d.quote (some type) =
      .ok (d.quote ++ String.ofList (percentEncode storedSafe s.toList) ++ d.quote) := by
    rw [literal_number htype, textLiteral_eq, literalBody, doubleQuotes_of_notMem (mark_notMem_percentEncode d hchars)]
  have hkept : (∀ c ∈ s.toList, c.toNat < 0x80) → percentEncode storedSafe s.toList = s.toList := fun hascii =>
    percentEncode_eq_self fun c hc => (kept_iff_ascii (hchars c hc)).mpr (hascii c hc)
  -- a character beyond ASCII leaves a percent sign, which is in no numeral
  have hpercent : ¬(∀ c ∈ s.toList, c.toNat < 0x80) → '%' ∈ percentEncode storedSafe s.toList := by
    intro hne
    simp only [not_forall] at hne
    obtain ⟨c, hc, hascii⟩ := hne
    exact percent_mem_percentEncode hc (Bool.eq_false_iff.mpr (mt (kept_iff_ascii (hchars c hc)).mp hascii))
  refine ⟨_, hliteral, rfl, ⟨fun heq => ?_, fun hascii => ?_⟩, fun hnumeral => ?_, fun hascii => ?_⟩
  · by_contra hne
    have hbody : String.ofList (percentEncode storedSafe s.toList) = s := by
      rw [hliteral, Except.ok.injEq, String.append_left_inj, String.append_right_inj] at heq
      exact heq
    have hmem := hpercent hne
    rw [← String.toList_ofList (l := percentEncode storedSafe s.toList), hbody] at hmem
    exact not_isNumeralChar_percent (hchars _ hmem)
  · rw [hliteral, hkept hascii, String.ofList_toList]
  · by_contra hne
    refine not_isNumeralChar_percent (isNumeralChar_of_isNumeral hnumeral '%' ?_)
    rw [String.toList_ofList]
    exact hpercent hne
  · rw [hkept hascii, String.ofList_toList]
    exact (fits_iff_isNumeral htype name s).mp h

/-- A decimal numeral with an exponent reaches a column for numbers as it is. -/
theorem numeral_kept_iff_ascii_decimal :
    assertFits "rating" (.text "-4.5e3") .double = .ok () ∧
      (Value.text "-4.5e3").literal Dialect.sqlite.quote (some .double) = .ok "'-4.5e3'" := by
  have h : assertFits "rating" (.text "-4.5e3") .double = .ok () :=
    (fits_iff_isNumeral (.inr rfl) "rating" "-4.5e3").mpr (by decide)
  obtain ⟨body, -, -, hkept, -⟩ := numeral_kept_iff_ascii .sqlite (.inr rfl) h
  exact ⟨h, hkept.mpr (by simp)⟩

/-- The number 42 in Arabic digits fits a number column, and is not written as it is. -/
theorem foreign_digits_encoded :
    assertFits "userId" (.text "\u0664\u0662") .int = .ok () ∧
      (Value.text "\u0664\u0662").literal Dialect.sqlite.quote (some .int) = .ok "'%D9%A4%D9%A2'" ∧
      (Value.text "\u0664\u0662").literal Dialect.sqlite.quote (some .int) ≠ .ok "'\u0664\u0662'" := by
  have hliteral : (Value.text "\u0664\u0662").literal Dialect.sqlite.quote (some .int) = .ok "'%D9%A4%D9%A2'" := by
    rw [literal_number (.inl rfl), Except.ok.injEq]
    decide
  refine ⟨(fits_iff_isNumeral (.inl rfl) "userId" "\u0664\u0662").mpr (by decide), hliteral, ?_⟩
  rw [hliteral, ne_eq, Except.ok.injEq]
  decide

end RelationMapper
