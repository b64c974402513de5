import RelationMapper.Proofs.TypeSpec.Reading

/-!
# The texts that declare a type

`Declares` says which texts declare a type, character by character: a word; then perhaps a number between round brackets, which
of the column types only `varchar` may have; then perhaps a pair of square brackets; and blanks anywhere between these parts.

`parse_iff_declares` says that exactly these texts are read, as the type that they declare, and that every other text is refused
with the text itself. It leaves out the texts with a number of more digits than are read: `parse_eq_tooLong_iff` says which of
them are refused for their number alone.
-/

namespace RelationMapper

namespace TypeSpec

open Text

variable {text : String} {cs : List Char}

/-- A run of decimal digits, of any script, at least one. -/
def IsDigits (cs : List Char) : Prop := cs ≠ [] ∧ ∀ c ∈ cs, isDigit c = true

/-- A precision as it is written, and its digits: nothing, or digits between round brackets, with blanks around the digits and
after the brackets. -/
inductive PrecisionText : List Char → Option (List Char) → Prop where
  | absent : PrecisionText [] none
  | given {before digits after rest : List Char} : IsBlanks before → IsDigits digits → IsBlanks after → IsBlanks rest →
      PrecisionText ('(' :: before ++ digits ++ after ++ ')' :: rest) (some digits)

/-- The mark of an array as it is written: nothing, or a pair of square brackets, with blanks between and after them. -/
inductive ArrayText : List Char → Bool → Prop where
  | absent : ArrayText [] false
  | given {inside rest : List Char} : IsBlanks inside → IsBlanks rest → ArrayText ('[' :: inside ++ ']' :: rest) true

/-- The texts that declare a type. -/
inductive Declares : List Char → TypeSpec → Prop where
  | intro {before base after precision mark : List Char} {digits? : Option (List Char)} {isArray : Bool} :
      IsBlanks before → IsWord base → IsBlanks after → PrecisionText precision digits? → ArrayText mark isArray →
      (∀ type, ColumnType.ofName? (String.ofList base) = some type → type ≠ .varchar → digits? = none) →
      Declares (before ++ base ++ after ++ precision ++ mark) ⟨String.ofList base, digits?.map readNat, isArray⟩

/-- A text in which no round bracket is followed by more digits than are read. -/
def ShortNumbers (text : String) : Prop :=
  ∀ before blanks digits after : List Char, text.toList = before ++ '(' :: blanks ++ digits ++ after → IsBlanks blanks →
    (∀ c ∈ digits, isDigit c = true) → digits.length ≤ digitLimit

/-- A text that starts with a base and, in round brackets, a number of more digits than are read. What comes after the number
does not matter. -/
inductive HasLongNumber : List Char → Nat → Prop where
  | intro {before base after blanks digits rest : List Char} :
      IsBlanks before → IsWord base → IsBlanks after → IsBlanks blanks → IsDigits digits → EndsWord rest →
      takesPrecision (String.ofList base) = true → digitLimit < digits.length →
      HasLongNumber (before ++ base ++ after ++ '(' :: blanks ++ digits ++ rest) digits.length

/-! ## Parts of a declaration -/

theorem isNumber_iff : isNumber cs = true ↔ IsDigits cs := by
  simp [isNumber, IsDigits]

theorem IsDigits.isWord (h : IsDigits cs) : IsWord cs := ⟨h.1, fun c hc => isWordChar_of_isDigit (h.2 c hc)⟩

/-- Of the names of column types only that of `varchar` takes a precision; all other words do. -/
theorem takesPrecision_iff {base : String} :
    takesPrecision base = true ↔ ∀ type, ColumnType.ofName? base = some type → type = .varchar := by
  rw [takesPrecision]
  cases ColumnType.ofName? base <;> simp

/-- Square brackets in a text are the mark of an array. -/
theorem tokensAfter_eq_arrayTokens {isArray : Bool} : tokensAfter [] cs = arrayTokens isArray ↔
    ∃ before mark, cs = before ++ mark ∧ IsBlanks before ∧ ArrayText mark isArray := by
  cases isArray with
  | false =>
    rw [arrayTokens, if_neg Bool.false_ne_true, tokensAfter_eq_nil]
    constructor
    · intro h
      exact ⟨cs, [], (List.append_nil cs).symm, h, .absent⟩
    · rintro ⟨before, mark, rfl, h, hmark⟩
      cases hmark
      rwa [List.append_nil]
  | true =>
    rw [arrayTokens, if_pos rfl]
    constructor
    · intro h
      obtain ⟨before, rest, rfl, hbefore, h⟩ := (tokensAfter_eq_bracket '[' rfl).mp h
      obtain ⟨inside, rest, rfl, hinside, h⟩ := (tokensAfter_eq_bracket ']' rfl).mp h.symm
      exact ⟨before, _, rfl, hbefore, .given hinside (tokensAfter_eq_nil.mp h.symm)⟩
    · rintro ⟨before, mark, rfl, hbefore, hmark⟩
      cases hmark with
      | given hinside hrest =>
        refine (tokensAfter_eq_bracket '[' rfl).mpr ⟨before, _, rfl, hbefore, ?_⟩
        refine ((tokensAfter_eq_bracket ']' rfl).mpr ⟨_, _, rfl, hinside, ?_⟩).symm
        exact (tokensAfter_eq_nil.mpr hrest).symm

/-- Digits between round brackets in a text are the precision. -/
theorem tokensAfter_eq_precisionTokens {digits? : Option String} {isArray : Bool}
    (hd : ∀ digits ∈ digits?, IsDigits digits.toList) :
    tokensAfter [] cs = precisionTokens digits? ++ arrayTokens isArray ↔
      ∃ after precision mark, cs = after ++ precision ++ mark ∧ IsBlanks after ∧
        PrecisionText precision (digits?.map String.toList) ∧ ArrayText mark isArray := by
  cases digits? with
  | none =>
    refine tokensAfter_eq_arrayTokens.trans ⟨?_, ?_⟩
    · rintro ⟨before, mark, rfl, hbefore, hmark⟩
      exact ⟨before, [], mark, by rw [List.append_nil], hbefore, .absent, hmark⟩
    · rintro ⟨after, precision, mark, rfl, hafter, hprecision, hmark⟩
      cases hprecision
      exact ⟨after, mark, by rw [List.append_nil], hafter, hmark⟩
  | some digits =>
    have hdigits : IsDigits digits.toList := hd digits rfl
    have hword : isBracketToken digits = false := isBracketToken_of_digits hdigits.2
    constructor
    · intro h
      obtain ⟨before, rest, rfl, hbefore, hnumber⟩ := (tokensAfter_eq_bracket '(' rfl).mp h
      obtain ⟨inside, word, rest, rfl, hinside, -, -, hdigits', hclosing⟩ := (tokensAfter_eq_word hword).mp hnumber.symm
      obtain ⟨close, rest, rfl, hclose, harray⟩ := (tokensAfter_eq_bracket ')' rfl).mp hclosing.symm
      obtain ⟨last, mark, rfl, hlast, hmark⟩ := tokensAfter_eq_arrayTokens.mp harray.symm
      obtain rfl : digits.toList = word := by rw [hdigits', String.toList_ofList]
      exact ⟨before, '(' :: inside ++ digits.toList ++ close ++ ')' :: last, mark, by simp, hbefore,
        .given hinside hdigits hclose hlast, hmark⟩
    · rintro ⟨before, precision, mark, rfl, hbefore, hprecision, hmark⟩
      generalize hwritten : (some digits).map String.toList = digits? at hprecision
      cases hprecision with
      | absent => cases hwritten
      | @given inside written close last hinside _ hclose hlast =>
        obtain rfl : digits.toList = written := Option.some.inj hwritten
        refine (tokensAfter_eq_bracket '(' rfl).mpr
          ⟨before, inside ++ digits.toList ++ (close ++ ')' :: (last ++ mark)), by simp, hbefore, ?_⟩
        refine ((tokensAfter_eq_word hword).mpr ⟨inside, digits.toList, _, rfl, hinside, hdigits.isWord, ?_,
          String.ofList_toList.symm, ?_⟩).symm
        · exact EndsWord.blanks hclose (endsWord_bracket rfl _)
        · refine ((tokensAfter_eq_bracket ')' rfl).mpr ⟨close, _, rfl, hclose, ?_⟩).symm
          exact (tokensAfter_eq_arrayTokens.mpr ⟨last, mark, rfl, hlast, hmark⟩).symm

/-! ## Declarations -/

/-- Whatever is read is declared. -/
theorem declares_of_parse {spec : TypeSpec} (h : parse text = .ok spec) : Declares text.toList spec := by
  obtain ⟨digits?, htokens, hbase, hp, hprecision⟩ := parse_eq_ok.mp h
  obtain ⟨before, base, rest, htext, hbefore, hword, -, hname, hrest⟩ := (tokensAfter_eq_word hbase).mp htokens
  have hdigits : ∀ digits ∈ digits?, IsDigits digits.toList := fun digits hd => isNumber_iff.mp (hp digits hd).number
  obtain ⟨after, precision, mark, rfl, hafter, hwritten, hmark⟩ := (tokensAfter_eq_precisionTokens hdigits).mp hrest.symm
  obtain ⟨specBase, specPrecision, isArray⟩ := spec
  obtain rfl : specBase = String.ofList base := hname
  obtain rfl : specPrecision = (digits?.map String.toList).map readNat := by
    rw [Option.map_map]
    exact hprecision
  have htext : text.toList = before ++ base ++ after ++ precision ++ mark := by simp [htext]
  rw [htext]
  refine .intro hbefore hword hafter hwritten hmark fun type htype hne => ?_
  -- a base with a precision is no column type but `varchar`
  cases digits? with
  | none => rfl
  | some digits => exact absurd (takesPrecision_iff.mp (hp digits rfl).taken type htype) hne

/-- What may follow a base ends it. -/
theorem PrecisionText.endsWord {precision mark : List Char} {digits? : Option (List Char)} {isArray : Bool}
    (hprecision : PrecisionText precision digits?) (hmark : ArrayText mark isArray) : EndsWord (precision ++ mark) := by
  cases hprecision with
  | absent =>
    cases hmark with
    | absent => exact endsWord_nil
    | given => exact endsWord_bracket rfl _
  | given => exact endsWord_bracket rfl _

/-- Whatever is declared is read, if its number is not too long. -/
theorem parse_of_declares (h : ShortNumbers text) {spec : TypeSpec} (hd : Declares text.toList spec) :
    parse text = .ok spec := by
  generalize hcs : text.toList = cs at hd
  obtain ⟨hbefore, hword, hafter, hprecision, hmark, htype⟩ := hd
  rename_i before base after precision mark digits? isArray
  have hdigits : ∀ digits ∈ digits?, IsDigits digits ∧ digits.length ≤ digitLimit := by
    intro digits hd
    cases hprecision with
    | absent => cases hd
    | @given inside written close last hinside hwritten hclose hlast =>
      cases hd
      refine ⟨hwritten, h (before ++ base ++ after) inside digits (close ++ ')' :: last ++ mark) ?_ hinside hwritten.2⟩
      simp [hcs]
  have hends : EndsWord (after ++ precision ++ mark) := by
    rw [List.append_assoc]
    exact EndsWord.blanks hafter (hprecision.endsWord hmark)
  have hwritten : (digits?.map String.ofList).map String.toList = digits? := by cases digits? <;> simp
  refine parse_eq_ok.mpr ⟨digits?.map String.ofList, ?_, isBracketToken_word hword, ?_, ?_⟩
  · refine (tokensAfter_eq_word (isBracketToken_word hword)).mpr
      ⟨before, base, after ++ precision ++ mark, by simp [hcs], hbefore, hword, hends, rfl, ?_⟩
    refine ((tokensAfter_eq_precisionTokens ?_).mpr ⟨after, precision, mark, rfl, hafter, ?_, hmark⟩).symm
    · intro digits hd
      obtain ⟨written, hw, rfl⟩ := Option.map_eq_some_iff.mp hd
      rw [String.toList_ofList]
      exact (hdigits written hw).1
    · rwa [hwritten]
  · intro digits hd
    obtain ⟨written, hw, rfl⟩ := Option.map_eq_some_iff.mp hd
    refine ⟨?_, takesPrecision_iff.mpr fun type ht => ?_, ?_⟩
    · rw [String.toList_ofList]
      exact isNumber_iff.mpr (hdigits written hw).1
    · by_contra hne
      have hnone := htype type ht hne
      rw [hnone] at hw
      cases hw
    · rw [String.length_ofList]
      exact (hdigits written hw).2
  · cases digits? <;> simp

/-- Exactly the texts that start with a base and a number that is too long, where the base takes one, are refused for the number
alone. -/
theorem parse_eq_tooLong_iff {n : Nat} : parse text = .error (.precisionTooLong n) ↔ HasLongNumber text.toList n := by
  rw [parse_eq_tooLong]
  constructor
  · rintro ⟨base, digits, rest, hlong, rfl⟩
    have hdigits := isNumber_iff.mp hlong.number
    obtain ⟨before, word, after, htext, hbefore, hword, -, rfl, hafter⟩ := (tokensAfter_eq_word hlong.word).mp hlong.tokens
    obtain ⟨blanks, rest', rfl, hblanks, hnumber⟩ := (tokensAfter_eq_bracket '(' rfl).mp hafter.symm
    obtain ⟨inside, written, last, rfl, hinside, -, hends, hwritten, -⟩ :=
      (tokensAfter_eq_word (isBracketToken_of_digits hdigits.2)).mp hnumber.symm
    obtain rfl : digits.toList = written := by rw [hwritten, String.toList_ofList]
    have htext : text.toList = before ++ word ++ blanks ++ '(' :: inside ++ digits.toList ++ last := by simp [htext]
    rw [htext, ← String.length_toList]
    exact .intro hbefore hword hblanks hinside hdigits hends hlong.taken (String.length_toList ▸ hlong.length)
  · intro h
    generalize hcs : text.toList = cs at h
    obtain ⟨hbefore, hword, hafter, hblanks, hdigits, hends, htaken, hlength⟩ := h
    rename_i before base after blanks digits rest
    have hnumber : isBracketToken (String.ofList digits) = false :=
      isBracketToken_of_digits fun c hc => hdigits.2 c (by rwa [String.toList_ofList] at hc)
    refine ⟨String.ofList base, String.ofList digits, tokensAfter [] rest, ⟨?_, isBracketToken_word hword, ?_, htaken, ?_⟩,
      String.length_ofList.symm⟩
    · refine (tokensAfter_eq_word (isBracketToken_word hword)).mpr
        ⟨before, base, after ++ '(' :: (blanks ++ digits ++ rest), by simp [hcs], hbefore, hword, ?_, rfl, ?_⟩
      · exact EndsWord.blanks hafter (endsWord_bracket rfl _)
      · refine ((tokensAfter_eq_bracket '(' rfl).mpr ⟨after, _, rfl, hafter, ?_⟩).symm
        exact ((tokensAfter_eq_word hnumber).mpr ⟨blanks, digits, rest, rfl, hblanks, hdigits.isWord, hends, rfl, rfl⟩).symm
    · rw [String.toList_ofList]
      exact isNumber_iff.mpr hdigits
    · rwa [String.length_ofList]

/-- A text without such a number is not refused for it. -/
theorem ShortNumbers.not_long (h : ShortNumbers text) {n : Nat} : ¬HasLongNumber text.toList n := by
  intro hlong
  generalize hcs : text.toList = cs at hlong
  obtain ⟨-, -, -, hblanks, hdigits, -, -, hlength⟩ := hlong
  exact absurd (h _ _ _ _ (by rw [hcs]) hblanks hdigits.2) (Nat.not_le.mpr hlength)

/-- A text that has no more characters than a number may have digits has no number that is too long. -/
theorem shortNumbers_of_length (h : text.length ≤ digitLimit) : ShortNumbers text := by
  intro before blanks digits after htext _ _
  have hlength := congrArg List.length htext
  simp only [String.length_toList, List.length_append, List.length_cons] at hlength
  omega

/-- A text is read exactly if it declares a type, and as the type that it declares; every other text is refused with the text
itself. -/
theorem parse_iff_declares (h : ShortNumbers text) :
    (∀ spec, parse text = .ok spec ↔ Declares text.toList spec) ∧
      ((¬∃ spec, Declares text.toList spec) → ∃ e, parse text = .error e ∧ e.text? = some text) := by
  refine ⟨fun spec => ⟨declares_of_parse, parse_of_declares h⟩, fun hnone => ?_⟩
  cases hp : parse text with
  | ok spec => exact absurd ⟨spec, declares_of_parse hp⟩ hnone
  | error e =>
    refine ⟨e, rfl, ?_⟩
    rcases error_of_parse hp with htext | ⟨base, digits, rest, hlong, -⟩
    · exact htext
    · exact absurd (parse_eq_tooLong_iff.mp (parse_eq_tooLong.mpr ⟨base, digits, rest, hlong, rfl⟩)) h.not_long

/-- Blanks of many kinds and digits of another script declare a type; a number on a type that takes none does not. -/
theorem parse_iff_declares_blanks :
    ShortNumbers "\tvarchar (\u00a000\u0662\u0665\u0666 ) [ ]" ∧
    Declares "\tvarchar (\u00a000\u0662\u0665\u0666 ) [ ]".toList ⟨"varchar", some 256, true⟩ ∧
    ShortNumbers "int(4)" ∧ ∃ e, parse "int(4)" = .error e ∧ e.text? = some "int(4)" := by
  have hvarchar : ShortNumbers "\tvarchar (\u00a000\u0662\u0665\u0666 ) [ ]" := shortNumbers_of_length (by decide)
  have hint : ShortNumbers "int(4)" := shortNumbers_of_length (by decide)
  refine ⟨hvarchar, ((parse_iff_declares hvarchar).1 _).mp rfl, hint, (parse_iff_declares hint).2 ?_⟩
  rintro ⟨spec, hspec⟩
  cases ((parse_iff_declares hint).1 spec).mpr hspec

end TypeSpec

end RelationMapper
