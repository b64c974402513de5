import RelationMapper.Proofs.Except
import RelationMapper.Proofs.TypeSpec.Tokens
import RelationMapper.TypeSpec.Parser

/-!
# What is read from tokens

Each reader takes its tokens off the front and leaves the others. The lemmas say which tokens these are, one lemma for each
reader; together, a declared type is read if its tokens are a word, then perhaps a number between round brackets, then perhaps
a pair of square brackets (`parse_eq_ok`).

Whatever else is refused at one of a few places (`stops_of_parse`), and with the text that was read, with one exception: a number
that is too long to be read (`error_of_parse`, `parse_eq_tooLong`).
-/

namespace RelationMapper

namespace TypeSpec

open Text

variable {text base : String} {tokens rest : List String}

/-- A token that is read as the precision of a base: a number that is not too long, where the base takes one. -/
structure IsPrecision (base digits : String) : Prop where
  number : isNumber digits.toList = true
  taken : takesPrecision base = true
  length : digits.length ≤ digitLimit

/-- The tokens of a precision, if there is one. -/
def precisionTokens (digits? : Option String) : List String := digits?.elim [] fun digits => ["(", digits, ")"]

/-- The tokens that mark an array. -/
def arrayTokens (isArray : Bool) : List String := if isArray then ["[", "]"] else []

/-! ## What is read -/

/-- A base is read exactly if the first token is no bracket. -/
theorem readBase_eq_ok : readBase text tokens = .ok (base, rest) ↔ tokens = base :: rest ∧ isBracketToken base = false := by
  cases tokens with
  | nil => simp [readBase]
  | cons token more =>
    rw [readBase, ite_error_eq_ok, Except.ok.injEq, Prod.mk.injEq, List.cons.injEq, Bool.not_eq_true]
    constructor
    · rintro ⟨hb, rfl, rfl⟩
      exact ⟨⟨rfl, rfl⟩, hb⟩
    · rintro ⟨⟨rfl, rfl⟩, hb⟩
      exact ⟨hb, rfl, rfl⟩

theorem readRoundClose_eq_ok : readRoundClose text tokens = .ok rest ↔ tokens = ")" :: rest := by
  cases tokens with
  | nil => simp [readRoundClose]
  | cons token more => by_cases h : token = ")" <;> simp [readRoundClose, h]

/-- A precision is read exactly from a number that the base takes, before a closing bracket. -/
theorem readNumber_eq_ok {n : Nat} : readNumber text base tokens = .ok (n, rest) ↔
    ∃ digits, tokens = digits :: ")" :: rest ∧ IsPrecision base digits ∧ n = readNat digits.toList := by
  cases tokens with
  | nil => simp [readNumber]
  | cons token more =>
    rw [readNumber, refuse_eq_ok, refuse_eq_ok, refuse_eq_ok, bind_eq_ok]
    simp only [readRoundClose_eq_ok, pure_eq_ok, Prod.mk.injEq, Bool.not_eq_true', Bool.not_eq_false, Nat.not_lt,
      List.cons.injEq]
    constructor
    · rintro ⟨hnumber, htaken, hlength, _, rfl, rfl, rfl⟩
      exact ⟨token, ⟨rfl, rfl⟩, ⟨hnumber, htaken, hlength⟩, rfl⟩
    · rintro ⟨_, ⟨rfl, rfl⟩, ⟨hnumber, htaken, hlength⟩, rfl⟩
      exact ⟨hnumber, htaken, hlength, _, rfl, rfl, rfl⟩

/-- A precision is read off the front exactly where the tokens start with a round bracket. -/
theorem readPrecision_eq_ok_or {precision : Option Nat} : readPrecision text base tokens = .ok (precision, rest) ↔
    (tokens = rest ∧ precision = none ∧ rest.head? ≠ some "(") ∨
      ∃ digits, tokens = "(" :: digits :: ")" :: rest ∧ IsPrecision base digits ∧
        precision = some (readNat digits.toList) := by
  cases tokens with
  | nil =>
    simp only [readPrecision, Except.ok.injEq, Prod.mk.injEq]
    constructor
    · rintro ⟨rfl, rfl⟩
      exact .inl ⟨rfl, rfl, nofun⟩
    · rintro (⟨rfl, rfl, -⟩ | ⟨digits, h, -⟩)
      · exact ⟨rfl, rfl⟩
      · cases h
  | cons token more =>
    rw [readPrecision]
    by_cases hopen : token = "("
    · subst hopen
      rw [if_pos rfl, bind_eq_ok]
      simp only [Prod.exists, readNumber_eq_ok, pure_eq_ok, Prod.mk.injEq, List.cons.injEq, true_and]
      constructor
      · rintro ⟨_, _, ⟨digits, rfl, hp, rfl⟩, rfl, rfl⟩
        exact .inr ⟨digits, rfl, hp, rfl⟩
      · rintro (⟨rfl, -, hhead⟩ | ⟨digits, rfl, hp, rfl⟩)
        · exact absurd rfl hhead
        · exact ⟨_, _, ⟨digits, rfl, hp, rfl⟩, rfl, rfl⟩
    · rw [if_neg hopen, Except.ok.injEq, Prod.mk.injEq]
      constructor
      · rintro ⟨rfl, rfl⟩
        exact .inl ⟨rfl, rfl, fun h => hopen (Option.some.inj h)⟩
      · rintro (⟨rfl, rfl, -⟩ | ⟨digits, h, -⟩)
        · exact ⟨rfl, rfl⟩
        · exact absurd (List.cons.inj h).1 hopen

/-- A precision is read between round brackets, and left out exactly where none opens. -/
theorem readPrecision_eq_ok {precision : Option Nat} : readPrecision text base tokens = .ok (precision, rest) ↔
    ∃ digits? : Option String, tokens = precisionTokens digits? ++ rest ∧ (∀ digits ∈ digits?, IsPrecision base digits) ∧
      precision = digits?.map (readNat ·.toList) ∧ (digits? = none → rest.head? ≠ some "(") := by
  rw [readPrecision_eq_ok_or]
  constructor
  · rintro (⟨rfl, rfl, hhead⟩ | ⟨digits, rfl, hp, rfl⟩)
    · exact ⟨none, rfl, nofun, rfl, fun _ => hhead⟩
    · exact ⟨some digits, rfl, fun _ hd => Option.some.inj hd ▸ hp, rfl, nofun⟩
  · rintro ⟨_ | digits, ht, hp, rfl, hhead⟩
    · exact .inl ⟨ht, rfl, hhead rfl⟩
    · exact .inr ⟨digits, ht, hp digits rfl, rfl⟩

/-- The mark of an array is read off the front where the tokens start with a square bracket. -/
theorem readArray_eq_ok {isArray : Bool} : readArray text tokens = .ok (isArray, rest) ↔
    tokens = arrayTokens isArray ++ rest ∧ (isArray = false → rest.head? ≠ some "[") := by
  cases tokens with
  | nil =>
    simp only [readArray, Except.ok.injEq, Prod.mk.injEq]
    constructor
    · rintro ⟨rfl, rfl⟩
      exact ⟨rfl, nofun⟩
    · rintro ⟨h, -⟩
      cases isArray with
      | true => cases h
      | false => exact ⟨rfl, h⟩
  | cons token more =>
    unfold readArray
    dsimp only
    by_cases hopen : token = "["
    · subst hopen
      rw [if_pos rfl]
      cases more with
      | nil => cases isArray <;> simp +contextual [arrayTokens, eq_comm]
      | cons close more =>
        dsimp only
        by_cases hclose : close = "]" <;> cases isArray <;> simp +contextual [arrayTokens, hclose, eq_comm]
    · rw [if_neg hopen, Except.ok.injEq, Prod.mk.injEq]
      constructor
      · rintro ⟨rfl, rfl⟩
        exact ⟨rfl, fun _ h => hopen (Option.some.inj h)⟩
      · rintro ⟨h, -⟩
        cases isArray with
        | true => exact absurd (List.cons.inj h).1 hopen
        | false => exact ⟨rfl, h⟩

/-- A declared type is read if its tokens are a word, then perhaps a number between round brackets, then perhaps a pair of
square brackets. -/
theorem parse_eq_ok {spec : TypeSpec} : parse text = .ok spec ↔
    ∃ digits? : Option String, tokenize text = spec.base :: (precisionTokens digits? ++ arrayTokens spec.isArray) ∧
      isBracketToken spec.base = false ∧ (∀ digits ∈ digits?, IsPrecision spec.base digits) ∧
      spec.precision = digits?.map (readNat ·.toList) := by
  have hchain : parse text = .ok spec ↔ ∃ afterBase afterPrecision,
      readBase text (tokenize text) = .ok (spec.base, afterBase) ∧
      readPrecision text spec.base afterBase = .ok (spec.precision, afterPrecision) ∧
      readArray text afterPrecision = .ok (spec.isArray, []) := by
    rw [parse, bind_eq_ok]
    constructor
    · rintro ⟨⟨base, afterBase⟩, hbase, h⟩
      obtain ⟨⟨precision, afterPrecision⟩, hprecision, h⟩ := bind_eq_ok.mp h
      obtain ⟨⟨isArray, afterArray⟩, harray, h⟩ := bind_eq_ok.mp h
      cases afterArray with
      | nil =>
        cases pure_eq_ok.mp h
        exact ⟨afterBase, afterPrecision, hbase, hprecision, harray⟩
      | cons token more => cases h
    · rintro ⟨afterBase, afterPrecision, hbase, hprecision, harray⟩
      refine ⟨_, hbase, bind_eq_ok.mpr ⟨_, hprecision, bind_eq_ok.mpr ⟨_, harray, rfl⟩⟩⟩
  rw [hchain]
  simp only [readBase_eq_ok, readPrecision_eq_ok, readArray_eq_ok, List.append_nil]
  constructor
  · rintro ⟨afterBase, afterPrecision, ⟨htokens, hbase⟩, ⟨digits?, rfl, hp, hprecision, -⟩, rfl, -⟩
    exact ⟨digits?, htokens, hbase, hp, hprecision⟩
  · rintro ⟨digits?, htokens, hbase, hp, hprecision⟩
    refine ⟨_, _, ⟨htokens, hbase⟩, ⟨digits?, rfl, hp, hprecision, fun _ => ?_⟩, rfl, nofun⟩
    cases spec.isArray <;> decide

/-! ## What is refused -/

/-- The tokens of a declared type whose number is too long to be read: what follows the number is not looked at. -/
structure TooLong (tokens : List String) (base digits : String) (rest : List String) : Prop where
  tokens : tokens = base :: "(" :: digits :: rest
  word : isBracketToken base = false
  number : isNumber digits.toList = true
  taken : takesPrecision base = true
  length : digitLimit < digits.length

/-- Where the reading of a declared type stops, and for what: at the base, where no word stands; between the round brackets, where
no number stands; at a number that the base does not take, or that is too long; where a bracket is not closed; and after a declared
type, where something else follows. -/
inductive Stops (text : String) : List String → DeclarationError → Prop where
  | base {tokens : List String} : (∀ token ∈ tokens.head?, isBracketToken token = true) →
      Stops text tokens (.unexpected .baseName tokens.head? text)
  | number {base : String} {rest : List String} : isBracketToken base = false →
      (∀ token ∈ rest.head?, isNumber token.toList = false) →
      Stops text (base :: "(" :: rest) (.unexpected .number rest.head? text)
  | precisionOn {base digits : String} {rest : List String} : isNumber digits.toList = true → takesPrecision base = false →
      Stops text (base :: "(" :: digits :: rest) (.precisionOn base digits text)
  | tooLong {base digits : String} {rest : List String} : TooLong (base :: "(" :: digits :: rest) base digits rest →
      Stops text (base :: "(" :: digits :: rest) (.precisionTooLong digits.length)
  | roundClose {base digits : String} {rest : List String} : isBracketToken base = false → isNumber digits.toList = true →
      (∀ token ∈ rest.head?, token ≠ ")") →
      Stops text (base :: "(" :: digits :: rest) (.unexpected .roundClose rest.head? text)
  | squareClose {base : String} {digits? : Option String} {rest : List String} : isBracketToken base = false →
      (∀ digits ∈ digits?, isNumber digits.toList = true) → (∀ token ∈ rest.head?, token ≠ "]") →
      Stops text (base :: (precisionTokens digits? ++ "[" :: rest)) (.unexpected .squareClose rest.head? text)
  | after {base token : String} {digits? : Option String} {isArray : Bool} {rest : List String} {expected : Expected} :
      isBracketToken base = false → (∀ digits ∈ digits?, isNumber digits.toList = true) →
      (digits? = none → (arrayTokens isArray ++ token :: rest).head? ≠ some "(") → (isArray = false → token ≠ "[") →
      Stops text (base :: (precisionTokens digits? ++ (arrayTokens isArray ++ token :: rest)))
        (.unexpected expected (some token) text)

variable {e : DeclarationError} {digits? : Option String}

/-- Where no base can be read, the reading stops at the base. -/
theorem stops_of_readBase (h : readBase text tokens = .error e) : Stops text tokens e := by
  cases tokens with
  | nil =>
    cases h
    exact .base nofun
  | cons token rest =>
    rw [readBase] at h
    split at h
    · case isTrue hb =>
      cases h
      exact .base fun _ ht => Option.some.inj ht ▸ hb
    · cases h

theorem error_of_readRoundClose (h : readRoundClose text tokens = .error e) :
    e = .unexpected .roundClose tokens.head? text ∧ ∀ token ∈ tokens.head?, token ≠ ")" := by
  cases tokens with
  | nil =>
    cases h
    exact ⟨rfl, nofun⟩
  | cons token rest =>
    rw [readRoundClose] at h
    split at h
    · cases h
    · case isFalse hclose =>
      cases h
      exact ⟨rfl, fun _ ht => Option.some.inj ht ▸ hclose⟩

/-- Where no precision can be read after the bracket, the reading stops there. -/
theorem stops_of_readNumber (hb : isBracketToken base = false) (h : readNumber text base tokens = .error e) :
    Stops text (base :: "(" :: tokens) e := by
  cases tokens with
  | nil =>
    cases h
    exact .number hb nofun
  | cons digits rest =>
    rw [readNumber] at h
    cases hnumber : isNumber digits.toList with
    | false =>
      rw [hnumber, Bool.not_false, if_pos rfl] at h
      cases h
      exact .number hb fun _ ht => Option.some.inj ht ▸ hnumber
    | true =>
      rw [hnumber, Bool.not_true, if_neg Bool.false_ne_true] at h
      cases htaken : takesPrecision base with
      | false =>
        rw [htaken, Bool.not_false, if_pos rfl] at h
        cases h
        exact .precisionOn hnumber htaken
      | true =>
        rw [htaken, Bool.not_true, if_neg Bool.false_ne_true] at h
        by_cases hlength : digitLimit < digits.length
        · rw [if_pos hlength] at h
          cases h
          exact .tooLong ⟨rfl, hb, hnumber, htaken, hlength⟩
        · rw [if_neg hlength] at h
          rcases bind_eq_error.mp h with h | ⟨_, -, h⟩
          · obtain ⟨rfl, hclose⟩ := error_of_readRoundClose h
            exact .roundClose hb hnumber hclose
          · cases h

theorem stops_of_readPrecision (hb : isBracketToken base = false) (h : readPrecision text base tokens = .error e) :
    Stops text (base :: tokens) e := by
  cases tokens with
  | nil => cases h
  | cons token rest =>
    rw [readPrecision] at h
    split at h
    · case isTrue hopen =>
      rcases bind_eq_error.mp h with h | ⟨_, -, h⟩
      · rw [hopen]
        exact stops_of_readNumber hb h
      · cases h
    · cases h

theorem stops_of_readArray (hb : isBracketToken base = false) (hd : ∀ digits ∈ digits?, isNumber digits.toList = true)
    (h : readArray text tokens = .error e) : Stops text (base :: (precisionTokens digits? ++ tokens)) e := by
  unfold readArray at h
  split at h
  · cases h
  · split at h
    · case isTrue hopen =>
      rw [hopen]
      split at h
      · cases h
        exact .squareClose hb hd nofun
      · split at h
        · cases h
        · case isFalse hclose =>
          cases h
          exact .squareClose hb hd fun _ ht => Option.some.inj ht ▸ hclose
    · cases h

/-- Every text that is refused is so at one of these places. -/
theorem stops_of_parse (h : parse text = .error e) : Stops text (tokenize text) e := by
  rw [parse] at h
  rcases bind_eq_error.mp h with h | ⟨⟨base, afterBase⟩, hbase, h⟩
  · exact stops_of_readBase h
  obtain ⟨htokens, hb⟩ := readBase_eq_ok.mp hbase
  rw [htokens]
  rcases bind_eq_error.mp h with h | ⟨⟨precision, afterPrecision⟩, hprecision, h⟩
  · exact stops_of_readPrecision hb h
  obtain ⟨digits?, hafterBase, hp, -, hround⟩ := readPrecision_eq_ok.mp hprecision
  have hd : ∀ digits ∈ digits?, isNumber digits.toList = true := fun digits hdigits => (hp digits hdigits).number
  rw [hafterBase]
  rcases bind_eq_error.mp h with h | ⟨⟨isArray, afterArray⟩, harray, h⟩
  · exact stops_of_readArray hb hd h
  obtain ⟨hafterPrecision, hsquare⟩ := readArray_eq_ok.mp harray
  cases afterArray with
  | nil => cases h
  | cons token rest =>
    cases h
    rw [hafterPrecision] at hround ⊢
    exact .after hb hd hround fun hfalse htoken => hsquare hfalse (congrArg some htoken)

/-- A declared type is refused with the text that was read, or because its number is too long. -/
theorem error_of_parse (h : parse text = .error e) :
    e.text? = some text ∨ ∃ base digits rest, TooLong (tokenize text) base digits rest ∧
      e = .precisionTooLong digits.length := by
  have hstops := stops_of_parse h
  generalize tokenize text = tokens at hstops
  cases hstops with
  | tooLong hlong => exact .inr ⟨_, _, _, hlong, rfl⟩
  | _ => exact .inl rfl

/-- The number is what a declared type is refused for if it is too long and the base may have one. -/
theorem parse_eq_tooLong {n : Nat} : parse text = .error (.precisionTooLong n) ↔
    ∃ base digits rest, TooLong (tokenize text) base digits rest ∧ n = digits.length := by
  constructor
  · intro h
    rcases error_of_parse h with htext | ⟨base, digits, rest, hlong, he⟩
    · cases htext
    · exact ⟨base, digits, rest, hlong, DeclarationError.precisionTooLong.inj he⟩
  · rintro ⟨base, digits, rest, hlong, rfl⟩
    have hnumber : readNumber text base (digits :: rest) = .error (.precisionTooLong digits.length) := by
      rw [readNumber]
      simp only [hlong.number, hlong.taken, hlong.length, if_true, Bool.not_true, Bool.false_eq_true, if_false]
      rfl
    have hprecision : readPrecision text base ("(" :: digits :: rest) = .error (.precisionTooLong digits.length) := by
      rw [readPrecision, if_pos rfl]
      exact bind_eq_error.mpr (.inl hnumber)
    rw [parse]
    exact bind_eq_error.mpr (.inr ⟨_, readBase_eq_ok.mpr ⟨hlong.tokens, hlong.word⟩, bind_eq_error.mpr (.inl hprecision)⟩)

end TypeSpec

end RelationMapper
