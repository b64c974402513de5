import Mathlib.Data.List.TakeWhile
import RelationMapper.Text.Digit
import RelationMapper.TypeSpec.Token

/-!
# Tokens one by one

The tokenizer collects the characters of a run one at a time. Said without that (`tokensAfter_eq`): after the blanks comes a
bracket, which is a token of its own, or a word, which goes as far as there are characters that are neither blank nor brackets.
Hence the first token tells what the text starts with, and the other way round (`tokensAfter_eq_nil`, `tokensAfter_eq_bracket`,
`tokensAfter_eq_word`). Letters and digits belong to words (`isWordChar_of_isAlpha`, `isWordChar_of_isDigit`), so a word of letters only, or of digits
only, is also what is taken while there are letters or digits (`takeWhile_eq_of_all`).
-/

namespace RelationMapper

variable {α : Type} {p q : α → Bool}

/-- Where all that is taken passes a narrower test, the same is taken by that test. -/
theorem takeWhile_eq_of_all (hqp : ∀ a, q a = true → p a = true) {xs : List α} (h : ∀ a ∈ xs.takeWhile p, q a = true) :
    xs.takeWhile q = xs.takeWhile p ∧ xs.dropWhile q = xs.dropWhile p := by
  induction xs with
  | nil => exact ⟨rfl, rfl⟩
  | cons a xs ih =>
    cases hp : p a with
    | false =>
      have hq : q a = false := Bool.eq_false_iff.mpr fun hq => Bool.false_ne_true (hp.symm.trans (hqp a hq))
      simp [hp, hq]
    | true =>
      rw [List.takeWhile_cons_of_pos hp, List.forall_mem_cons] at h
      obtain ⟨htake, hdrop⟩ := ih h.2
      rw [List.takeWhile_cons_of_pos hp, List.takeWhile_cons_of_pos h.1, List.dropWhile_cons_of_pos hp,
        List.dropWhile_cons_of_pos h.1]
      exact ⟨congrArg _ htake, hdrop⟩

namespace TypeSpec

open Text

/-! ## Characters of words -/

/-- Whether a character belongs to a word: it is neither blank nor a bracket. -/
def isWordChar (c : Char) : Bool := !isBlank c && !isBracket c

/-- The brackets belong to no word. -/
theorem isWordChar_of_isBracket {c : Char} (h : isBracket c = true) : isWordChar c = false := by simp [isWordChar, h]

theorem isAlpha_of_isBracket {c : Char} (h : isBracket c = true) : c.isAlpha = false := by
  have hall : brackets.all (!·.isAlpha) = true := by decide
  simpa using List.all_eq_true.mp hall c (List.contains_iff_mem.mp h)

theorem isDigit_of_isBracket {c : Char} (h : isBracket c = true) : isDigit c = false := by
  have hall : brackets.all (!isDigit ·) = true := by decide
  simpa using List.all_eq_true.mp hall c (List.contains_iff_mem.mp h)

/-- A token of digits is no bracket. -/
theorem isBracketToken_of_digits {token : String} (h : ∀ c ∈ token.toList, isDigit c = true) :
    isBracketToken token = false := by
  rw [isBracketToken, List.any_eq_false]
  intro bracket hb heq
  have htoken : token.toList = [bracket] := by simpa using congrArg String.toList (beq_iff_eq.mp heq)
  have hdigit := h bracket (by simp [htoken])
  simp [isDigit_of_isBracket (List.contains_iff_mem.mpr hb)] at hdigit

theorem isWordChar_of_isAlpha {c : Char} (h : c.isAlpha = true) : isWordChar c = true := by
  have hletter : (65 ≤ c.toNat ∧ c.toNat ≤ 90) ∨ (97 ≤ c.toNat ∧ c.toNat ≤ 122) := by
    have hcase : (c.isUpper || c.isLower) = true := h
    rcases Bool.or_eq_true _ _ ▸ hcase with hupper | hlower
    · have hupper : 65 ≤ c.val ∧ c.val ≤ 90 := of_decide_eq_true hupper
      exact Or.inl hupper
    · have hlower : (decide (97 ≤ c.val) && decide (c.val ≤ 122)) = true := hlower
      rw [Bool.and_eq_true, decide_eq_true_eq, decide_eq_true_eq] at hlower
      exact Or.inr hlower
  have hblank : isBlank c = false := by
    simp only [isBlank, Bool.or_eq_false_iff, Bool.and_eq_false_iff, decide_eq_false_iff_not, beq_eq_false_iff_ne]
    omega
  have hbracket : isBracket c = false := Bool.eq_false_iff.mpr fun hk => by simp [isAlpha_of_isBracket hk] at h
  simp [isWordChar, hblank, hbracket]

/-- No block of digits meets the blanks. -/
theorem digitZeros_apart : ∀ z ∈ digitZeros, (z = 0x30 ∨ 0xa0 < z) ∧ (z + 9 < 0x1680 ∨ 0x1680 < z) ∧
    (z + 9 < 0x2000 ∨ 0x205f < z) ∧ (z + 9 < 0x3000 ∨ 0x3000 < z) := by
  decide

theorem isWordChar_of_isDigit {c : Char} (h : isDigit c = true) : isWordChar c = true := by
  have hbracket : isBracket c = false := Bool.eq_false_iff.mpr fun hk => by simp [isDigit_of_isBracket hk] at h
  have hblank : isBlank c = false := by
    rw [isDigit, digitValue?, Option.isSome_map, List.find?_isSome] at h
    obtain ⟨z, hz, hc⟩ := h
    have hapart := digitZeros_apart z hz
    simp only [Bool.and_eq_true, decide_eq_true_eq] at hc
    simp only [isBlank, Bool.or_eq_false_iff, Bool.and_eq_false_iff, decide_eq_false_iff_not, beq_eq_false_iff_ne]
    omega
  simp [isWordChar, hblank, hbracket]

/-! ## Tokens -/

/-- A run that has begun goes on to the end of the word. -/
theorem tokensAfter_run {run : List Char} (h : run ≠ []) (cs : List Char) :
    tokensAfter run cs =
      String.ofList (run.reverse ++ cs.takeWhile isWordChar) :: tokensAfter [] (cs.dropWhile isWordChar) := by
  induction cs generalizing run with
  | nil => simp [tokensAfter, runToken, h]
  | cons c cs ih =>
    have hrun : runToken run = [String.ofList run.reverse] := by simp [runToken, h]
    rw [tokensAfter]
    by_cases hb : isBlank c = true
    · have hw : isWordChar c = false := by simp [isWordChar, hb]
      rw [if_pos hb, hrun, List.takeWhile_cons_of_neg (by simp [hw]), List.dropWhile_cons_of_neg (by simp [hw]),
        List.append_nil, tokensAfter, if_pos hb]
      rfl
    · by_cases hk : isBracket c = true
      · have hw : isWordChar c = false := by simp [isWordChar, hk]
        rw [if_neg hb, if_pos hk, hrun, List.takeWhile_cons_of_neg (by simp [hw]), List.dropWhile_cons_of_neg (by simp [hw]),
          List.append_nil, tokensAfter, if_neg hb, if_pos hk]
        rfl
      · have hw : isWordChar c = true := by simp [isWordChar, hb, hk]
        rw [if_neg hb, if_neg hk, ih (List.cons_ne_nil c run), List.takeWhile_cons_of_pos hw, List.dropWhile_cons_of_pos hw,
          List.reverse_cons, List.append_assoc]
        rfl

/-- The tokens of a text one by one: after the blanks comes a bracket, or a word. -/
theorem tokensAfter_eq (cs : List Char) :
    tokensAfter [] cs =
      match cs.dropWhile isBlank with
      | [] => []
      | c :: rest =>
        if isBracket c then c.toString :: tokensAfter [] rest
        else String.ofList ((c :: rest).takeWhile isWordChar) :: tokensAfter [] ((c :: rest).dropWhile isWordChar) := by
  induction cs with
  | nil => rfl
  | cons c cs ih =>
    by_cases hb : isBlank c = true
    · rw [tokensAfter, if_pos hb, List.dropWhile_cons_of_pos hb, ← ih]
      rfl
    · rw [tokensAfter, if_neg hb, List.dropWhile_cons_of_neg hb]
      dsimp only
      by_cases hk : isBracket c = true
      · rw [if_pos hk, if_pos hk]
        rfl
      · have hw : isWordChar c = true := by simp [isWordChar, hb, hk]
        rw [if_neg hk, if_neg hk, tokensAfter_run (List.cons_ne_nil c []), List.takeWhile_cons_of_pos hw,
          List.dropWhile_cons_of_pos hw]
        rfl

/-- Where no token is left there are blanks only. -/
theorem dropWhile_isBlank_of_tokens_nil {cs : List Char} (h : tokensAfter [] cs = []) : cs.dropWhile isBlank = [] := by
  rw [tokensAfter_eq] at h
  cases hcs : cs.dropWhile isBlank with
  | nil => rfl
  | cons c rest =>
    rw [hcs] at h
    dsimp only at h
    split at h <;> cases h

/-- A token that is a bracket stands as this bracket in the text, after blanks. -/
theorem dropWhile_isBlank_of_bracket {cs : List Char} {bracket : Char} (hb : isBracket bracket = true)
    {tokens : List String} (h : tokensAfter [] cs = bracket.toString :: tokens) :
    ∃ rest, cs.dropWhile isBlank = bracket :: rest ∧ tokens = tokensAfter [] rest := by
  rw [tokensAfter_eq] at h
  cases hcs : cs.dropWhile isBlank with
  | nil =>
    rw [hcs] at h
    cases h
  | cons c rest =>
    rw [hcs] at h
    dsimp only at h
    split at h
    · obtain ⟨hc, ht⟩ := List.cons.inj h
      have hc : [c] = [bracket] := by simpa using congrArg String.toList hc
      cases hc
      exact ⟨rest, rfl, ht.symm⟩
    · have hword : (c :: rest).takeWhile isWordChar = [bracket] := by simpa using congrArg String.toList (List.cons.inj h).1
      have hmem : bracket ∈ (c :: rest).takeWhile isWordChar := by simp [hword]
      exact absurd (List.mem_takeWhile_imp hmem) (by simp [isWordChar_of_isBracket hb])

/-- A token that is no bracket is a word, after blanks. -/
theorem takeWhile_isWordChar_of_word {cs : List Char} {token : String} (hw : isBracketToken token = false)
    {tokens : List String} (h : tokensAfter [] cs = token :: tokens) :
    (cs.dropWhile isBlank).takeWhile isWordChar = token.toList ∧
      tokens = tokensAfter [] ((cs.dropWhile isBlank).dropWhile isWordChar) := by
  rw [tokensAfter_eq] at h
  cases hcs : cs.dropWhile isBlank with
  | nil =>
    rw [hcs] at h
    cases h
  | cons c rest =>
    rw [hcs] at h
    dsimp only at h
    split at h
    · case isTrue hk =>
      obtain ⟨rfl, -⟩ := List.cons.inj h
      have hbracket : isBracketToken c.toString = true :=
        List.any_eq_true.mpr ⟨c, List.contains_iff_mem.mp hk, beq_self_eq_true _⟩
      rw [hw] at hbracket
      cases hbracket
    · obtain ⟨rfl, rfl⟩ := List.cons.inj h
      exact ⟨String.toList_ofList.symm, rfl⟩

/-! ## The first token and the start of the text -/

/-- A run of blanks, perhaps empty. -/
def IsBlanks (cs : List Char) : Prop := ∀ c ∈ cs, isBlank c = true

/-- A run of characters that are neither blank nor brackets, at least one. -/
def IsWord (cs : List Char) : Prop := cs ≠ [] ∧ ∀ c ∈ cs, isWordChar c = true

/-- A word ends where nothing follows, or a character that belongs to no word. -/
def EndsWord (rest : List Char) : Prop := ∀ c ∈ rest.head?, isWordChar c = false

theorem isBlanks_nil : IsBlanks [] := by simp [IsBlanks]

theorem endsWord_nil : EndsWord [] := by simp [EndsWord]

theorem endsWord_bracket {bracket : Char} (h : isBracket bracket = true) (rest : List Char) :
    EndsWord (bracket :: rest) := by
  simp [EndsWord, isWordChar_of_isBracket h]

/-- Blanks end a word, or else whatever follows them does. -/
theorem EndsWord.blanks {before rest : List Char} (hb : IsBlanks before) (h : EndsWord rest) :
    EndsWord (before ++ rest) := by
  cases before with
  | nil => exact h
  | cons c before =>
    have hc : isBlank c = true := hb c List.mem_cons_self
    simp [EndsWord, isWordChar, hc]

theorem isBlanks_takeWhile (cs : List Char) : IsBlanks (cs.takeWhile isBlank) := fun _ hc => List.mem_takeWhile_imp hc

/-- Blanks in front of a text add no token. -/
theorem tokensAfter_blanks {before : List Char} (h : IsBlanks before) (rest : List Char) :
    tokensAfter [] (before ++ rest) = tokensAfter [] rest := by
  induction before with
  | nil => rfl
  | cons c before ih =>
    obtain ⟨hc, hbefore⟩ := List.forall_mem_cons.mp h
    rw [List.cons_append, tokensAfter, if_pos hc, ih hbefore]
    rfl

theorem isBlank_of_isBracket {c : Char} (h : isBracket c = true) : isBlank c = false := by
  have hall : brackets.all (!isBlank ·) = true := by decide
  simpa using List.all_eq_true.mp hall c (List.contains_iff_mem.mp h)

/-- A bracket is a token of its own. -/
theorem tokensAfter_bracket {bracket : Char} (h : isBracket bracket = true) (rest : List Char) :
    tokensAfter [] (bracket :: rest) = bracket.toString :: tokensAfter [] rest := by
  rw [tokensAfter, if_neg (by simp [isBlank_of_isBracket h]), if_pos h]
  rfl

/-- A word is a token, if it ends there. -/
theorem tokensAfter_word {word rest : List Char} (hw : IsWord word) (he : EndsWord rest) :
    tokensAfter [] (word ++ rest) = String.ofList word :: tokensAfter [] rest := by
  obtain ⟨c, word, rfl⟩ := List.exists_cons_of_ne_nil hw.1
  obtain ⟨hc, hall⟩ := List.forall_mem_cons.mp hw.2
  have hstop : rest.takeWhile isWordChar = [] ∧ rest.dropWhile isWordChar = rest := by
    cases rest with
    | nil => exact ⟨rfl, rfl⟩
    | cons d rest =>
      have hd : isWordChar d = false := he d rfl
      simp [hd]
  have hchar : isBlank c = false ∧ isBracket c = false := by simpa [isWordChar] using hc
  rw [List.cons_append, tokensAfter, if_neg (by simp [hchar.1]), if_neg (by simp [hchar.2]),
    tokensAfter_run (List.cons_ne_nil c []), List.takeWhile_append_of_pos hall, List.dropWhile_append_of_pos hall, hstop.1,
    hstop.2, List.append_nil]
  rfl

/-- A word is no bracket. -/
theorem isBracketToken_word {word : List Char} (hw : IsWord word) : isBracketToken (String.ofList word) = false := by
  rw [isBracketToken, List.any_eq_false]
  intro bracket hb heq
  have hword : word = [bracket] := by simpa using congrArg String.toList (beq_iff_eq.mp heq)
  have hchar := hw.2 bracket (by simp [hword])
  simp [isWordChar_of_isBracket (List.contains_iff_mem.mpr hb)] at hchar

/-- No token is empty. -/
theorem toList_ne_nil_of_token {cs : List Char} {token : String} {tokens : List String}
    (h : tokensAfter [] cs = token :: tokens) : token.toList ≠ [] := by
  rw [tokensAfter_eq] at h
  cases hcs : cs.dropWhile isBlank with
  | nil =>
    rw [hcs] at h
    cases h
  | cons c rest =>
    have hblank : isBlank c = false := by
      have hhead := List.head_dropWhile_not (p := isBlank) (l := cs) (by simp [hcs])
      simpa [hcs] using hhead
    rw [hcs] at h
    dsimp only at h
    split at h
    · obtain ⟨rfl, -⟩ := List.cons.inj h
      simp
    · case isFalse hk =>
      have hc : isWordChar c = true := by simp [isWordChar, hblank, hk]
      obtain ⟨rfl, -⟩ := List.cons.inj h
      simp [hc]

/-- A text has no tokens if it is blank. -/
theorem tokensAfter_eq_nil {cs : List Char} : tokensAfter [] cs = [] ↔ IsBlanks cs := by
  constructor
  · intro h
    exact List.dropWhile_eq_nil_iff.mp (dropWhile_isBlank_of_tokens_nil h)
  · intro h
    rw [← List.append_nil cs, tokensAfter_blanks h]
    rfl

/-- The first token is a bracket if the text starts with it, after blanks. -/
theorem tokensAfter_eq_bracket {cs : List Char} (bracket : Char) (hb : isBracket bracket = true) {tokens : List String} :
    tokensAfter [] cs = bracket.toString :: tokens ↔
      ∃ before rest, cs = before ++ bracket :: rest ∧ IsBlanks before ∧ tokens = tokensAfter [] rest := by
  constructor
  · intro h
    obtain ⟨rest, hrest, ht⟩ := dropWhile_isBlank_of_bracket hb h
    refine ⟨cs.takeWhile isBlank, rest, ?_, isBlanks_takeWhile cs, ht⟩
    rw [← hrest, List.takeWhile_append_dropWhile]
  · rintro ⟨before, rest, rfl, hbefore, rfl⟩
    rw [tokensAfter_blanks hbefore, tokensAfter_bracket hb]

/-- The first token is a word if the text starts with it, after blanks, and the word ends there. -/
theorem tokensAfter_eq_word {cs : List Char} {token : String} (hw : isBracketToken token = false) {tokens : List String} :
    tokensAfter [] cs = token :: tokens ↔
      ∃ before word rest, cs = before ++ word ++ rest ∧ IsBlanks before ∧ IsWord word ∧ EndsWord rest ∧
        token = String.ofList word ∧ tokens = tokensAfter [] rest := by
  constructor
  · intro h
    obtain ⟨hword, ht⟩ := takeWhile_isWordChar_of_word hw h
    have hsplit : cs = cs.takeWhile isBlank ++ (cs.dropWhile isBlank).takeWhile isWordChar ++
        (cs.dropWhile isBlank).dropWhile isWordChar := by
      rw [List.append_assoc, List.takeWhile_append_dropWhile, List.takeWhile_append_dropWhile]
    have hends : EndsWord ((cs.dropWhile isBlank).dropWhile isWordChar) := by
      intro c hc
      have hne : (cs.dropWhile isBlank).dropWhile isWordChar ≠ [] := List.ne_nil_of_mem (List.mem_of_mem_head? hc)
      have hhead := List.head_dropWhile_not isWordChar hne
      rw [List.head?_eq_some_head hne] at hc
      cases hc
      simpa using hhead
    refine ⟨_, _, _, hsplit, isBlanks_takeWhile cs, ⟨by rw [hword]; exact toList_ne_nil_of_token h, fun _ hc => List.mem_takeWhile_imp hc⟩, hends, ?_, ht⟩
    rw [hword, String.ofList_toList]
  · rintro ⟨before, word, rest, rfl, hbefore, hword, hends, rfl, rfl⟩
    rw [List.append_assoc, tokensAfter_blanks hbefore, tokensAfter_word hword hends]

end TypeSpec

end RelationMapper
