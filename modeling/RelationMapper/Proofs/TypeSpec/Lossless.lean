import RelationMapper.Proofs.TypeSpec.Tokens

/-!
# What tokenizing keeps

Tokenizing loses nothing but the blanks, cuts no word in two, and goes part by part. The run that is pending is what makes the
parts depend on each other; it ends where a word ends, so a text that is cut there has the tokens of its two parts
(`tokensAfter_append`). A cut at blanks or at a bracket is such a cut from either side, and so is one at the edge of a word.
`tokens_lossless` puts these together. Any tokens, joined with blanks, are the tokens of the text that they make up
(`tokenize_intercalate`).
-/

namespace RelationMapper

namespace TypeSpec

open Text

/-- A token: a bracket, or a word. -/
inductive IsToken : String → Prop where
  | bracket {c : Char} : isBracket c = true → IsToken c.toString
  | word {cs : List Char} : IsWord cs → IsToken (String.ofList cs)

variable {run before cs rest : List Char}

/-! ## Each token -/

/-- A pending run of word characters is no token or a word. -/
theorem isToken_of_mem_runToken (hrun : ∀ c ∈ run, isWordChar c = true) {token : String} (h : token ∈ runToken run) :
    IsToken token := by
  cases run with
  | nil => cases h
  | cons c run =>
    rw [List.mem_singleton.mp h]
    exact .word ⟨by simp, fun d hd => hrun d (List.mem_reverse.mp hd)⟩

/-- The pending run consists of word characters, and so every token is a bracket or a word. -/
theorem isToken_of_mem (hrun : ∀ c ∈ run, isWordChar c = true) {token : String} (h : token ∈ tokensAfter run cs) :
    IsToken token := by
  induction cs generalizing run with
  | nil => exact isToken_of_mem_runToken hrun h
  | cons c cs ih =>
    rw [tokensAfter] at h
    split at h
    · rcases List.mem_append.mp h with h | h
      · exact isToken_of_mem_runToken hrun h
      · exact ih (List.forall_mem_nil _) h
    · split at h
      · case isTrue hk =>
        rcases List.mem_append.mp h with h | h
        · exact isToken_of_mem_runToken hrun h
        · rcases List.mem_cons.mp h with rfl | h
          · exact .bracket hk
          · exact ih (List.forall_mem_nil _) h
      · case isFalse hb hk =>
        have hc : isWordChar c = true := by simp [isWordChar, hb, hk]
        exact ih (List.forall_mem_cons.mpr ⟨hc, hrun⟩) h

/-! ## All characters -/

theorem flatMap_runToken (run : List Char) : (runToken run).flatMap String.toList = run.reverse := by
  cases run with
  | nil => rfl
  | cons c run => simp [runToken]

/-- The pending run and what is left of a text, without its blanks, are the characters of the tokens in order. -/
theorem flatMap_tokensAfter (run cs : List Char) :
    (tokensAfter run cs).flatMap String.toList = run.reverse ++ cs.filter fun c => !isBlank c := by
  induction cs generalizing run with
  | nil => rw [tokensAfter, flatMap_runToken, List.filter_nil, List.append_nil]
  | cons c cs ih =>
    rw [tokensAfter]
    split
    · case isTrue hb =>
      rw [List.flatMap_append, flatMap_runToken, ih, List.filter_cons_of_neg (by simp [hb])]
      rfl
    · case isFalse hb =>
      rw [List.filter_cons_of_pos (by simp [hb])]
      split
      · rw [List.flatMap_append, flatMap_runToken, List.flatMap_cons, ih, Char.toString, String.toList_singleton]
        rfl
      · rw [ih, List.reverse_cons, List.append_assoc]
        rfl

/-! ## Part by part -/

/-- A run ends where a word does, and what follows is read as if nothing stood before it. -/
theorem tokensAfter_of_endsWord (h : EndsWord rest) (run : List Char) :
    tokensAfter run rest = runToken run ++ tokensAfter [] rest := by
  cases rest with
  | nil => exact (List.append_nil _).symm
  | cons c rest =>
    have hc : isWordChar c = false := h c rfl
    by_cases hb : isBlank c = true
    · rw [tokensAfter, if_pos hb, tokensAfter, if_pos hb]
      rfl
    · have hk : isBracket c = true := by simpa [isWordChar, hb] using hc
      rw [tokensAfter, if_neg hb, if_pos hk, tokensAfter, if_neg hb, if_pos hk]
      rfl

/-- A text that is cut where a word ends has the tokens of its parts. -/
theorem tokensAfter_append (h : EndsWord rest) (run cs : List Char) :
    tokensAfter run (cs ++ rest) = tokensAfter run cs ++ tokensAfter [] rest := by
  -- a run that is still pending at the cut meets what follows only there
  induction cs generalizing run with
  | nil => exact tokensAfter_of_endsWord h run
  | cons c cs ih =>
    rw [List.cons_append, tokensAfter, tokensAfter]
    split
    · rw [ih, List.append_assoc]
    · split
      · rw [ih, List.append_assoc, List.cons_append]
      · exact ih (c :: run)

/-- Blanks between two texts add no token and keep the tokens apart. -/
theorem tokensAfter_between_blanks {blanks : List Char} (hne : blanks ≠ []) (h : IsBlanks blanks) (before rest : List Char) :
    tokensAfter [] (before ++ blanks ++ rest) = tokensAfter [] before ++ tokensAfter [] rest := by
  obtain ⟨c, blanks, rfl⟩ := List.exists_cons_of_ne_nil hne
  have hc : isBlank c = true := h c List.mem_cons_self
  have hends : EndsWord (c :: blanks ++ rest) := by simp [EndsWord, isWordChar, hc]
  rw [List.append_assoc, tokensAfter_append hends, tokensAfter_blanks h]

/-- A bracket between two texts is a token between their tokens. -/
theorem tokensAfter_between_bracket {bracket : Char} (h : isBracket bracket = true) (before rest : List Char) :
    tokensAfter [] (before ++ bracket :: rest) = tokensAfter [] before ++ bracket.toString :: tokensAfter [] rest := by
  rw [tokensAfter_append (endsWord_bracket h rest), tokensAfter_bracket h]

/-- A text whose last character belongs to no word has its tokens whatever follows. -/
theorem tokensAfter_append_of_reverse (h : EndsWord before.reverse) (rest : List Char) :
    tokensAfter [] (before ++ rest) = tokensAfter [] before ++ tokensAfter [] rest := by
  rcases List.eq_nil_or_concat before with rfl | ⟨before, c, rfl⟩
  · rfl
  · rw [List.concat_eq_append] at h ⊢
    have hc : isWordChar c = false := h c (by simp)
    -- the last character is a blank or a bracket, which keeps apart what stands around it
    by_cases hb : isBlank c = true
    · have hblanks : IsBlanks [c] := List.forall_mem_singleton.mpr hb
      have hlast := tokensAfter_between_blanks (List.cons_ne_nil c []) hblanks before []
      rw [tokensAfter_between_blanks (List.cons_ne_nil c []) hblanks, ← List.append_nil (before ++ [c]), hlast]
      simp [tokensAfter, runToken]
    · have hk : isBracket c = true := by simpa [isWordChar, hb] using hc
      rw [List.append_assoc, List.singleton_append, tokensAfter_between_bracket hk, tokensAfter_between_bracket hk]
      simp [tokensAfter, runToken]

/-! ## Tokens joined -/

/-- A token by itself is its only token. -/
theorem tokenize_token {token : String} (h : IsToken token) : tokenize token = [token] := by
  cases h with
  | bracket hk =>
    rw [tokenize, Char.toString, String.toList_singleton, tokensAfter_bracket hk]
    rfl
  | @word cs hw =>
    have hword := tokensAfter_word hw endsWord_nil
    rw [List.append_nil] at hword
    rw [tokenize, String.toList_ofList, hword]
    rfl

/-- Tokens joined with blanks are the tokens of the text that they make up. -/
theorem tokenize_intercalate {tokens : List String} (h : ∀ token ∈ tokens, IsToken token) :
    tokenize (" ".intercalate tokens) = tokens := by
  induction tokens with
  | nil => rfl
  | cons token tokens ih =>
    rw [List.forall_mem_cons] at h
    cases tokens with
    | nil => exact tokenize_token h.1
    | cons next tokens =>
      have hblank : IsBlanks [' '] := List.forall_mem_singleton.mpr rfl
      rw [String.intercalate_cons_cons, tokenize, String.toList_append, String.toList_append]
      refine (tokensAfter_between_blanks (List.cons_ne_nil ' ' []) hblank _ _).trans ?_
      exact congrArg₂ (· ++ ·) (tokenize_token h.1) (ih h.2)

/-- Each token is a bracket or a word, and put together the tokens are the text without its blanks. A word that is no part of a
longer one is a token. Blanks, at least one, add no token and keep the tokens on their two sides apart; a bracket adds itself. The
tokens, joined with blanks, are tokenized to what they are. -/
theorem tokens_lossless :
    (∀ text, ∀ token ∈ tokenize text, IsToken token) ∧
    (∀ text, String.join (tokenize text) = String.ofList (text.toList.filter fun c => !isBlank c)) ∧
    (∀ before word after : String, EndsWord before.toList.reverse → IsWord word.toList → EndsWord after.toList →
      tokenize (before ++ word ++ after) = tokenize before ++ [word] ++ tokenize after) ∧
    (∀ before blanks after : String, blanks ≠ "" → IsBlanks blanks.toList →
      tokenize (before ++ blanks ++ after) = tokenize before ++ tokenize after) ∧
    (∀ (before : String) (bracket : Char) (after : String), isBracket bracket = true →
      tokenize (before ++ bracket.toString ++ after) = tokenize before ++ [bracket.toString] ++ tokenize after) ∧
    ∀ text, tokenize (" ".intercalate (tokenize text)) = tokenize text := by
  have hall (text : String) : ∀ token ∈ tokenize text, IsToken token := fun _ h => isToken_of_mem (List.forall_mem_nil _) h
  refine ⟨hall, fun text => ?_, fun before word after hbefore hword hafter => ?_, fun before blanks after hne hblanks => ?_,
    fun before bracket after hbracket => ?_, fun text => tokenize_intercalate (hall text)⟩
  · rw [← String.toList_inj, String.toList_join, String.toList_ofList]
    exact flatMap_tokensAfter [] text.toList
  · rw [tokenize, String.toList_append, String.toList_append, List.append_assoc, tokensAfter_append_of_reverse hbefore,
      tokensAfter_word hword hafter, String.ofList_toList, List.append_assoc]
    rfl
  · have hne : blanks.toList ≠ [] := mt String.toList_eq_nil_iff.mp hne
    rw [tokenize, String.toList_append, String.toList_append]
    exact tokensAfter_between_blanks hne hblanks _ _
  · rw [tokenize, String.toList_append, String.toList_append, Char.toString, String.toList_singleton, List.append_assoc,
      List.singleton_append, tokensAfter_between_bracket hbracket, List.append_assoc]
    rfl

/-- A declaration with blanks of several kinds: one of its tokens, cuts at its word, at its blanks and at its bracket, and its
tokens joined. -/
theorem tokens_lossless_declaration :
    tokenize "\tvarchar\u00a0( 24)  userId" = ["varchar", "(", "24", ")", "userId"] ∧ IsToken "24" ∧
    tokenize ("\t" ++ "varchar" ++ "\u00a0( 24)  userId") = tokenize "\t" ++ ["varchar"] ++ tokenize "\u00a0( 24)  userId" ∧
    tokenize ("\tvarchar\u00a0( 24)" ++ "  " ++ "userId") = tokenize "\tvarchar\u00a0( 24)" ++ tokenize "userId" ∧
    tokenize ("\tvarchar\u00a0" ++ '('.toString ++ " 24)  userId") =
      tokenize "\tvarchar\u00a0" ++ ['('.toString] ++ tokenize " 24)  userId" ∧
    tokenize (" ".intercalate ["varchar", "(", "24", ")", "userId"]) = ["varchar", "(", "24", ")", "userId"] := by
  obtain ⟨htoken, -, hword, hblanks, hbracket, hjoined⟩ := tokens_lossless
  have htokens : tokenize "\tvarchar\u00a0( 24)  userId" = ["varchar", "(", "24", ")", "userId"] := rfl
  have hmember : "24" ∈ tokenize "\tvarchar\u00a0( 24)  userId" := by simp [htokens]
  have hvarchar : IsWord "varchar".toList := ⟨List.cons_ne_nil _ _, List.all_eq_true.mp (by decide)⟩
  have htwo : IsBlanks "  ".toList := List.all_eq_true.mp (by decide)
  refine ⟨htokens, htoken _ _ hmember, hword _ _ _ ?_ hvarchar ?_, hblanks _ _ _ (by decide) htwo,
    hbracket _ '(' _ rfl, ?_⟩
  · rintro _ ⟨⟩
    rfl
  · rintro _ ⟨⟩
    rfl
  · rw [← htokens]
    exact hjoined _

end TypeSpec

end RelationMapper
