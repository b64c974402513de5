import RelationMapper.Proofs.TypeSpec.Grammar

/-!
# The token that is to blame

A declared type that is malformed is refused with a token, or without one where the text ended too early. The grammar of
declared types over tokens, without the rule which bases take a number, is `InGrammar`. The token with which a text is refused
is the first with which its tokens leave this grammar (`LeavesAt`): what stands before it can be continued to a declared type, and
with it no longer can. `first_offence` says so of every text that is refused, and that a number on a base that takes none is
blamed itself.
-/

namespace RelationMapper

namespace TypeSpec

open Text

/-! ## The grammar over tokens -/

/-- The tokens of a declared type, whatever the base: a word, then perhaps a number between round brackets, then perhaps a pair of
square brackets. -/
def InGrammar (tokens : List String) : Prop :=
  ∃ base digits? isArray, tokens = base :: (precisionTokens digits? ++ arrayTokens isArray) ∧ isBracketToken base = false ∧
    ∀ digits ∈ digits?, isNumber digits.toList = true

/-- The tokens with which a declared type may begin. -/
def Viable (tokens : List String) : Prop := ∃ sentence, InGrammar sentence ∧ tokens <+: sentence

/-- Where tokens leave the grammar: at no token, if they are the beginning of a declared type and no declared type themselves; or
at the first token that cannot be reached from within. -/
inductive LeavesAt (tokens : List String) : Option String → Prop where
  | ended {sentence : List String} : InGrammar sentence → tokens <+: sentence → tokens ≠ sentence → ¬InGrammar tokens →
      LeavesAt tokens none
  | token {before rest : List String} {token : String} : tokens = before ++ [token] ++ rest → Viable before →
      ¬Viable (before ++ [token]) → LeavesAt tokens (some token)

variable {text base digits token : String} {digits? : Option String} {isArray : Bool} {before rest tokens : List String}

/-- Tokens are viable exactly if a declared type comes of them with others behind. -/
theorem viable_iff : Viable tokens ↔ ∃ rest, InGrammar (tokens ++ rest) := by
  constructor
  · rintro ⟨_, h, rest, rfl⟩
    exact ⟨rest, h⟩
  · rintro ⟨rest, h⟩
    exact ⟨_, h, List.prefix_append tokens rest⟩

/-- Tokens after which a token cannot stand leave the grammar there. -/
theorem LeavesAt.of_token (hbefore : Viable before) (hnext : ∀ more, ¬InGrammar (before ++ token :: more)) :
    LeavesAt (before ++ token :: rest) (some token) := by
  refine .token (by rw [List.append_assoc, List.singleton_append]) hbefore fun h => ?_
  obtain ⟨more, hmore⟩ := viable_iff.mp h
  rw [List.append_assoc, List.singleton_append] at hmore
  exact hnext more hmore

/-- Tokens that have to be continued leave the grammar at the next one, where it cannot stand there, or at their end. -/
theorem LeavesAt.of_head? (before : List String) {next : String} {more : List String} (hgoes : InGrammar (before ++ next :: more))
    (hopen : ¬InGrammar before) (hnext : ∀ token ∈ rest.head?, ∀ more, ¬InGrammar (before ++ token :: more)) :
    LeavesAt (before ++ rest) rest.head? := by
  cases rest with
  | nil =>
    rw [List.append_nil]
    exact .ended hgoes (List.prefix_append _ _) (by simp) hopen
  | cons token rest => exact .of_token (viable_iff.mpr ⟨_, hgoes⟩) (hnext token rfl)

/-! ## Which tokens may follow -/

/-- A declared type is a base, perhaps a number in round brackets, and perhaps square brackets. -/
theorem inGrammar_cons : InGrammar (base :: rest) ↔ isBracketToken base = false ∧
    ∃ digits? isArray, rest = precisionTokens digits? ++ arrayTokens isArray ∧
      ∀ digits ∈ digits?, isNumber digits.toList = true := by
  constructor
  · rintro ⟨_, digits?, isArray, h, hb, hd⟩
    cases h
    exact ⟨hb, digits?, isArray, rfl, hd⟩
  · rintro ⟨hb, digits?, isArray, rfl, hd⟩
    exact ⟨base, digits?, isArray, rfl, hb, hd⟩

/-- A number stands between the round brackets. -/
theorem inGrammar_open : InGrammar (base :: "(" :: rest) ↔ isBracketToken base = false ∧
    ∃ digits isArray, rest = digits :: ")" :: arrayTokens isArray ∧ isNumber digits.toList = true := by
  rw [inGrammar_cons]
  refine and_congr_right fun _ => ⟨?_, ?_⟩
  · rintro ⟨_ | digits, isArray, h, hd⟩
    · cases isArray <;> simp [precisionTokens, arrayTokens] at h
    · simp only [precisionTokens, Option.elim_some, List.cons_append, List.cons.injEq, true_and] at h
      exact ⟨digits, isArray, h, hd digits rfl⟩
  · rintro ⟨digits, isArray, rfl, hd⟩
    exact ⟨some digits, isArray, rfl, by simpa using hd⟩

/-- After the precision come the square brackets, or nothing; or, if there is none, a round bracket. -/
theorem inGrammar_precision (h : InGrammar (base :: (precisionTokens digits? ++ rest))) :
    (∃ isArray, rest = arrayTokens isArray) ∨ digits? = none ∧ rest.head? = some "(" := by
  cases digits? with
  | none =>
    obtain ⟨-, _ | digits, isArray, hrest, -⟩ := inGrammar_cons.mp h
    · exact .inl ⟨isArray, hrest⟩
    · obtain rfl : rest = precisionTokens (some digits) ++ arrayTokens isArray := hrest
      exact .inr ⟨rfl, rfl⟩
  | some digits =>
    have hopen : InGrammar (base :: "(" :: digits :: ")" :: rest) := h
    obtain ⟨-, _, isArray, hrest, -⟩ := inGrammar_open.mp hopen
    simp only [List.cons.injEq, true_and] at hrest
    exact .inl ⟨isArray, hrest.2⟩

/-! ## Where the tokens leave the grammar -/

theorem inGrammar_base (hb : isBracketToken base = false) (hd : ∀ digits ∈ digits?, isNumber digits.toList = true)
    (isArray : Bool) : InGrammar (base :: (precisionTokens digits? ++ arrayTokens isArray)) :=
  ⟨base, digits?, isArray, rfl, hb, hd⟩

/-- At the base. -/
theorem leavesAt_base (hnext : ∀ token ∈ tokens.head?, isBracketToken token = true) : LeavesAt tokens tokens.head? := by
  have hword : InGrammar ["int"] := inGrammar_cons.mpr ⟨rfl, none, false, rfl, nofun⟩
  refine LeavesAt.of_head? [] hword (fun ⟨_, _, _, h, _⟩ => by cases h) fun token ht more h => ?_
  have hb := (inGrammar_cons.mp h).1
  rw [hnext token ht] at hb
  cases hb

/-- Between the round brackets. -/
theorem leavesAt_number (hb : isBracketToken base = false) (hnext : ∀ token ∈ rest.head?, isNumber token.toList = false) :
    LeavesAt (base :: "(" :: rest) rest.head? := by
  have hgoes : InGrammar ([base, "("] ++ "0" :: [")"]) := inGrammar_open.mpr ⟨hb, "0", false, rfl, rfl⟩
  refine LeavesAt.of_head? [base, "("] hgoes (fun h => ?_) fun token ht more h => ?_
  · obtain ⟨-, _, _, h, -⟩ := inGrammar_open.mp h
    cases h
  · obtain ⟨-, _, _, h, hd⟩ := inGrammar_open.mp h
    cases h
    rw [hnext token ht] at hd
    cases hd

/-- After the number. -/
theorem leavesAt_roundClose (hb : isBracketToken base = false) (hd : isNumber digits.toList = true)
    (hnext : ∀ token ∈ rest.head?, token ≠ ")") : LeavesAt (base :: "(" :: digits :: rest) rest.head? := by
  have hgoes : InGrammar ([base, "(", digits] ++ ")" :: []) := inGrammar_open.mpr ⟨hb, digits, false, rfl, hd⟩
  refine LeavesAt.of_head? [base, "(", digits] hgoes (fun h => ?_) fun token ht more h => ?_
  · obtain ⟨-, _, _, h, -⟩ := inGrammar_open.mp h
    cases h
  · have hopen : InGrammar (base :: "(" :: digits :: token :: more) := h
    obtain ⟨-, _, _, hrest, -⟩ := inGrammar_open.mp hopen
    simp only [List.cons.injEq] at hrest
    exact hnext token ht hrest.2.1

/-- After a square bracket. -/
theorem leavesAt_squareClose (hb : isBracketToken base = false) (hd : ∀ digits ∈ digits?, isNumber digits.toList = true)
    (hnext : ∀ token ∈ rest.head?, token ≠ "]") :
    LeavesAt (base :: (precisionTokens digits? ++ "[" :: rest)) rest.head? := by
  have hbefore (rest : List String) : base :: (precisionTokens digits? ++ "[" :: rest) =
      base :: (precisionTokens digits? ++ ["["]) ++ rest := by simp
  have hgoes : InGrammar (base :: (precisionTokens digits? ++ ["["]) ++ "]" :: []) := by
    rw [← hbefore]
    exact inGrammar_base hb hd true
  rw [hbefore]
  refine LeavesAt.of_head? _ hgoes (fun h => ?_) fun token ht more h => ?_
  · rcases inGrammar_precision h with ⟨isArray, h⟩ | ⟨-, h⟩
    · cases isArray <;> simp [arrayTokens] at h
    · simp at h
  · rw [← hbefore] at h
    rcases inGrammar_precision h with ⟨isArray, h⟩ | ⟨-, h⟩
    · cases isArray with
      | false => simp [arrayTokens] at h
      | true =>
        simp only [arrayTokens, if_true, List.cons.injEq, true_and] at h
        exact hnext token ht h.1
    · simp at h

/-- After a declared type. -/
theorem leavesAt_after (hb : isBracketToken base = false) (hd : ∀ digits ∈ digits?, isNumber digits.toList = true)
    (hround : digits? = none → (arrayTokens isArray ++ token :: rest).head? ≠ some "(")
    (hsquare : isArray = false → token ≠ "[") :
    LeavesAt (base :: (precisionTokens digits? ++ (arrayTokens isArray ++ token :: rest))) (some token) := by
  have hbefore (rest : List String) : base :: (precisionTokens digits? ++ (arrayTokens isArray ++ rest)) =
      base :: (precisionTokens digits? ++ arrayTokens isArray) ++ rest := by simp
  have hcomplete : InGrammar (base :: (precisionTokens digits? ++ arrayTokens isArray)) := inGrammar_base hb hd isArray
  rw [hbefore]
  refine LeavesAt.of_token ⟨_, hcomplete, List.prefix_refl _⟩ fun more h => ?_
  rw [← hbefore] at h
  rcases inGrammar_precision h with ⟨isArray', h⟩ | ⟨hnone, h⟩
  · cases isArray with
    | true => cases isArray' <;> simp [arrayTokens] at h
    | false =>
      cases isArray' with
      | false => simp [arrayTokens] at h
      | true =>
        have htoken : token = "[" := (List.cons.inj h).1
        exact hsquare rfl htoken
  · refine hround hnone (Eq.trans ?_ h)
    cases isArray <;> rfl

/-- A text that is refused for a token, or for its end, leaves the grammar there. -/
theorem leavesAt_of_stops {expected : Expected} {token? : Option String} {source : String}
    (h : Stops text tokens (.unexpected expected token? source)) : LeavesAt tokens token? := by
  cases h with
  | base hnext => exact leavesAt_base hnext
  | number hb hnext => exact leavesAt_number hb hnext
  | roundClose hb hd hnext => exact leavesAt_roundClose hb hd hnext
  | squareClose hb hd hnext => exact leavesAt_squareClose hb hd hnext
  | after hb hd hround hsquare => exact leavesAt_after hb hd hround hsquare

/-- A text that is refused for a token leaves the grammar with this token and not before; where it is refused without a token, it
is the beginning of a declared type and none itself. A text that is refused for a number on a base that takes none blames the number,
which stands in round brackets after the name of a column type other than `varchar`. -/
theorem first_offence (text : String) :
    (∀ expected token? source, parse text = .error (.unexpected expected token? source) → LeavesAt (tokenize text) token?) ∧
    ∀ base digits source, parse text = .error (.precisionOn base digits source) →
      (∃ rest, tokenize text = base :: "(" :: digits :: rest) ∧ isNumber digits.toList = true ∧
        ∃ type, ColumnType.ofName? base = some type ∧ type ≠ .varchar := by
  refine ⟨fun _ _ _ h => leavesAt_of_stops (stops_of_parse h), fun base digits source h => ?_⟩
  have hstops := stops_of_parse h
  generalize tokenize text = tokens at hstops
  cases hstops with
  | precisionOn hd htaken =>
    refine ⟨⟨_, rfl⟩, hd, ?_⟩
    by_contra hnone
    have htakes : takesPrecision base = true := takesPrecision_iff.mpr fun type ht => by_contra fun hne => hnone ⟨type, ht, hne⟩
    rw [htaken] at htakes
    cases htakes

/-- A word where a number should stand, a text that ends too early, something after a complete type, and a number on a column type
that takes none. -/
theorem first_offence_texts :
    parse "varchar(x) []" = .error (.unexpected .number (some "x") "varchar(x) []") ∧
    LeavesAt ["varchar", "(", "x", ")", "[", "]"] (some "x") ∧
    parse "Post(3)[" = .error (.unexpected .squareClose none "Post(3)[") ∧ LeavesAt ["Post", "(", "3", ")", "["] none ∧
    parse "Post[](3)" = .error (.unexpected .nothing (some "(") "Post[](3)") ∧
    LeavesAt ["Post", "[", "]", "(", "3", ")"] (some "(") ∧
    parse "int(4" = .error (.precisionOn "int" "4" "int(4") ∧ ∃ type, ColumnType.ofName? "int" = some type ∧ type ≠ .varchar := by
  have hword : parse "varchar(x) []" = .error (.unexpected .number (some "x") "varchar(x) []") := rfl
  have hend : parse "Post(3)[" = .error (.unexpected .squareClose none "Post(3)[") := rfl
  have hafter : parse "Post[](3)" = .error (.unexpected .nothing (some "(") "Post[](3)") := rfl
  have hnumber : parse "int(4" = .error (.precisionOn "int" "4" "int(4") := rfl
  exact ⟨hword, (first_offence _).1 _ _ _ hword, hend, (first_offence _).1 _ _ _ hend, hafter, (first_offence _).1 _ _ _ hafter,
    hnumber, ((first_offence _).2 _ _ _ hnumber).2.2⟩

end TypeSpec

end RelationMapper
