import Mathlib.Data.List.Forall2
import RelationMapper.Proofs.Lexing.Literal

/-!
# Values in their places

A text that values are written into is a row of pieces: characters that are always there, and values (`Piece`). Its tokens are
told by the places of the values alone (`pattern`), with one literal token in each place (`reads_placed`), if every value stands
between characters that end tokens (`Placed`).

Whether that is so can be seen block by block: a block is a part of a text that may stand before any delimiter (`IsBlock`).
-/

namespace RelationMapper.Lexing

/-- A piece of a text: a fixed character, or a value in writing. -/
inductive Piece where
  | char (c : Char)
  | value (text : List Char)

namespace Piece

/-- The characters of a piece. -/
def text : Piece → List Char
  | .char c => [c]
  | .value text => text

/-- A piece without its value. -/
def place : Piece → Option Char
  | .char c => some c
  | .value _ => none

/-- The value of a piece. -/
def value? : Piece → Option (List Char)
  | .char _ => none
  | .value text => some text

end Piece

variable {d : Dialect} {b : Bool} {c : Char} {scan : Scan} {ps qs rest : List Piece} {s : String}

/-- The text that pieces make up. -/
def written (ps : List Piece) : List Char := ps.flatMap (·.text)

/-- Pieces without their values. -/
def places (ps : List Piece) : List (Option Char) := ps.map (·.place)

/-- The values among pieces. -/
def values (ps : List Piece) : List (List Char) := ps.filterMap (·.value?)

/-- A fixed text. -/
def fixed (s : String) : List Piece := s.toList.map .char

/-- A literal as a value. -/
def valueOf (literal : String) : List Piece := [.value literal.toList]

/-- Blocks with a fixed text between each two. -/
def separated (separator : String) (blocks : List (List Piece)) : List Piece := (fixed separator).intercalate blocks

@[simp] theorem written_append : written (ps ++ qs) = written ps ++ written qs := List.flatMap_append

@[simp] theorem places_append : places (ps ++ qs) = places ps ++ places qs := List.map_append

@[simp] theorem values_append : values (ps ++ qs) = values ps ++ values qs := List.filterMap_append

@[simp] theorem written_fixed (s : String) : written (fixed s) = s.toList := by
  simp [written, fixed, List.flatMap_map, Piece.text]

@[simp] theorem values_fixed (s : String) : values (fixed s) = [] := by
  simp [values, fixed, List.filterMap_map, Piece.value?]

@[simp] theorem written_valueOf (literal : String) : written (valueOf literal) = literal.toList := List.append_nil _

@[simp] theorem places_valueOf (literal : String) : places (valueOf literal) = [none] := rfl

@[simp] theorem values_valueOf (literal : String) : values (valueOf literal) = [literal.toList] := rfl

@[simp] theorem fixed_append (s s' : String) : fixed (s ++ s') = fixed s ++ fixed s' := by
  simp only [fixed, String.toList_append, List.map_append]

/-- What goes through appended texts goes through separated ones. -/
theorem map_intercalate {α β : Type} {f : List α → List β} (hnil : f [] = [])
    (happend : ∀ xs ys, f (xs ++ ys) = f xs ++ f ys) (separator : List α) (blocks : List (List α)) :
    f (separator.intercalate blocks) = (f separator).intercalate (blocks.map f) := by
  induction blocks with
  | nil => exact hnil
  | cons x blocks ih =>
    cases blocks with
    | nil => simp only [List.map_cons, List.map_nil, List.intercalate_singleton]
    | cons y blocks => simp only [List.map_cons, List.intercalate_cons_cons, happend] at ih ⊢; rw [ih]

/-- Blocks with a separator are written with it between them. -/
theorem written_separated (separator : String) (blocks : List (List Piece)) :
    written (separated separator blocks) = separator.toList.intercalate (blocks.map written) := by
  rw [separated, map_intercalate rfl (fun _ _ => written_append), written_fixed]

/-- The places in separated blocks are those in the blocks, with the separator's characters between them. -/
theorem places_separated (separator : String) (blocks : List (List Piece)) :
    places (separated separator blocks) = (places (fixed separator)).intercalate (blocks.map places) :=
  map_intercalate rfl (fun _ _ => places_append) _ _

theorem values_separated (separator : String) (blocks : List (List Piece)) :
    values (separated separator blocks) = blocks.flatMap values := by
  have flat : ∀ xs : List (List (List Char)), List.intercalate [] xs = xs.flatten := by
    intro xs
    induction xs with
    | nil => rfl
    | cons x xs ih =>
      cases xs with
      | nil => simp only [List.intercalate_singleton, List.flatten_cons, List.flatten_nil, List.append_nil]
      | cons y xs => rw [List.intercalate_cons_cons, ih, List.append_nil, List.flatten_cons (l := x)]
  rw [separated, map_intercalate rfl (fun _ _ => values_append), values_fixed, flat, List.flatMap_def]

/-! ## Tokens with places -/

/-- The tokens of a text, without those in the places of values. -/
def pattern (d : Dialect) : Scan → List (Option Char) → List (Option Token)
  | scan, [] => (ended d scan).map some
  | scan, some c :: rest => (step d scan c).1.map some ++ pattern d (step d scan c).2 rest
  | scan, none :: rest => (ended d scan).map some ++ none :: pattern d .between rest

/-- Tokens are those of a pattern, with the given ones in its places, one in each. -/
inductive Fills : List (Option Token) → List Token → List Token → Prop where
  | nil : Fills [] [] []
  | fixed {pattern : List (Option Token)} {values tokens : List Token} (token : Token) :
      Fills pattern values tokens → Fills (some token :: pattern) values (token :: tokens)
  | value {pattern : List (Option Token)} {values tokens : List Token} (token : Token) :
      Fills pattern values tokens → Fills (none :: pattern) (token :: values) (token :: tokens)

/-- Tokens put before a pattern are put before those that fill it. -/
theorem Fills.append {pattern : List (Option Token)} {values tokens : List Token} (h : Fills pattern values tokens)
    (before : List Token) : Fills (before.map some ++ pattern) values (before ++ tokens) := by
  induction before with
  | nil => exact h
  | cons token before ih => exact .fixed token ih

/-- Where the tokens of one pattern differ, both stand in a place. -/
theorem Fills.differ_in_places {pattern : List (Option Token)} {values values' tokens tokens' : List Token}
    (h : Fills pattern values tokens) (h' : Fills pattern values' tokens') :
    List.Forall₂ (fun token token' => token = token' ∨ (token ∈ values ∧ token' ∈ values')) tokens tokens' := by
  induction h generalizing values' tokens' with
  | nil =>
    cases h'
    exact .nil
  | fixed token _ ih =>
    cases h' with
    | fixed _ h' => exact .cons (.inl rfl) (ih h')
  | value token _ ih =>
    cases h' with
    | value token' h' =>
      refine .cons (.inr ⟨List.mem_cons_self, List.mem_cons_self⟩) ((ih h').imp fun _ _ hor => ?_)
      exact hor.imp_right fun ⟨hm, hm'⟩ => ⟨List.mem_cons_of_mem _ hm, List.mem_cons_of_mem _ hm'⟩

/-! ## Fixed characters -/

/-- A character that statements have outside of values. None of them begins a quoted string, a number with a sign or a
comment. -/
def isFixed (c : Char) : Bool := c.isAlphanum || ['_', '.', ',', '(', ')', '=', ' ', '\n'].contains c

/-- Whether a value may stand right after a character. -/
def opens (c : Char) : Bool := c == ' ' || c == '('

/-- Whether reading is between tokens, in a word or in a number. -/
def Scan.IsCalm : Scan → Prop
  | .between | .word _ | .number _ _ => True
  | _ => False

/-- A fixed character begins nothing but a word or a number. -/
theorem isCalm_start (h : isFixed c = true) : (start d c).2.IsCalm := by
  have hquote : ¬isQuote c = true := by
    intro hq
    simp only [isQuote, Bool.or_eq_true, beq_iff_eq] at hq
    rcases hq with (rfl | rfl) | rfl <;> exact absurd h (by decide)
  have hother : ¬(c = '-' ∨ c = '+') ∧ c ≠ '/' ∧ ¬(c = '#' ∧ d = .mysql) := by
    refine ⟨?_, ?_, ?_⟩
    · rintro (rfl | rfl) <;> exact absurd h (by decide)
    · rintro rfl
      exact absurd h (by decide)
    · rintro ⟨rfl, -⟩
      exact absurd h (by decide)
  rw [start, if_neg hquote, if_neg hother.1, if_neg hother.2.1, if_neg hother.2.2]
  split
  · trivial
  · split
    · trivial
    · split <;> trivial

/-- Fixed characters lead from calm reading to calm reading. -/
theorem isCalm_step (hs : scan.IsCalm) (h : isFixed c = true) : (step d scan c).2.IsCalm := by
  unfold step
  cases hgo : goOn? d scan c with
  | none => exact isCalm_start h
  | some scan' =>
    cases scan with
    | between => cases hgo
    | word read =>
      rw [goOn?, Option.ite_none_right_eq_some] at hgo
      cases hgo.2
      trivial
    | number part read =>
      obtain ⟨part', -, rfl⟩ := Option.map_eq_some_iff.mp hgo
      trivial
    | _ => cases hs

/-- After a character that opens a value, calm reading is between tokens. -/
theorem step_opening (hs : scan.IsCalm) (h : opens c = true) : (step d scan c).2 = .between := by
  have hc : c = ' ' ∨ c = '(' := by simpa only [opens, Bool.or_eq_true, beq_iff_eq] using h
  have hstart : (start d c).2 = .between := by rcases hc with rfl | rfl <;> cases d <;> decide
  have hgo : goOn? d scan c = none := by
    cases scan with
    | between => rfl
    | word read => rcases hc with rfl | rfl <;> rfl
    | number part read => rcases hc with rfl | rfl <;> cases part <;> rfl
    | _ => cases hs
  rw [step, hgo, hstart]

/-! ## Placed values -/

/-- A text may stand right after a value. -/
def Closes (ps : List Piece) : Prop := ∀ p ∈ ps.head?, ∃ c, p = .char c ∧ Delimits c

/-- All values of a text are literals that stand after an opening character and before a delimiter; all its other characters are
fixed ones. The flag says whether there is an opening character before the text. -/
inductive Placed (d : Dialect) : Bool → List Piece → Prop where
  | nil {b : Bool} : Placed d b []
  | char {b : Bool} {c : Char} {rest : List Piece} : isFixed c = true → Placed d (opens c) rest →
      Placed d b (.char c :: rest)
  | value {text : List Char} {rest : List Piece} : IsLiteralText d text → Closes rest → Placed d false rest →
      Placed d true (.value text :: rest)

/-- The tokens of a text are told by its places, with one literal for each value. -/
theorem reads_placed (h : Placed d b ps) (scan : Scan) (hs : scan.IsCalm) (hb : b = true → scan = .between) :
    ∃ filling, Fills (pattern d scan (places ps)) filling (lexFrom d scan (written ps)) ∧
      List.Forall₂ (fun token text => token.IsLiteral ∧ token.text = text) filling (values ps) := by
  induction h generalizing scan with
  | nil =>
    have hended := Fills.nil.append (ended d scan)
    rw [List.append_nil, List.append_nil] at hended
    exact ⟨[], hended, .nil⟩
  | @char b c rest hc _ ih =>
    obtain ⟨filling, hfills, hvalues⟩ := ih _ (isCalm_step hs hc) fun ho => step_opening hs ho
    exact ⟨filling, hfills.append _, hvalues⟩
  | @value text rest hlit hcloses _ ih =>
    obtain ⟨filling, hfills, hvalues⟩ := ih .between trivial fun hf => Bool.noConfusion hf
    obtain ⟨token, hliteral, htext, hread⟩ := hlit
    have hdelimited : ∀ c ∈ (written rest).head?, Delimits c := by
      intro c hc
      cases rest with
      | nil => cases hc
      | cons p rest =>
        obtain ⟨c', rfl, hc'⟩ := hcloses p rfl
        exact Option.some.inj hc ▸ hc'
    cases hb rfl
    refine ⟨token :: filling, ?_, .cons ⟨hliteral, htext⟩ hvalues⟩
    change Fills (none :: pattern d .between (places rest)) _ (lexFrom d .between (text ++ written rest))
    rw [hread _ hdelimited]
    exact .value token hfills

/-! ## Blocks -/

/-- A text of fixed characters. -/
def IsFixedText (s : String) : Prop := ∀ c ∈ s.toList, isFixed c = true

instance (s : String) : Decidable (IsFixedText s) := decidable_of_iff (s.toList.all isFixed = true) List.all_eq_true

/-- A value may stand right after a text. -/
def OpensAfter (s : String) : Prop := ∃ c ∈ s.toList.getLast?, opens c = true

theorem isFixedText_append {s' : String} : IsFixedText (s ++ s') ↔ IsFixedText s ∧ IsFixedText s' := by
  rw [IsFixedText, String.toList_append]
  exact List.forall_mem_append

theorem isFixedText_join {texts : List String} (h : ∀ t ∈ texts, IsFixedText t) : IsFixedText (String.join texts) := by
  intro c hc
  rw [String.toList_join] at hc
  obtain ⟨t, ht, hc⟩ := List.mem_flatMap.mp hc
  exact h t ht c hc

/-- Fixed texts with a fixed text between each two are a fixed text. -/
theorem isFixedText_intercalate {texts : List String} (hs : IsFixedText s) (h : ∀ t ∈ texts, IsFixedText t) :
    IsFixedText (s.intercalate texts) := by
  have all : ∀ texts : List (List Char), (∀ t ∈ texts, ∀ c ∈ t, isFixed c = true) →
      ∀ c ∈ s.toList.intercalate texts, isFixed c = true := by
    intro texts htexts
    induction texts with
    | nil => exact fun c hc => absurd hc List.not_mem_nil
    | cons t texts ih =>
      rw [List.forall_mem_cons] at htexts
      cases texts with
      | nil => rw [List.intercalate_singleton]; exact htexts.1
      | cons u texts =>
        rw [List.intercalate_cons_cons]
        exact List.forall_mem_append.mpr ⟨List.forall_mem_append.mpr ⟨htexts.1, hs⟩, ih htexts.2⟩
  rw [IsFixedText, String.toList_intercalate]
  refine all _ fun t ht => ?_
  obtain ⟨u, hu, rfl⟩ := List.mem_map.mp ht
  exact h u hu

theorem Placed.weaken (h : Placed d false ps) : Placed d b ps := by
  cases h with
  | nil => exact .nil
  | char hc hr => exact .char hc hr

/-- A fixed text may stand before placed values. -/
theorem Placed.after (hs : IsFixedText s) (h : Placed d false ps) : Placed d b (fixed s ++ ps) := by
  rw [IsFixedText] at hs
  rw [fixed]
  generalize s.toList = cs at hs
  induction cs generalizing b with
  | nil => exact h.weaken
  | cons c cs ih =>
    rw [List.forall_mem_cons] at hs
    exact .char hs.1 (ih hs.2)

/-- Before a value it has to end with an opening character. -/
theorem Placed.afterOpening (hs : IsFixedText s) (ho : OpensAfter s) (h : Placed d true ps) : Placed d b (fixed s ++ ps) := by
  obtain ⟨c, hc, hopens⟩ := ho
  obtain ⟨before, hbefore⟩ := List.getLast?_eq_some_iff.mp hc
  have hs' : s = String.ofList before ++ String.singleton c := by
    rw [← String.toList_inj, hbefore, String.toList_append, String.toList_ofList, String.toList_singleton]
  rw [IsFixedText, hbefore, List.forall_mem_append] at hs
  rw [hs', fixed_append, List.append_assoc]
  refine .after (by rw [IsFixedText, String.toList_ofList]; exact hs.1) ?_
  rw [fixed, String.toList_singleton]
  exact .char (hs.2 c List.mem_cons_self) (hopens ▸ h)

/-- A part of a text that may stand between an opening character and a delimiter. -/
def IsBlock (d : Dialect) (ps : List Piece) : Prop := ∀ rest, Closes rest → Placed d false rest → Placed d true (ps ++ rest)

/-- A text begins with a delimiter. -/
def ClosesBefore (s : String) : Prop := ∃ c ∈ s.toList.head?, Delimits c

/-- A text that begins with a delimiter may stand right after a value, whatever follows it. -/
theorem closes_fixed (h : ClosesBefore s) : Closes (fixed s ++ ps) := by
  obtain ⟨c, hc, hdelimits⟩ := h
  obtain ⟨cs, hcs⟩ := List.head?_eq_some_iff.mp hc
  rw [fixed, hcs]
  rintro p ⟨⟩
  exact ⟨c, rfl, hdelimits⟩

namespace IsBlock

theorem value {literal : String} (h : IsLiteralText d literal.toList) : IsBlock d (valueOf literal) :=
  fun _ hcloses hrest => .value h hcloses hrest

/-- A block may have a fixed text before it, the last part of which ends with an opening character. -/
theorem after {s' : String} (h : IsBlock d ps) (hs : IsFixedText s) (hs' : IsFixedText s') (ho : OpensAfter s') :
    IsBlock d (fixed s ++ (fixed s' ++ ps)) := by
  intro rest hcloses hrest
  rw [List.append_assoc, List.append_assoc]
  exact .after hs (.afterOpening hs' ho (h rest hcloses hrest))

/-- A block may have a fixed text after it that begins with a delimiter. -/
theorem before (h : IsBlock d ps) (hs : IsFixedText s) (hc : ClosesBefore s) : IsBlock d (ps ++ fixed s) := by
  intro rest _ hrest
  rw [List.append_assoc]
  exact h _ (closes_fixed hc) (.after hs hrest)

/-- A block may be the end of a text. -/
theorem placed (h : IsBlock d ps) : Placed d true ps := by
  have := h [] nofun .nil
  rwa [List.append_nil] at this

/-- Blocks may be separated by a fixed text that begins with a delimiter and ends with an opening character. -/
theorem separated {blocks : List (List Piece)} (hs : IsFixedText s) (ho : OpensAfter s) (hc : ClosesBefore s)
    (h : ∀ block ∈ blocks, IsBlock d block) : IsBlock d (separated s blocks) := by
  unfold Lexing.separated
  induction blocks with
  | nil => exact fun rest _ hrest => hrest.weaken
  | cons x blocks ih =>
    rw [List.forall_mem_cons] at h
    cases blocks with
    | nil =>
      rw [List.intercalate_singleton]
      exact h.1
    | cons y blocks =>
      rw [List.intercalate_cons_cons]
      intro rest hcloses hrest
      rw [List.append_assoc, List.append_assoc]
      exact h.1 _ (closes_fixed hc) (.afterOpening hs ho (ih h.2 rest hcloses hrest))

end IsBlock

end RelationMapper.Lexing
