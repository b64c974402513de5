import Mathlib.Data.List.TakeWhile
import RelationMapper.Proofs.Calendar.Reading
import RelationMapper.Proofs.Lexing.Lexer
import RelationMapper.Proofs.Value.TextLiteral

/-!
# A literal is one token

Whatever the value, its literal is a single token for the database that reads it (`isLiteral_of_literal`): a keyword, a number
with its sign, or a quoted string. The token ends where the literal ends, because in a statement a blank, a comma or a closing
bracket comes next (`Delimits`).
-/

namespace RelationMapper.Lexing

open Number Calendar Text

variable {d : Dialect} {a b : Scan} {xs ys cs text : List Char}

/-- What may follow a value in a statement. -/
def Delimits (c : Char) : Prop := c = ' ' ∨ c = '\n' ∨ c = ',' ∨ c = ')'

instance (c : Char) : Decidable (Delimits c) := inferInstanceAs (Decidable (_ ∨ _))

/-- A text that is read as a single token for a value wherever a value may end. -/
def IsLiteralText (d : Dialect) (text : List Char) : Prop :=
  ∃ token : Token, token.IsLiteral ∧ token.text = text ∧ ∀ rest, (∀ c ∈ rest.head?, Delimits c) →
    lexFrom d .between (text ++ rest) = token :: lexFrom d .between rest

/-- A text is such a token if it is read on to the end of one, and no delimiter goes on with that. -/
theorem isLiteralText_of_readsOn {token : Token} (h : ReadsOn d .between text a) (hended : ended d a = [token])
    (hstop : ∀ c, Delimits c → goOn? d a c = none) (hlit : token.IsLiteral) (htext : token.text = text) :
    IsLiteralText d text := by
  refine ⟨token, hlit, htext, fun rest hrest => ?_⟩
  rw [h rest, lexFrom_ended fun c hc => hstop c (hrest c hc), hended]
  rfl

/-! ## Keywords -/

/-- A word goes on through characters of words. -/
theorem readsOn_word {read : List Char} (h : ∀ c ∈ cs, isWordChar c = true) :
    ReadsOn d (.word read) cs (.word (read ++ cs)) := by
  induction cs generalizing read with
  | nil => rw [List.append_nil]; exact .nil
  | cons c cs ih =>
    rw [List.forall_mem_cons] at h
    have hc : goOn? d (.word read) c = some (.word (read ++ [c])) := if_pos h.1
    have := ReadsOn.cons hc (ih h.2)
    rwa [List.append_assoc] at this

/-- The keyword for nothing and the one for the current time are literals. -/
theorem isLiteralText_keyword {s : String} (h : s = "NULL" ∨ s = "CURRENT_TIMESTAMP") : IsLiteralText d s.toList := by
  have stop {read : List Char} (c : Char) (hc : Delimits c) : goOn? d (.word read) c = none := by
    rcases hc with rfl | rfl | rfl | rfl <;> rfl
  have keyword (first : Char) (rest : List Char) (hstart : start d first = ([], .word [first]))
      (hrest : ∀ c ∈ rest, isWordChar c = true) (hlit : (Token.word (first :: rest)).IsLiteral) :
      IsLiteralText d (first :: rest) :=
    isLiteralText_of_readsOn (.begin hstart (readsOn_word hrest)) rfl stop hlit rfl
  rcases h with rfl | rfl
  · exact keyword 'N' "ULL".toList (by cases d <;> decide) (List.all_eq_true.mp (by decide)) (.inl rfl)
  · exact keyword 'C' "URRENT_TIMESTAMP".toList (by cases d <;> decide) (List.all_eq_true.mp (by decide)) (.inr rfl)

/-! ## Numbers -/

/-- Characters with which a number goes on from one part to another. -/
def Continues (d : Dialect) (part : NumberPart) (cs : List Char) (part' : NumberPart) : Prop :=
  ∀ read, ReadsOn d (.number part read) cs (.number part' (read ++ cs))

namespace Continues

variable {p q r : NumberPart}

theorem trans (h : Continues d p xs q) (h' : Continues d q ys r) : Continues d p (xs ++ ys) r := by
  intro read
  have := (h read).trans (h' (read ++ xs))
  rwa [List.append_assoc] at this

theorem one {c : Char} (h : p.next? c = some q) : Continues d p [c] q := by
  intro read
  refine .one ?_
  rw [goOn?, h]
  rfl

/-- A part that digits go on with goes on with any number of them. -/
theorem digits (hp : ∀ c : Char, c.isDigit = true → p.next? c = some p) (h : ∀ c ∈ cs, c.isDigit = true) :
    Continues d p cs p := by
  induction cs with
  | nil =>
    intro read
    rw [List.append_nil]
    exact .nil
  | cons c cs ih =>
    rw [List.forall_mem_cons] at h
    exact (one (hp c h.1)).trans (ih h.2)

theorem whole (h : ∀ c ∈ cs, c.isDigit = true) : Continues d .whole cs .whole := digits (fun _ hc => if_pos hc) h

theorem fraction (h : ∀ c ∈ cs, c.isDigit = true) : Continues d .fraction cs .fraction := digits (fun _ hc => if_pos hc) h

theorem exponent (h : ∀ c ∈ cs, c.isDigit = true) : Continues d .exponent cs .exponent := digits (fun _ hc => if_pos hc) h

end Continues

/-- A number without its sign: a digit with which a number goes on to an end. -/
inductive IsNumberText (d : Dialect) : List Char → Prop where
  | intro {c : Char} {cs : List Char} {part : NumberPart} : c.isDigit = true → Continues d .whole cs part →
      part.token = .number → IsNumberText d (c :: cs)

/-- No delimiter goes on with a number. -/
theorem next?_delimiter {c : Char} (hc : Delimits c) (part : NumberPart) : part.next? c = none := by
  rcases hc with rfl | rfl | rfl | rfl <;> cases part <;> rfl

/-- A number is a literal, with a minus sign or without one. -/
theorem isLiteralText_number (h : IsNumberText d text) : IsLiteralText d text ∧ IsLiteralText d ('-' :: text) := by
  obtain @⟨c, cs, part, hc, hcs, hpart⟩ := h
  have stop {read : List Char} (c : Char) (hc : Delimits c) : goOn? d (.number part read) c = none := by
    rw [goOn?, next?_delimiter hc, Option.map_none]
  have hstart : start d c = ([], .number .whole [c]) := by
    have hblank : ¬c.isWhitespace = true := by
      intro hw
      simp only [Char.isWhitespace, Bool.or_eq_true, decide_eq_true_eq] at hw
      rcases hw with ((rfl | rfl) | rfl) | rfl <;> exact absurd hc (by decide)
    have hquote : ¬isQuote c = true := by
      intro hq
      simp only [isQuote, Bool.or_eq_true, beq_iff_eq] at hq
      rcases hq with (rfl | rfl) | rfl <;> exact absurd hc (by decide)
    rw [start, if_neg hblank, if_neg hquote, if_pos hc]
  have hminus : start d '-' = ([], .sign '-') := by cases d <;> decide
  have hsigned : goOn? d (.sign '-') c = some (.number .whole ['-', c]) := if_pos hc
  have hended {read : List Char} : ended d (.number part read) = [.number read] := by rw [ended, hpart]
  exact ⟨isLiteralText_of_readsOn (.begin hstart (hcs _)) hended stop trivial rfl,
    isLiteralText_of_readsOn (.begin hminus (.cons hsigned (hcs _))) hended stop trivial rfl⟩

/-- Digits are a number. -/
theorem isNumberText_digits (hne : cs ≠ []) (h : ∀ c ∈ cs, c.isDigit = true) : IsNumberText d cs := by
  cases cs with
  | nil => exact absurd rfl hne
  | cons c cs =>
    rw [List.forall_mem_cons] at h
    exact .intro h.1 (.whole h.2) rfl

/-- An integer in writing is a literal. -/
theorem isLiteralText_intText (n : Int) : IsLiteralText d (intText n).toList := by
  have h : IsNumberText d (Nat.repr n.natAbs).toList := by
    rw [Nat.toList_repr]
    exact isNumberText_digits Nat.toDigits_ne_nil (isDigit_toDigits _)
  unfold intText
  split
  · rw [String.toList_append]
    exact (isLiteralText_number h).2
  · exact (isLiteralText_number h).1

/-! ### Floating point numbers -/

/-- Only zero has no digits other than zeros. -/
theorem significantDigits_ne_nil {x : Decimal} (hx : x.digits ≠ 0) : significantDigits x ≠ [] := by
  intro h
  rw [significantDigits, List.reverse_eq_nil_iff, List.dropWhile_eq_nil_iff] at h
  have hzeros : Nat.toDigits 10 x.digits = List.replicate (Nat.toDigits 10 x.digits).length '0' :=
    List.eq_replicate_of_mem fun c hc => beq_iff_eq.mp (h c (List.mem_reverse.mpr hc))
  refine hx ?_
  rw [← Nat.ofDigitChars_ten_toDigits (n := x.digits), hzeros, Nat.ofDigitChars_replicate_zero]
  simp

theorem isDigit_significantDigits (x : Decimal) : ∀ c ∈ significantDigits x, c.isDigit = true := by
  intro c hc
  rw [significantDigits, List.mem_reverse] at hc
  exact isDigit_toDigits _ c (List.mem_reverse.mp ((List.dropWhile_suffix _).subset hc))

/-- An exponent goes on with a number that has digits in front. -/
theorem continues_exponentText {p : NumberPart} (hp : p.next? 'e' = some .mark) (e : Int) :
    Continues d p (exponentText e).toList .exponent := by
  have hdigits : ∀ c ∈ (if e.natAbs < 10 then "0" else "").toList ++ Nat.toDigits 10 e.natAbs, c.isDigit = true := by
    intro c hc
    rcases List.mem_append.mp hc with hc | hc
    · split at hc
      · rw [List.mem_singleton.mp hc]
        rfl
      · cases hc
    · exact isDigit_toDigits _ c hc
  have hsign : ∃ s : Char, (s = '-' ∨ s = '+') ∧ (if e < 0 then "e-" else "e+").toList = ['e', s] := by
    split
    · exact ⟨'-', .inl rfl, rfl⟩
    · exact ⟨'+', .inr rfl, rfl⟩
  obtain ⟨s, hs, htext⟩ := hsign
  have hmark : NumberPart.next? .mark s = some .sign := by rcases hs with rfl | rfl <;> rfl
  have hne : (if e.natAbs < 10 then "0" else "").toList ++ Nat.toDigits 10 e.natAbs ≠ [] :=
    List.append_ne_nil_of_right_ne_nil _ Nat.toDigits_ne_nil
  rw [exponentText, String.toList_append, String.toList_append, htext, Nat.toList_repr, List.append_assoc]
  generalize (if e.natAbs < 10 then "0" else "").toList ++ Nat.toDigits 10 e.natAbs = digits at hdigits hne
  cases digits with
  | nil => exact absurd rfl hne
  | cons c cs =>
    rw [List.forall_mem_cons] at hdigits
    have hfirst : NumberPart.next? .sign c = some .exponent := if_pos hdigits.1
    exact ((Continues.one hp).trans (.one hmark)).trans ((Continues.one hfirst).trans (.exponent hdigits.2))

/-- A decimal other than zero in writing is a number. -/
theorem isNumberText_decimalText {x : Decimal} (hx : x.digits ≠ 0) : IsNumberText d (decimalText x).toList := by
  have hpoint : Continues d .whole ['.'] .fraction := .one rfl
  obtain ⟨head, rest, hdigits⟩ := List.exists_cons_of_ne_nil (significantDigits_ne_nil hx)
  have hall := isDigit_significantDigits x
  rw [hdigits] at hall
  obtain ⟨hhead, hrest⟩ := List.forall_mem_cons.mp hall
  unfold decimalText
  dsimp only
  generalize x.exponent + (Nat.toDigits 10 x.digits).length - 1 = first
  rw [hdigits]
  split
  next =>
    -- with an exponent: the point stands only where digits follow it
    rw [String.toList_append, String.toList_ofList]
    cases rest with
    | nil => exact .intro hhead (continues_exponentText rfl _) rfl
    | cons second rest => exact .intro hhead ((hpoint.trans (.fraction hrest)).trans (continues_exponentText rfl _)) rfl
  next =>
    split
    next =>
      -- below one: zeros may stand between the point and the digits
      rw [String.toList_ofList]
      exact .intro (c := '0') rfl (hpoint.trans (.fraction (List.forall_mem_append.mpr ⟨isDigit_zeros _, hall⟩))) rfl
    next =>
      -- from one on: zeros may stand between the digits and the point
      obtain ⟨n, hn⟩ : ∃ n, (first + 1).toNat = n + 1 := ⟨first.toNat, by omega⟩
      rw [String.toList_ofList, hn, List.take_succ_cons, List.cons_append, List.cons_append, List.cons_append]
      have hwhole : ∀ c ∈ rest.take n, c.isDigit = true := fun c hc => hrest c (List.mem_of_mem_take hc)
      refine .intro hhead ((Continues.whole (List.forall_mem_append.mpr ⟨hwhole, isDigit_zeros _⟩)).trans
        hpoint |>.trans (.fraction fun c hc => ?_)) rfl
      split at hc
      · exact isDigit_zeros 1 c hc
      · exact hrest c (List.mem_of_mem_drop hc)

/-- A decimal that is read back as a number other than zero is not zero. -/
theorem digits_ne_zero {x : Binary64} (hx : x.significand ≠ 0) {e : Decimal} (h : x.readsBack e = true) : e.digits ≠ 0 := by
  intro he
  have hlower : 0 < 4 * x.significand - if x.narrowBelow = true then 1 else 2 := by split <;> omega
  have hbelow : compareScaled e.digits e.exponent (4 * x.significand - if x.narrowBelow = true then 1 else 2)
      (x.exponent - 2) = .lt := by
    rw [compareScaled, he, Nat.zero_mul, Nat.zero_mul, Nat.compare_eq_lt]
    exact Nat.mul_pos (Nat.mul_pos hlower (Nat.pow_pos (by decide))) (Nat.pow_pos (by decide))
  rw [Binary64.readsBack, hbelow] at h
  simp at h

/-- The shortest decimal of a number other than zero is not zero. -/
theorem shortest_digits_ne_zero {x : Binary64} (hx : x.significand ≠ 0) : x.shortest.digits ≠ 0 := by
  have nearest {scale : Int} {e : Decimal} (h : x.nearestOn? scale = some e) : e.digits ≠ 0 := by
    unfold Binary64.nearestOn? at h
    dsimp only at h
    split at h
    next hlow _ => exact Option.some.inj h ▸ digits_ne_zero hx hlow
    next _ hhigh => exact Option.some.inj h ▸ digits_ne_zero hx hhigh
    next => cases h
    next hlow hhigh =>
      split at h
      next => exact Option.some.inj h ▸ digits_ne_zero hx hlow
      next => exact Option.some.inj h ▸ digits_ne_zero hx hhigh
      next =>
        rw [← Option.some.inj h]
        split
        · exact digits_ne_zero hx hlow
        · exact digits_ne_zero hx hhigh
  unfold Binary64.shortest
  dsimp only
  cases hfound : (List.range 17).findSome? fun n => x.nearestOn? (x.magnitude - ((n + 1 : Nat) : Int)) with
  | some e =>
    obtain ⟨n, -, hn⟩ := List.exists_of_findSome?_eq_some hfound
    exact nearest hn
  | none =>
    change x.significand * Nat.pow 2 _ * Nat.pow 5 _ ≠ 0
    exact Nat.mul_ne_zero (Nat.mul_ne_zero hx (Nat.pow_pos (by decide)).ne') (Nat.pow_pos (by decide)).ne'

/-- A finite number in writing is a literal. -/
theorem isLiteralText_real {x : Binary64} (hx : x.isFinite = true) : IsLiteralText d x.text.toList := by
  have hnan : ¬x.isNaN = true := by
    intro h
    simp only [Binary64.isNaN, Bool.and_eq_true, beq_iff_eq] at h
    simp [Binary64.isFinite, h.1] at hx
  have signed {s : String} (h : IsNumberText d s.toList) :
      IsLiteralText d ((if x.isNegative = true then "-" else "") ++ s).toList := by
    rw [String.toList_append]
    split
    · exact (isLiteralText_number h).2
    · exact (isLiteralText_number h).1
  unfold Binary64.text
  dsimp only
  rw [if_neg hnan, if_neg (by rw [hx]; decide)]
  split
  next => exact signed (.intro (c := '0') rfl ((Continues.one rfl).trans (.fraction (isDigit_zeros 1))) rfl)
  next hzero =>
    refine signed (isNumberText_decimalText (shortest_digits_ne_zero fun hs => hzero ?_))
    unfold Binary64.significand at hs
    unfold Binary64.isZero
    split at hs
    · simp [*]
    · omega

/-! ## Strings -/

theorem quotesString_mark (d : Dialect) : quotesString d d.mark = true := by cases d <;> rfl

/-- A text of paired quotes without a backslash does not end the quoted string that it is in. -/
theorem readsOn_quoted (h : QuotesPaired d.mark cs) (hb : '\\' ∉ cs) (read : List Char) :
    ReadsOn d (.quoted d.mark read) cs (.quoted d.mark (read ++ cs)) := by
  induction h generalizing read with
  | nil =>
    rw [List.append_nil]
    exact .nil
  | @other c cs hc _ ih =>
    rw [List.mem_cons, not_or] at hb
    have hgo : goOn? d (.quoted d.mark read) c = some (.quoted d.mark (read ++ [c])) := by
      rw [goOn?, if_neg hc, if_neg fun h => hb.1 h.1.symm]
    have := ReadsOn.cons hgo (ih hb.2 _)
    rwa [List.append_assoc] at this
  | @pair cs _ ih =>
    have hb' : '\\' ∉ cs := fun h => hb (List.mem_cons_of_mem _ (List.mem_cons_of_mem _ h))
    have hfirst : goOn? d (.quoted d.mark read) d.mark = some (.closing d.mark (read ++ [d.mark])) := if_pos rfl
    have hsecond : goOn? d (.closing d.mark (read ++ [d.mark])) d.mark = some (.quoted d.mark (read ++ [d.mark] ++ [d.mark])) :=
      if_pos rfl
    have := ReadsOn.cons hfirst (.cons hsecond (ih hb' _))
    rwa [List.append_assoc, List.append_assoc] at this

/-- Such a text between quotes is a literal. -/
theorem isLiteralText_quoted (h : QuotesPaired d.mark cs) (hb : '\\' ∉ cs) : IsLiteralText d (d.mark :: (cs ++ [d.mark])) := by
  have hstart : start d d.mark = ([], .quoted d.mark [d.mark]) := by cases d <;> decide
  have hclose : goOn? d (.quoted d.mark ([d.mark] ++ cs)) d.mark = some (.closing d.mark ([d.mark] ++ cs ++ [d.mark])) :=
    if_pos rfl
  refine isLiteralText_of_readsOn (.begin hstart ((readsOn_quoted h hb _).trans (.one hclose))) ?_ (fun c hc => ?_)
    (show (Token.string (d.mark :: (cs ++ [d.mark]))).IsLiteral from trivial) rfl
  · rw [ended, if_pos (quotesString_mark d)]
    rfl
  · have hother : c ≠ d.mark := by rcases hc with rfl | rfl | rfl | rfl <;> cases d <;> decide
    exact if_neg hother

/-- The literal of a text is a literal. -/
theorem isLiteralText_text (s : String) : IsLiteralText d (textLiteral d.quote s).toList := by
  rw [toList_textLiteral]
  exact isLiteralText_quoted (quotesPaired_doubleQuotes _ _) fun hb =>
    (visible_of_mem_percentEncode (mem_of_mem_doubleQuotes hb)).2.2 rfl

/-- A character of a date or a time of day. -/
def IsClockChar (c : Char) : Prop := c.isDigit = true ∨ c = '-' ∨ c = ':' ∨ c = ' '

theorem isClockChar_padded (width n : Nat) : ∀ c ∈ (padded width n).toList, IsClockChar c :=
  fun c hc => .inl (isDigit_padded width n c hc)

/-- A date is stored in characters of a clock and calendar. -/
theorem isClockChar_date (x : Date) : ∀ c ∈ x.stored.toList, IsClockChar c := by
  have dash : ∀ c ∈ "-".toList, IsClockChar c := fun c hc => .inr (.inl (List.mem_singleton.mp hc))
  simp only [Date.stored, String.toList_append, List.forall_mem_append, Nat.toList_repr]
  exact ⟨⟨⟨⟨fun c hc => .inl (isDigit_toDigits _ c hc), dash⟩, isClockChar_padded _ _⟩, dash⟩, isClockChar_padded _ _⟩

theorem isClockChar_moment (x : Moment) : ∀ c ∈ x.stored.toList, IsClockChar c := by
  have blank : ∀ c ∈ " ".toList, IsClockChar c := fun c hc => .inr (.inr (.inr (List.mem_singleton.mp hc)))
  have colon : ∀ c ∈ ":".toList, IsClockChar c := fun c hc => .inr (.inr (.inl (List.mem_singleton.mp hc)))
  simp only [Moment.stored, Time.clock, String.toList_append, List.forall_mem_append]
  exact ⟨⟨isClockChar_date _, blank⟩,
    ⟨⟨⟨isClockChar_padded _ _, colon⟩, isClockChar_padded _ _⟩, colon⟩, isClockChar_padded _ _⟩

/-- A text of such characters between quotes is a literal. -/
theorem isLiteralText_clock {s : String} (h : ∀ c ∈ s.toList, IsClockChar c) :
    IsLiteralText d (d.quote ++ s ++ d.quote).toList := by
  have other {c : Char} (hc : IsClockChar c) : c ≠ d.mark ∧ c ≠ '\\' := by
    constructor
    all_goals
      rintro rfl
      revert hc
      unfold IsClockChar
      cases d <;> decide
  have paired : ∀ cs : List Char, (∀ c ∈ cs, IsClockChar c) → QuotesPaired d.mark cs := by
    intro cs hcs
    induction cs with
    | nil => exact .nil
    | cons c cs ih =>
      rw [List.forall_mem_cons] at hcs
      exact .other (other hcs.1).1 (ih hcs.2)
  rw [Dialect.quote_eq, String.toList_append, String.toList_append, String.toList_singleton]
  exact isLiteralText_quoted (paired _ h) fun hb => (other (h _ hb)).2 rfl

/-! ## Values -/

/-- The literal of a value is a single token. -/
theorem isLiteralText_of_literal {v : Value} {column : Option ColumnType} {literal : String}
    (h : v.literal d.quote column = .ok literal) : IsLiteralText d literal.toList := by
  have zero : IsNumberText d "0".toList := isNumberText_digits (List.cons_ne_nil _ _) (List.all_eq_true.mp (by decide))
  have one : IsNumberText d "1".toList := isNumberText_digits (List.cons_ne_nil _ _) (List.all_eq_true.mp (by decide))
  cases v with
  | null =>
    cases h
    exact isLiteralText_keyword (.inl rfl)
  | now =>
    cases h
    exact isLiteralText_keyword (.inr rfl)
  | bool b =>
    cases h
    split
    · exact (isLiteralText_number one).1
    · exact (isLiteralText_number zero).1
  | text s =>
    rw [Value.literal] at h
    split at h
    next =>
      cases h
      split
      · exact (isLiteralText_number one).1
      · exact (isLiteralText_number zero).1
    next =>
      cases h
      exact isLiteralText_text s
  | moment m =>
    cases h
    exact isLiteralText_clock (isClockChar_moment m)
  | date x =>
    cases h
    exact isLiteralText_clock (isClockChar_date x)
  | int n =>
    rw [Value.literal, writeInt] at h
    split at h
    next => cases h
    next =>
      cases h
      exact isLiteralText_intText n
  | real x =>
    rw [Value.literal] at h
    split at h
    next hx =>
      cases h
      exact isLiteralText_real hx
    next => cases h
  | bytes | buffer | list | tuple | set | map | object => cases h

end RelationMapper.Lexing
