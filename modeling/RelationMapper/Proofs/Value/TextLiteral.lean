import RelationMapper.Dialect
import RelationMapper.Proofs.Text.Percent
import RelationMapper.Proofs.Text.Quotation
import RelationMapper.Value.Decoding

/-!
# Texts survive the way through a statement

A text goes into a statement percent-encoded, with the quotes that are still in it doubled, between two quotes. The
database reads the quoted string and stores what is left of it, and the column's value is decoded when it is read back.
`text_literal_lossless` follows a text all this way, for every text, both dialects and both types of text column.
-/

namespace RelationMapper

open Text

/-- The quote around texts, as a character. -/
def Dialect.mark : Dialect → Char
  | .mysql => '"'
  | .sqlite => '\''

theorem Dialect.quote_eq (d : Dialect) : d.quote = String.singleton d.mark := by cases d <;> rfl

/-- The characters that a stored text keeps are visible ASCII characters, without the backslash and the percent sign. -/
theorem visible_of_mem_storedSafe {c : Char} (h : c ∈ storedSafe) :
    0x21 ≤ c.toNat ∧ c.toNat ≤ 0x7e ∧ c ≠ '\\' ∧ c ≠ '%' := by
  have all : storedSafe.all (fun c => 0x21 ≤ c.toNat ∧ c.toNat ≤ 0x7e ∧ c ≠ '\\' ∧ c ≠ '%') = true := by decide
  exact of_decide_eq_true (List.all_eq_true.mp all c h)

/-- They mean themselves. -/
theorem plain_storedSafe : Plain storedSafe := by
  intro c hc
  obtain ⟨-, hle, -, hp⟩ := visible_of_mem_storedSafe hc
  exact ⟨by omega, hp⟩

/-- A stored text consists of visible ASCII characters other than the backslash. -/
theorem visible_of_mem_percentEncode {cs : List Char} {c : Char} (h : c ∈ percentEncode storedSafe cs) :
    0x21 ≤ c.toNat ∧ c.toNat ≤ 0x7e ∧ c ≠ '\\' := by
  rcases mem_percentEncode h with rfl | hu | hs
  · decide
  · refine ⟨?_, ?_, fun hb => by subst hb; exact absurd hu (by decide)⟩
    all_goals
      simp only [isUnreserved, Bool.or_eq_true, Bool.and_eq_true, decide_eq_true_eq, beq_iff_eq] at hu
      rcases hu with ((((((h | h) | h) | rfl) | rfl) | rfl) | rfl)
      · omega
      · omega
      · omega
      all_goals decide
  · obtain ⟨hlow, hhigh, hb, -⟩ := visible_of_mem_storedSafe hs
    exact ⟨hlow, hhigh, hb⟩

/-- In a text column a percent-encoded text is read as the text it was. -/
theorem decode_percentEncode [MomentReader] {type : ColumnType} (ht : type.isText = true) (s : String) :
    (Value.text (String.ofList (percentEncode storedSafe s.toList))).decode type = .ok (.text s) := by
  rw [Value.decode, if_pos ht, String.toList_ofList, percentDecode_percentEncode plain_storedSafe, String.ofList_toList]

/-- A text for a text column is written in quotes. -/
theorem literal_text {type : ColumnType} (ht : type.isText = true) (quote s : String) :
    (Value.text s).literal quote (some type) = .ok (textLiteral quote s) := by
  rw [Value.literal, if_neg fun h => by rw [Option.some.inj h.1] at ht; exact absurd ht (by decide)]

/-- The part of a text literal between its quotes. -/
def literalBody (d : Dialect) (s : String) : List Char := doubleQuotes [d.mark] 0 (percentEncode storedSafe s.toList)

/-- A text as a literal is its encoding, with quotes doubled, between quotes. -/
theorem textLiteral_eq (d : Dialect) (s : String) :
    textLiteral d.quote s = d.quote ++ String.ofList (literalBody d s) ++ d.quote := by
  rw [textLiteral, literalBody, Dialect.quote_eq, String.toList_singleton]

theorem toList_textLiteral (d : Dialect) (s : String) :
    (textLiteral d.quote s).toList = d.mark :: (literalBody d s ++ [d.mark]) := by
  rw [textLiteral_eq, Dialect.quote_eq]
  simp only [String.toList_append, String.toList_singleton, String.toList_ofList, List.cons_append, List.nil_append]

/-- Between its quotes a text literal holds the encoded text, quotes doubled. -/
theorem collapseQuotes_literalBody (d : Dialect) (s : String) :
    collapseQuotes d.mark (literalBody d s) = percentEncode storedSafe s.toList :=
  collapseQuotes_doubleQuotes d.mark _

/-- Distinct texts have distinct literals. -/
theorem textLiteral_injective (d : Dialect) {s s' : String} (h : textLiteral d.quote s' = textLiteral d.quote s) :
    s' = s := by
  have hb : literalBody d s' = literalBody d s := by
    have := congrArg String.toList h
    rw [toList_textLiteral, toList_textLiteral] at this
    exact List.append_cancel_right (List.cons.inj this).2
  have hp : percentEncode storedSafe s'.toList = percentEncode storedSafe s.toList := by
    rw [← collapseQuotes_literalBody d s', hb, collapseQuotes_literalBody]
  have hd := congrArg percentDecode hp
  rw [percentDecode_percentEncode plain_storedSafe, percentDecode_percentEncode plain_storedSafe] at hd
  exact String.toList_inj.mp hd

/-- A text literal is a body between two quotes. Every quote in the body is doubled, so that the literal ends for the
database where it ends, whatever follows except a further quote; the body is visible ASCII without a backslash; what the
database stores is read back as the text; and no other text has the same literal. -/
theorem text_literal_lossless [MomentReader] (d : Dialect) {type : ColumnType} (ht : type.isText = true) (s : String) :
    ∃ body : List Char,
      (Value.text s).literal d.quote (some type) = .ok (d.quote ++ String.ofList body ++ d.quote) ∧
      QuotesPaired d.mark body ∧
      (∀ rest : List Char, rest.head? ≠ some d.mark →
        readQuoted d.mark ((d.quote ++ String.ofList body ++ d.quote).toList ++ rest) =
          some (collapseQuotes d.mark body, rest)) ∧
      (∀ c ∈ body, 0x20 ≤ c.toNat ∧ c.toNat ≤ 0x7e ∧ c ≠ '\\') ∧
      (Value.text (String.ofList (collapseQuotes d.mark body))).decode type = .ok (.text s) ∧
      ∀ s' : String, (Value.text s').literal d.quote (some type) = (Value.text s).literal d.quote (some type) → s' = s := by
  refine ⟨literalBody d s, ?_, quotesPaired_doubleQuotes _ _, fun rest hr => ?_, fun c hc => ?_, ?_, fun s' hs => ?_⟩
  · rw [literal_text ht, textLiteral_eq]
  · rw [← textLiteral_eq, toList_textLiteral, List.cons_append, List.append_assoc]
    exact readQuoted_paired (quotesPaired_doubleQuotes _ _) hr
  · have hv := visible_of_mem_percentEncode (mem_of_mem_doubleQuotes hc)
    exact ⟨by omega, hv.2⟩
  · rw [collapseQuotes_literalBody, decode_percentEncode ht]
  · rw [literal_text ht, literal_text ht] at hs
    exact textLiteral_injective d (Except.ok.inj hs)

/-- A text with an apostrophe, a percent sign and a letter beyond ASCII, in a literal of SQLite. -/
theorem text_literal_lossless_apostrophe :
    ColumnType.varchar.isText = true ∧
    (Value.text "it's 5% é").literal Dialect.sqlite.quote (some .varchar) = .ok "'it''s%205%25%20%C3%A9'" ∧
    ∃ body : List Char,
      (Value.text "it's 5% é").literal Dialect.sqlite.quote (some .varchar) =
        .ok (Dialect.sqlite.quote ++ String.ofList body ++ Dialect.sqlite.quote) ∧
      readQuoted '\'' ((Dialect.sqlite.quote ++ String.ofList body ++ Dialect.sqlite.quote).toList ++ [';']) =
        some (collapseQuotes '\'' body, [';']) ∧
      (Value.text (String.ofList (collapseQuotes '\'' body))).decode .varchar = .ok (.text "it's 5% é") := by
  obtain ⟨body, hl, -, hr, -, hd, -⟩ := text_literal_lossless .sqlite (show ColumnType.varchar.isText = true from rfl)
    "it's 5% é"
  exact ⟨rfl, rfl, body, hl, hr [';'] (by decide), hd⟩

end RelationMapper
