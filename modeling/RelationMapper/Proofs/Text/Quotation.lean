import RelationMapper.Value.Literal

/-!
# Quoted strings

What a database sees when it reads a quoted string: `readQuoted` takes the characters between an opening quote and the first
quote that is not doubled, with each doubled quote read as one. `doubleQuotes` makes quotes harmless for this reader
(`readQuoted_doubleQuotes`), and undoing it loses nothing (`collapseQuotes_doubleQuotes`).

The quotes of both dialects are single characters, which is all that is used here.
-/

namespace RelationMapper

/-- A text in which every quote belongs to a doubled one. -/
inductive QuotesPaired (q : Char) : List Char → Prop where
  | nil : QuotesPaired q []
  | other {c : Char} {cs : List Char} : c ≠ q → QuotesPaired q cs → QuotesPaired q (c :: cs)
  | pair {cs : List Char} : QuotesPaired q cs → QuotesPaired q (q :: q :: cs)

/-- A text with each doubled quote made one, from left to right. -/
def collapseQuotes (q : Char) : List Char → List Char
  | a :: b :: rest => if a = q ∧ b = q then q :: collapseQuotes q rest else a :: collapseQuotes q (b :: rest)
  | cs => cs

/-- Reads up to the first quote that is not doubled: what was read, and what follows the quote. -/
def readToQuote (q : Char) : List Char → Option (List Char × List Char)
  | [] => none
  | [c] => if c = q then some ([], []) else none
  | a :: b :: rest =>
    if a ≠ q then (readToQuote q (b :: rest)).map fun (read, after) => (a :: read, after)
    else if b = q then (readToQuote q rest).map fun (read, after) => (q :: read, after)
    else some ([], b :: rest)

/-- Reads a quoted string: its content, and what follows it. -/
def readQuoted (q : Char) : List Char → Option (List Char × List Char)
  | [] => none
  | c :: rest => if c = q then readToQuote q rest else none

/-! ## Doubling a quote of one character -/

/-- A quote of one character is doubled wherever it stands. -/
theorem doubleQuotes_singleton (q : Char) (cs : List Char) :
    doubleQuotes [q] 0 cs = cs.flatMap fun c => if c = q then [q, q] else [c] := by
  induction cs with
  | nil => rfl
  | cons c cs ih =>
    rw [List.flatMap_cons, ← ih]
    by_cases hc : c = q
    · subst hc
      simp [doubleQuotes]
    · have hp : ¬[q].isPrefixOf (c :: cs) = true := by simp [List.isPrefixOf, Ne.symm hc]
      rw [doubleQuotes, if_neg (by simp), if_neg hp, if_neg hc]
      rfl

/-- A text without a quote is left as it is. -/
theorem doubleQuotes_of_notMem {q : Char} {cs : List Char} (h : q ∉ cs) : doubleQuotes [q] 0 cs = cs := by
  rw [doubleQuotes_singleton]
  induction cs with
  | nil => rfl
  | cons c cs ih =>
    rw [List.mem_cons, not_or] at h
    rw [List.flatMap_cons, if_neg (Ne.symm h.1), ih h.2]
    rfl

/-- After doubling every quote belongs to a doubled one. -/
theorem quotesPaired_doubleQuotes (q : Char) (cs : List Char) : QuotesPaired q (doubleQuotes [q] 0 cs) := by
  rw [doubleQuotes_singleton]
  induction cs with
  | nil => exact .nil
  | cons c cs ih =>
    rw [List.flatMap_cons]
    split
    · exact .pair ih
    · next hc => exact .other hc ih

/-- Doubling adds no character. -/
theorem mem_of_mem_doubleQuotes {q c : Char} {cs : List Char} (h : c ∈ doubleQuotes [q] 0 cs) : c ∈ cs := by
  rw [doubleQuotes_singleton] at h
  obtain ⟨d, hd, hc⟩ := List.mem_flatMap.mp h
  split at hc
  next he =>
    subst he
    simp only [List.mem_cons, List.not_mem_nil, or_false, or_self] at hc
    exact hc ▸ hd
  next =>
    rw [List.mem_singleton] at hc
    exact hc ▸ hd

/-! ## Undoing it -/

theorem collapseQuotes_pair (q : Char) (cs : List Char) : collapseQuotes q (q :: q :: cs) = q :: collapseQuotes q cs := by
  rw [collapseQuotes, if_pos ⟨rfl, rfl⟩]

theorem collapseQuotes_other {q c : Char} (h : c ≠ q) (cs : List Char) :
    collapseQuotes q (c :: cs) = c :: collapseQuotes q cs := by
  cases cs with
  | nil => rfl
  | cons b cs => rw [collapseQuotes, if_neg fun hc => h hc.1]

/-- Collapsing undoes doubling. -/
theorem collapseQuotes_doubleQuotes (q : Char) (cs : List Char) : collapseQuotes q (doubleQuotes [q] 0 cs) = cs := by
  rw [doubleQuotes_singleton]
  induction cs with
  | nil => rfl
  | cons c cs ih =>
    rw [List.flatMap_cons]
    split
    · next hc => rw [List.cons_append, List.cons_append, List.nil_append, collapseQuotes_pair, ih, hc]
    · next hc => rw [List.cons_append, List.nil_append, collapseQuotes_other hc, ih]

/-! ## Reading a quoted string -/

theorem readToQuote_other {q c : Char} (h : c ≠ q) {cs : List Char} (hcs : cs ≠ []) :
    readToQuote q (c :: cs) = (readToQuote q cs).map fun (read, after) => (c :: read, after) := by
  cases cs with
  | nil => exact absurd rfl hcs
  | cons b cs => rw [readToQuote, if_pos h]

theorem readToQuote_pair (q : Char) (cs : List Char) :
    readToQuote q (q :: q :: cs) = (readToQuote q cs).map fun (read, after) => (q :: read, after) := by
  rw [readToQuote, if_neg (fun h => h rfl), if_pos rfl]

/-- A quote with no other one behind it ends the text. -/
theorem readToQuote_end {q : Char} {rest : List Char} (h : rest.head? ≠ some q) :
    readToQuote q (q :: rest) = some ([], rest) := by
  cases rest with
  | nil => rw [readToQuote, if_pos rfl]
  | cons b rest => rw [readToQuote, if_neg (fun hq => hq rfl), if_neg (fun hb => h (congrArg some hb))]

/-- A text of paired quotes is read to its end, whatever follows the closing quote except a further quote. -/
theorem readQuoted_paired {q : Char} {body : List Char} (h : QuotesPaired q body) {rest : List Char}
    (hr : rest.head? ≠ some q) :
    readQuoted q (q :: (body ++ q :: rest)) = some (collapseQuotes q body, rest) := by
  rw [readQuoted, if_pos rfl]
  induction h with
  | nil => exact readToQuote_end hr
  | other hc _ ih => rw [List.cons_append, readToQuote_other hc (by simp), ih, collapseQuotes_other hc]; rfl
  | pair _ ih => rw [List.cons_append, List.cons_append, readToQuote_pair, ih, collapseQuotes_pair]; rfl

end RelationMapper
