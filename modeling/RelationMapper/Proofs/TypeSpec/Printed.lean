import RelationMapper.Proofs.Text.Digit
import RelationMapper.Proofs.TypeSpec.Grammar

/-!
# Types in writing

A type in declaration form is read back as the type that it is (`parse_text_of_declarable`). The types that can be declared at
all, by whatever text, are told by what they consist of: `TypeSpec.Declarable` asks for a base that is a word and for a number
that is not too long, on a base that takes one. `text_read_back` puts these together: what is read from a text is read from its own
written form as well, where blanks, leading zeros and digits of other scripts are gone.
-/

namespace RelationMapper

namespace TypeSpec

open Text

/-- The types that can be declared: the base is a word; if there is a precision, it has no more digits than are read; and a column
type other than `varchar` has none. -/
structure Declarable (spec : TypeSpec) : Prop where
  base : IsWord spec.base.toList
  digits : ∀ n ∈ spec.precision, (Nat.repr n).length ≤ digitLimit
  precision : ∀ type, ColumnType.ofName? spec.base = some type → type ≠ .varchar → spec.precision = none

/-- A type that was read can be declared: it was. -/
theorem declarable_of_parse {text : String} {spec : TypeSpec} (h : parse text = .ok spec) : spec.Declarable := by
  obtain ⟨digits?, -, -, hp, hprecision⟩ := parse_eq_ok.mp h
  have hdeclares := declares_of_parse h
  generalize text.toList = cs at hdeclares
  obtain ⟨-, hword, -, -, -, htype⟩ := hdeclares
  rename_i base _ _ _ written? _
  refine ⟨by rwa [String.toList_ofList], fun n hn => ?_, fun type ht hne => ?_⟩
  · rw [hprecision] at hn
    obtain ⟨digits, hd, rfl⟩ := Option.map_eq_some_iff.mp hn
    have hlength : digits.toList.length ≤ digitLimit := String.length_toList ▸ (hp digits hd).length
    rw [← String.length_toList, Nat.toList_repr]
    exact length_toDigits_readNat (by decide) hlength
  · rw [htype type ht hne]
    rfl

/-! ## The written form -/

/-- The digits of a number are digits. -/
theorem isDigits_repr (n : Nat) : IsDigits (Nat.repr n).toList := by
  rw [Nat.toList_repr]
  exact ⟨Nat.toDigits_ne_nil, fun c hc => isDigit_of_ascii (isDigit_toDigits n c hc)⟩

/-- The written form of a type: its base, its precision in digits, and the mark of an array, with nothing between them. -/
theorem toList_text (spec : TypeSpec) : ∃ precision mark, spec.text.toList = spec.base.toList ++ precision ++ mark ∧
    PrecisionText precision (spec.precision.map fun n => (Nat.repr n).toList) ∧ ArrayText mark spec.isArray := by
  obtain ⟨base, precision, isArray⟩ := spec
  have hmark : ArrayText (if isArray then "[]" else "").toList isArray := by
    cases isArray with
    | false => exact .absent
    | true => exact .given isBlanks_nil isBlanks_nil
  refine ⟨((precision.map fun n => "(" ++ Nat.repr n ++ ")").getD "").toList, _, ?_, ?_, hmark⟩
  · rw [text, String.toList_append, String.toList_append]
  · cases precision with
    | none => exact .absent
    | some n =>
      have hwritten : ("(" ++ Nat.repr n ++ ")").toList = '(' :: [] ++ (Nat.repr n).toList ++ [] ++ ')' :: [] := by simp
      rw [Option.map_some, Option.map_some, Option.getD_some, hwritten]
      exact .given isBlanks_nil (isDigits_repr n) isBlanks_nil isBlanks_nil

/-- The tokens of the written form are the base, the precision and the mark of an array. -/
theorem tokenize_text {spec : TypeSpec} (h : IsWord spec.base.toList) : tokenize spec.text =
    spec.base :: (precisionTokens (spec.precision.map Nat.repr) ++ arrayTokens spec.isArray) := by
  obtain ⟨precision, mark, htext, hprecision, hmark⟩ := toList_text spec
  have hbase : isBracketToken spec.base = false := by
    rw [← String.ofList_toList (s := spec.base)]
    exact isBracketToken_word h
  have hdigits : ∀ digits ∈ spec.precision.map Nat.repr, IsDigits digits.toList := by
    intro digits hd
    obtain ⟨n, -, rfl⟩ := Option.map_eq_some_iff.mp hd
    exact isDigits_repr n
  have hwritten : (spec.precision.map Nat.repr).map String.toList = spec.precision.map fun n => (Nat.repr n).toList := by
    rw [Option.map_map]
    rfl
  refine (tokensAfter_eq_word hbase).mpr ⟨[], spec.base.toList, precision ++ mark, ?_, isBlanks_nil, h, hprecision.endsWord hmark,
    String.ofList_toList.symm, ?_⟩
  · rw [htext, List.nil_append, List.append_assoc]
  · exact ((tokensAfter_eq_precisionTokens hdigits).mpr ⟨[], precision, mark, rfl, isBlanks_nil, hwritten ▸ hprecision, hmark⟩).symm

/-- A type that can be declared is read from its written form. -/
theorem parse_text_of_declarable {spec : TypeSpec} (h : spec.Declarable) : parse spec.text = .ok spec := by
  refine parse_eq_ok.mpr ⟨spec.precision.map Nat.repr, tokenize_text h.base, ?_, ?_, ?_⟩
  · rw [← String.ofList_toList (s := spec.base)]
    exact isBracketToken_word h.base
  · intro digits hd
    obtain ⟨n, hn, rfl⟩ := Option.map_eq_some_iff.mp hd
    refine ⟨isNumber_iff.mpr (isDigits_repr n), takesPrecision_iff.mpr fun type ht => ?_, h.digits n hn⟩
    by_contra hne
    rw [h.precision type ht hne] at hn
    cases hn
  · have hread : (fun digits : String => readNat digits.toList) ∘ Nat.repr = id := by
      funext n
      exact (congrArg readNat Nat.toList_repr).trans (readNat_toDigits n)
    rw [Option.map_map, hread, Option.map_id_fun]
    rfl

/-- Writing a type and reading it are inverse. What is read from a text is read from its written form; a type that can be declared
is read from its written form; and these are exactly the types that can be read from some text. -/
theorem text_read_back :
    (∀ text spec, parse text = .ok spec → parse spec.text = .ok spec) ∧
    (∀ spec : TypeSpec, spec.Declarable → parse spec.text = .ok spec) ∧
    ∀ spec, (∃ text, parse text = .ok spec) ↔ spec.Declarable := by
  refine ⟨fun text spec h => ?_, fun spec => parse_text_of_declarable, fun spec => ⟨?_, fun h => ?_⟩⟩
  · exact parse_text_of_declarable (declarable_of_parse h)
  · rintro ⟨text, h⟩
    exact declarable_of_parse h
  · exact ⟨spec.text, parse_text_of_declarable h⟩

/-- A type whose text has blanks, leading zeros and digits of another script is read from its written form, and so is a type whose
base names a table in letters beyond ASCII. -/
theorem text_read_back_varchar :
    parse "\tvarchar (\u00a000\u0662\u0665\u0666 ) [ ]" = .ok ⟨"varchar", some 256, true⟩ ∧
    text ⟨"varchar", some 256, true⟩ = "varchar(256)[]" ∧ parse "varchar(256)[]" = .ok ⟨"varchar", some 256, true⟩ ∧
    Declarable ⟨"Größe", some 0, false⟩ ∧ parse "Größe(0)" = .ok ⟨"Größe", some 0, false⟩ := by
  have hread : parse "\tvarchar (\u00a000\u0662\u0665\u0666 ) [ ]" = .ok ⟨"varchar", some 256, true⟩ := rfl
  have hdeclarable : Declarable ⟨"Größe", some 0, false⟩ := by
    refine ⟨⟨List.cons_ne_nil _ _, List.all_eq_true.mp (by decide)⟩, fun n hn => ?_, fun type ht => ?_⟩
    · cases hn
      decide
    · cases ht
  exact ⟨hread, rfl, text_read_back.1 _ _ hread, hdeclarable, text_read_back.2.1 _ hdeclarable⟩

end TypeSpec

end RelationMapper
