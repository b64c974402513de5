import RelationMapper.Catalog
import RelationMapper.Proofs.TypeSpec.Reading

/-!
# A declared type read back

SQLite repeats the text with which a column was declared, and the catalog takes this text apart with a reader of its own, which
looks at letters and digits only and passes over whatever does not fit. Where the declaration is one of a column
(`readDeclaredType_of_parse`), it reads what the declaration says: the same type, and the same number in brackets, however many
blanks, leading zeros or digits of other scripts the text has.
-/

namespace RelationMapper

open Text TypeSpec

variable {text : String} {cs : List Char}

/-- The names of column types are lower-case letters. -/
theorem isAlpha_of_isPrimitive {spec : TypeSpec} (h : spec.isPrimitive = true) :
    spec.base ≠ "" ∧ (∀ c ∈ spec.base.toList, c.isAlpha = true) ∧ lower spec.base = spec.base := by
  obtain ⟨type, htype⟩ := Option.isSome_iff_exists.mp h
  have htype : ColumnType.all.find? (·.name == spec.base) = some type := htype
  have hname : type.name = spec.base := by simpa using List.find?_some htype
  rw [← hname]
  cases type <;> exact ⟨by decide, List.all_eq_true.mp (by decide), by decide⟩

/-- A length is a row of digits between round brackets, with blanks before each of the three. -/
theorem takeLength?_eq_some {inside tail : List Char} (hopen : cs.dropWhile isBlank = '(' :: inside)
    (hsome : (inside.dropWhile isBlank).takeWhile isDigit ≠ [])
    (hclose : ((inside.dropWhile isBlank).dropWhile isDigit).dropWhile isBlank = ')' :: tail) :
    takeLength? cs = some ((inside.dropWhile isBlank).takeWhile isDigit) := by
  simp [takeLength?, hopen, hclose, hsome]

/-- A number between round brackets is a length. -/
theorem takeLength?_of_tokens {digits : String} {tokens : List String} (hnumber : isNumber digits.toList = true)
    (h : tokensAfter [] cs = "(" :: digits :: ")" :: tokens) : takeLength? cs = some digits.toList := by
  obtain ⟨hsome, hdigits⟩ : digits.toList ≠ [] ∧ ∀ c ∈ digits.toList, isDigit c = true := by simpa [isNumber] using hnumber
  obtain ⟨inside, hopen, hinside⟩ := dropWhile_isBlank_of_bracket (rfl : isBracket '(' = true) h
  obtain ⟨hword, hclosing⟩ := takeWhile_isWordChar_of_word (isBracketToken_of_digits hdigits) hinside.symm
  obtain ⟨tail, hclose, -⟩ := dropWhile_isBlank_of_bracket (rfl : isBracket ')' = true) hclosing.symm
  rw [← hword] at hdigits
  obtain ⟨htake, hdrop⟩ := takeWhile_eq_of_all (q := isDigit) (fun _ => isWordChar_of_isDigit) hdigits
  have hlength := takeLength?_eq_some hopen (by rwa [htake, hword]) (hdrop ▸ hclose)
  rwa [htake, hword] at hlength

/-- The catalog reads from the declaration of a column what the declaration says: its type, and its precision if it has one. -/
theorem readDeclaredType_of_parse {spec : TypeSpec} (h : parse text = .ok spec) (hp : spec.isPrimitive = true)
    (ha : spec.isArray = false) : readDeclaredType text = .ok (spec.base, spec.precision) := by
  obtain ⟨digits?, htokens, hbase, hprecision, hvalue⟩ := parse_eq_ok.mp h
  obtain ⟨hsome, hletters, hlower⟩ := isAlpha_of_isPrimitive hp
  obtain ⟨hword, hrest⟩ := takeWhile_isWordChar_of_word hbase htokens
  rw [ha, arrayTokens, if_neg Bool.false_ne_true, List.append_nil] at hrest
  rw [← hword] at hletters
  obtain ⟨htake, hdrop⟩ := takeWhile_eq_of_all (q := Char.isAlpha) (fun _ => isWordChar_of_isAlpha) hletters
  have hname : spec.base.toList.isEmpty = false := by simpa using hsome
  rw [readDeclaredType]
  dsimp only
  rw [htake, hdrop, hword, hname, String.ofList_toList, hlower]
  rw [if_neg Bool.false_ne_true, hvalue]
  cases digits? with
  | none =>
    have hblank := dropWhile_isBlank_of_tokens_nil hrest.symm
    rw [takeLength?, hblank]
    rfl
  | some digits =>
    have hdigits := hprecision digits rfl
    rw [takeLength?_of_tokens hdigits.number hrest.symm]
    dsimp only
    rw [if_neg (String.length_toList ▸ Nat.not_lt.mpr hdigits.length)]
    rfl

/-- Blanks, leading zeros and digits of another script. -/
example : parse "\tvarchar (\u00a000\u0662\u0665\u0666 ) " = .ok ⟨"varchar", some 256, false⟩ ∧
    readDeclaredType "\tvarchar (\u00a000\u0662\u0665\u0666 ) " = .ok ("varchar", some 256) :=
  ⟨rfl, rfl⟩

end RelationMapper
