import RelationMapper.Proofs.Act
import RelationMapper.Proofs.TypeSpec.Grammar
import RelationMapper.Proofs.Validation
import RelationMapper.Proofs.Value.Writable

/-!
# What malformed declarations lead to

A declared type that is malformed is refused with its text, and a schema with flaws is refused by naming the first of them. No
other fault comes of a declaration, with one exception (`malformed_refused`): a number with more digits than are read. Where it
stands as a precision, it is refused as a number and no more as a part of a declaration, and this fault goes through every check of
a validation; where it is the length of a column in the database, it cannot be written into the flaw that is to be reported.
-/

namespace RelationMapper

open TypeSpec Number

/-! ## The database -/

/-- A column as databases describe it: its name is a text, and its length is a number if it has one. -/
structure ColumnInfo.IsTyped (c : ColumnInfo) : Prop where
  name : ∃ name, c.name = .text name
  length : c.maxLength = .null ∨ ∃ n, c.maxLength = .int n

section

variable {σ : Type}

/-- The columns of a table can always be read. -/
def Answers (readColumns : String → Act σ (List ColumnInfo)) : Prop :=
  ∀ table s, ∃ columns, ((readColumns table).runFrom s).1 = .ok columns ∧ ∀ c ∈ columns, c.IsTyped

/-- A column is one of those that are read. -/
def Describes (readColumns : String → Act σ (List ColumnInfo)) (c : ColumnInfo) : Prop :=
  ∃ table s columns, ((readColumns table).runFrom s).1 = .ok columns ∧ c ∈ columns

end

/-- A column with a length of too many digits to be written. -/
def ColumnInfo.HasLongLength (c : ColumnInfo) : Prop := ∃ n, c.maxLength = .int n ∧ isTooLong n = true

/-- A property whose declared type has a number of too many digits to be read. -/
def Property.HasLongNumber (p : Property) (n : Nat) : Prop := TypeSpec.HasLongNumber p.declared.toList n

/-- Reading a declared type fails for a number that is too long exactly if it has one there. -/
theorem Property.spec_eq_tooLong {p : Property} {n : Nat} :
    p.spec = .error (.precisionTooLong n) ↔ p.HasLongNumber n := parse_eq_tooLong_iff

/-! ## The comparison -/

/-- Writing the type of a live column fails only for a length that is too long. -/
theorem error_of_checkTypeText {c : ColumnInfo} (hc : c.IsTyped) {f : Fault} (h : c.checkTypeText = .error f) :
    f = .badValue .tooLongToWrite ∧ c.HasLongLength := by
  unfold ColumnInfo.checkTypeText at h
  split at h
  · rcases hc.length with hnull | ⟨n, hn⟩
    · rw [hnull] at h
      cases h
    · rw [hn, Value.checkWritable, writeInt] at h
      by_cases hlong : isTooLong n = true
      · rw [if_pos hlong] at h
        cases h
        exact ⟨rfl, n, hn, hlong⟩
      · rw [if_neg hlong] at h
        cases h
  · cases h

theorem lastColumn?_mem {columns : List ColumnInfo} {name : String} {c : ColumnInfo}
    (h : lastColumn? columns name = some c) : c ∈ columns :=
  List.mem_reverse.mp (List.mem_of_find?_eq_some h)

/-- A column of another type is a flaw, unless its type cannot be written into it. -/
theorem failure_of_otherType {columns : List ColumnInfo} {name : String} {c : ColumnInfo}
    (hlast : lastColumn? columns name = some c) {flaw : String → SchemaFlaw} {f : Fault}
    (h : Finding.otherType c flaw = .failure f) : ∃ c ∈ columns, c.checkTypeText = .error f := by
  unfold Finding.otherType at h
  split at h
  · cases h
  · case h_2 f' hcheck =>
    cases h
    exact ⟨c, lastColumn?_mem hlast, hcheck⟩

theorem failure_of_keyFindings {t : Table} {columns : List ColumnInfo} {f : Fault}
    (h : Finding.failure f ∈ t.keyFindings columns) : ∃ c ∈ columns, c.checkTypeText = .error f := by
  unfold Table.keyFindings at h
  split at h
  · simp at h
  · case h_2 c hlast =>
    split at h
    · simp at h
    · exact failure_of_otherType hlast (List.mem_singleton.mp h).symm

/-- Looking at a property fails only at a number that is too long, in the type of a live column or in its declared type. -/
theorem failure_of_propertyFindings {t : Table} {columns : List ColumnInfo} {p : Property} {f : Fault}
    (h : Finding.failure f ∈ t.propertyFindings columns p) :
    (∃ c ∈ columns, c.checkTypeText = .error f) ∨ ∃ n, p.HasLongNumber n ∧ f = .declaration (.precisionTooLong n) := by
  unfold Table.propertyFindings at h
  split at h
  · case h_1 n hspec =>
    cases List.mem_singleton.mp h
    exact .inr ⟨n, Property.spec_eq_tooLong.mp hspec, rfl⟩
  · simp at h
  · split at h
    · simp at h
    · split at h
      · simp at h
      · case h_2 c hlast =>
        split at h
        · simp at h
        · exact .inl (failure_of_otherType hlast (List.mem_singleton.mp h).symm)

/-- A comparison fails for the name of a column, which cannot be a key of a map, for the type of one, which cannot be written, or
for the number in the declared type of a property, which is too long. -/
theorem failure_of_findings {t : Table} {columns : List ColumnInfo} {f : Fault} (h : Finding.failure f ∈ t.findings columns) :
    (f = .wrongType ∧ columns.all (·.name.isKey) = false) ∨ (∃ c ∈ columns, c.checkTypeText = .error f) ∨
      ∃ p ∈ t.properties, ∃ n, p.HasLongNumber n ∧ f = .declaration (.precisionTooLong n) := by
  rw [Table.findings] at h
  split at h
  · simp at h
  · split at h
    · case isTrue hkeys =>
      cases List.mem_singleton.mp h
      exact .inl ⟨rfl, Bool.not_eq_true' _ ▸ hkeys⟩
    · simp only [List.mem_append, List.mem_flatMap] at h
      rcases h with (hkey | ⟨p, hp, hproperty⟩) | hsurplus
      · exact .inr (.inl (failure_of_keyFindings hkey))
      · rcases failure_of_propertyFindings hproperty with hcolumn | hlong
        · exact .inr (.inl hcolumn)
        · exact .inr (.inr ⟨p, hp, hlong⟩)
      · split at hsurplus <;> simp at hsurplus

/-- What breaks a comparison off is a value of the wrong type, or one that cannot be read or written. -/
theorem fault_of_findings {t : Table} {columns : List ColumnInfo} {f : Fault} (h : Finding.failure f ∈ t.findings columns) :
    f = .wrongType ∨ (∃ b, f = .badValue b) ∨ ∃ d, f = .declaration d := by
  rcases failure_of_findings h with ⟨rfl, -⟩ | ⟨c, -, hcheck⟩ | ⟨p, -, n, -, rfl⟩
  · exact .inl rfl
  · unfold ColumnInfo.checkTypeText at hcheck
    split at hcheck
    · exact .inr (.inl (badValue_of_checkWritable hcheck))
    · cases hcheck
  · exact .inr (.inr ⟨_, rfl⟩)

/-- Where the columns are as databases describe them, a comparison fails only for a number that is too long: that of a column, or
that of a property. -/
theorem failure_of_typed {t : Table} {columns : List ColumnInfo} (hc : ∀ c ∈ columns, c.IsTyped) {f : Fault}
    (h : Finding.failure f ∈ t.findings columns) :
    (f = .badValue .tooLongToWrite ∧ ∃ c ∈ columns, c.HasLongLength) ∨
      ∃ p ∈ t.properties, ∃ n, p.HasLongNumber n ∧ f = .declaration (.precisionTooLong n) := by
  rcases failure_of_findings h with ⟨-, hkeys⟩ | ⟨c, hmem, hcheck⟩ | hlong
  · obtain ⟨c, hmem, hkey⟩ := List.all_eq_false.mp hkeys
    obtain ⟨name, hname⟩ := (hc c hmem).name
    exact absurd (by rw [hname]; rfl) hkey
  · obtain ⟨hfault, hlength⟩ := error_of_checkTypeText (hc c hmem) hcheck
    exact .inl ⟨hfault, c, hmem, hlength⟩
  · exact .inr hlong

/-- Taking findings into a report ends in a flaw or a failure among them. -/
theorem error_of_record {strict : Bool} {r : Report} {findings : List Finding} {f : Fault}
    (h : r.record strict findings = .error f) : (∃ flaw, f = .schema flaw) ∨ .failure f ∈ findings := by
  obtain ⟨r', finding, hmem, h⟩ := exists_of_foldlM_error h
  cases finding with
  | warning w => cases h
  | flaw flaw =>
    rw [Report.recordOne] at h
    split at h <;> cases h
    exact .inl ⟨flaw, rfl⟩
  | failure f' =>
    cases h
    exact .inr hmem

section

variable {σ : Type} {readColumns : String → Act σ (List ColumnInfo)}

/-- A comparison with the database ends with a flaw, or at a number that is too long. -/
theorem error_of_compareTables (hread : Answers readColumns) {strict : Bool} {r : Report} {tables : List Table} {s : σ}
    {f : Fault} (h : ((compareTables strict readColumns r tables).runFrom s).1 = .error f) :
    (∃ flaw, f = .schema flaw) ∨ (f = .badValue .tooLongToWrite ∧ ∃ c, Describes readColumns c ∧ c.HasLongLength) ∨
      ∃ t ∈ tables, ∃ p ∈ t.properties, ∃ n, p.HasLongNumber n ∧ f = .declaration (.precisionTooLong n) := by
  induction tables generalizing r s with
  | nil => cases h
  | cons t tables ih =>
    obtain ⟨columns, hcolumns, htyped⟩ := hread t.name s
    rw [compareTables, Act.runFrom_bind] at h
    cases hrun : (readColumns t.name).runFrom s with
    | mk answer s' =>
      obtain rfl : answer = .ok columns := by rw [← hcolumns, hrun]
      rw [hrun] at h
      simp only [Act.runFrom_bind, Act.runFrom_lift] at h
      cases hrecord : r.record strict (t.findings columns) with
      | error f' =>
        rw [hrecord] at h
        cases h
        rcases error_of_record hrecord with hflaw | hfailure
        · exact .inl hflaw
        · rcases failure_of_typed htyped hfailure with ⟨hfault, c, hc, hlong⟩ | hlong
          · exact .inr (.inl ⟨hfault, c, ⟨t.name, s, columns, hcolumns, hc⟩, hlong⟩)
          · exact .inr (.inr ⟨t, List.mem_cons_self, hlong⟩)
      | ok r' =>
        rw [hrecord] at h
        rcases ih h with hflaw | hlength | ⟨t', ht', hlong⟩
        · exact .inl hflaw
        · exact .inr (.inl hlength)
        · exact .inr (.inr ⟨t', List.mem_cons_of_mem _ ht', hlong⟩)

end

/-! ## The structure -/

theorem error_of_declaresInt {t : Table} {name : String} {e : DeclarationError} (h : t.declaresInt name = .error e) :
    ∃ p ∈ t.properties, ∃ n, p.HasLongNumber n ∧ e = .precisionTooLong n := by
  unfold Table.declaresInt at h
  split at h
  · cases h
  · case h_2 p hp =>
    split at h
    · cases h
    · case h_2 n hspec =>
      cases h
      exact ⟨p, List.mem_of_find?_eq_some hp, n, Property.spec_eq_tooLong.mp hspec, rfl⟩
    · cases h

/-- The check of a property fails for a flaw, or for a number that is too long: that of the property itself, or that of the
foreign key that it asks for. -/
theorem error_of_checkProperty {t : Table} {tables : List Table} {p : Property} (hp : p ∈ t.properties) (ht : t ∈ tables)
    {f : Fault} (h : t.checkProperty tables p = .error f) :
    (∃ flaw, f = .schema flaw) ∨
      ∃ u ∈ tables, ∃ q ∈ u.properties, ∃ n, q.HasLongNumber n ∧ f = .declaration (.precisionTooLong n) := by
  rcases bind_eq_error.mp h with h | ⟨flaw?, -, h⟩
  · obtain ⟨e, he, rfl⟩ := mapError_eq_error.mp h
    refine .inr ?_
    unfold Table.propertyFlaw? at he
    split at he
    · case h_1 n hspec =>
      cases he
      exact ⟨t, ht, p, hp, n, Property.spec_eq_tooLong.mp hspec, rfl⟩
    · cases he
    · split at he
      · cases he
      · unfold Table.relationFlaw? at he
        split at he
        · cases he
        · case h_2 related hfound =>
          split at he
          · cases he
          · split at he
            · cases he
            · rcases bind_eq_error.mp he with he | ⟨found, -, he⟩
              · obtain ⟨q, hq, n, hlong, rfl⟩ := error_of_declaresInt he
                exact ⟨related, List.mem_of_find?_eq_some hfound, q, hq, n, hlong, rfl⟩
              · cases found <;> cases he
  · cases flaw? with
    | none => cases h
    | some flaw =>
      cases h
      exact .inl ⟨_, rfl⟩

/-- A check of the structure ends with a flaw, or at a declared number that is too long. -/
theorem error_of_checkStructure {tables : List Table} {f : Fault} (h : checkStructure tables = .error f) :
    (∃ flaw, f = .schema flaw) ∨
      ∃ t ∈ tables, ∃ p ∈ t.properties, ∃ n, p.HasLongNumber n ∧ f = .declaration (.precisionTooLong n) := by
  have flawed {r : Except SchemaFlaw Unit} (hr : r.mapError Fault.schema = .error f) : ∃ flaw, f = .schema flaw := by
    obtain ⟨flaw, -, rfl⟩ := mapError_eq_error.mp hr
    exact ⟨flaw, rfl⟩
  rcases bind_eq_error.mp h with h | ⟨_, -, h⟩
  · exact .inl (flawed h)
  rcases bind_eq_error.mp h with h | ⟨_, -, h⟩
  · exact .inl (flawed h)
  rcases bind_eq_error.mp h with h | ⟨_, -, h⟩
  · exact .inl (flawed h)
  obtain ⟨t, ht, h⟩ := exists_of_forM_error h
  obtain ⟨p, hp, h⟩ := exists_of_forM_error h
  exact error_of_checkProperty hp ht h

/-! ## What may be refused -/

/-- How a validation may end: with a report, with a flaw of the schema, or with a number that is too long, of a declared property
or of a column of the database. -/
inductive ValidationEnd (tables : List Table) {σ : Type} (readColumns : String → Act σ (List ColumnInfo)) :
    Except Fault Report → Prop where
  | report (r : Report) : ValidationEnd tables readColumns (.ok r)
  | flaw (flaw : SchemaFlaw) : ValidationEnd tables readColumns (.error (.schema flaw))
  | longNumber {t : Table} {p : Property} {n : Nat} : t ∈ tables → p ∈ t.properties → p.HasLongNumber n →
      ValidationEnd tables readColumns (.error (.declaration (.precisionTooLong n)))
  | longLength {c : ColumnInfo} : Describes readColumns c → c.HasLongLength →
      ValidationEnd tables readColumns (.error (.badValue .tooLongToWrite))

section

variable {σ : Type} {readColumns : String → Act σ (List ColumnInfo)}

theorem end_of_validate (hread : Answers readColumns) (strict : Bool) (tables : List Table) (s : σ) :
    ValidationEnd tables readColumns ((validate strict readColumns tables).runFrom s).1 := by
  cases hcompared : (compareTables strict readColumns .empty tables).runFrom s with
  | mk compared s' =>
    cases compared with
    | error f =>
      have hfault : ((compareTables strict readColumns .empty tables).runFrom s).1 = .error f := by rw [hcompared]
      rw [validate, Act.runFrom_bind, hcompared]
      rcases error_of_compareTables hread hfault with ⟨flaw, rfl⟩ | ⟨rfl, c, hc, hlong⟩ | ⟨t, ht, p, hp, n, hlong, rfl⟩
      · exact .flaw flaw
      · exact .longLength hc hlong
      · exact .longNumber ht hp hlong
    | ok r =>
      rw [runFrom_validate hcompared]
      cases hchecked : checkStructure tables with
      | ok => exact .report r
      | error f =>
        rcases error_of_checkStructure hchecked with ⟨flaw, rfl⟩ | ⟨t, ht, p, hp, n, hlong, rfl⟩
        · exact .flaw flaw
        · exact .longNumber ht hp hlong

/-- A report is given only of schemas whose numbers are all read. -/
theorem not_hasLongNumber_of_report {strict : Bool} {tables : List Table} {s : σ} {r : Report}
    (h : ((validate strict readColumns tables).runFrom s).1 = .ok r) {t : Table} (ht : t ∈ tables) {p : Property}
    (hp : p ∈ t.properties) (n : Nat) : ¬p.HasLongNumber n := by
  intro hlong
  obtain ⟨spec, hspec⟩ := spec_of_checkStructure (passed_of_report h).2 ht hp
  rw [Property.spec_eq_tooLong.mpr hlong] at hspec
  cases hspec

/-- A text is read, or refused with the text itself, or refused for its number alone, and it is known for which texts the last
happens. A validation ends with a report, with a flaw of the schema, or with such a number, which no report lets pass. -/
theorem malformed_refused (hread : Answers readColumns) (strict : Bool) (tables : List Table) (s : σ) :
    (∀ text, (∃ spec, parse text = .ok spec) ∨ (∃ e, parse text = .error e ∧ e.text? = some text) ∨
      ∃ n, parse text = .error (.precisionTooLong n) ∧ TypeSpec.HasLongNumber text.toList n) ∧
    (∀ text n, TypeSpec.HasLongNumber text.toList n → parse text = .error (.precisionTooLong n)) ∧
    ValidationEnd tables readColumns ((validate strict readColumns tables).runFrom s).1 ∧
    ∀ r, ((validate strict readColumns tables).runFrom s).1 = .ok r →
      ∀ t ∈ tables, ∀ p ∈ t.properties, ∀ n, ¬p.HasLongNumber n := by
  refine ⟨fun text => ?_, fun text n => parse_eq_tooLong_iff.mpr, end_of_validate hread strict tables s,
    fun r hr t ht p hp n => not_hasLongNumber_of_report hr ht hp n⟩
  cases hparse : parse text with
  | ok spec => exact .inl ⟨spec, rfl⟩
  | error e =>
    rcases error_of_parse hparse with htext | ⟨base, digits, rest, hlong, rfl⟩
    · exact .inr (.inl ⟨e, rfl, htext⟩)
    · exact .inr (.inr ⟨_, rfl, parse_eq_tooLong_iff.mp hparse⟩)

end

/-- The columns of a database in which every table has one column, a text. -/
def textColumns : String → Act Unit (List ColumnInfo) := fun _ => pure [⟨.text "userId", "varchar", .int 64⟩]

/-- Where the key is a text in the database, a strict validation ends with this flaw. -/
theorem malformed_refused_blog :
    Answers textColumns ∧ ((validate true textColumns blog).runFrom ()).1 =
      .error (.schema (.keyType "User" "userId" "varchar(64)")) ∧
    ValidationEnd blog textColumns (.error (.schema (.keyType "User" "userId" "varchar(64)"))) := by
  have hread : Answers textColumns := by
    refine fun table s => ⟨_, rfl, fun c hc => ?_⟩
    obtain rfl := List.mem_singleton.mp hc
    exact ⟨⟨"userId", rfl⟩, .inr ⟨64, rfl⟩⟩
  have hrun : ((validate true textColumns blog).runFrom ()).1 =
      .error (.schema (.keyType "User" "userId" "varchar(64)")) := rfl
  exact ⟨hread, hrun, hrun ▸ (malformed_refused hread true blog ()).2.2.1⟩

/-- A length in digits as a declared type. -/
def varcharOf (digits : List Char) : String := String.ofList ("varchar(".toList ++ digits ++ [')'])

/-- A text type with a number of too many digits is refused with the number of digits. -/
theorem parse_varcharOf {digits : List Char} (h : IsDigits digits) (hlimit : Text.digitLimit < digits.length) :
    parse (varcharOf digits) = .error (.precisionTooLong digits.length) := by
  have hblanks : IsBlanks [] := nofun
  have hletters : "varchar".toList.all isWordChar = true := rfl
  have hword : IsWord "varchar".toList := ⟨List.cons_ne_nil _ _, List.all_eq_true.mp hletters⟩
  have hends : EndsWord [')'] := endsWord_bracket rfl []
  have htaken : takesPrecision (String.ofList "varchar".toList) = true := by decide
  have htext : (varcharOf digits).toList = "varchar(".toList ++ digits ++ [')'] := String.toList_ofList
  refine parse_eq_tooLong_iff.mpr ?_
  rw [htext]
  exact HasLongNumber.intro hblanks hword hblanks hblanks h hends htaken hlimit

/-- Users with a name of the given type. -/
def usersNamed (declared : String) : Table := ⟨"User", "userId", [⟨"name", declared⟩], 0⟩

theorem checkStructure_usersNamed {declared : String} {n : Nat} (h : parse declared = .error (.precisionTooLong n)) :
    checkStructure [usersNamed declared] = .error (.declaration (.precisionTooLong n)) := by
  have hnames : [usersNamed declared].forM (·.checkNames) = .ok () := by
    refine forM_eq_ok.mpr (List.forall_mem_singleton.mpr ((Table.checkNames_eq_ok _).mpr ?_))
    have hplain : isPlainName "User" = true ∧ isPlainName "userId" = true ∧ isPlainName "name" = true := by decide
    simp only [isPlainName_iff] at hplain
    exact ⟨hplain.1, hplain.2.1, List.forall_mem_singleton.mpr hplain.2.2⟩
  have hduplicates : checkDuplicates [] [] [usersNamed declared] = .ok () := rfl
  have hcycles : checkCycles [] [usersNamed declared] = .ok () := rfl
  have hproperty : (usersNamed declared).checkProperty [usersNamed declared] ⟨"name", declared⟩ =
      .error (.declaration (.precisionTooLong n)) := by
    rw [Table.checkProperty, Table.propertyFlaw?, Property.spec, h]
    rfl
  rw [checkStructure, hnames, hduplicates, hcycles]
  change ((usersNamed declared).checkProperty [usersNamed declared] ⟨"name", declared⟩ >>= fun _ => pure ()) >>= _ = _
  rw [hproperty]
  rfl

/-- One digit more than are read. -/
def tooManyDigits : List Char := List.replicate (Text.digitLimit + 1) '1'

/-- A type whose number has one digit more than are read is refused without its text, and a schema that declares it is refused
without a flaw. -/
theorem long_number_escapes :
    parse (varcharOf tooManyDigits) = .error (.precisionTooLong tooManyDigits.length) ∧
    ((validate true (fun _ => pure []) [usersNamed (varcharOf tooManyDigits)]).runFrom ()).1 =
      .error (.declaration (.precisionTooLong tooManyDigits.length)) := by
  have hdigits : IsDigits tooManyDigits := by
    refine ⟨mt (List.replicate_eq_nil_iff _).mp (Nat.succ_ne_zero _), fun c hc => ?_⟩
    rw [List.eq_of_mem_replicate hc]
    decide
  have hlimit : Text.digitLimit < tooManyDigits.length := by
    rw [tooManyDigits, List.length_replicate]
    exact Nat.lt_succ_self _
  generalize tooManyDigits = digits at hdigits hlimit
  have hlong := parse_varcharOf hdigits hlimit
  have hcompared : (compareTables true (fun _ => pure []) .empty [usersNamed (varcharOf digits)]).runFrom () =
      (.ok ⟨[.missingTable "User"], []⟩, ()) := rfl
  refine ⟨hlong, ?_⟩
  rw [runFrom_validate hcompared, checkStructure_usersNamed hlong]
  rfl

end RelationMapper
