import RelationMapper.Proofs.Client.Row
import RelationMapper.Proofs.Entry.WellTyped
import RelationMapper.Proofs.Filter

/-!
# Refused filters

A test of a filter is a property with the value that it should have. Taken by itself it is refused if it is invalid
(`TestInvalid`), because of its name or because of a value that does not fit the column, or if it has a number that is too long to
be written (`TestUnwritable`); `exists_renderTest_error` says so.

A filter, however, is given up at its first empty list, and whatever stands after that is not looked at.
`filter_refused_iff` says which filters are refused, when there are conditions instead, and that the order of the tests is of no
account exactly if no test is refused or no empty list stands where it is allowed. Hence a misspelled name may pass unnoticed
(`misspelled_name_unnoticed`).
-/

namespace RelationMapper

open Number

variable {tables : List Table} {t : Table} {quote name : String} {key value item : Value} {type : ColumnType} {tests : Keyed Value}

/-! ## Tests by themselves -/

/-- The values that a test compares with: the items where its value is like a list, the value itself otherwise. -/
def Value.compared (v : Value) : List Value := v.items?.getD [v]

/-- A value whose kind does not go with a column, or that has no kind. -/
def ColumnType.Rejects (type : ColumnType) (v : Value) : Prop := ∀ kind, v.kind = .ok kind → type ∉ kind.accepted

/-- A test that asks for something that the table does not have, or compares a column with a value that does not fit. -/
inductive TestInvalid (tables : List Table) (t : Table) : Value → Value → Prop where
  | unknown {key value : Value} : key ≠ .text t.key → ¬t.HasName key → TestInvalid tables t key value
  | relation {p : Property} {related : Table} {value : Value} : t.OwnsRelation tables p related →
      TestInvalid tables t (.text p.name) value
  | misfit {name : String} {type : ColumnType} {value item : Value} : t.HasColumn name type → item ∈ value.compared →
      type.Rejects item → TestInvalid tables t (.text name) value

/-- A test that compares a column with a number that is too long to be written. -/
def TestUnwritable (t : Table) (key value : Value) : Prop :=
  ∃ name type n, key = .text name ∧ t.HasColumn name type ∧ .int n ∈ value.compared ∧ isTooLong n = true

/-- A test that is refused wherever it is looked at. -/
def TestRefused (tables : List Table) (t : Table) (key value : Value) : Prop :=
  TestInvalid tables t key value ∨ TestUnwritable t key value

/-- A value is refused for a column exactly if the column's type rejects it. -/
theorem exists_assertFits_error (name : String) : (∃ e, assertFits name item type = .error e) ↔ type.Rejects item := by
  constructor
  · rintro ⟨e, he⟩ kind hkind haccepted
    rw [assertFits_eq_ok.mpr ⟨kind, hkind, haccepted⟩] at he
    cases he
  · intro h
    cases he : assertFits name item type with
    | error e => exact ⟨e, rfl⟩
    | ok u =>
      obtain ⟨kind, hkind, haccepted⟩ := assertFits_eq_ok.mp he
      exact absurd haccepted (h kind hkind)

/-- A value has a literal for a column unless the column rejects it or it is a number that is too long. -/
theorem exists_checkedLiteral_error (quote name : String) :
    (∃ f, checkedLiteral quote name type item = .error f) ↔
      type.Rejects item ∨ ∃ n, item = .int n ∧ isTooLong n = true := by
  cases hfits : assertFits name item type with
  | error e =>
    refine iff_of_true ⟨.mismatch e, ?_⟩ (.inl ((exists_assertFits_error name).mp ⟨e, hfits⟩))
    rw [checkedLiteral, hfits]
    rfl
  | ok u =>
    have haccepts : ¬type.Rejects item := fun h => by
      obtain ⟨e, he⟩ := (exists_assertFits_error name).mpr h
      cases hfits.symm.trans he
    constructor
    · rintro ⟨f, hf⟩
      by_contra hlong
      -- an integer that is not too long is written, and everything else that fits has a literal
      have hwritten : ∀ n, item = .int n → Only (fun _ => False) (writeInt n) := by
        intro n hn
        rw [writeInt, if_neg fun htoo => hlong (.inr ⟨n, hn, htoo⟩)]
        exact Only.ok _
      exact only_checkedLiteral hfits hwritten quote f hf
    · rintro (h | ⟨n, rfl, hn⟩)
      · exact absurd h haccepts
      · refine ⟨.badValue .tooLongToWrite, ?_⟩
        rw [checkedLiteral, hfits]
        exact if_pos hn

/-! ## The first test that is refused -/

/-- One of some tests is refused, and none before it asks for one of no values. -/
def RefusalReached (tables : List Table) (t : Table) (tests : Keyed Value) : Prop :=
  ∃ before test after, tests = before ++ test :: after ∧ TestRefused tables t test.1 test.2 ∧
    ∀ earlier ∈ before, earlier.2.items? ≠ some []

theorem refusalReached_nil : ¬RefusalReached tables t [] := by
  rintro ⟨before, test, after, heq, -⟩
  cases before <;> cases heq

/-- A refusal is reached at the first test, or after it unless that asks for one of no values. -/
theorem refusalReached_cons {test : Value × Value} : RefusalReached tables t (test :: tests) ↔
    TestRefused tables t test.1 test.2 ∨ (test.2.items? ≠ some [] ∧ RefusalReached tables t tests) := by
  constructor
  · rintro ⟨before, refused, after, heq, hr, hbefore⟩
    cases before with
    | nil =>
      cases heq
      exact .inl hr
    | cons first before =>
      cases heq
      rw [List.forall_mem_cons] at hbefore
      exact .inr ⟨hbefore.1, before, refused, after, rfl, hr, hbefore.2⟩
  · rintro (hr | ⟨hfirst, before, refused, after, rfl, hr, hbefore⟩)
    · exact ⟨[], test, tests, rfl, hr, List.forall_mem_nil _⟩
    · exact ⟨test :: before, refused, after, rfl, hr, List.forall_mem_cons.mpr ⟨hfirst, hbefore⟩⟩

/-- Where every test that asks for one of no values is refused, a test that is refused is enough. -/
theorem refusalReached_iff_exists (hempty : ∀ test ∈ tests, test.2.items? = some [] → TestRefused tables t test.1 test.2) :
    RefusalReached tables t tests ↔ ∃ test ∈ tests, TestRefused tables t test.1 test.2 := by
  induction tests with
  | nil => simp [refusalReached_nil]
  | cons test tests ih =>
    rw [List.forall_mem_cons] at hempty
    rw [refusalReached_cons, ih hempty.2, List.exists_mem_cons_iff]
    refine or_congr_right' fun hr => and_iff_right fun hnone => hr (hempty.1 hnone)

/-- The order of tests is of no account exactly if none is refused or every one that asks for one of no values is. -/
theorem forall_perm_refusalReached :
    (∀ tests' : Keyed Value, tests'.Perm tests → (RefusalReached tables t tests' ↔ RefusalReached tables t tests)) ↔
      (∀ test ∈ tests, ¬TestRefused tables t test.1 test.2) ∨
        ∀ test ∈ tests, test.2.items? = some [] → TestRefused tables t test.1 test.2 := by
  constructor
  · intro hperm
    by_contra hne
    simp only [not_or, not_forall, not_not] at hne
    obtain ⟨⟨refused, hmem, hr⟩, empty, hmem', hempty, hallowed⟩ := hne
    -- with the refused test in front the filter is refused, with the empty list in front it is not
    have hfirst : ∀ test ∈ tests, ∃ rest, (test :: rest).Perm tests := fun test hm => by
      obtain ⟨before, after, rfl⟩ := List.append_of_mem hm
      exact ⟨before ++ after, List.perm_middle.symm⟩
    obtain ⟨rest, hrest⟩ := hfirst refused hmem
    obtain ⟨rest', hrest'⟩ := hfirst empty hmem'
    have hreached := (hperm _ hrest).mp (refusalReached_cons.mpr (.inl hr))
    rcases refusalReached_cons.mp ((hperm _ hrest').mpr hreached) with hr' | ⟨hne, -⟩
    · exact hallowed hr'
    · exact hne hempty
  · rintro (hall | hempty) tests' hp
    · have hnone : ∀ tests'' : Keyed Value, tests''.Perm tests → ¬RefusalReached tables t tests'' := by
        rintro tests'' hp' ⟨before, test, after, rfl, hr, -⟩
        exact hall test (hp'.subset (List.mem_append_right _ List.mem_cons_self)) hr
      exact iff_of_false (hnone tests' hp) (hnone tests (.refl _))
    · rw [refusalReached_iff_exists hempty, refusalReached_iff_exists fun test hm => hempty test (hp.subset hm)]
      exact exists_congr fun test => and_congr_left fun _ => hp.mem_iff

/-! ## Names -/

section

variable (h : WellFormedSchema tables) (hd : t.Distinct) (ht : t ∈ tables)
include h hd ht

/-- A name is refused exactly if it is unknown: neither the key nor a property. -/
theorem exists_named_error : (∃ f, t.named key = .error f) ↔ key ≠ .text t.key ∧ ¬t.HasName key := by
  constructor
  · rintro ⟨f, hf⟩
    constructor
    · rintro rfl
      cases hp : t.property? t.key with
      | none => cases hf.symm.trans (Table.named_eq_ok.mpr ⟨rfl, Table.spec_eq_ok.mpr (.inr ⟨hp, rfl, rfl⟩)⟩)
      | some p =>
        obtain ⟨hmem, hname⟩ := (Table.property?_eq_some hd).mp hp
        obtain ⟨spec, hspec, -⟩ := h.types t ht p hmem
        cases hf.symm.trans (hname ▸ named_of_mem hd hmem hspec)
    · rintro ⟨p, hmem, rfl⟩
      obtain ⟨spec, hspec, -⟩ := h.types t ht p hmem
      cases hf.symm.trans (named_of_mem hd hmem hspec)
  · rintro ⟨hkey, hname⟩
    cases hn : t.named key with
    | error f => exact ⟨f, rfl⟩
    | ok named =>
      obtain ⟨rfl, hspec⟩ := Table.named_eq_ok.mp hn
      rcases Table.spec_eq_ok.mp hspec with ⟨p, hp, -⟩ | ⟨-, hk, -⟩
      · obtain ⟨hmem, hp⟩ := (Table.property?_eq_some hd).mp hp
        exact absurd ⟨p, hmem, congrArg Value.text hp.symm⟩ hname
      · exact absurd (congrArg Value.text hk) hkey

/-- What can be named is a relation or a column. -/
theorem relation_or_hasColumn {spec : TypeSpec} (hn : t.named key = .ok (name, spec)) : key = .text name ∧
    ((∃ p related, p.name = name ∧ t.OwnsRelation tables p related ∧ spec.columnType? = none) ∨
      ∃ type, t.HasColumn name type ∧ spec.columnType? = some type) := by
  obtain ⟨hkey, hspec⟩ := Table.named_eq_ok.mp hn
  refine ⟨hkey, ?_⟩
  cases htype : spec.columnType? with
  | some type => exact .inr ⟨type, ⟨spec, hspec, htype⟩, rfl⟩
  | none =>
    rcases Table.spec_eq_ok.mp hspec with ⟨p, hp, hpspec⟩ | ⟨-, -, rfl⟩
    · obtain ⟨hmem, hname⟩ := (Table.property?_eq_some hd).mp hp
      cases supported_of_spec h hd ht hspec with
      | column type hsome => cases htype.symm.trans hsome
      | relation related _ _ _ hrelated hbase =>
        exact .inl ⟨p, related, hname, ⟨hmem, ⟨spec, hpspec, htype, hbase.symm⟩, hrelated⟩, rfl⟩
    · cases htype

/-- A test of a column is refused exactly if one of the values that it compares with cannot be written for the column. -/
theorem testRefused_column (hc : t.HasColumn name type) : TestRefused tables t (.text name) value ↔
    ∃ item ∈ value.compared, type.Rejects item ∨ ∃ n, item = .int n ∧ isTooLong n = true := by
  obtain ⟨spec, hspec, htype⟩ := hc
  have hn : t.named (.text name) = .ok (name, spec) := Table.named_eq_ok.mpr ⟨rfl, hspec⟩
  constructor
  · rintro (hinvalid | ⟨name', type', n, -, -, hitem, hlong⟩)
    · generalize hkey : Value.text name = key at hinvalid
      cases hinvalid with
      | unknown hne hnot =>
        obtain ⟨f, hf⟩ := (exists_named_error h hd ht).mpr ⟨hne, hnot⟩
        rw [← hkey, hn] at hf
        cases hf
      | @relation p related _ hr =>
        obtain ⟨hmem, ⟨spec', hspec', hnone, -⟩, -⟩ := hr
        have hn' := named_of_mem hd hmem hspec'
        rw [← hkey, hn] at hn'
        cases hn'
        cases htype.symm.trans hnone
      | @misfit name' type' _ item hc' hitem hrejects =>
        cases hkey
        exact ⟨item, hitem, .inl (hc'.unique ⟨spec, hspec, htype⟩ ▸ hrejects)⟩
    · exact ⟨_, hitem, .inr ⟨n, rfl, hlong⟩⟩
  · rintro ⟨item, hitem, hrejects | ⟨n, rfl, hlong⟩⟩
    · exact .inl (.misfit ⟨spec, hspec, htype⟩ hitem hrejects)
    · exact .inr ⟨name, type, n, rfl, ⟨spec, hspec, htype⟩, hitem, hlong⟩

/-- A test taken by itself fails exactly if it is refused. -/
theorem exists_renderTest_error (quote : String) :
    (∃ f, t.renderTest quote key value = .error f) ↔ TestRefused tables t key value := by
  cases hn : t.named key with
  | error f =>
    obtain ⟨hkey, hname⟩ := (exists_named_error h hd ht).mp ⟨f, hn⟩
    refine iff_of_true ⟨f, ?_⟩ (.inl (.unknown hkey hname))
    rw [Table.renderTest, hn]
    rfl
  | ok named =>
    obtain ⟨name, spec⟩ := named
    obtain ⟨rfl, ⟨p, related, rfl, hr, htype⟩ | ⟨type, hc, htype⟩⟩ := relation_or_hasColumn h hd ht hn
    · refine iff_of_true ⟨.misuse (.filterOnRelation p.name t.name), ?_⟩ (.inl (.relation hr))
      rw [Table.renderTest, hn, ok_bind]
      dsimp only
      rw [htype]
      rfl
    · rw [testRefused_column h hd ht hc]
      simp only [← exists_checkedLiteral_error quote name]
      rw [Table.renderTest, hn, ok_bind]
      dsimp only
      rw [htype, Value.compared]
      dsimp only
      cases hi : value.items? with
      | none =>
        rw [Option.getD_none]
        simp only [List.mem_singleton, exists_eq_left]
        exact exists_bind_pure_error
      | some items =>
        rw [Option.getD_some, ← exists_mapM_error]
        cases items with
        | nil => exact iff_of_false (by simp) (by simp)
        | cons item items => exact exists_bind_pure_error

/-! ## Filters -/

/-- A filter is refused for its first test, or for what follows unless the first test asks for one of no values. -/
theorem exists_renderTests_cons_error {test : Value × Value} : (∃ f, t.renderTests quote (test :: tests) = .error f) ↔
    TestRefused tables t test.1 test.2 ∨ (test.2.items? ≠ some [] ∧ ∃ f, t.renderTests quote tests = .error f) := by
  rw [Table.renderTests, ← exists_renderTest_error h hd ht quote]
  cases hr : t.renderTest quote test.1 test.2 with
  | error f => exact iff_of_true ⟨f, rfl⟩ (.inl ⟨f, rfl⟩)
  | ok condition =>
    rw [ok_bind, ne_eq, ← renderTest_eq_none hr]
    cases condition with
    | none => simp
    | some condition => simpa using exists_bind_pure_error

/-- A filter is refused exactly if one of its tests is, and no test before it asks for one of no values. -/
theorem exists_renderTests_error : (∃ f, t.renderTests quote tests = .error f) ↔ RefusalReached tables t tests := by
  induction tests with
  | nil => simp [Table.renderTests, refusalReached_nil]
  | cons test tests ih => rw [exists_renderTests_cons_error h hd ht, ih, refusalReached_cons]

/-- Where no test is refused, there is a condition for each of them, unless one asks for one of no values. -/
theorem renderTests_of_unrefused (quote : String) (hall : ∀ test ∈ tests, ¬TestRefused tables t test.1 test.2) :
    (t.renderTests quote tests = .ok none ∧ ∃ test ∈ tests, test.2.items? = some []) ∨
      ∃ conditions, t.renderTests quote tests = .ok (some conditions) ∧ ∀ test ∈ tests, test.2.items? ≠ some [] := by
  induction tests with
  | nil => exact .inr ⟨[], rfl, List.forall_mem_nil _⟩
  | cons test tests ih =>
    rw [List.forall_mem_cons] at hall
    obtain ⟨condition, hr⟩ : ∃ condition, t.renderTest quote test.1 test.2 = .ok condition := by
      cases hr : t.renderTest quote test.1 test.2 with
      | error f => exact absurd ((exists_renderTest_error h hd ht quote).mp ⟨f, hr⟩) hall.1
      | ok condition => exact ⟨condition, rfl⟩
    have hnone := renderTest_eq_none hr
    cases condition with
    | none =>
      refine .inl ⟨?_, test, List.mem_cons_self, hnone.mp rfl⟩
      rw [Table.renderTests, hr]
      rfl
    | some condition =>
      rcases ih hall.2 with ⟨hrest, empty, hmem, hempty⟩ | ⟨conditions, hrest, hsome⟩
      · refine .inl ⟨?_, empty, List.mem_cons_of_mem _ hmem, hempty⟩
        rw [Table.renderTests, hr, ok_bind]
        dsimp only
        rw [hrest]
        rfl
      · exact .inr ⟨condition :: conditions, renderTests_cons.mpr ⟨condition, conditions, rfl, hr, hrest⟩,
          List.forall_mem_cons.mpr ⟨mt hnone.mpr (by simp), hsome⟩⟩

end

/-- In a schema that validation reports on, a filter is refused exactly if one of its tests is and no empty list stands before it.
If no test is refused, it is given up exactly if there is an empty list, and otherwise there is one condition for each test. Whether
it is refused does not depend on the order of its tests exactly if none of them is refused or every one with an empty list is. -/
theorem filter_refused_iff {σ : Type} {strict : Bool} {readColumns : String → Act σ (List ColumnInfo)}
    (hd : ∀ u ∈ tables, u.Distinct) {s : σ} {report : Report}
    (h : ((validate strict readColumns tables).runFrom s).1 = .ok report) (ht : t ∈ tables) (quote : String)
    (tests : Keyed Value) :
    ((∃ f, t.renderFilter quote (.map tests) = .error f) ↔ ∃ before test after, tests = before ++ test :: after ∧
      TestRefused tables t test.1 test.2 ∧ ∀ earlier ∈ before, earlier.2.items? ≠ some []) ∧
    ((∀ test ∈ tests, ¬TestRefused tables t test.1 test.2) →
      (t.renderFilter quote (.map tests) = .ok none ↔ ∃ test ∈ tests, test.2.items? = some []) ∧
      ((∀ test ∈ tests, test.2.items? ≠ some []) → ∃ conditions, t.renderFilter quote (.map tests) = .ok (some conditions) ∧
        List.Forall₂ (fun test condition => TestRendered t quote test.1 test.2 condition) tests conditions)) ∧
    ((∀ tests' : Keyed Value, tests'.Perm tests →
        ((∃ f, t.renderFilter quote (.map tests') = .error f) ↔ ∃ f, t.renderFilter quote (.map tests) = .error f)) ↔
      (∀ test ∈ tests, ¬TestRefused tables t test.1 test.2) ∨
        ∀ test ∈ tests, test.2.items? = some [] → TestRefused tables t test.1 test.2) := by
  have hwf := wellFormed_of_report hd h
  simp only [renderFilter_map, exists_renderTests_error hwf (hd t ht) ht]
  refine ⟨Iff.rfl, fun hall => ?_, forall_perm_refusalReached⟩
  rcases renderTests_of_unrefused hwf (hd t ht) ht quote hall with ⟨hnone, hempty⟩ | ⟨conditions, hsome, hne⟩
  · refine ⟨iff_of_true hnone hempty, fun hne => ?_⟩
    obtain ⟨test, hmem, hempty⟩ := hempty
    exact absurd hempty (hne test hmem)
  · refine ⟨iff_of_false (by simp [hsome]) ?_, fun _ => ⟨conditions, hsome, forall₂_renderTests hsome⟩⟩
    rintro ⟨test, hmem, hempty⟩
    exact hne test hmem hempty

/-- A filter on users with a misspelled name behind an empty list, and the same the other way round. -/
theorem filter_refused_iff_blog :
    let tests : Keyed Value := [(.text "userId", .list []), (.text "nmae", .text "ada")]
    (∀ u ∈ blog, u.Distinct) ∧
    ((validate true (fun _ => pure []) blog).runFrom ()).1 = .ok ⟨[.missingTable "User", .missingTable "Post"], []⟩ ∧
    users ∈ blog ∧
    RefusalReached blog users tests.reverse ∧
    ¬∀ tests' : Keyed Value, tests'.Perm tests →
      ((∃ f, users.renderFilter "'" (.map tests') = .error f) ↔ ∃ f, users.renderFilter "'" (.map tests) = .error f) := by
  intro tests
  have hreport := congrArg Prod.fst validate_blog
  have hfilter := filter_refused_iff blog_distinct hreport users_mem_blog "'"
  have hreached : RefusalReached blog users tests.reverse := (hfilter tests.reverse).1.mp ⟨_, rfl⟩
  refine ⟨blog_distinct, hreport, users_mem_blog, hreached, fun hperm => ?_⟩
  obtain ⟨f, hf⟩ := (hperm tests.reverse tests.reverse_perm).mp ⟨_, rfl⟩
  cases hf

/-- A name that no user has is refused, but not behind an empty list. -/
theorem misspelled_name_unnoticed :
    let misspelled : Value × Value := (.text "nmae", .text "ada")
    let nobody : Value × Value := (.text "userId", .list [])
    ((validate true (fun _ => pure []) blog).runFrom ()).1 = .ok ⟨[.missingTable "User", .missingTable "Post"], []⟩ ∧
    users ∈ blog ∧ TestInvalid blog users misspelled.1 misspelled.2 ∧
    users.renderFilter "'" (.map [nobody, misspelled]) = .ok none ∧
    users.renderFilter "'" (.map [misspelled, nobody]) = .error (.misuse (.unknownProperty "nmae" "User")) := by
  intro misspelled nobody
  refine ⟨congrArg Prod.fst validate_blog, users_mem_blog, .unknown ?_ ?_, rfl, rfl⟩
  · exact fun heq => absurd (Value.text.inj heq) (by decide)
  · rintro ⟨p, hp, heq⟩
    revert p
    simp [users, misspelled]

end RelationMapper
