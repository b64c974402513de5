import Mathlib.Data.List.Nodup
import RelationMapper.Proofs.Entry
import RelationMapper.Proofs.Validation
import RelationMapper.Proofs.Value.SameKey

/-!
# Reports that are clean

What a report without an entry says about the database. The comparison of a table with its columns crosses off the columns that
the key and the properties account for, one by one, and notes whatever is amiss on the way. `Table.Matches` says the same without
it: the key and the columns of the table are there, with their types, and nothing else is.

`report_clean_iff` says that a validation that reports, strictly or not, reports nothing exactly if the database matches every
table of the schema.
-/

namespace RelationMapper

/-! ## What the database has for a table -/

/-- The columns in the database match a table: there are some; the key is among them, as an integer; so is every property that is
no relation, with its type and, where a precision is declared, with a length of that value; and every column is the key or has the
name of a property. -/
structure Table.Matches (t : Table) (columns : List ColumnInfo) : Prop where
  present : columns ≠ []
  key : ∃ c ∈ columns, c.name = .text t.key ∧ c.type = ColumnType.int.name
  properties : ∀ p ∈ t.properties, ∀ spec, p.spec = .ok spec → spec.isPrimitive = true →
    ∃ c ∈ columns, c.name = .text p.name ∧ c.type = spec.base ∧ ∀ n ∈ spec.precision, Value.HasInt n c.maxLength
  accounted : ∀ c ∈ columns, c.name = .text t.key ∨ ∃ p ∈ t.properties, c.name = .text p.name

/-- No two columns have the same name. -/
def DistinctNames (columns : List ColumnInfo) : Prop := (columns.map (·.name)).Nodup

section

variable {columns : List ColumnInfo} {t : Table}

/-- Where names are distinct, the last column of a name is the only one. -/
theorem lastColumn?_eq_some (hn : DistinctNames columns) {name : String} {c : ColumnInfo} :
    lastColumn? columns name = some c ↔ c ∈ columns ∧ c.name = .text name := by
  have found {d : ColumnInfo} (hd : lastColumn? columns name = some d) : d ∈ columns ∧ d.name = .text name := by
    have hname := List.find?_some hd
    exact ⟨List.mem_reverse.mp (List.mem_of_find?_eq_some hd), isText_eq_true.mp hname⟩
  refine ⟨found, fun ⟨hc, hname⟩ => ?_⟩
  cases hlast : lastColumn? columns name with
  | none =>
    have hnone := List.find?_eq_none.mp hlast c (List.mem_reverse.mpr hc)
    exact absurd (isText_eq_true.mpr hname) hnone
  | some d =>
    obtain ⟨hd, hdname⟩ := found hlast
    rw [List.inj_on_of_nodup_map hn hd hc (hdname.trans hname.symm)]

/-! ## The key and the properties -/

/-- Nothing is wrong with a key that is there as an integer. -/
theorem keyFindings_eq_nil (hn : DistinctNames columns) :
    t.keyFindings columns = [] ↔ ∃ c ∈ columns, c.name = .text t.key ∧ c.type = ColumnType.int.name := by
  have hfound : t.keyFindings columns = [] ↔ ∃ c, lastColumn? columns t.key = some c ∧ c.type = ColumnType.int.name := by
    rw [Table.keyFindings]
    cases lastColumn? columns t.key with
    | none => simp
    | some c => by_cases htype : c.type = ColumnType.int.name <;> simp [htype]
  simp only [hfound, lastColumn?_eq_some hn, and_assoc]

/-- A length is the declared one if it is a number of the same value. -/
theorem agrees_iff {spec : TypeSpec} {c : ColumnInfo} :
    Table.agrees spec c = true ↔ c.type = spec.base ∧ ∀ n ∈ spec.precision, Value.HasInt n c.maxLength := by
  rw [Table.agrees, Bool.and_eq_true, beq_iff_eq]
  cases spec.precision <;> simp [Value.sameNumber_int_iff]

/-- Nothing is wrong with a property that is a relation, or a column that is there with its type. -/
theorem propertyFindings_eq_nil (hn : DistinctNames columns) {p : Property} {spec : TypeSpec} (hp : p.spec = .ok spec) :
    t.propertyFindings columns p = [] ↔ (spec.isPrimitive = true →
      ∃ c ∈ columns, c.name = .text p.name ∧ c.type = spec.base ∧ ∀ n ∈ spec.precision, Value.HasInt n c.maxLength) := by
  have hfound : t.propertyFindings columns p = [] ↔
      (spec.isPrimitive = true → ∃ c, lastColumn? columns p.name = some c ∧ Table.agrees spec c = true) := by
    rw [Table.propertyFindings, hp]
    dsimp only
    cases spec.isPrimitive with
    | false => simp
    | true =>
      cases lastColumn? columns p.name with
      | none => simp
      | some c => by_cases hc : Table.agrees spec c = true <;> simp [hc]
  simp only [hfound, lastColumn?_eq_some hn, agrees_iff, and_assoc]

/-! ## The columns that are left over -/

/-- Where names are distinct, the first occurrence of one is the only one. -/
theorem eraseName_eq_filter {names : List Value} (hn : names.Nodup) (name : String) :
    eraseName names name = names.filter (!·.isText name) := by
  induction names with
  | nil => rfl
  | cons v names ih =>
    obtain ⟨hv, hnames⟩ := List.nodup_cons.mp hn
    cases hname : v.isText name with
    | true =>
      rw [eraseName, List.eraseP_cons_of_pos (by exact hname), List.filter_cons_of_neg (by simp [hname])]
      refine (List.filter_eq_self.mpr fun w hw => ?_).symm
      rw [Bool.not_eq_true', Bool.eq_false_iff]
      intro hw'
      obtain rfl : w = v := (isText_eq_true.mp hw').trans (isText_eq_true.mp hname).symm
      exact hv hw
    | false =>
      rw [eraseName, List.eraseP_cons_of_neg (by simp [hname]), List.filter_cons_of_pos (by simp [hname])]
      exact congrArg _ (ih hnames)

/-- Crossing off the names of some properties leaves those that are none of them. -/
theorem foldl_eraseName_eq_filter {names : List Value} (hn : names.Nodup) (properties : List Property) :
    properties.foldl (fun names p => eraseName names p.name) names = names.filter fun v => properties.all (!v.isText ·.name) := by
  induction properties generalizing names with
  | nil => simp
  | cons p properties ih =>
    rw [List.foldl_cons, eraseName_eq_filter hn, ih (hn.filter _), List.filter_filter]
    simp only [List.all_cons, Bool.and_comm]

/-- No column is left over if each is the key or has the name of a property. -/
theorem surplus_eq_nil (hn : DistinctNames columns) (hr : ∀ p ∈ t.properties, ∃ spec, p.spec = .ok spec) :
    t.surplus columns = [] ↔ ∀ c ∈ columns, c.name = .text t.key ∨ ∃ p ∈ t.properties, c.name = .text p.name := by
  have hall : t.properties.filter (·.spec.isOk) = t.properties := by
    refine List.filter_eq_self.mpr fun p hp => ?_
    obtain ⟨spec, hspec⟩ := hr p hp
    rw [hspec]
    rfl
  have hleft : t.surplus columns =
      (columns.map (·.name)).filter fun v => t.properties.all (!v.isText ·.name) && !v.isText t.key := by
    rw [Table.surplus, hall, eraseName_eq_filter hn, foldl_eraseName_eq_filter (hn.filter _), List.filter_filter]
  rw [hleft, List.filter_eq_nil_iff, List.forall_mem_map]
  refine forall₂_congr fun c _ => ?_
  rw [Bool.and_eq_true, not_and_or, List.all_eq_true]
  simp only [Bool.not_eq_true', isText_eq_true, not_forall, exists_prop, or_comm, Bool.eq_false_iff, not_not]

/-- The comparison of a table with its columns finds nothing exactly if they match. -/
theorem findings_eq_nil (hn : DistinctNames columns) (hr : ∀ p ∈ t.properties, ∃ spec, p.spec = .ok spec) :
    t.findings columns = [] ↔ t.Matches columns := by
  by_cases hpresent : columns = []
  · subst hpresent
    exact ⟨nofun, fun h => absurd rfl h.present⟩
  by_cases hkeys : columns.all (·.name.isKey) = true
  · have hparts : t.findings columns = [] ↔ t.keyFindings columns = [] ∧
        (∀ p ∈ t.properties, t.propertyFindings columns p = []) ∧ t.surplus columns = [] := by
      rw [Table.findings, if_neg (by simpa using hpresent), if_neg (by simp [hkeys])]
      dsimp only
      rw [List.append_eq_nil_iff, List.append_eq_nil_iff, List.flatMap_eq_nil_iff, and_assoc]
      cases t.surplus columns <;> simp
    have hproperties : (∀ p ∈ t.properties, t.propertyFindings columns p = []) ↔ ∀ p ∈ t.properties, ∀ spec,
        p.spec = .ok spec → spec.isPrimitive = true → ∃ c ∈ columns, c.name = .text p.name ∧ c.type = spec.base ∧
          ∀ n ∈ spec.precision, Value.HasInt n c.maxLength := by
      refine forall₂_congr fun p hp => ?_
      obtain ⟨spec, hspec⟩ := hr p hp
      rw [propertyFindings_eq_nil hn hspec, hspec]
      simp only [Except.ok.injEq, forall_eq']
    rw [hparts, keyFindings_eq_nil hn, hproperties, surplus_eq_nil hn hr]
    exact ⟨fun ⟨hkey, hprops, hleft⟩ => ⟨hpresent, hkey, hprops, hleft⟩, fun h => ⟨h.key, h.properties, h.accounted⟩⟩
  · -- a name that cannot be looked up is no text, hence that of nothing that is declared
    constructor
    · intro h
      rw [Table.findings, if_neg (by simpa using hpresent), if_pos (by simp [hkeys])] at h
      cases h
    · intro h
      refine absurd (List.all_eq_true.mpr fun c hc => ?_) hkeys
      rcases h.accounted c hc with hname | ⟨p, -, hname⟩ <;> rw [hname] <;> rfl

end

/-! ## Reports -/

namespace Report

variable {strict : Bool} {r r' : Report}

/-- Whatever is taken into a report leaves it with an entry. -/
theorem isClean_recordOne {finding : Finding} (h : r.recordOne strict finding = .ok r') : r'.isClean = false := by
  cases finding with
  | warning w =>
    cases h
    simp [isClean]
  | flaw f =>
    rw [recordOne] at h
    split at h <;> cases h
    simp [isClean]
  | failure f => cases h

/-- A report into which findings were taken is clean if it was clean before and there were none. -/
theorem isClean_record {findings : List Finding} (h : r.record strict findings = .ok r') :
    r'.isClean = true ↔ r.isClean = true ∧ findings = [] := by
  induction findings generalizing r with
  | nil =>
    cases pure_eq_ok.mp h
    simp
  | cons finding findings ih =>
    obtain ⟨next, hnext, h⟩ := bind_eq_ok.mp h
    rw [ih h, isClean_recordOne hnext]
    simp

end Report

section

variable {σ : Type} {readColumns : String → Act σ (List ColumnInfo)} {strict : Bool} {tables : List Table}

/-- The tables with the columns that are read for them, each when its turn comes, up to the first that cannot be read. -/
def columnsRead (readColumns : String → Act σ (List ColumnInfo)) : List Table → σ → List (Table × List ColumnInfo)
  | [], _ => []
  | t :: rest, s =>
    match (readColumns t.name).runFrom s with
    | (.ok columns, s') => (t, columns) :: columnsRead readColumns rest s'
    | (.error _, _) => []

/-- Where a comparison goes through, the columns of every table were read, and the report is clean if nothing was found. -/
theorem isClean_of_compareTables {r r' : Report} {s : σ}
    (h : ((compareTables strict readColumns r tables).runFrom s).1 = .ok r') :
    (columnsRead readColumns tables s).map (·.1) = tables ∧
      (r'.isClean = true ↔ r.isClean = true ∧ ∀ read ∈ columnsRead readColumns tables s, read.1.findings read.2 = []) := by
  induction tables generalizing r s with
  | nil =>
    cases h
    simp [columnsRead]
  | cons t tables ih =>
    rw [compareTables, Act.runFrom_bind] at h
    rw [columnsRead]
    cases hread : (readColumns t.name).runFrom s with
    | mk answer s' =>
      rw [hread] at h
      cases answer with
      | error e => cases h
      | ok columns =>
        dsimp only at h ⊢
        rw [Act.runFrom_bind, Act.runFrom_lift] at h
        cases hrecord : r.record strict (t.findings columns) with
        | error e =>
          rw [hrecord] at h
          cases h
        | ok next =>
          rw [hrecord] at h
          obtain ⟨htables, hclean⟩ := ih h
          rw [hclean, Report.isClean_record hrecord, List.map_cons, htables, List.forall_mem_cons, and_assoc]
          exact ⟨rfl, Iff.rfl⟩

/-- A validation that reports, strictly or not, has read the columns of every table. Where no two columns of a table have the same
name, its report is clean exactly if the columns of every table match it. -/
theorem report_clean_iff {s : σ} {r : Report} (h : ((validate strict readColumns tables).runFrom s).1 = .ok r)
    (hn : ∀ read ∈ columnsRead readColumns tables s, DistinctNames read.2) :
    (columnsRead readColumns tables s).map (·.1) = tables ∧
      (r.isClean = true ↔ ∀ read ∈ columnsRead readColumns tables s, read.1.Matches read.2) := by
  obtain ⟨hcompared, hchecked⟩ := passed_of_report h
  obtain ⟨htables, hclean⟩ := isClean_of_compareTables hcompared
  have hempty : Report.empty.isClean = true := rfl
  refine ⟨htables, ?_⟩
  rw [hclean, and_iff_right hempty]
  refine forall₂_congr fun read hread => findings_eq_nil (hn read hread) fun p hp => ?_
  have ht : read.1 ∈ tables := htables ▸ List.mem_map_of_mem hread
  exact spec_of_checkStructure hchecked ht hp

end

/-- The columns of a database for users and their posts, with a given length for the names of users. It has a column by the name of
the relation. -/
def blogColumns (length : Value) (table : String) : Act Unit (List ColumnInfo) :=
  pure <| if table = "User" then
    [⟨.text "posts", "mediumtext", .null⟩, ⟨.text "name", "varchar", length⟩, ⟨.text "userId", "int", .null⟩]
  else [⟨.text "postId", "int", .null⟩, ⟨.text "userId", "int", .null⟩, ⟨.text "title", "varchar", .int 256⟩]

/-- Where the names of users are as long as declared, a strict validation reports nothing, and the tables match; where they are
longer, a lenient one reports this, and they do not. -/
theorem report_clean_iff_blog :
    ((validate true (blogColumns (.int 64)) blog).runFrom ()).1 = .ok .empty ∧
    (∀ read ∈ columnsRead (blogColumns (.int 64)) blog (), DistinctNames read.2 ∧ read.1.Matches read.2) ∧
    ((validate false (blogColumns (.int 65)) blog).runFrom ()).1 =
      .ok ⟨[], [.columnType "User" "name" "varchar(64)" "varchar(65)"]⟩ ∧
    ¬∀ read ∈ columnsRead (blogColumns (.int 65)) blog (), read.1.Matches read.2 := by
  have hdistinct (length : Value) : ∀ read ∈ columnsRead (blogColumns length) blog (), DistinctNames read.2 := by
    intro read hread
    rcases List.mem_pair.mp hread with rfl | rfl <;> simp [DistinctNames, users, posts]
  have hchecked : checkStructure blog = .ok () := (checkStructure_eq_ok blog_distinct).mpr blog_wellFormed
  have hstrict : ((validate true (blogColumns (.int 64)) blog).runFrom ()).1 = .ok .empty := by
    have hc : (compareTables true (blogColumns (.int 64)) .empty blog).runFrom () = (.ok .empty, ()) := rfl
    rw [runFrom_validate hc, hchecked]
    rfl
  have hlenient : ((validate false (blogColumns (.int 65)) blog).runFrom ()).1 =
      .ok ⟨[], [.columnType "User" "name" "varchar(64)" "varchar(65)"]⟩ := by
    have hc : (compareTables false (blogColumns (.int 65)) .empty blog).runFrom () =
        (.ok ⟨[], [.columnType "User" "name" "varchar(64)" "varchar(65)"]⟩, ()) := rfl
    rw [runFrom_validate hc, hchecked]
    rfl
  have hmatches := (report_clean_iff hstrict (hdistinct _)).2.mp rfl
  refine ⟨hstrict, fun read hread => ⟨hdistinct _ read hread, hmatches read hread⟩, hlenient, fun hall => ?_⟩
  have hclean := (report_clean_iff hlenient (hdistinct _)).2.mpr hall
  cases hclean

end RelationMapper
