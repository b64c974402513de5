import RelationMapper.Proofs.Plan
import RelationMapper.Proofs.Schema.Agreement
import RelationMapper.Proofs.TypeSpec.Declared

/-!
# A table that was created as declared

What SQLite says about a table that was created from its declaration, and what the comparison of the two finds: nothing
(`findings_created`). SQLite repeats names and types of the columns as they were written; the catalog reads them back
(`ofRow_created`), under names that are distinct, and then they match the table (`matches_created`).
-/

namespace RelationMapper

open TypeSpec

/-- A type that a column may have: it is no array, and only a `varchar` has a precision. -/
structure TypeSpec.OfColumn (spec : TypeSpec) : Prop where
  primitive : spec.isPrimitive = true
  scalar : spec.isArray = false
  precision : spec.precision.isSome = true → spec.base = ColumnType.varchar.name

/-- A supported type names a table, or is that of a column. -/
theorem Supported.ofColumn {tables : List Table} {t : Table} {spec : TypeSpec} (h : Supported tables t spec)
    (hp : spec.isPrimitive = true) : spec.OfColumn := by
  cases h with
  | relation _ hc => simp [isPrimitive, hc] at hp
  | column type hc ha hv =>
    refine ⟨hp, ha, fun hsome => ?_⟩
    have hname : type.name = spec.base := by
      have hfound : ColumnType.all.find? (·.name == spec.base) = some type := hc
      simpa using List.find?_some hfound
    rw [← hname, hv.mp hsome]

/-- A column as the database describes it, if it has a name and a type. -/
def ColumnInfo.declared (name : String) (spec : TypeSpec) : ColumnInfo :=
  ⟨.text name, spec.base, (spec.precision.map fun n => Value.int n).getD .null⟩

/-- The row with which SQLite describes a column that was created under a name and with the text of a type. -/
def createdRow (column : String × String) : List Value := [.text column.1, .text column.2]

/-- The names under which SQLite answers the question for columns. -/
def catalogColumns : List String := ["name", "type"]

/-- The catalog reads a column back as it was declared. -/
theorem ofRow_created {name text : String} {spec : TypeSpec} (h : parse text = .ok spec) (hc : spec.OfColumn) :
    ColumnInfo.ofRow .sqlite (Fields.ofRow catalogColumns (createdRow (name, text))) = .ok (.declared name spec) := by
  have hrow : Fields.ofRow catalogColumns (createdRow (name, text)) = [("name", .text name), ("type", .text text)] := rfl
  have htext : asDeclared (.text text) = .ok text := by
    by_cases he : text = ""
    · simp [asDeclared, Value.isTruthy, he]
    · simp [asDeclared, Value.isTruthy, he]
  have hlength : (if spec.base = ColumnType.varchar.name then spec.precision else none) = spec.precision := by
    cases hp : spec.precision with
    | none => simp
    | some n => rw [if_pos (hc.precision (by simp [hp]))]
  have hname : cell [("name", .text name), ("type", .text text)] "name" = .ok (.text name) := rfl
  have htype : cell [("name", .text name), ("type", .text text)] "type" = .ok (.text text) := rfl
  rw [hrow, ColumnInfo.ofRow, htype, ok_bind, htext, ok_bind, readDeclaredType_of_parse h hc.primitive hc.scalar]
  have hread : (Except.ok (spec.base, spec.precision)).mapError Fault.badValue = .ok (spec.base, spec.precision) := rfl
  rw [hread, ok_bind]
  dsimp only
  rw [hname, ok_bind, hlength]
  cases hp : spec.precision <;> simp [ColumnInfo.declared, hp]

/-! ## Columns of a table -/

/-- The type of a property that is a column. -/
def Property.column? (p : Property) : Option TypeSpec := p.spec.toOption.filter (·.isPrimitive)

/-- A property becomes a column exactly if its declared type is primitive. -/
theorem Property.column?_eq_some {p : Property} {spec : TypeSpec} :
    p.column? = some spec ↔ p.spec = .ok spec ∧ spec.isPrimitive = true := by
  rw [Property.column?, Option.filter_eq_some_iff]
  cases p.spec <;> simp [Except.toOption]

namespace Table

variable {t : Table}

/-- The columns of a table with their types: the key, and the properties that are no relations. -/
def columns (t : Table) : List (Property × TypeSpec) :=
  (⟨t.key, ColumnType.int.name⟩, ⟨ColumnType.int.name, none, false⟩) ::
    t.properties.filterMap fun p => p.column?.map (p, ·)

/-- All properties of a table have types that can be read, and those of columns are of columns. -/
def Readable (t : Table) : Prop := ∀ p ∈ t.properties, ∃ spec, p.spec = .ok spec ∧ (spec.isPrimitive = true → spec.OfColumn)

/-- The key is declared as an integer. -/
theorem spec_key (name : String) : (Property.mk name ColumnType.int.name).spec = .ok ⟨ColumnType.int.name, none, false⟩ := by
  change parse "int" = .ok ⟨"int", none, false⟩
  rfl

/-- Each column has the type that its declaration says. -/
theorem spec_of_mem_columns (h : t.Readable) {column : Property × TypeSpec} (hc : column ∈ t.columns) :
    column.1.spec = .ok column.2 ∧ column.2.OfColumn := by
  rcases List.mem_cons.mp hc with rfl | hc
  · exact ⟨spec_key t.key, rfl, rfl, by simp⟩
  · obtain ⟨p, hp, hcolumn⟩ := List.mem_filterMap.mp hc
    obtain ⟨spec, hs, hof⟩ := h p hp
    obtain ⟨spec', hs', rfl⟩ := Option.map_eq_some_iff.mp hcolumn
    obtain ⟨hspec, hprimitive⟩ := Property.column?_eq_some.mp hs'
    cases hs.symm.trans hspec
    exact ⟨hs, hof hprimitive⟩

/-- The columns with which a table is created. -/
theorem columnDeclarations_eq (h : t.Readable) :
    t.columnDeclarations = .ok (t.columns.map fun column => (column.1.name, column.1.declared)) := by
  refine bind_eq_ok.mpr ⟨_, filterMapM_eq_ok.mpr ⟨fun p => p.column?.map fun _ => (p.name, p.declared), fun p hp => ?_, rfl⟩, ?_⟩
  · obtain ⟨spec, hs, -⟩ := h p hp
    have hcolumn : p.column? = if spec.isPrimitive then some spec else none := by
      rw [Property.column?, hs]
      cases hb : spec.isPrimitive <;> simp [Except.toOption, hb]
    dsimp only
    rw [hs, ok_bind, hcolumn]
    cases spec.isPrimitive <;> rfl
  · rw [pure_eq_ok, columns, List.map_cons, List.map_filterMap]
    simp only [Option.map_map]
    rfl

/-- The names of columns are distinct, unless one has the name of the key. -/
theorem columns_nodup (hd : t.Distinct) (hk : ¬t.Declares t.key) : (t.columns.map (·.1.name)).Nodup := by
  have hnames : (t.key :: t.properties.map (·.name)).Nodup := by
    refine List.nodup_cons.mpr ⟨fun hm => hk ?_, hd⟩
    obtain ⟨p, hp, hname⟩ := List.mem_map.mp hm
    exact ⟨p, hp, hname⟩
  refine hnames.sublist (List.Sublist.cons_cons _ (map_filterMap_sublist fun p _ column hc => ?_))
  obtain ⟨spec, -, rfl⟩ := Option.map_eq_some_iff.mp hc
  rfl

/-- The columns as the database describes them after the table was created. -/
def created (t : Table) : List ColumnInfo := t.columns.map fun column => .declared column.1.name column.2

/-- Read through the catalog, the columns with which a table was created are those of its declaration. -/
theorem mapM_ofRow_created (h : t.Readable) {columns : List (String × String)} (hc : t.columnDeclarations = .ok columns) :
    ((columns.map createdRow).map (Fields.ofRow catalogColumns)).mapM (ColumnInfo.ofRow .sqlite) = .ok t.created := by
  rw [columnDeclarations_eq h] at hc
  cases hc
  rw [List.map_map, List.map_map, List.mapM_map]
  refine mapM_eq_ok_map fun column hmem => ?_
  obtain ⟨hs, hof⟩ := spec_of_mem_columns h hmem
  exact ofRow_created hs hof

/-! ## What the comparison finds -/

/-- The names of the columns that a table is created with are distinct. -/
theorem distinctNames_created (hd : t.Distinct) (hk : ¬t.Declares t.key) : DistinctNames t.created := by
  have hnames : t.created.map (·.name) = (t.columns.map (·.1.name)).map Value.text := by
    rw [created, List.map_map, List.map_map]
    rfl
  rw [DistinctNames, hnames]
  exact (columns_nodup hd hk).map fun _ _ h => Value.text.inj h

/-- The columns that a table is created with match it. -/
theorem matches_created (t : Table) : t.Matches t.created where
  present := List.cons_ne_nil _ _
  key := ⟨_, List.mem_map_of_mem List.mem_cons_self, rfl, rfl⟩
  properties p hp spec hs hprimitive := by
    have hcolumn : (p, spec) ∈ t.columns :=
      List.mem_cons_of_mem _ (List.mem_filterMap.mpr ⟨p, hp, by rw [Property.column?_eq_some.mpr ⟨hs, hprimitive⟩]; rfl⟩)
    refine ⟨_, List.mem_map_of_mem hcolumn, rfl, rfl, fun n hn => ?_⟩
    have hlength : (ColumnInfo.declared p.name spec).maxLength = .int n := by
      rw [ColumnInfo.declared, Option.mem_def.mp hn]
      rfl
    exact .whole (by rw [hlength]; rfl)
  accounted c hc := by
    obtain ⟨column, hcolumn, rfl⟩ := List.mem_map.mp hc
    rcases List.mem_cons.mp hcolumn with rfl | hcolumn
    · exact .inl rfl
    · obtain ⟨p, hp, hcolumn⟩ := List.mem_filterMap.mp hcolumn
      obtain ⟨spec, -, rfl⟩ := Option.map_eq_some_iff.mp hcolumn
      exact .inr ⟨p, hp, rfl⟩

/-- The comparison of a table with the columns that it was created with finds nothing. -/
theorem findings_created (hd : t.Distinct) (hk : ¬t.Declares t.key) (h : t.Readable) : t.findings t.created = [] :=
  (findings_eq_nil (distinctNames_created hd hk) fun p hp => (h p hp).imp fun _ hspec => hspec.1).mpr (matches_created t)

end Table

end RelationMapper
