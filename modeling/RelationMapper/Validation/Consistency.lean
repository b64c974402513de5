import RelationMapper.Validation.Report

/-!
# Consistency with the database

`Table.findings` compares a declared table with its columns in the database and lists everything there is to say, in
order. `Report.record` takes findings into a report; a strict validation ends at the first flaw instead.

The key has to be there as an integer, and every declared column with its type and, where one is declared, its
precision. Columns that no key or property accounts for are surplus. A relation has no column but accounts for one of
its name; a property whose type cannot be read accounts for none.
-/

namespace RelationMapper

/-- Something that the comparison of a table with the database has to say. -/
inductive Finding where
  | warning (w : Warning)
  | flaw (f : SchemaFlaw)
  /-- The comparison cannot go on. -/
  | failure (f : Fault)

/-- What there is to say of a column whose type in the database is not the declared one. Its type is named, unless it cannot be
written. -/
def Finding.otherType (c : ColumnInfo) (flaw : String → SchemaFlaw) : Finding :=
  match c.checkTypeText with
  | .ok _ => .flaw (flaw c.typeText)
  | .error f => .failure f

namespace Report

/-- Takes a finding into a report. -/
def recordOne (strict : Bool) (r : Report) : Finding → Except Fault Report
  | .warning w => .ok { r with warnings := r.warnings ++ [w] }
  | .flaw f => if strict then .error (.schema f) else .ok { r with flaws := r.flaws ++ [f] }
  | .failure f => .error f

/-- Takes findings into a report. -/
def record (strict : Bool) (r : Report) (findings : List Finding) : Except Fault Report :=
  findings.foldlM (recordOne strict) r

end Report

/-- The last column of a name: of several columns of one name it is the one that counts. -/
def lastColumn? (columns : List ColumnInfo) (name : String) : Option ColumnInfo :=
  columns.reverse.find? (·.name.isText name)

/-- Names without the first occurrence of one of them. -/
def eraseName (names : List Value) (name : String) : List Value := names.eraseP (·.isText name)

namespace Table

/-- What is wrong with the key in the database. -/
def keyFindings (t : Table) (columns : List ColumnInfo) : List Finding :=
  match lastColumn? columns t.key with
  | none => [.flaw (.missingKey t.name t.key)]
  | some c => if c.type = ColumnType.int.name then [] else [.otherType c (.keyType t.name t.key)]

/-- Whether a column in the database has a declared type. -/
def agrees (spec : TypeSpec) (c : ColumnInfo) : Bool :=
  c.type == spec.base && spec.precision.all fun n => c.maxLength.sameNumber (.int n)

/-- What is wrong with a property in the database. Types that are not declarations are reported elsewhere. -/
def propertyFindings (t : Table) (columns : List ColumnInfo) (p : Property) : List Finding :=
  match p.spec with
  | .error (.precisionTooLong digits) => [.failure (.declaration (.precisionTooLong digits))]
  | .error _ => []
  | .ok spec =>
    if !spec.isPrimitive then []
    else match lastColumn? columns p.name with
      | none => [.flaw (.missingColumn t.name p.name)]
      | some c => if agrees spec c then [] else [.otherType c (.columnType t.name p.name p.declared)]

/-- The names of the columns in the database that nothing accounts for. -/
def surplus (t : Table) (columns : List ColumnInfo) : List Value :=
  (t.properties.filter (·.spec.isOk)).foldl (fun names p => eraseName names p.name)
    (eraseName (columns.map (·.name)) t.key)

/-- Everything to say about a table and its columns in the database. -/
def findings (t : Table) (columns : List ColumnInfo) : List Finding :=
  if columns.isEmpty then [.warning (.missingTable t.name)]
  else if !columns.all (·.name.isKey) then [.failure .wrongType]
  else
    let unaccounted := t.surplus columns
    t.keyFindings columns ++ t.properties.flatMap (t.propertyFindings columns) ++
      if unaccounted.isEmpty then [] else [.warning (.surplusColumns t.name unaccounted)]

end Table

end RelationMapper
