import RelationMapper.Table

/-!
# The structure of a schema

Four checks on the declared tables alone. Names are plain letters and digits; no two tables share a name or a key; no
two tables declare each other's key; and every property is a column, with a precision exactly if it is a `varchar`, or
an array of records of a declared table that holds the owner's key as an integer. Each check reports the first
violation it meets.
-/

namespace RelationMapper

/-- Whether a name consists of ASCII letters and digits, at least one. -/
def isPlainName (name : String) : Bool := !name.isEmpty && name.toList.all Char.isAlphanum

namespace Table

/-- Refuses names that are not plain. -/
def checkNames (t : Table) : Except SchemaFlaw Unit := do
  if !isPlainName t.name then throw (.tableName t.name)
  if !isPlainName t.key then throw (.keyName t.key)
  t.properties.forM fun p => if isPlainName p.name then .ok () else .error (.propertyName p.name)

/-- Refuses two tables that declare each other's key. -/
def checkCycle (owner dependent : Table) : Except SchemaFlaw Unit :=
  if dependent.declares owner.key && owner.declares dependent.key then
    .error (.cycle owner.name dependent.name)
  else .ok ()

/-- Whether a table declares a property of the given name that is an integer. -/
def declaresInt (t : Table) (name : String) : Except DeclarationError Bool :=
  match t.property? name with
  | none => .ok false
  | some p =>
    match p.spec with
    | .ok spec => .ok (spec.base == ColumnType.int.name && !spec.isArray)
    | .error (.precisionTooLong digits) => .error (.precisionTooLong digits)
    | .error _ => .ok false

/-- What is wrong with a column. -/
def columnFlaw? (spec : TypeSpec) (column : ColumnType) : Option PropertyFlaw :=
  if column = .varchar && spec.precision.isNone then some .noPrecision
  else if column ≠ .varchar && spec.precision.isSome then some .precision
  else if spec.isArray then some .primitiveArray
  else none

/-- What is wrong with a relation. -/
def relationFlaw? (t : Table) (tables : List Table) (spec : TypeSpec) :
    Except DeclarationError (Option PropertyFlaw) := do
  match findTable? tables spec.base with
  | none => return some (.unknownType spec.base)
  | some related =>
    if spec.precision.isSome then return some .precision
    if !spec.isArray then return some .notArray
    if ← related.declaresInt t.key then return none
    return some (.noForeignKey related.name t.key)

/-- What is wrong with the type of a property. -/
def propertyFlaw? (t : Table) (tables : List Table) (p : Property) : Except DeclarationError (Option PropertyFlaw) :=
  match p.spec with
  | .error (.precisionTooLong digits) => .error (.precisionTooLong digits)
  | .error e => .ok (some (.unreadable e))
  | .ok spec =>
    match spec.columnType? with
    | some column => .ok (columnFlaw? spec column)
    | none => t.relationFlaw? tables spec

/-- Refuses a property whose type is not supported. -/
def checkProperty (t : Table) (tables : List Table) (p : Property) : Except Fault Unit := do
  match ← (t.propertyFlaw? tables p).mapError .declaration with
  | some flaw => throw (.schema (.property t.name p.name flaw))
  | none => return ()

end Table

/-- Refuses tables that share a name or a key with an earlier one; the names and keys of the earlier ones are given. -/
def checkDuplicates (names keys : List String) : List Table → Except SchemaFlaw Unit
  | [] => .ok ()
  | t :: rest =>
    if names.contains t.name then .error (.duplicateTable t.name)
    else if keys.contains t.key then .error (.duplicateKey t.key)
    else checkDuplicates (t.name :: names) (t.key :: keys) rest

/-- Refuses two different tables that declare each other's key. Each table is compared with the others in order; the
earlier and later ones are given. -/
def checkCycles (earlier : List Table) : List Table → Except SchemaFlaw Unit
  | [] => .ok ()
  | owner :: later => do
    (earlier ++ later).forM owner.checkCycle
    checkCycles (earlier ++ [owner]) later

/-- All four checks. -/
def checkStructure (tables : List Table) : Except Fault Unit := do
  (tables.forM (·.checkNames)).mapError .schema
  (checkDuplicates [] [] tables).mapError .schema
  (checkCycles [] tables).mapError .schema
  tables.forM fun t => t.properties.forM (t.checkProperty tables)

end RelationMapper
