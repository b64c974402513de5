import RelationMapper.Value.Keyed

/-!
# Tables

A table is declared by its name, the name of its integer key and its properties, each with a declared type. A property
whose type names a column type is a column; one whose type names a table is a relation. The key is a column that need
not be declared.
-/

namespace RelationMapper

/-- A property of a table: a name and a declared type. -/
structure Property where
  name : String
  declared : String
deriving DecidableEq

namespace Property

/-- What the declared type says. -/
def spec (p : Property) : Except DeclarationError TypeSpec := TypeSpec.parse p.declared

/-- The property that a record describes. -/
def ofRecord (record : List (String × String)) : Except Fault Property :=
  match record.lookup "name", record.lookup "type" with
  | some name, some declared => .ok ⟨name, declared⟩
  | none, _ => .error (.missingName "name")
  | some _, none => .error (.missingName "type")

/-- The property that a row of two texts describes. -/
def ofTexts : List String → Except Fault Property
  | [name, declared] => .ok ⟨name, declared⟩
  | [] => .error (.badValue (.tooFewItems 0))
  | [_] => .error (.badValue (.tooFewItems 1))
  | _ => .error (.badValue .tooManyItems)

end Property

/-- A declared table. The number tells apart tables that are declared alike. -/
structure Table where
  name : String
  key : String
  properties : List Property
  number : Nat
deriving DecidableEq

namespace Table

/-- Declares a table. Two properties of one name are refused, as is a property that is none; of both faults the earlier
one counts. -/
def declare (name key : String) (number : Nat) (properties : List (Except Fault Property)) : Except Fault Table := do
  let properties ← properties.foldlM (fun (declared : List Property) form => do
    let p ← form
    if declared.any (·.name == p.name) then throw (.schema (.duplicateProperty name p.name))
    return declared ++ [p]) []
  return ⟨name, key, properties, number⟩

/-- The property of a name. -/
def property? (t : Table) (name : String) : Option Property := t.properties.find? (·.name == name)

/-- Whether a name is a declared property. -/
def declares (t : Table) (name : String) : Bool := (t.property? name).isSome

/-- The declared type of a property. The key is an integer unless a property of its name says otherwise. -/
def declaredType (t : Table) (name : String) : Except Misuse String :=
  match t.property? name with
  | some p => .ok p.declared
  | none => if name = t.key then .ok ColumnType.int.name else .error (.unknownProperty name t.name)

/-- The type of a property. -/
def spec (t : Table) (name : String) : Except Fault TypeSpec := do
  (TypeSpec.parse (← (t.declaredType name).mapError .misuse)).mapError .declaration

/-- The property that a key of a map names, and its type. Only a text can name one; any other key is refused by its text, if
it can be written. -/
def named (t : Table) : Value → Except Fault (String × TypeSpec)
  | .text name => do return (name, ← t.spec name)
  | key => do
    key.checkWritable
    throw (.misuse (.unknownProperty key.spelled t.name))

/-- The columns of a table and their types as declared: first the key, then the properties that are no relations. -/
def columnDeclarations (t : Table) : Except DeclarationError (List (String × String)) := do
  let columns ← t.properties.filterMapM fun p => do
    return if (← p.spec).isPrimitive then some (p.name, p.declared) else none
  return (t.key, ColumnType.int.name) :: columns

end Table

/-- The first table of a name. -/
def findTable? (tables : List Table) (name : String) : Option Table := tables.find? (·.name == name)

end RelationMapper
