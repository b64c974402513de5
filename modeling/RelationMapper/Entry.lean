import RelationMapper.Filter

/-!
# Entries

An entry gives values for properties of a row that is to be written: a value for a column, a list of further entries
for a relation. `Table.checkEntry` goes through the whole tree before anything is written. An entry below another one
may name the owner's key; that field is passed over, because the key is set when the entry is written.
-/

namespace RelationMapper

namespace Table

/-- Refuses an array where the type is none and the reverse. -/
def checkShape (t : Table) (name : String) (spec : TypeSpec) (value : Value) : Except Mismatch Unit := do
  if spec.isArray && !value.isSequence then throw (.notArray name t.name)
  if !spec.isArray && value.isSequence then throw (.isArray name t.name)

/-- The table that a type refers to. -/
def related (t : Table) (tables : List Table) (spec : TypeSpec) : Except Fault Table :=
  match findTable? tables spec.base with
  | some related => .ok related
  | none => .error (.schema (.unknownRelated spec.base t.name))

/-- Refuses whatever stands in place of a list of entries: its parts, if it has any, are no entries. -/
def checkNoEntries (related : Table) (value : Value) : Except Fault Unit :=
  if !value.isIterable then .error .wrongType
  else if value.isTruthy then .error (.mismatch (.notMap related.name))
  else .ok ()

mutual

/-- Checks an entry for a table; `owner` is the key of the table above it, if there is one. -/
def checkEntry (tables : List Table) (t : Table) (owner : Option String) : Value → Except Fault Unit
  | .map fields => do
    if owner ≠ some t.key && Keyed.has fields (.text t.key) then throw (.misuse (.keyWritten t.key t.name))
    checkFields tables t owner fields
  | _ => .error (.mismatch (.notMap t.name))

/-- Checks the fields of an entry, except the one of the owner's key. -/
def checkFields (tables : List Table) (t : Table) (owner : Option String) : List (Value × Value) → Except Fault Unit
  | [] => .ok ()
  | (key, value) :: rest => do
    if !owner.any key.isText then checkField tables t key value
    checkFields tables t owner rest

/-- Checks the value of a property. -/
def checkField (tables : List Table) (t : Table) (key value : Value) : Except Fault Unit := do
  let (name, spec) ← t.named key
  (t.checkShape name spec value).mapError .mismatch
  match spec.columnType? with
  | some column => (assertFits name value column).mapError .mismatch
  | none =>
    let related ← t.related tables spec
    match value with
    | .list items | .tuple items | .set items => checkEntries tables related t.key items
    | other => checkNoEntries related other

/-- Checks the entries of a relation. -/
def checkEntries (tables : List Table) (related : Table) (owner : String) : List Value → Except Fault Unit
  | [] => .ok ()
  | entry :: rest => do
    checkEntry tables related (some owner) entry
    checkEntries tables related owner rest

end

end Table

end RelationMapper
