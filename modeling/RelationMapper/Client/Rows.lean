import RelationMapper.Client
import RelationMapper.Entry

/-!
# Work on rows

Reading, inserting, updating and deleting the rows of a table together with its related rows. Keys are assigned on
insertion: the greatest key so far plus one. Related rows are written after their owner and deleted before it, and a
deletion follows relations of related tables as well.

A deletion goes from table to table through the relations, and does not go through a table twice on one way: a relation
that leads back, or to a table without relations, is cleared by one statement. `clearTable` therefore ends, because each
step goes to one of the tables that have not been visited yet.
-/

namespace RelationMapper

/-- The number after a value: the value counts as zero if there is nothing to it. -/
def Value.successor (v : Value) : Except Fault Value :=
  if !v.isTruthy then .ok (.int 1)
  else match v with
    | .bool b => .ok (.int (b.toNat + 1))
    | .int n => .ok (.int (n + 1))
    | .real x => .ok (.real (x.add (.ofInt 1)))
    | _ => .error .wrongType

/-- A key in writing. -/
def Value.keyText : Value → Except Fault String
  | .int n => writeInt n
  | v => .ok v.spelled

namespace Result

/-- The first record, if there is one. A count other than zero has no records to look at. -/
def first? : Result → Except Fault (Option Fields)
  | .records _ rows => .ok rows.head?
  | .count n => if n = 0 then .ok none else .error .wrongType

/-- The records one by one; a count has none. -/
def each : Result → Except Fault (List Fields)
  | .records _ rows => .ok rows
  | .count _ => .error .wrongType

end Result

/-- The text that a caller puts at the end of a selection, alone or as an option. -/
def selectionEnding : Value → Except Fault (Option String)
  | .null => .ok none
  | .text s => .ok (some s)
  | .map options =>
    let ending := (Keyed.find? options (.text "suffix")).getD .null
    .ok (if ending.isTruthy then some ending.spelled else none)
  | _ => .error .noSuchPart

namespace Client

open Setting

/-- Creates a table in the database unless it exists. The registry need not be valid. -/
def createTable (o : Options) (t : Table) : Work Unit := do
  let columns ← Act.lift (t.columnDeclarations.mapError .declaration)
  discard (adminQuery o (.createTable t.name columns) false)

/-- The key for a new row. -/
def nextKey (o : Options) (t : Table) : Work Value := do
  let result ← ask o (.nextKey t.name t.key)
  Act.lift do
    let current ← match ← result.first? with
      | some row => cell row "id_max"
      | none => pure .null
    current.successor

/-- Selects the rows that pass a filter, with their related rows. -/
def selectRows [MomentReader] (o : Options) (t : Table) (filter ending : Value) : Work (List Fields) := do
  ensureValid o
  match ← Act.lift (t.renderFilter o.dialect.quote filter) with
  | none => return []
  | some conditions =>
    let plan ← planFor t.name
    let ending ← Act.lift (selectionEnding ending)
    let result ← ask o (.select plan conditions ending)
    Act.lift (do plan.reconstruct (← result.each))

/-- The greatest value of a column among the rows that pass a filter; null if there are none. -/
def selectMax [MomentReader] (o : Options) (t : Table) (column : String) (filter : Value) : Work Value := do
  ensureValid o
  match (← Act.lift (t.spec column)).columnType? with
  | none => throw (.misuse (.maxOfRelation column t.name))
  | some type =>
    match ← Act.lift (t.renderFilter o.dialect.quote filter) with
    | none => return .null
    | some conditions =>
      let result ← ask o (.selectMax t.name column conditions)
      Act.lift do
        match ← result.first? with
        | none => return .null
        | some row => (← cell row column).decode type

/-- The columns of a row that is to be inserted and their literals. Relations are looked up and passed over. -/
def renderRow (quote : String) (tables : List Table) (t : Table) (entry : Keyed Value) :
    Except Fault (List (String × String)) :=
  entry.filterMapM fun (key, value) => do
    let (name, spec) ← t.named key
    match spec.columnType? with
    | some column => return some (name, ← value.literal quote (some column))
    | none =>
      let _ ← t.related tables spec
      return none

/-- Passes over what stands in place of a list of entries; it must be empty. -/
def insertNothing (value : Value) : Except Fault Unit :=
  if value.isIterable && !value.isTruthy then .ok () else .error .wrongType

/-- Passes over the field under which an entry holds its owner's key. It has to be a column: a key is no list of
entries. -/
def passOwnerKey (t : Table) (name : String) : Work Unit := do
  let spec ← Act.lift (t.spec name)
  if !spec.isPrimitive then throw .wrongType

mutual

/-- Inserts an entry and the entries below it, and returns its key. An entry below another one has the owner's key set,
whatever it says itself. -/
def insertEntry (o : Options) (t : Table) (owner : Option (String × Value)) : Value → Work Value
  | .map fields => do
    let key ← nextKey o t
    let all := match owner with
      | some (name, value) => Keyed.set fields (.text name) value
      | none => fields
    let keyText ← Act.lift key.keyText
    let row ← Act.lift (renderRow o.dialect.quote (← tables) t all)
    discard (ask o (.insert t.name (t.key :: row.map (·.1)) (keyText :: row.map (·.2))))
    insertRelations o t key (owner.map (·.1)) fields
    return key
  | _ => throw .wrongType

/-- Inserts the related entries among the fields of an entry. The owner's key is where the entry names it, otherwise at
the end. -/
def insertRelations (o : Options) (t : Table) (key : Value) (owner : Option String) :
    List (Value × Value) → Work Unit
  | [] => owner.forM (passOwnerKey t)
  | (name, value) :: rest => do
    if owner.any name.isText then
      owner.forM (passOwnerKey t)
      insertRelations o t key none rest
    else
      insertRelation o t key name value
      insertRelations o t key owner rest

/-- Inserts the entries of a relation; the value of a column was inserted with the row. -/
def insertRelation (o : Options) (t : Table) (key name value : Value) : Work Unit := do
  let (_, spec) ← Act.lift (t.named name)
  if spec.isPrimitive then return ()
  let related ← Act.lift (t.related (← tables) spec)
  match value with
  | .list items | .tuple items | .set items => insertEntries o related (t.key, key) items
  | other => Act.lift (insertNothing other)

/-- Inserts the entries of a relation one after the other. -/
def insertEntries (o : Options) (related : Table) (owner : String × Value) : List Value → Work Unit
  | [] => return ()
  | entry :: rest => do
    discard (insertEntry o related (some owner) entry)
    insertEntries o related owner rest

end

/-- Inserts an entry with all entries below it, after the whole of it was checked, and returns its key. -/
def insertRow (o : Options) (t : Table) (entry : Value) : Work Value := do
  match entry with
  | .null => throw (.misuse (.noEntry .insert))
  | entry =>
    ensureValid o
    Act.lift (t.checkEntry (← tables) none entry)
    insertEntry o t none entry

/-- The keys of the rows of a table that meet conditions. -/
def matchingKeys (o : Options) (t : Table) (conditions : List Condition) : Work (List Value) := do
  let result ← ask o (.selectKeys t.name t.key conditions)
  Act.lift (do (← result.each).mapM (cell · t.key))

/-- Whether a table has relations. -/
def hasRelations (t : Table) : Work Bool := return !(← planFor t.name).relations.isEmpty

/-- The filter for the related rows of owners with the given keys. -/
def ownedBy (t : Table) (keys : List Value) : Value := .record [(t.key, .list keys)]

mutual

/-- Deletes the rows of a table that meet conditions, after their related rows. -/
def clearTable (o : Options) (t : Table) (conditions : List Condition) (unvisited : List String) : Work Result := do
  let plan ← planFor t.name
  clearRelations o t conditions unvisited none plan.relations
  ask o (.delete t.name conditions)
termination_by (unvisited.length, 1, 0)

/-- Deletes the related rows of the rows that meet conditions, relation by relation. The keys of these rows are read once,
when they are first needed. -/
def clearRelations (o : Options) (t : Table) (conditions : List Condition) (unvisited : List String)
    (keys : Option (List Value)) : List RelationPlan → Work Unit
  | [] => return ()
  | r :: rest => do
    match (← getRegistry).find? r.table with
    | none => throw .noSuchPart
    | some related =>
      let nested ← if related.name ∈ unvisited then hasRelations related else pure false
      if _h : nested ∧ related.name ∈ unvisited then
        let keys ← match keys with
          | some keys => pure keys
          | none => matchingKeys o t conditions
        match ← Act.lift (related.renderFilter o.dialect.quote (ownedBy t keys)) with
        | none => pure ()
        | some owned => discard (clearTable o related owned (unvisited.filter (· ≠ related.name)))
        clearRelations o t conditions unvisited (some keys) rest
      else
        discard (ask o (.cascade o.dialect r.table t.name t.key conditions))
        clearRelations o t conditions unvisited keys rest
termination_by relations => (unvisited.length, 0, relations.length)
decreasing_by
  · exact Prod.Lex.right _ (Prod.Lex.right _ (by simp))
  · exact Prod.Lex.left _ _ (List.length_filter_lt_length_iff_exists.mpr ⟨related.name, _h.2, by simp⟩)
  · exact Prod.Lex.right _ (Prod.Lex.right _ (by simp))

end

/-- Deletes the rows that pass a filter with their related rows, and returns what the database answers to the last
statement. A filter that no row can pass deletes nothing. -/
def deleteRows (o : Options) (t : Table) (filter : Value) : Work Result := do
  match filter with
  | .null => throw (.misuse (.noFilter .delete))
  | filter =>
    if !filter.isTruthy then throw (.misuse .emptyFilter)
    ensureValid o
    match ← Act.lift (t.renderFilter o.dialect.quote filter) with
    | none => return .count 0
    | some conditions =>
      let others := ((← tables).map (·.name)).filter (· ≠ t.name)
      clearTable o t conditions others

/-- The relations among the fields of an entry, and the entries for them. -/
def relationsOf (tables : List Table) (t : Table) (entry : Keyed Value) : Except Fault (List (Table × Value)) :=
  entry.filterMapM fun (key, value) => do
    let (_, spec) ← t.named key
    if spec.isPrimitive then return none
    return some (← t.related tables spec, value)

/-- Replaces the related rows of an owner: those of each relation are deleted and the given ones inserted. -/
def replaceRelations (o : Options) (t : Table) (relations : List (Table × Value)) (key : Value) : Work Unit :=
  relations.forM fun (related, entries) => do
    discard (deleteRows o related (.record [(t.key, key)]))
    match entries.items? with
    | some items => insertEntries o related (t.key, key) items
    | none => Act.lift (insertNothing entries)

/-- Updates the rows that pass a filter: columns are assigned and related rows replaced. The owners of related rows are
found before columns change, because the filter may be about these. -/
def updateFields (o : Options) (t : Table) (conditions : List Condition) (entry : Keyed Value) : Work Unit := do
  let assignments ← Act.lift (t.renderAssignments o.dialect.quote entry)
  let relations ← Act.lift (relationsOf (← tables) t entry)
  let keys ← if relations.isEmpty then pure [] else matchingKeys o t conditions
  if !assignments.isEmpty then discard (ask o (.update t.name assignments conditions))
  keys.forM (replaceRelations o t relations)

/-- Updates the rows that pass a filter. An empty entry and a filter that no row can pass change nothing. -/
def updateRows (o : Options) (t : Table) (filter entry : Value) : Work Unit := do
  match filter, entry with
  | .null, _ => throw (.misuse (.noFilter .update))
  | _, .null => throw (.misuse (.noEntry .update))
  | filter, entry =>
    if !filter.isTruthy then throw (.misuse .emptyFilter)
    if !entry.isTruthy then return ()
    ensureValid o
    let conditions ← Act.lift (t.renderFilter o.dialect.quote filter)
    Act.lift (t.checkEntry (← tables) none entry)
    match conditions, entry with
    | some conditions, .map fields => updateFields o t conditions fields
    | _, _ => return ()

end Client

end RelationMapper
