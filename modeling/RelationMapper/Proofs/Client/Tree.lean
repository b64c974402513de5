import RelationMapper.Proofs.Client.Insertion

/-!
# The tree of an entry

An entry with the entries below it is a tree. `entryNodes` lists its nodes, each before the nodes below it, in the order of the
fields and of the entries of a relation. Nodes are counted from a place on, so that a node can name the place of its owner.

What is still to be inserted is a list of branches whose owners are among the nodes that have been listed. The entries below
a row that was inserted are such branches (`pendingBelow_eq`), and their nodes follow (`entryNodes_map`).
-/

namespace RelationMapper.Client

variable {tables : List Table} {t : Table} {place next : Nat}

/-- The table that a property relates a table to, if it is a relation. -/
def relatedBy? (tables : List Table) (t : Table) (key : Value) : Option Table :=
  match t.named key with
  | .ok (_, spec) => if spec.isPrimitive then none else findTable? tables spec.base
  | .error _ => none

/-- A node of a tree: its table, its fields, and, below another node, the name and the place of the owner's key. -/
structure Node where
  table : Table
  owner : Option (String × Nat)
  fields : Keyed Value

mutual

/-- The nodes of an entry, which is the first of them and has the given place. -/
def entryNodes (tables : List Table) (t : Table) (owner : Option (String × Nat)) (place : Nat) : Value → List Node
  | .map fields => ⟨t, owner, fields⟩ :: fieldNodes tables t place (place + 1) fields
  | _ => []

/-- The nodes below fields of the node at a place. -/
def fieldNodes (tables : List Table) (t : Table) (place next : Nat) : List (Value × Value) → List Node
  | [] => []
  | (key, value) :: rest =>
    let below := relationNodes tables t place next key value
    below ++ fieldNodes tables t place (next + below.length) rest

/-- The nodes below one field; a column has none. -/
def relationNodes (tables : List Table) (t : Table) (place next : Nat) (key : Value) : Value → List Node
  | .list items | .tuple items | .set items =>
    match relatedBy? tables t key with
    | some related => itemNodes tables related (t.key, place) next items
    | none => []
  | _ => []

/-- The nodes of the entries of a relation. -/
def itemNodes (tables : List Table) (t : Table) (owner : String × Nat) (next : Nat) : List Value → List Node
  | [] => []
  | entry :: rest =>
    let nodes := entryNodes tables t (some owner) next entry
    nodes ++ itemNodes tables t owner (next + nodes.length) rest

end

/-! ## Branches -/

/-- An entry for a table, and its owner among the nodes listed before. -/
structure Branch where
  table : Table
  owner : Option (String × Nat)
  entry : Value

/-- A branch as it is to be inserted, once the nodes that have been listed have their keys. -/
def Branch.pending (keys : List Int) (b : Branch) : Pending :=
  ⟨b.table, b.owner.map fun (name, place) => (name, .int (keys.getD place 0)), b.entry⟩

end RelationMapper.Client
