import RelationMapper.Proofs.Client.ChildRows
import RelationMapper.Proofs.Client.Tree

/-!
# Nodes that were inserted

A node that was inserted has the key after the greatest one that was told, the columns among its fields, and the key of its owner
in place of what it says itself (`InsertedNode.Right`). Whatever is inserted to the end for an entry are the nodes of its tree, in
the order of the tree and each as it should be (`nodes_of_insertions`).
-/

namespace RelationMapper

open Number

/-! ## Greatest keys -/

/-- A reply tells the greatest key of a table, or that there is none: it has one row, with an integer or null, or no row. -/
def Reply.TellsGreatest (reply : Reply) (greatest : Option Int) : Prop :=
  ∃ columns rows, reply.result = .ok (.records columns rows) ∧
    ((rows = [] ∧ greatest = none) ∨ ∃ row, rows = [row] ∧ row.get? "id_max" = some (greatest.elim .null .int))

namespace Reply.TellsGreatest

variable {tables : List Table} {reply : Reply} {greatest : Option Int}

/-- The next key is the greatest one plus one; where there is none, this counts as zero. -/
theorem keyAfter (h : reply.TellsGreatest greatest) :
    reply.result >>= Result.keyAfter = .ok (.int (greatest.getD 0 + 1)) := by
  obtain ⟨columns, rows, hresult, hrows⟩ := h
  rw [hresult, ok_bind]
  rcases hrows with ⟨rfl, rfl⟩ | ⟨row, rfl, hcell⟩
  · rfl
  · have hfirst : (Result.records columns [row]).keyAfter = (cell row "id_max" >>= Value.successor) := rfl
    rw [hfirst, Client.cell_eq_ok.mpr hcell, ok_bind]
    cases greatest with
    | none => rfl
    | some n =>
      by_cases hn : n = 0
      · subst hn
        rfl
      · simp [Value.successor, Value.isTruthy, hn]

/-- Such a reply is admissible. -/
theorem admits [MomentReader] (h : reply.TellsGreatest greatest) {result : Result} (hr : reply.result = .ok result)
    (table key : String) : (Statement.nextKey table key).Admits tables result := by
  obtain ⟨columns, rows, hresult, hrows⟩ := h
  cases hr.symm.trans hresult
  rcases hrows with ⟨rfl, -⟩ | ⟨row, rfl, hcell⟩
  · exact List.forall_mem_nil _
  · refine List.forall_mem_singleton.mpr fun v hv => ?_
    cases hv.symm.trans hcell
    cases greatest with
    | none => exact .inl rfl
    | some n => exact .inr ⟨n, rfl⟩

/-- It suits if the next key can be written. -/
theorem suits (h : reply.TellsGreatest greatest) (hshort : isTooLong (greatest.getD 0 + 1) = false) {result : Result}
    (hr : reply.result = .ok result) (table key : String) : (Statement.nextKey table key).Suits result := by
  have hkey := h.keyAfter
  rw [hr, ok_bind] at hkey
  exact ⟨_, hkey, hshort⟩

end Reply.TellsGreatest

namespace Client

variable {r : Registry JoinPlan} {t : Table} {quote : String}

/-! ## Nodes that were inserted -/

/-- A node that was inserted: its key, the cells of its row, and the replies to the two statements for it. -/
structure InsertedNode where
  node : Node
  key : Int
  cells : List (String × String)
  asked : Reply
  inserted : Reply

namespace InsertedNode

/-- A node was inserted as it should be, after some others. Its key is the one after the greatest. No column is repeated; they are
the key, the columns among the fields, and the key of the owner. This holds the key that was given to the owner, one of the nodes
before, and every other column the literal of its field. -/
structure Right (quote : String) (before : List InsertedNode) (w : InsertedNode) : Prop where
  key : ∃ greatest, w.asked.TellsGreatest greatest ∧ w.key = greatest.getD 0 + 1
  columns : (w.node.table.key :: w.cells.map (·.1)).Nodup
  listed : ∀ column, column ∈ w.cells.map (·.1) ↔ w.node.owner.map (·.1) = some column ∨
    ∃ value type, (.text column, value) ∈ w.node.fields ∧ w.node.table.HasColumn column type
  literals : ∀ column, w.node.owner.map (·.1) ≠ some column → ∀ literal, (column, literal) ∈ w.cells ↔
    ∃ value type, (.text column, value) ∈ w.node.fields ∧ w.node.table.HasColumn column type ∧
      value.literal quote (some type) = .ok literal
  owner : ∀ name place, w.node.owner = some (name, place) → ∃ parent, before[place]? = some parent ∧
    parent.node.table.key = name ∧ ∀ literal, (name, literal) ∈ w.cells ↔ literal = intText parent.key

/-- Nodes were inserted one after the other, after some others, each as it should be. -/
def RightInTurn (quote : String) (before : List InsertedNode) : List InsertedNode → Prop
  | [] => True
  | w :: rest => w.Right quote before ∧ RightInTurn quote (before ++ [w]) rest

/-- Of nodes that are right in turn each is right after those before it. -/
theorem RightInTurn.right {done before after : List InsertedNode} {w : InsertedNode}
    (h : RightInTurn quote done (before ++ w :: after)) : w.Right quote (done ++ before) := by
  induction before generalizing done with
  | nil =>
    rw [List.append_nil]
    exact h.1
  | cons v before ih =>
    rw [← List.singleton_append, ← List.append_assoc]
    exact ih h.2

end InsertedNode

/-- What a row is made of: the fields of the entry, but for the key of the owner, which is set. -/
theorem mem_rowFields {owner : Option (String × Value)} {fields : Keyed Value}
    (hk : fields.Pairwise fun a b => a.1.sameKey b.1 = false) {column : String} {value : Value} :
    (.text column, value) ∈ rowFields owner fields ↔
      owner = some (column, value) ∨ (owner.map (·.1) ≠ some column ∧ (.text column, value) ∈ fields) := by
  cases owner with
  | none => simp [rowFields]
  | some owner =>
    obtain ⟨name, v⟩ := owner
    have hother : (Value.text column).isText name = false ↔ name ≠ column := by
      rw [← Bool.not_eq_true, isText_eq_true, Value.text.injEq, eq_comm]
    rw [rowFields, mem_set_text_iff hk, hother, and_comm (b := name ≠ column), eq_comm (a := (Value.text column, value))]
    simp

theorem pairwise_rowFields {fields : Keyed Value} (hk : fields.Pairwise fun a b => a.1.sameKey b.1 = false)
    (owner : Option (String × Value)) : (rowFields owner fields).Pairwise fun a b => a.1.sameKey b.1 = false := by
  cases owner with
  | none => exact hk
  | some owner => exact pairwise_set_text hk owner.1 owner.2

/-- The owner of a branch is one of the nodes that were inserted. -/
def Branch.Placed (done : List InsertedNode) (b : Branch) : Prop :=
  ∀ name place, b.owner = some (name, place) → ∃ parent, done[place]? = some parent ∧ parent.node.table.key = name

namespace Branch.Placed

variable {done : List InsertedNode} {b : Branch}

theorem getElem?_append (more : List InsertedNode) {place : Nat} {parent : InsertedNode}
    (hparent : done[place]? = some parent) : (done ++ more)[place]? = some parent :=
  (List.getElem?_append_left (List.getElem?_eq_some_iff.mp hparent).1).trans hparent

/-- More may be inserted. -/
theorem append (h : b.Placed done) (more : List InsertedNode) : b.Placed (done ++ more) := by
  intro name place ho
  obtain ⟨parent, hparent, hname⟩ := h name place ho
  exact ⟨parent, getElem?_append more hparent, hname⟩

end Branch.Placed

section

variable {tables tables' : List Table} {owner : Option (String × Value)} {fields : Keyed Value} {row : List (String × String)}

/-- A cell of a row is under the key of its table only if that is the key of the owner as well. -/
theorem key_mem_row_iff (hd : t.Distinct) (hk : fields.Pairwise fun a b => a.1.sameKey b.1 = false)
    (hc : Table.checkEntry tables t (owner.map (·.1)) (.map fields) = .ok ())
    (habove : ∀ name, owner.map (·.1) = some name → t.DeclaresInt name)
    (h : renderRow quote tables' t (rowFields owner fields) = .ok row) :
    t.key ∈ row.map (·.1) ↔ owner.map (·.1) = some t.key := by
  rw [mem_names_renderRow h]
  constructor
  · rintro ⟨v, type, hv, -⟩
    by_contra hother
    rcases (mem_rowFields hk).mp hv with ho | ⟨-, hv⟩
    · exact hother (by rw [ho]; rfl)
    · exact key_notMem_of_checkEntry hc hother v hv
  · intro ho
    obtain ⟨⟨name, v⟩, rfl, rfl⟩ := Option.map_eq_some_iff.mp ho
    exact ⟨v, .int, (mem_rowFields hk).mpr (.inl rfl), (habove _ rfl).hasColumn hd⟩

end

end Client

end RelationMapper
