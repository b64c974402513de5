import RelationMapper.Proofs.Client
import RelationMapper.Proofs.Client.Keys
import RelationMapper.Proofs.Client.Row

/-!
# Insertion behaves

An entry that was checked is inserted, with all entries below it, without a refusal (`behaves_insertEntry`). The check looks at
each field but the owner's key, while the insertion writes the owner's key as well; that is an integer column of the related
table because the schema is well-formed.
-/

namespace RelationMapper.Client

open Act

variable {P : Prop} {r : Registry JoinPlan} {t : Table}

/-- The key for a new row is an integer. -/
theorem behaves_nextKey [MomentReader] (hr : r.Validated) (o : Options) (t : Table) :
    Behaves (settled r) P (nextKey o t) fun key => ∃ n, key = .int n :=
  (behaves_ask hr o _).bind fun result => (Behaves.lift fun _ => unrefused_keyAfter result).mono
    fun ⟨_, hadmits⟩ _ hkey => int_of_keyAfter hadmits hkey

/-! ## Rows -/

theorem unrefused_keyText (v : Value) : Unrefused v.keyText := by
  cases v with
  | int n => exact unrefused_writeInt n
  | _ => exact Only.ok _

/-! ## Entries -/

/-- An entry that was checked for a table, below an owner whose key the table holds or at the top. -/
structure Insertable (r : Registry JoinPlan) (t : Table) (owner : Option (String × Value)) (entry : Value) : Prop where
  mem : t ∈ r.tables
  above : ∀ key, owner = some key → t.DeclaresInt key.1 ∧ ∃ n, key.2 = .int n
  checked : Table.checkEntry r.tables t (owner.map (·.1)) entry = .ok ()
  keysDiffer : entry.KeysDiffer

/-- The same for some entries of a relation. -/
structure AllInsertable (r : Registry JoinPlan) (t : Table) (owner : String × Value) (items : List Value) : Prop where
  mem : t ∈ r.tables
  above : t.DeclaresInt owner.1 ∧ ∃ n, owner.2 = .int n
  checked : Table.checkEntries r.tables t owner.1 items = .ok ()
  keysDiffer : AllKeysDiffer items

namespace AllInsertable

variable {owner : String × Value} {entry : Value} {items : List Value}

theorem head (h : AllInsertable r t owner (entry :: items)) : Insertable r t (some owner) entry where
  mem := h.mem
  above key hk := by
    cases hk
    exact h.above
  checked := (checkEntries_cons.mp h.checked).1
  keysDiffer := h.keysDiffer.1

theorem tail (h : AllInsertable r t owner (entry :: items)) : AllInsertable r t owner items where
  mem := h.mem
  above := h.above
  checked := (checkEntries_cons.mp h.checked).2
  keysDiffer := h.keysDiffer.2

theorem of_mem (h : AllInsertable r t owner items) (he : entry ∈ items) : Insertable r t (some owner) entry := by
  induction items with
  | nil => exact absurd he List.not_mem_nil
  | cons first items ih =>
    rcases List.mem_cons.mp he with rfl | he
    · exact h.head
    · exact ih h.tail he

end AllInsertable

/-- Fields of a row that was inserted under a key, among them perhaps the key of its owner. -/
structure FieldsInsertable (r : Registry JoinPlan) (t : Table) (key : Value) (owner : Option String)
    (fields : List (Value × Value)) : Prop where
  mem : t ∈ r.tables
  key : ∃ n, key = .int n
  above : ∀ name, owner = some name → t.DeclaresInt name
  checked : ∀ e ∈ fields, owner.any e.1.isText = false → FieldChecked r.tables t e.1 e.2
  distinct : fields.Pairwise fun a b => a.1.sameKey b.1 = false
  keysDiffer : EntriesKeysDiffer fields

/-- The fields of an entry that passes the check pass it, but for the key of its owner. -/
theorem fieldsChecked (hr : r.Validated) (ht : t ∈ r.tables) {owner : Option String} {fields : List (Value × Value)}
    (h : Table.checkEntry r.tables t owner (.map fields) = .ok ()) :
    ∀ e ∈ fields, owner.any e.1.isText = false → FieldChecked r.tables t e.1 e.2 :=
  fun e he hn => fieldChecked_of_checkField hr.wellFormed (hr.distinct t ht) ht
    (checkFields_eq_ok.mp (checkFields_of_checkEntry h) e he hn)

/-- The fields of an entry that was checked. -/
theorem Insertable.fields (hr : r.Validated) {owner : Option (String × Value)} {fields : List (Value × Value)} {key : Value}
    (h : Insertable r t owner (.map fields)) (hk : ∃ n, key = .int n) :
    FieldsInsertable r t key (owner.map (·.1)) fields where
  mem := h.mem
  key := hk
  above name ho := by
    obtain ⟨above, ha, rfl⟩ := Option.map_eq_some_iff.mp ho
    exact (h.above above ha).1
  checked := fieldsChecked hr h.mem h.checked
  distinct := h.keysDiffer.1
  keysDiffer := h.keysDiffer.2

/-- The owner's key is a field that can be written. -/
theorem fieldChecked_owner (hr : r.Validated) (ht : t ∈ r.tables) {name : String} (h : t.DeclaresInt name) (n : Int) :
    FieldChecked r.tables t (.text name) (.int n) := by
  obtain ⟨spec, hs, hcol, -⟩ := spec_of_declaresInt (hr.distinct t ht) h
  exact .column name spec .int (Table.named_eq_ok.mpr ⟨rfl, hs⟩) hcol rfl (assertFits_int name n)

/-- The fields of a row: those of the entry, with the key of the owner set. -/
def rowFields (owner : Option (String × Value)) (fields : Keyed Value) : Keyed Value :=
  match owner with
  | some (name, value) => Keyed.set fields (.text name) value
  | none => fields

/-- A row with the key of its owner set can be written. -/
theorem Insertable.writable (hr : r.Validated) {owner : Option (String × Value)} {fields : List (Value × Value)}
    (h : Insertable r t owner (.map fields)) : ∀ e ∈ rowFields owner fields, FieldChecked r.tables t e.1 e.2 := by
  have hf := h.fields hr ⟨0, rfl⟩
  cases owner with
  | none => exact fun e he => hf.checked e he rfl
  | some above =>
    intro e he
    obtain ⟨hdeclares, n, hn⟩ := h.above above rfl
    rcases mem_set_text h.keysDiffer.1 he with rfl | ⟨he, hname⟩
    · exact hn ▸ fieldChecked_owner hr h.mem hdeclares n
    · exact hf.checked e he hname

theorem behaves_passOwnerKey [MomentReader] (hr : r.Validated) (o : Option String) :
    Behaves (settled r) (t ∈ r.tables ∧ ∀ name, o = some name → t.DeclaresInt name) (o.forM (passOwnerKey t))
      fun _ => True := by
  cases o with
  | none => exact Behaves.pure fun _ => trivial
  | some name =>
    refine (Behaves.lift ?_).bind fun spec => ?_
    · rintro ⟨ht, hd⟩
      obtain ⟨spec, hs, -⟩ := spec_of_declaresInt (hr.distinct t ht) (hd name rfl)
      rw [hs]
      exact Only.ok spec
    · split
      · exact Behaves.throw fun _ => rfl
      · exact Behaves.pure fun _ => trivial

/-- Once the owner's key was passed over, no other field is under it. -/
theorem FieldsInsertable.passed {key name value : Value} {owner : Option String} {rest : List (Value × Value)}
    (h : FieldsInsertable r t key owner ((name, value) :: rest)) (hn : owner.any name.isText = true) :
    FieldsInsertable r t key none rest where
  mem := h.mem
  key := h.key
  above _ ho := by cases ho
  checked e he _ := by
    refine h.checked e (List.mem_cons_of_mem _ he) (Bool.eq_false_iff.mpr fun he' => ?_)
    cases owner with
    | none => cases hn
    | some owner =>
      have hdiffer : name.sameKey e.1 = false := (List.pairwise_cons.mp h.distinct).1 e he
      rw [isText_eq_true.mp he', sameKey_text] at hdiffer
      exact Bool.false_ne_true (hdiffer.symm.trans hn)
  distinct := (List.pairwise_cons.mp h.distinct).2
  keysDiffer := h.keysDiffer.2

theorem FieldsInsertable.tail {key : Value} {owner : Option String} {field : Value × Value} {rest : List (Value × Value)}
    (h : FieldsInsertable r t key owner (field :: rest)) : FieldsInsertable r t key owner rest where
  mem := h.mem
  key := h.key
  above := h.above
  checked e he := h.checked e (List.mem_cons_of_mem _ he)
  distinct := (List.pairwise_cons.mp h.distinct).2
  keysDiffer := h.keysDiffer.2

/-- A field of a row that was inserted under a key. -/
structure FieldInsertable (r : Registry JoinPlan) (t : Table) (key name value : Value) : Prop where
  mem : t ∈ r.tables
  key : ∃ n, key = .int n
  checked : FieldChecked r.tables t name value
  keysDiffer : value.KeysDiffer

/-- A field that is not under the owner's key is such a field. -/
theorem FieldsInsertable.head {key name value : Value} {owner : Option String} {rest : List (Value × Value)}
    (h : FieldsInsertable r t key owner ((name, value) :: rest)) (hn : owner.any name.isText = false) :
    FieldInsertable r t key name value :=
  ⟨h.mem, h.key, h.checked _ List.mem_cons_self hn, h.keysDiffer.1⟩

/-- The entries of a relation were checked for the table that the relation refers to. -/
theorem FieldInsertable.entries {key name value : Value} (h : FieldInsertable r t key name value) {name' : String}
    {spec : TypeSpec} (hn : t.named name = .ok (name', spec)) (hs : spec.columnType? = none) {related : Table}
    (hr : t.related r.tables spec = .ok related) {items : List Value} (hi : value.items? = some items) :
    AllInsertable r related (t.key, key) items := by
  obtain ⟨related', items', hr', hm, hd, hi', hc⟩ := h.checked.entries hn hs
  cases hr.symm.trans hr'
  cases hi.symm.trans hi'
  exact ⟨hm, ⟨hd, h.key⟩, hc, allKeysDiffer_items h.keysDiffer hi⟩

/-- How a relation is inserted, whatever is done with the entries. -/
theorem behaves_relation [MomentReader] {key name value : Value} {next : Table → Work Unit}
    (hnext : ∀ spec related, Behaves (settled r) (FieldInsertable r t key name value ∧
      (∃ name', t.named name = .ok (name', spec)) ∧ spec.columnType? = none ∧ t.related r.tables spec = .ok related)
      (next related) fun _ => True) :
    Behaves (settled r) (FieldInsertable r t key name value)
      (do
        let (_, spec) ← Act.lift (t.named name)
        if spec.isPrimitive then return ()
        let related ← Act.lift (t.related (← tables) spec)
        next related) fun _ => True := by
  refine (Behaves.lift fun h => ?_).bind fun named => ?_
  · obtain ⟨name', spec, hn⟩ := h.checked.named
    rw [hn]
    exact Only.ok _
  dsimp only
  split
  · exact Behaves.pure fun _ => trivial
  · case isFalse hs =>
    have hs : named.2.columnType? = none := Option.not_isSome_iff_eq_none.mp hs
    refine behaves_tables.bind fun tables => ?_
    refine (Behaves.lift ?_).bind fun related => (hnext named.2 related).weaken ?_
    · rintro ⟨⟨h, hn⟩, rfl⟩
      obtain ⟨related, -, hr, -⟩ := h.checked.entries hn hs
      rw [hr]
      exact Only.ok _
    · rintro ⟨⟨⟨h, hn⟩, rfl⟩, hrel⟩
      exact ⟨h, ⟨named.1, hn⟩, hs, hrel⟩

theorem unrefused_insertNothing (v : Value) : Unrefused (insertNothing v) := by
  unfold insertNothing
  split
  · exact Only.ok _
  · exact Only.error rfl

mutual

/-- Inserting an entry that was checked, with all entries below it, is not refused. -/
theorem behaves_insertEntry [MomentReader] (hr : r.Validated) (o : Options) (t : Table) (owner : Option (String × Value)) :
    ∀ entry : Value, Behaves (settled r) (Insertable r t owner entry) (insertEntry o t owner entry)
      fun key => ∃ n, key = .int n
  | .map fields => by
    unfold insertEntry
    refine (behaves_nextKey hr o t).bind fun key => ?_
    refine (Behaves.lift fun _ => unrefused_keyText key).bind fun keyText => ?_
    refine behaves_tables.bind fun tables => ?_
    refine (Behaves.lift ?_).bind fun row => ?_
    · rintro ⟨⟨⟨h, -⟩, -⟩, rfl⟩
      exact only_renderRow (h.writable hr) fun _ _ n _ => unrefused_writeInt n
    refine (behaves_ask hr o _).discard.bind fun _ => ?_
    refine ((behaves_insertRelations hr o t key (owner.map (·.1)) fields).weaken fun h => ?_).bind fun _ => ?_
    · obtain ⟨⟨⟨⟨⟨h, hkey⟩, -⟩, -⟩, -⟩, -⟩ := h
      exact h.fields hr hkey
    · exact Behaves.pure fun h => h.1.1.1.1.1.2
  | .null | .bool _ | .int _ | .real _ | .text _ | .bytes _ | .buffer _ | .moment _ | .date _ | .now | .list _ | .tuple _
  | .set _ | .object => by
    rw [insertEntry]
    · exact Behaves.throw fun _ => rfl
    · simp

/-- The relations of a row are inserted, and the owner's key is passed over. -/
theorem behaves_insertRelations [MomentReader] (hr : r.Validated) (o : Options) (t : Table) (key : Value) (owner : Option String) :
    ∀ fields : List (Value × Value), Behaves (settled r) (FieldsInsertable r t key owner fields)
      (insertRelations o t key owner fields) fun _ => True
  | [] => by
    rw [insertRelations]
    exact (behaves_passOwnerKey hr owner).weaken fun h => ⟨h.mem, h.above⟩
  | (name, value) :: rest => by
    rw [insertRelations]
    split
    · case isTrue hn =>
      refine ((behaves_passOwnerKey hr owner).weaken fun h => ⟨h.mem, h.above⟩).bind fun _ => ?_
      exact (behaves_insertRelations hr o t key none rest).weaken fun h => h.1.passed hn
    · case isFalse hn =>
      refine ((behaves_insertRelation hr o t key name value).weaken fun h => ?_).bind fun _ => ?_
      · exact h.head (Bool.eq_false_iff.mpr hn)
      · exact (behaves_insertRelations hr o t key owner rest).weaken fun h => h.1.tail

/-- The entries of a relation are inserted. -/
theorem behaves_insertRelation [MomentReader] (hr : r.Validated) (o : Options) (t : Table) (key name : Value) :
    ∀ value : Value, Behaves (settled r) (FieldInsertable r t key name value) (insertRelation o t key name value)
      fun _ => True
  | .list items | .tuple items | .set items => by
    unfold insertRelation
    refine behaves_relation fun spec related => (behaves_insertEntries hr o related (t.key, key) items).weaken ?_
    rintro ⟨h, ⟨name', hn⟩, hs, hrel⟩
    exact h.entries hn hs hrel rfl
  | .null | .bool _ | .int _ | .real _ | .text _ | .bytes _ | .buffer _ | .moment _ | .date _ | .now | .map _ | .object => by
    unfold insertRelation
    exact behaves_relation fun spec related =>
      (Behaves.lift fun _ => unrefused_insertNothing _).mono fun _ _ _ => trivial

/-- Inserting entries behaves, if they can be inserted. -/
theorem behaves_insertEntries [MomentReader] (hr : r.Validated) (o : Options) (t : Table) (owner : String × Value) :
    ∀ items : List Value, Behaves (settled r) (AllInsertable r t owner items) (insertEntries o t owner items) fun _ => True
  | [] => by
    rw [insertEntries]
    exact Behaves.pure fun _ => trivial
  | entry :: rest => by
    rw [insertEntries]
    refine ((behaves_insertEntry hr o t (some owner) entry).weaken fun h => h.head).discard.bind fun _ => ?_
    exact (behaves_insertEntries hr o t owner rest).weaken fun h => h.1.tail

end

end RelationMapper.Client
