import RelationMapper.Proofs.Client.Insert

/-!
# Deletion behaves

A deletion goes through the relations of a table and deletes related rows first, by one statement or through their keys. The
filters for these keys are made in the middle of the run; they are never refused, because the keys that are read are integers
and every related table holds its owner's key as an integer (`unrefused_keyFilter`, `behaves_clearTable`).
-/

namespace RelationMapper.Client

open Act

variable {P : Prop} {r : Registry JoinPlan} {t : Table}

/-! ## Filters on keys -/

/-- An integer, or a list of integers. -/
def IsKeys : Value → Prop
  | .int _ => True
  | .list items => ∀ v ∈ items, ∃ n, v = .int n
  | _ => False

/-- The integers of an integer or of a list. -/
def keysIn : Value → List Value
  | .list items => items
  | v => [v]

/-- A filter on an integer column of a table is made, up to integers that are too long. -/
theorem only_keyFilter {allowed : Fault → Prop} (hd : t.Distinct) {name : String} (h : t.DeclaresInt name) {keys : Value}
    (hk : IsKeys keys) (hint : ∀ v ∈ keysIn keys, ∀ n, v = .int n → Only allowed (writeInt n)) (quote : String) :
    Only allowed (t.renderFilter quote (.record [(name, keys)])) := by
  obtain ⟨spec, hs, hcol, -⟩ := spec_of_declaresInt hd h
  have key : ∀ v ∈ keysIn keys, (∃ n, v = .int n) → Only allowed (checkedLiteral quote name .int v) := by
    rintro v hv ⟨n, rfl⟩
    exact only_checkedLiteral (assertFits_int name n) (hint _ hv) quote
  have htest : Only allowed (t.renderTest quote (.text name) keys) := by
    refine Only.bind_ok (Table.named_eq_ok.mpr ⟨rfl, hs⟩) ?_
    dsimp only
    rw [hcol]
    cases keys with
    | int n => exact (key _ List.mem_cons_self ⟨n, rfl⟩).bind fun _ _ => Only.ok _
    | list items =>
      have hall : Only allowed (items.mapM (checkedLiteral quote name .int)) :=
        Only.mapM fun v hv => key v hv (hk v hv)
      cases items with
      | nil => exact Only.ok _
      | cons v items => exact hall.bind fun _ _ => Only.ok _
    | _ => exact hk.elim
  change Only allowed (t.renderTests quote [(.text name, keys)])
  refine htest.bind fun condition _ => ?_
  cases condition with
  | none => exact Only.ok _
  | some condition => exact Only.ok _

/-- Such a filter is not refused. -/
theorem unrefused_keyFilter (hd : t.Distinct) {name : String} (h : t.DeclaresInt name) {keys : Value} (hk : IsKeys keys)
    (quote : String) : Unrefused (t.renderFilter quote (.record [(name, keys)])) :=
  only_keyFilter hd h hk (fun _ _ n _ => unrefused_writeInt n) quote

/-- The keys of matching rows are integers. -/
theorem behaves_matchingKeys [MomentReader] (hr : r.Validated) (o : Options) (t : Table) (conditions : List Condition) :
    Behaves (settled r) P (matchingKeys o t conditions) fun keys => ∀ k ∈ keys, ∃ n, k = .int n :=
  (behaves_ask hr o _).bind fun result => (Behaves.lift fun _ => unrefused_keys t.key result).mono
    fun ⟨_, hadmits⟩ _ hkeys _ hk => int_of_mem_keys hadmits hkeys hk

theorem behaves_hasRelations [MomentReader] (hr : r.Validated) (t : Table) :
    Behaves (settled r) (t ∈ r.tables) (hasRelations t) fun _ => True :=
  ((behaves_planFor hr t.name).weaken fun ht => ⟨t, ht, rfl⟩).bind fun _ => Behaves.pure fun _ => trivial

/-! ## Going through the relations -/

/-- Relations of a table whose related rows can be deleted, with the keys of their owners as far as they were read. -/
structure Clearable (r : Registry JoinPlan) (t : Table) (keys : Option (List Value)) (relations : List RelationPlan) : Prop where
  mem : t ∈ r.tables
  keys : ∀ read, keys = some read → ∀ k ∈ read, ∃ n, k = .int n
  relations : ∀ relation ∈ relations, ∃ related ∈ r.tables, related.name = relation.table ∧ related.DeclaresInt t.key

/-- The table of the next relation holds the owner's key. -/
theorem Clearable.related (hr : r.Validated) {keys : Option (List Value)} {relation : RelationPlan}
    {rest : List RelationPlan} (h : Clearable r t keys (relation :: rest)) {related : Table}
    (hf : r.find? relation.table = some related) : related ∈ r.tables ∧ related.DeclaresInt t.key := by
  obtain ⟨related', hm, hn, hd⟩ := h.relations relation List.mem_cons_self
  have hfound := (findTable?_eq_some hr.wellFormed.names).mpr ⟨hm, hn⟩
  cases hf.symm.trans hfound
  exact ⟨hm, hd⟩

theorem Clearable.tail {keys keys' : Option (List Value)} {relation : RelationPlan} {rest : List RelationPlan}
    (h : Clearable r t keys (relation :: rest)) (hk : ∀ read, keys' = some read → ∀ k ∈ read, ∃ n, k = .int n) :
    Clearable r t keys' rest :=
  ⟨h.mem, hk, fun relation hrel => h.relations relation (List.mem_cons_of_mem _ hrel)⟩

/-- Looking whether a related table has relations itself. -/
theorem behaves_nested [MomentReader] (hr : r.Validated) {related : Table} {unvisited : List String} {next : Bool → Work Unit}
    (ht : P → related ∈ r.tables) (hnext : ∀ nested, Behaves (settled r) P (next nested) fun _ => True) :
    Behaves (settled r) P
      (do
        let nested ← if related.name ∈ unvisited then hasRelations related else pure false
        next nested) fun _ => True := by
  dsimp only
  split
  · exact ((behaves_hasRelations hr related).weaken ht).bind fun nested => (hnext nested).weaken fun h => h.1
  · exact (Behaves.pure fun _ => trivial : Behaves (settled r) P _ fun _ => True).bind fun nested =>
      (hnext nested).weaken fun h => h.1

/-- Reading the keys of matching rows, unless they were read before. -/
theorem behaves_readKeys [MomentReader] (hr : r.Validated) {o : Options} {conditions : List Condition} {keys : Option (List Value)}
    {next : List Value → Work Unit} (hk : P → ∀ read, keys = some read → ∀ k ∈ read, ∃ n, k = .int n)
    (hnext : ∀ read, Behaves (settled r) (P ∧ ∀ k ∈ read, ∃ n, k = .int n) (next read) fun _ => True) :
    Behaves (settled r) P
      (do
        let keys ← match keys with
          | some keys => pure keys
          | none => matchingKeys o t conditions
        next keys) fun _ => True := by
  cases keys with
  | some read => exact (Behaves.pure fun h => hk h read rfl).bind hnext
  | none => exact (behaves_matchingKeys hr o t conditions).bind hnext

/-- Deleting through keys, where there are any. -/
theorem behaves_clearOwned [MomentReader] {related : Table} (hd : P → related.Distinct) (hdeclares : P → related.DeclaresInt t.key)
    {keys : List Value} (hk : P → ∀ k ∈ keys, ∃ n, k = .int n) {quote : String} {clear : List Condition → Work Result}
    {next : Work Unit} (hclear : ∀ owned, Behaves (settled r) P (clear owned) fun _ => True)
    (hnext : Behaves (settled r) P next fun _ => True) :
    Behaves (settled r) P
      (do
        match ← Act.lift (related.renderFilter quote (ownedBy t keys)) with
        | none => pure ()
        | some owned => discard (clear owned)
        next) fun _ => True := by
  refine (Behaves.lift fun h => ?_).bind fun owned => ?_
  · exact unrefused_keyFilter (hd h) (hdeclares h) (show IsKeys (.list keys) from hk h) quote
  · cases owned with
    | none => exact hnext.weaken fun h => h.1
    | some owned => exact ((hclear owned).weaken fun h => h.1).discard.bind fun _ => hnext.weaken fun h => h.1.1

mutual

/-- Deleting rows with their related rows is not refused. -/
theorem behaves_clearTable [MomentReader] (hr : r.Validated) (o : Options) (t : Table) (conditions : List Condition)
    (unvisited : List String) :
    Behaves (settled r) (t ∈ r.tables) (clearTable o t conditions unvisited) fun _ => True := by
  rw [clearTable]
  refine ((behaves_planFor hr t.name).weaken fun ht => ⟨t, ht, rfl⟩).bind fun plan => ?_
  refine ((behaves_clearRelations hr o t conditions unvisited none plan.relations).weaken ?_).bind fun _ => ?_
  · rintro ⟨ht, hp⟩
    exact ⟨ht, fun _ h => by (cases h), fun _ => relation_declaresInt hr.wellFormed ht (hp t ht rfl)⟩
  · exact (behaves_ask hr o _).mono fun _ _ _ => trivial
termination_by (unvisited.length, 1, 0)

/-- Deleting the related rows, relation by relation, is not refused. -/
theorem behaves_clearRelations [MomentReader] (hr : r.Validated) (o : Options) (t : Table) (conditions : List Condition)
    (unvisited : List String) (keys : Option (List Value)) (relations : List RelationPlan) :
    Behaves (settled r) (Clearable r t keys relations) (clearRelations o t conditions unvisited keys relations)
      fun _ => True := by
  match relations with
  | [] =>
    rw [clearRelations]
    exact Behaves.pure fun _ => trivial
  | relation :: rest =>
    rw [clearRelations]
    refine behaves_getRegistry.bind fun registry => ?_
    cases hf : registry.find? relation.table with
    | none => exact Behaves.throw fun _ => rfl
    | some related =>
      have hrelated : Clearable r t keys (relation :: rest) ∧ registry = r →
          related ∈ r.tables ∧ related.DeclaresInt t.key := by
        rintro ⟨h, rfl⟩
        exact h.related hr hf
      refine behaves_nested hr (fun h => (hrelated h).1) fun nested => ?_
      split
      · case isTrue hdeep =>
        have hfewer : (unvisited.filter (· ≠ related.name)).length < unvisited.length :=
          List.length_filter_lt_length_iff_exists.mpr ⟨related.name, hdeep.2, by simp⟩
        refine behaves_readKeys hr (fun h => h.1.keys) fun read => ?_
        refine behaves_clearOwned (fun h => hr.distinct related (hrelated h.1).1) (fun h => (hrelated h.1).2) (fun h => h.2)
          (fun owned => ?_) ?_
        · exact (behaves_clearTable hr o related owned (unvisited.filter (· ≠ related.name))).weaken
            fun h => (hrelated h.1).1
        · refine (behaves_clearRelations hr o t conditions unvisited (some read) rest).weaken fun h => ?_
          exact h.1.1.tail fun _ hread => Option.some.inj hread ▸ h.2
      · refine (behaves_ask hr o _).discard.bind fun _ => ?_
        exact (behaves_clearRelations hr o t conditions unvisited keys rest).weaken fun h => h.1.1.tail h.1.1.keys
termination_by (unvisited.length, 0, relations.length)
decreasing_by
  all_goals first
    | exact Prod.Lex.left _ _ hfewer
    | exact Prod.Lex.right _ (Prod.Lex.right _ (by simp))

end

end RelationMapper.Client
