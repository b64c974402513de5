import RelationMapper.Proofs.Join
import RelationMapper.Proofs.Plan
import RelationMapper.Proofs.Validation

/-!
# Joining and reading back

`reconstruct_joined` says that reading joined rows back undoes the join: the owners come back in order, each with its own
fields and, for every relation, its related records in order. Each row gives the fields of its owner and one record, or none,
of each relation (`readRow_joinedRow`); all rows of an owner together add the owner (`foldlM_readRow_owner`).
-/

namespace RelationMapper

/-! ## Reading one row -/

section Reading

variable {p : JoinPlan} {o : StoredOwner} {c : Combination}

/-- The values of a joined row under the aliases of their columns. -/
def JoinPlan.aliased (p : JoinPlan) (o : StoredOwner) (c : Combination) : Fields :=
  (p.columns.map fun col => (col.label, o.row col.name)) ++
    c.flatMap fun (r, partner) => r.columns.map fun col => (col.label, cellOf partner col.name)

/-- A joined row has the aliases of all columns, in the order of the plan. -/
theorem aliased_labels (o : StoredOwner) (hc : c.map (·.1) = p.relations) :
    (p.aliased o c).map (·.1) = p.allColumns.map (·.label) := by
  rw [JoinPlan.aliased, JoinPlan.allColumns, ← hc, List.map_append, List.map_append, List.map_map, List.flatMap_map,
    List.map_flatMap, List.map_flatMap]
  simp only [List.map_map]
  rfl

/-- As no two columns share an alias, a joined row is its values under their aliases. -/
theorem joinedRow_eq (hp : p.Readable) (hc : c.map (·.1) = p.relations) : p.joinedRow o c = p.aliased o c := by
  have hv : (p.aliased o c).map (·.2) = (p.columns.map fun col => o.row col.name) ++ c.flatMap fun (r, partner) =>
      r.columns.map fun col => cellOf partner col.name := by
    rw [JoinPlan.aliased, List.map_append, List.map_map, List.map_flatMap]
    simp only [List.map_map]
    rfl
  rw [JoinPlan.joinedRow, ← aliased_labels o hc, ← hv]
  exact Fields.ofRow_eq (aliased_labels o hc ▸ hp.labels)

/-- A column is read as the value under its alias. -/
theorem read_joinedRow [MomentReader] (hp : p.Readable) (hc : c.map (·.1) = p.relations) {col : ColumnPlan} {v : Value}
    (h : (col.label, v) ∈ p.aliased o c) : col.read (p.joinedRow o c) = v.decode col.type := by
  have hn : ((p.aliased o c).map (·.1)).Nodup := aliased_labels o hc ▸ hp.labels
  rw [ColumnPlan.read, joinedRow_eq hp hc, Fields.get?_eq_some hn h, Option.getD_some]

/-- A column of the owner is read as the owner's value. -/
theorem read_own [MomentReader] (hp : p.Readable) (hc : c.map (·.1) = p.relations) {col : ColumnPlan} (hcol : col ∈ p.columns) :
    col.read (p.joinedRow o c) = (o.row col.name).decode col.type :=
  read_joinedRow hp hc (List.mem_append_left _ (List.mem_map.mpr ⟨col, hcol, rfl⟩))

/-- A column of a relation is read as the value in the record, or as null. -/
theorem read_related [MomentReader] (hp : p.Readable) (hc : c.map (·.1) = p.relations) {r : RelationPlan}
    {partner : Option StoredRow} (hr : (r, partner) ∈ c) {col : ColumnPlan} (hcol : col ∈ r.columns) :
    col.read (p.joinedRow o c) = (cellOf partner col.name).decode col.type :=
  read_joinedRow hp hc (List.mem_append_right _ (List.mem_flatMap.mpr ⟨_, hr, List.mem_map.mpr ⟨col, hcol, rfl⟩⟩))

/-- What a column's type accepts is read. -/
theorem decode_eq_decoded [MomentReader] {col : ColumnPlan} {v : Value} (h : ∃ w, v.decode col.type = .ok w) :
    v.decode col.type = .ok (col.decoded v) := by
  obtain ⟨w, hw⟩ := h
  rw [ColumnPlan.decoded, hw]

/-- Fields that can be read are set one after the other. -/
theorem readFields_eq [MomentReader] {columns : List ColumnPlan} {row : Fields} {value : ColumnPlan → Value}
    (h : ∀ col ∈ columns, col.read row = .ok (value col)) (start : Fields) :
    readFields columns row start = .ok (start.setAll (columns.map fun col => (col.name, value col))) := by
  induction columns generalizing start with
  | nil => rfl
  | cons col columns ih =>
    rw [List.forall_mem_cons] at h
    have hstep : readFields (col :: columns) row start = (do
      let fields ← (do return start.set col.name (← col.read row))
      readFields columns row fields) := rfl
    rw [hstep, h.1]
    exact ih h.2 _

/-- The record of a row has the names of the columns. -/
theorem record_names [MomentReader] (row : StoredRow) (columns : List ColumnPlan) :
    (row.record columns).map (·.1) = columns.map (·.name) := by
  rw [StoredRow.record, List.map_map]
  rfl

/-- Reading all columns of a row gives its record, whether nothing has been read yet or the same row before. -/
theorem readFields_record [MomentReader] {columns : List ColumnPlan} (hn : (columns.map (·.name)).Nodup) {fields start : Fields}
    {row : StoredRow} (h : ∀ col ∈ columns, col.read fields = (row col.name).decode col.type)
    (ha : ∀ col ∈ columns, ∃ v, (row col.name).decode col.type = .ok v)
    (hstart : start = [] ∨ start = row.record columns) : readFields columns fields start = .ok (row.record columns) := by
  have hread : ∀ col ∈ columns, col.read fields = .ok (col.decoded (row col.name)) := by
    intro col hcol
    rw [h col hcol, decode_eq_decoded (ha col hcol)]
  rw [← record_names row] at hn
  rw [readFields_eq hread]
  rcases hstart with rfl | rfl
  · exact congrArg Except.ok (@Fields.setAll_eq_append [] (row.record columns) hn)
  · exact congrArg Except.ok (Fields.setAll_self hn fun f hf => hf)

/-- What a row shows of a relation: the record in the combination under its key, or nothing. -/
theorem readRecord_joinedRow [MomentReader] (hp : p.Readable) (hc : c.map (·.1) = p.relations) {r : RelationPlan}
    {partner : Option StoredRow} (hr : (r, partner) ∈ c) {rows : List StoredRow}
    (hs : StoredRows r.keyColumn r.columns rows) (hm : ∀ row, partner = some row → row ∈ rows) :
    r.readRecord (p.joinedRow o c) =
      .ok (partner.map fun row => (row r.keyColumn.name, row.record r.columns)) := by
  have hmem : r ∈ p.relations := hc ▸ List.mem_map.mpr ⟨_, hr, rfl⟩
  have hkey : r.keyColumn.read (p.joinedRow o c) = .ok (cellOf partner r.keyColumn.name) := by
    rw [read_related hp hc hr List.mem_cons_self, hp.relationKeys r hmem, Value.decode_int]
  rw [RelationPlan.readRecord, hkey, ok_bind]
  cases partner with
  | none => rfl
  | some row =>
    have hk := hs.keys row (hm row rfl)
    have hfields : readFields r.columns (p.joinedRow o c) [] = .ok (row.record r.columns) :=
      readFields_record (hp.relationNames r hmem) (fun col hcol => read_related hp hc hr hcol)
        (hs.accepted row (hm row rfl)) (Or.inl rfl)
    dsimp only [cellOf]
    split
    · case h_1 hnull => exact absurd hnull hk.notNull
    · simp [hfields, Value.checkKey_eq_ok.mpr hk.isKey]

/-- The records of all relations that have been seen, in the order of the relations. -/
def JoinPlan.children (p : JoinPlan) (seen : String → Keyed Fields) : Children :=
  p.relations.map fun r => (r.property, seen r.property)

/-- A record that is put is seen under the name of its relation. -/
theorem put_children (seen : String → Keyed Fields) (name : String) (key : Value) (record : Fields) :
    (p.children seen).put name key record =
      p.children fun n => if name = n then (seen n).set key record else seen n := by
  rw [Children.put, JoinPlan.children, JoinPlan.children, List.map_map]
  refine List.map_congr_left fun r _ => ?_
  simp only [Function.comp_apply, eq_comm]

/-- Going through the relations sees what a combination shows of each. -/
theorem foldlM_children [MomentReader] {row : Fields}
    (h : ∀ e ∈ c, e.1.readRecord row = .ok (e.2.map fun r => (r e.1.keyColumn.name, r.record e.1.columns)))
    (seen : String → Keyed Fields) :
    (c.map (·.1)).foldlM (fun (children : Children) r => do
      match ← r.readRecord row with
      | none => return children
      | some (key, record) => return children.put r.property key record) (p.children seen) =
      .ok (p.children fun n => RelationPlan.seeIn n (seen n) c) := by
  induction c generalizing seen with
  | nil => rfl
  | cons e c ih =>
    obtain ⟨r, partner⟩ := e
    rw [List.forall_mem_cons] at h
    rw [List.map_cons, List.foldlM_cons, h.1]
    cases partner with
    | none =>
      have hsame : ∀ n, RelationPlan.seeIn n (seen n) ((r, none) :: c) = RelationPlan.seeIn n (seen n) c := by
        intro n
        rw [RelationPlan.seeIn_cons, RelationPlan.see, ite_self]
      simp only [hsame]
      exact ih h.2 seen
    | some row =>
      refine Eq.trans ?_ (ih h.2 _)
      simp only [Option.map_some, ok_bind]
      rw [put_children]
      rfl

end Reading

/-! ## Reading all rows -/

namespace JoinPlan

variable {p : JoinPlan} {o : StoredOwner}

/-- An owner that has a key, with values that are accepted and related records that differ in their keys. -/
structure Holds [MomentReader] (p : JoinPlan) (o : StoredOwner) : Prop where
  key : (o.row p.keyColumn.name).IsRowKey
  accepted : ∀ col ∈ p.columns, ∃ v, (o.row col.name).decode col.type = .ok v
  related : ∀ r ∈ p.relations, StoredRows r.keyColumn r.columns (o.related r.property)

/-- A row of an owner gives the owner's fields and shows one combination of related records. -/
theorem readRow_joinedRow [MomentReader] (hp : p.Readable) (ho : p.Holds o) {c : Combination} (hc : c ∈ o.combinations p.relations)
    {owners : Keyed Owner} {fields : Fields} {seen : String → Keyed Fields}
    (hown : p.ownerOf owners (o.row p.keyColumn.name) = ⟨fields, p.children seen⟩)
    (hf : fields = [] ∨ fields = o.row.record p.columns) :
    p.readRow owners (p.joinedRow o c) = .ok (owners.set (o.row p.keyColumn.name)
      ⟨o.row.record p.columns, p.children fun n => RelationPlan.seeIn n (seen n) c⟩) := by
  obtain ⟨hm, hpartners⟩ := StoredOwner.of_mem_combinations hc
  have hkey : p.keyColumn.read (p.joinedRow o c) = .ok (o.row p.keyColumn.name) := by
    rw [read_own hp hm List.mem_cons_self, hp.key, Value.decode_int]
  have hfields := readFields_record (List.nodup_append.mp hp.names).1 (fun col hcol => read_own hp hm hcol) ho.accepted hf
  have hrecords : ∀ e ∈ c, e.1.readRecord (p.joinedRow o c) =
      .ok (e.2.map fun r => (r e.1.keyColumn.name, r.record e.1.columns)) := by
    intro e he
    have hr : e.1 ∈ p.relations := hm ▸ List.mem_map_of_mem he
    exact readRecord_joinedRow hp hm he (ho.related e.1 hr) fun row hrow =>
      RelationPlan.mem_related_of_mem_partners (hrow ▸ hpartners e he)
  have hchildren := foldlM_children (p := p) hrecords seen
  rw [hm] at hchildren
  rw [readRow, hkey, ok_bind, hown, Value.checkKey_eq_ok.mpr ho.key.isKey, ok_bind]
  dsimp only
  rw [hfields, ok_bind]
  exact bind_eq_ok.mpr ⟨_, hchildren, rfl⟩

/-- Further rows of an owner that stands last. -/
theorem foldlM_readRow_last [MomentReader] (hp : p.Readable) (ho : p.Holds o) {done : Keyed Owner}
    (hd : ∀ e ∈ done, e.1.sameKey (o.row p.keyColumn.name) = false) {cs : List Combination}
    (hcs : ∀ c ∈ cs, c ∈ o.combinations p.relations) (seen : String → Keyed Fields) :
    (cs.map (p.joinedRow o)).foldlM p.readRow
        (done ++ [(o.row p.keyColumn.name, ⟨o.row.record p.columns, p.children seen⟩)]) =
      .ok (done ++ [(o.row p.keyColumn.name,
        ⟨o.row.record p.columns, p.children fun n => cs.foldl (RelationPlan.seeIn n) (seen n)⟩)]) := by
  induction cs generalizing seen with
  | nil => rfl
  | cons c cs ih =>
    rw [List.forall_mem_cons] at hcs
    have hown : p.ownerOf (done ++ [(o.row p.keyColumn.name, ⟨o.row.record p.columns, p.children seen⟩)])
        (o.row p.keyColumn.name) = ⟨o.row.record p.columns, p.children seen⟩ := by
      rw [ownerOf, Keyed.find?_fresh hd, Keyed.find?_here ho.key.same, Option.getD_some]
    rw [List.map_cons, List.foldlM_cons, readRow_joinedRow hp ho hcs.1 hown (Or.inr rfl), ok_bind, Keyed.set_fresh hd,
      Keyed.set_here ho.key.same]
    exact ih hcs.2 _

/-- What is known of an owner once all its rows have been read. -/
def ownerRead [MomentReader] (p : JoinPlan) (o : StoredOwner) : Value × Owner :=
  (o.row p.keyColumn.name,
    ⟨o.row.record p.columns, p.relations.map fun r => (r.property, r.known (o.related r.property))⟩)

/-- The rows of an owner that is new add the owner. -/
theorem foldlM_readRow_owner [MomentReader] (hp : p.Readable) (ho : p.Holds o) {done : Keyed Owner}
    (hd : ∀ e ∈ done, e.1.sameKey (o.row p.keyColumn.name) = false) :
    ((o.combinations p.relations).map (p.joinedRow o)).foldlM p.readRow done = .ok (done ++ [p.ownerRead o]) := by
  obtain ⟨c, cs, hall⟩ := List.exists_cons_of_ne_nil (o.combinations_ne_nil p.relations)
  have hmem : ∀ d ∈ c :: cs, d ∈ o.combinations p.relations := fun d hdm => hall ▸ hdm
  rw [List.forall_mem_cons] at hmem
  have hown : p.ownerOf done (o.row p.keyColumn.name) = ⟨[], p.children fun _ => []⟩ := by
    rw [ownerOf, Keyed.find?_new hd]
    rfl
  -- the rows have shown all related records of every relation
  have hseen : (p.children fun n => cs.foldl (RelationPlan.seeIn n) (RelationPlan.seeIn n [] c)) =
      p.relations.map fun r => (r.property, r.known (o.related r.property)) := by
    refine List.map_congr_left fun r hr => ?_
    have hs := (StoredOwner.settles_combinations (List.nodup_append.mp hp.names).2.1 ho.related hr).1
    rw [hall, List.foldl_cons] at hs
    exact congrArg (r.property, ·) hs
  rw [hall, List.map_cons, List.foldlM_cons, readRow_joinedRow hp ho hmem.1 hown (Or.inl rfl), ok_bind, Keyed.set_new hd,
    foldlM_readRow_last hp ho hd hmem.2, hseen]
  rfl

/-- The rows of owners that are new and differ add the owners in order. -/
theorem foldlM_readRow_joined [MomentReader] (hp : p.Readable) {owners : List StoredOwner} (ho : ∀ o ∈ owners, p.Holds o)
    (hdist : owners.Pairwise fun a b => (a.row p.keyColumn.name).sameKey (b.row p.keyColumn.name) = false)
    {done : Keyed Owner} (hd : ∀ e ∈ done, ∀ o ∈ owners, e.1.sameKey (o.row p.keyColumn.name) = false) :
    (p.joined owners).foldlM p.readRow done = .ok (done ++ owners.map p.ownerRead) := by
  induction owners generalizing done with
  | nil => exact congrArg Except.ok (List.append_nil done).symm
  | cons o owners ih =>
    rw [List.forall_mem_cons] at ho
    rw [List.pairwise_cons] at hdist
    have hnew : ∀ e ∈ done, e.1.sameKey (o.row p.keyColumn.name) = false := fun e he => hd e he o List.mem_cons_self
    have hrest : ∀ e ∈ done ++ [p.ownerRead o], ∀ u ∈ owners, e.1.sameKey (u.row p.keyColumn.name) = false := by
      intro e he u hu
      rcases List.mem_append.mp he with he | he
      · exact hd e he u (List.mem_cons_of_mem _ hu)
      · rw [List.mem_singleton.mp he]
        exact hdist.1 u hu
    rw [joined, List.flatMap_cons, List.foldlM_append, foldlM_readRow_owner hp ho.1 hnew, ok_bind]
    refine (ih ho.2 hdist.2 hrest).trans ?_
    rw [List.map_cons, List.append_assoc, List.singleton_append]

/-- An owner that has been read is the record that is stored. -/
theorem record_ownerRead [MomentReader] (hp : p.Readable) (o : StoredOwner) : (p.ownerRead o).2.record = p.record o := by
  have hc : (p.ownerRead o).2.children.map (fun e => (e.1, Value.list (e.2.map fun record => .record record.2))) =
      p.relations.map fun r => (r.property, .list ((o.related r.property).map fun row => .record (row.record r.columns))) := by
    simp only [ownerRead, List.map_map]
    refine List.map_congr_left fun r _ => ?_
    simp [RelationPlan.known]
  change Fields.setAll _ ((p.ownerRead o).2.children.map fun e => (e.1, Value.list (e.2.map fun record => .record record.2))) = _
  rw [hc]
  refine Fields.setAll_eq_append ?_
  have hn : ((p.record o).map (·.1)) = p.columns.map (·.name) ++ p.relations.map (·.property) := by
    rw [JoinPlan.record, List.map_append, record_names, List.map_map]
    rfl
  exact hn ▸ hp.names

/-- Under a plan that can be read back, reading the joined rows of some owners gives the owners. -/
theorem reconstruct_eq [MomentReader] (hp : p.Readable) {owners : List StoredOwner} (hs : p.Stores owners) :
    p.reconstruct (p.joined owners) = .ok (owners.map p.record) := by
  have ho : ∀ o ∈ owners, p.Holds o := fun o hmem =>
    ⟨hs.own.keys _ (List.mem_map_of_mem hmem), hs.own.accepted _ (List.mem_map_of_mem hmem), hs.related o hmem⟩
  have hdist := List.pairwise_map.mp hs.own.distinct
  rw [reconstruct, foldlM_readRow_joined hp ho hdist (fun e he => absurd he List.not_mem_nil), ok_bind, List.nil_append]
  refine congrArg Except.ok ?_
  rw [List.map_map]
  exact List.map_congr_left fun o _ => record_ownerRead hp o

end JoinPlan

/-- Reading joined rows back undoes the join. In a schema that a validation has reported on, every table has a plan, and
whatever owners are stored, each with any number of related records, the rows that the plan selects are read as the owners in
order, each with its own fields and for every relation the list of its related records in order. Neither the table nor a
related one may declare its own key as a property. -/
theorem reconstruct_joined [MomentReader] {σ : Type} {strict : Bool} {readColumns : String → Act σ (List ColumnInfo)}
    {tables : List Table} (hd : ∀ t ∈ tables, t.Distinct) {s : σ} {report : Report}
    (hv : ((validate strict readColumns tables).runFrom s).1 = .ok report) {t : Table} (ht : t ∈ tables)
    (hk : ¬t.Declares t.key) (hr : ∀ related ∈ tables, t.RelatesTo related → ¬related.Declares related.key) :
    ∃ p : JoinPlan, t.plan tables = .ok p ∧ ∀ owners : List StoredOwner, p.Stores owners →
      p.reconstruct (p.joined owners) = .ok (owners.map p.record) := by
  have hw := wellFormed_of_report hd hv
  obtain ⟨p, hp⟩ := plan_exists hw ht
  exact ⟨p, hp, fun _ hs => JoinPlan.reconstruct_eq (plan_readable hw hd ht hk hr hp) hs⟩

/-- Two users, of whom the first has two posts and the second none. -/
def blogUsers : List StoredOwner :=
  [⟨fun name => if name = "userId" then .int 1 else .text "Ada", fun _ =>
      [fun name => if name = "postId" then .int 7 else if name = "title" then .text "5%25%20off" else .int 1,
        fun name => if name = "postId" then .int 8 else if name = "title" then .null else .int 1]⟩,
    ⟨fun name => if name = "userId" then .int 2 else .text "Bob", fun _ => []⟩]

/-- How users are selected with their posts. -/
def usersPlan : JoinPlan :=
  ⟨"User", "userId", ⟨"User", "userId", "userId", .int⟩, [⟨"User", "name", "name", .varchar⟩],
    [⟨"posts", "Post", "postId", "userId", ⟨"posts", "postId", "posts_postId", .int⟩,
      [⟨"posts", "title", "posts_title", .varchar⟩, ⟨"posts", "userId", "posts_userId", .int⟩]⟩]⟩

theorem plan_users : users.plan blog = .ok usersPlan := rfl

/-- Two users come back as they were stored, the first with two posts and the second with none. -/
theorem reconstruct_joined_blog :
    (∀ t ∈ blog, t.Distinct) ∧ (∀ t ∈ blog, ¬t.Declares t.key) ∧
    ((validate true (fun _ => pure []) blog).runFrom ()).1 = .ok ⟨[.missingTable "User", .missingTable "Post"], []⟩ ∧
    ∃ p : JoinPlan, users.plan blog = .ok p ∧ p.Stores blogUsers ∧ p.reconstruct (p.joined blogUsers) = .ok
        [[("userId", .int 1), ("name", .text "Ada"), ("posts", .list
            [.record [("postId", .int 7), ("title", .text "5% off"), ("userId", .int 1)],
              .record [("postId", .int 8), ("title", .null), ("userId", .int 1)]])],
          [("userId", .int 2), ("name", .text "Bob"), ("posts", .list [])]] := by
  have hv : ((validate true (fun _ => pure []) blog).runFrom ()).1 =
      .ok ⟨[.missingTable "User", .missingTable "Post"], []⟩ := congrArg Prod.fst validate_blog
  obtain ⟨p, hp, h⟩ := reconstruct_joined blog_distinct hv users_mem_blog (blog_keys_undeclared _ users_mem_blog)
    fun related hr _ => blog_keys_undeclared related hr
  cases hp.symm.trans plan_users
  have hs : usersPlan.Stores blogUsers := by
    refine ⟨⟨?_, ?_, ?_⟩, ?_⟩
    · simp [blogUsers, usersPlan, Value.isRowKey_int]
    · simp [blogUsers, usersPlan, Value.sameKey_int]
    · simp [blogUsers, usersPlan, JoinPlan.columns, Value.decode, ColumnType.isText]
    · simp only [blogUsers, usersPlan, List.forall_mem_cons]
      refine ⟨⟨⟨?_, ?_, ?_⟩, by simp⟩, ⟨⟨by simp, by simp, by simp⟩, by simp⟩, by simp⟩
      · simp [Value.isRowKey_int]
      · simp [Value.sameKey_int]
      · simp [RelationPlan.columns, Value.decode, ColumnType.isText]
  exact ⟨blog_distinct, blog_keys_undeclared, hv, _, hp, hs, (h _ hs).trans rfl⟩

end RelationMapper
