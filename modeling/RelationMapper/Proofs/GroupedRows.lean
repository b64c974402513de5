import Mathlib.Data.List.Induction
import RelationMapper.Proofs.Grouping
import RelationMapper.Proofs.Reconstruction
import RelationMapper.Proofs.Value.SameKey

/-!
# Records of arbitrary rows

What `JoinPlan.reconstruct` makes of rows that need not come from a join: rows of one owner may be scattered among those of
others, and may disagree. The rows are grouped by the owner's key; each group gives one record, with the owner's fields of its
last row. Within a group the rows that show a record of a relation are grouped by the key of that record, and each of these groups
gives one item, again with the fields of its last row (`JoinPlan.recordOf`).

`readRow_ownersIn` is the step: if what is known before a row is what the groups of the rows before it give, then what is known
after it is what the groups with this row give. `reconstruct_grouped` is the outcome for all rows.
-/

namespace RelationMapper

/-! ## Rows -/

/-- What a column holds in a row; null if that cannot be read. -/
def ColumnPlan.value [MomentReader] (c : ColumnPlan) (row : Fields) : Value := (c.read row).toOption.getD .null

/-- Whether a column holds the same key in two rows. -/
def ColumnPlan.sameKey [MomentReader] (c : ColumnPlan) (row row' : Fields) : Bool := (c.value row).sameKey (c.value row')

/-- What columns hold in a row, by their names. -/
def fieldsIn [MomentReader] (columns : List ColumnPlan) (row : Fields) : Fields := columns.map fun c => (c.name, c.value row)

/-- The last of some rows. -/
def lastRow (rows : List Fields) : Fields := rows.getLast?.getD []

namespace RelationPlan

/-- Whether a row shows a record of a relation. -/
def shows [MomentReader] (r : RelationPlan) (row : Fields) : Bool :=
  match r.keyColumn.value row with
  | .null => false
  | _ => true

/-- The rows that show a record of a relation, in groups. -/
def groupsIn [MomentReader] (r : RelationPlan) (rows : List Fields) : List (Group Fields) :=
  groups r.keyColumn.sameKey (rows.filter r.shows)

end RelationPlan

namespace JoinPlan

/-- The record of an owner from the rows about it. -/
def recordOf [MomentReader] (p : JoinPlan) (g : Group Fields) : Fields :=
  fieldsIn p.columns g.last ++ p.relations.map fun r =>
    (r.property, .list ((r.groupsIn g.all).map fun child => .record (fieldsIn r.columns child.last)))

/-- A row of which every column can be read, and whose keys are values that can be keys. -/
structure Reads [MomentReader] (p : JoinPlan) (row : Fields) : Prop where
  columns : ∀ c ∈ p.allColumns, ∃ v, c.read row = .ok v
  key : (p.keyColumn.value row).isKey = true
  relationKeys : ∀ r ∈ p.relations, (r.keyColumn.value row).isKey = true

end JoinPlan

theorem lastRow_concat (rows : List Fields) (row : Fields) : lastRow (rows ++ [row]) = row := by
  rw [lastRow, List.getLast?_concat, Option.getD_some]

theorem lastRow_all (g : Group Fields) : lastRow g.all = g.last := by
  rw [lastRow, Group.last, List.getLast?_eq_some_getLast g.all_ne_nil, Option.getD_some]

/-! ## Groups under keys -/

section

variable {α β : Type} {key : α → Value} {same : α → α → Bool}

/-- Under the key of a further thing there is what the group gives that it joins. -/
theorem find?_groups (hs : ∀ a b, same a b = (key a).sameKey (key b)) (f : List α → β) (gs : List (Group α)) (a : α) :
    ((Keyed.find? (gs.map fun g => (key g.first, f g.all)) (key a)).getD (f [])) = f (companions same a gs) := by
  induction gs with
  | nil => rfl
  | cons g gs ih =>
    rw [List.map_cons, companions, List.find?_cons, hs]
    cases h : (key g.first).sameKey (key a) with
    | true =>
      rw [Keyed.find?_here h]
      rfl
    | false =>
      have hthere := @Keyed.find?_fresh β [(key g.first, f g.all)] (gs.map fun g => (key g.first, f g.all)) (key a)
        (List.forall_mem_singleton.mpr h)
      rw [List.singleton_append] at hthere
      rw [hthere, ih]
      rfl

/-- Setting under the key of a further thing what its group gives with it is what the groups with it give. -/
theorem set_groups (hs : ∀ a b, same a b = (key a).sameKey (key b)) (f : List α → β) (gs : List (Group α)) (a : α) :
    Keyed.set (gs.map fun g => (key g.first, f g.all)) (key a) (f (companions same a gs ++ [a])) =
      (place same a gs).map fun g => (key g.first, f g.all) := by
  induction gs with
  | nil => rfl
  | cons g gs ih =>
    rw [List.map_cons, companions, List.find?_cons, place, hs]
    cases h : (key g.first).sameKey (key a) with
    | true =>
      rw [Keyed.set_here h]
      rfl
    | false =>
      rw [Keyed.set_there h]
      change (key g.first, f g.all) :: Keyed.set _ (key a) (f (companions same a gs ++ [a])) = _
      rw [ih]
      rfl

end

/-! ## Reading one row -/

/-- What has been read of the columns so far: what they hold in the last row, if there is one. -/
def readSoFar [MomentReader] (columns : List ColumnPlan) (rows : List Fields) : Fields :=
  (rows.getLast?.map (fieldsIn columns)).getD []

/-- What columns hold in a row replaces what they held in another one. -/
theorem setAll_fieldsIn [MomentReader] {columns : List ColumnPlan} (row row' : Fields) {before : Fields}
    (hn : (before.map (·.1) ++ columns.map (·.name)).Nodup) :
    (before ++ fieldsIn columns row).setAll (fieldsIn columns row') = before ++ fieldsIn columns row' := by
  induction columns generalizing before with
  | nil => rfl
  | cons c columns ih =>
    have hnew : c.name ∉ before.map (·.1) := fun hm => (List.nodup_append.mp hn).2.2 _ hm _ List.mem_cons_self rfl
    have hset : (before ++ fieldsIn (c :: columns) row).set c.name (c.value row') =
        before ++ [(c.name, c.value row')] ++ fieldsIn columns row := by
      rw [Fields.set_append hnew, List.append_assoc, fieldsIn, List.map_cons, Fields.set, if_pos rfl]
      rfl
    change Fields.setAll ((before ++ fieldsIn (c :: columns) row).set c.name (c.value row')) (fieldsIn columns row') = _
    rw [hset, ih, List.append_assoc]
    · rfl
    · simpa using hn

/-- What a row has in columns replaces what was read there so far. -/
theorem setAll_readSoFar [MomentReader] {columns : List ColumnPlan} (hn : (columns.map (·.name)).Nodup) (rows : List Fields)
    (row : Fields) : (readSoFar columns rows).setAll (fieldsIn columns row) = fieldsIn columns row := by
  cases hlast : rows.getLast? with
  | none =>
    rw [readSoFar, hlast]
    refine @Fields.setAll_eq_append [] (fieldsIn columns row) ?_
    rw [List.nil_append, fieldsIn, List.map_map]
    exact hn
  | some row' =>
    rw [readSoFar, hlast]
    exact @setAll_fieldsIn _ columns row' row [] hn

/-- A row whose columns can be read is read. -/
theorem readFields_value [MomentReader] {columns : List ColumnPlan} {row : Fields} (h : ∀ c ∈ columns, ∃ v, c.read row = .ok v)
    (start : Fields) : readFields columns row start = .ok (start.setAll (fieldsIn columns row)) := by
  refine readFields_eq (fun c hc => ?_) start
  obtain ⟨v, hv⟩ := h c hc
  rw [ColumnPlan.value, hv]
  rfl

theorem read_eq_value [MomentReader] {c : ColumnPlan} {row : Fields} (h : ∃ v, c.read row = .ok v) :
    c.read row = .ok (c.value row) := by
  obtain ⟨v, hv⟩ := h
  rw [ColumnPlan.value, hv]
  rfl

/-- The record of a relation that a row shows, and its key. -/
def RelationPlan.shown [MomentReader] (r : RelationPlan) (row : Fields) : Option (Value × Fields) :=
  if r.shows row = true then some (r.keyColumn.value row, fieldsIn r.columns row) else none

/-- The record of a relation is read as the row shows it. -/
theorem readRecord_eq [MomentReader] {r : RelationPlan} {row : Fields} (h : ∀ c ∈ r.columns, ∃ v, c.read row = .ok v)
    (hn : (r.columns.map (·.name)).Nodup) (hk : (r.keyColumn.value row).isKey = true) :
    r.readRecord row = .ok (r.shown row) := by
  rw [RelationPlan.readRecord, read_eq_value (h _ List.mem_cons_self), ok_bind, RelationPlan.shown, RelationPlan.shows]
  cases hkey : r.keyColumn.value row with
  | null => rfl
  | _ =>
    rw [hkey] at hk
    have hfields : Fields.setAll [] (fieldsIn r.columns row) = fieldsIn r.columns row := setAll_readSoFar hn [] row
    dsimp only
    rw [readFields_value h, ok_bind, Value.checkKey_eq_ok.mpr hk, ok_bind, hfields]
    rfl

/-! ## What is known of an owner -/

/-- The records of a relation that have been seen in some rows, under their keys. -/
def RelationPlan.seenIn [MomentReader] (r : RelationPlan) (rows : List Fields) : Keyed Fields :=
  (r.groupsIn rows).map fun g => (r.keyColumn.value g.first, fieldsIn r.columns (lastRow g.all))

/-- One more row adds the record that it shows. -/
theorem seenIn_concat [MomentReader] (r : RelationPlan) (rows : List Fields) (row : Fields) :
    r.seenIn (rows ++ [row]) =
      match r.shown row with
      | none => r.seenIn rows
      | some (key, record) => (r.seenIn rows).set key record := by
  rw [RelationPlan.seenIn, RelationPlan.groupsIn, List.filter_append, RelationPlan.shown]
  cases hshows : r.shows row with
  | false =>
    rw [List.filter_singleton, hshows]
    change List.map _ (groups r.keyColumn.sameKey (rows.filter r.shows ++ [])) = _
    rw [List.append_nil]
    rfl
  | true =>
    have hset := @set_groups _ _ r.keyColumn.value r.keyColumn.sameKey (fun _ _ => rfl)
      (fun rows => fieldsIn r.columns (lastRow rows)) (groups r.keyColumn.sameKey (rows.filter r.shows)) row
    simp only [lastRow_concat] at hset
    rw [List.filter_singleton, hshows]
    change List.map _ (groups r.keyColumn.sameKey (rows.filter r.shows ++ [row])) = _
    rw [groups_concat, ← hset]
    rfl

/-- A record is put in its relation, and all others stay. -/
theorem put_append {before after : Children} {name : String} (hb : name ∉ before.map (·.1)) (ha : name ∉ after.map (·.1))
    (records : Keyed Fields) (key : Value) (record : Fields) :
    Children.put (before ++ (name, records) :: after) name key record =
      before ++ (name, records.set key record) :: after := by
  have other {children : Children} (h : name ∉ children.map (·.1)) : children.put name key record = children := by
    refine (List.map_congr_left fun e he => ?_).trans (List.map_id _)
    have hne : e.1 ≠ name := fun heq => h (heq ▸ List.mem_map_of_mem he)
    simp [hne]
  have happend : Children.put (before ++ (name, records) :: after) name key record =
      before.put name key record ++ (name, records.set key record) :: after.put name key record := by
    simp [Children.put]
  rw [happend, other hb, other ha]

namespace JoinPlan

variable {p : JoinPlan} {row : Fields}

/-- What is known of an owner from the rows about it. -/
def ownerIn [MomentReader] (p : JoinPlan) (rows : List Fields) : Owner :=
  ⟨readSoFar p.columns rows, p.relations.map fun r => (r.property, r.seenIn rows)⟩

theorem ownerIn_nil [MomentReader] (p : JoinPlan) : p.ownerIn [] = p.newOwner := by
  simp [ownerIn, newOwner, readSoFar, RelationPlan.seenIn, RelationPlan.groupsIn, groups]

/-- What is known of all owners from groups of rows. -/
def ownersIn [MomentReader] (p : JoinPlan) (gs : List (Group Fields)) : Keyed Owner :=
  gs.map fun g => (p.keyColumn.value g.first, p.ownerIn g.all)

/-- One more row is read relation by relation; those before the first one that is left have been. -/
theorem foldlM_seenIn [MomentReader] {done left : List RelationPlan} (hn : ((done ++ left).map (·.property)).Nodup)
    (rows : List Fields) (hread : ∀ r ∈ left, r.readRecord row = .ok (r.shown row)) :
    left.foldlM (fun (children : Children) r => do
      match ← r.readRecord row with
      | none => return children
      | some (key, record) => return children.put r.property key record)
      ((done.map fun r => (r.property, r.seenIn (rows ++ [row]))) ++ left.map fun r => (r.property, r.seenIn rows)) =
      .ok ((done ++ left).map fun r => (r.property, r.seenIn (rows ++ [row]))) := by
  induction left generalizing done with
  | nil => simp [pure, Except.pure]
  | cons r left ih =>
    rw [List.forall_mem_cons] at hread
    have hsplit : done ++ r :: left = done ++ [r] ++ left := by simp
    have hnext := ih (hsplit ▸ hn) hread.2
    rw [List.foldlM_cons, hread.1, ok_bind, hsplit, ← hnext]
    rw [List.map_append, List.nodup_append, List.map_cons, List.nodup_cons] at hn
    have hstep := seenIn_concat r rows row
    cases hshown : r.shown row with
    | none =>
      rw [hshown] at hstep
      simp only [List.map_cons, List.map_append, List.map_nil, List.append_assoc, List.singleton_append, hstep]
      rfl
    | some shown =>
      rw [hshown] at hstep
      have hbefore : r.property ∉ (done.map fun r => (r.property, r.seenIn (rows ++ [row]))).map (·.1) := by
        rw [List.map_map]
        exact fun hm => hn.2.2 _ hm _ List.mem_cons_self rfl
      have hafter : r.property ∉ (left.map fun r => (r.property, r.seenIn rows)).map (·.1) := by
        rw [List.map_map]
        exact hn.2.1.1
      have hput := put_append hbefore hafter (r.seenIn rows) shown.1 shown.2
      simp only [List.map_cons, List.map_append, List.map_nil, List.append_assoc, List.singleton_append, hstep]
      rw [← hput]
      rfl

/-- What was read so far is what the last row has. -/
theorem readSoFar_concat [MomentReader] (columns : List ColumnPlan) (rows : List Fields) (row : Fields) :
    readSoFar columns (rows ++ [row]) = fieldsIn columns row := by
  rw [readSoFar, List.getLast?_concat]
  rfl

/-- One more row is read: it joins the group of its owner. -/
theorem readRow_ownersIn [MomentReader] (hp : p.Named) (hr : p.Reads row) (gs : List (Group Fields)) :
    p.readRow (p.ownersIn gs) row = .ok (p.ownersIn (place p.keyColumn.sameKey row gs)) := by
  have hown : ∀ c ∈ p.columns, ∃ v, c.read row = .ok v := fun c hc => hr.columns c (List.mem_append_left _ hc)
  have hrelated : ∀ r ∈ p.relations, r.readRecord row = .ok (r.shown row) := by
    intro r hmem
    refine readRecord_eq (fun c hc => ?_) (hp.relationNames r hmem) (hr.relationKeys r hmem)
    exact hr.columns c (List.mem_append_right _ (List.mem_flatMap.mpr ⟨r, hmem, hc⟩))
  have howner : p.ownerOf (p.ownersIn gs) (p.keyColumn.value row) = p.ownerIn (companions p.keyColumn.sameKey row gs) := by
    rw [ownerOf, ← ownerIn_nil]
    exact @find?_groups _ _ p.keyColumn.value p.keyColumn.sameKey (fun _ _ => rfl) p.ownerIn gs row
  have hnames := (List.nodup_append.mp hp.names).1
  have hproperties := (List.nodup_append.mp hp.names).2.1
  have hfields : readFields p.columns row (p.ownerIn (companions p.keyColumn.sameKey row gs)).fields = .ok (fieldsIn p.columns row) := by
    rw [readFields_value hown, ownerIn, setAll_readSoFar hnames]
  have hchildren := @foldlM_seenIn row _ [] p.relations hproperties (companions p.keyColumn.sameKey row gs) hrelated
  have hset := @set_groups _ _ p.keyColumn.value p.keyColumn.sameKey (fun _ _ => rfl) p.ownerIn gs row
  rw [readRow, read_eq_value (hown _ List.mem_cons_self), ok_bind, Value.checkKey_eq_ok.mpr hr.key, ok_bind, howner]
  dsimp only
  rw [hfields, ok_bind]
  refine bind_eq_ok.mpr ⟨_, hchildren, ?_⟩
  rw [ownersIn, ownersIn, ← hset, ownerIn, readSoFar_concat]
  rfl

/-- All rows are read into the groups that they make up. -/
theorem foldlM_readRow_groups [MomentReader] (hp : p.Named) {rows : List Fields} (hr : ∀ row ∈ rows, p.Reads row) :
    rows.foldlM p.readRow [] = .ok (p.ownersIn (groups p.keyColumn.sameKey rows)) := by
  induction rows using List.reverseRecOn with
  | nil =>
    rw [groups]
    rfl
  | append_singleton rows row ih =>
    rw [List.forall_mem_append, List.forall_mem_singleton] at hr
    rw [List.foldlM_append, ih hr.1, ok_bind, groups_concat]
    exact (bind_pure _).trans (readRow_ownersIn hp hr.2 _)

/-- What is known of an owner in the end is its record. -/
theorem record_ownerIn [MomentReader] (hp : p.Named) (g : Group Fields) : (p.ownerIn g.all).record = p.recordOf g := by
  have hlast : readSoFar p.columns g.all = fieldsIn p.columns g.last := by
    rw [readSoFar, Group.last, List.getLast?_eq_some_getLast g.all_ne_nil]
    rfl
  have hlists : (p.ownerIn g.all).children.map (fun e => (e.1, Value.list (e.2.map fun record => .record record.2))) =
      p.relations.map fun r =>
        (r.property, .list ((r.groupsIn g.all).map fun child => .record (fieldsIn r.columns child.last))) := by
    rw [ownerIn, List.map_map]
    refine List.map_congr_left fun r _ => ?_
    simp only [Function.comp_apply, RelationPlan.seenIn, List.map_map, lastRow_all]
    rfl
  change Fields.setAll (p.ownerIn g.all).fields _ = _
  rw [hlists, recordOf, ownerIn, hlast]
  refine Fields.setAll_eq_append ?_
  have hn := hp.names
  simpa [fieldsIn, Function.comp_def] using hn

/-- Rows are read as one record for each group. -/
theorem reconstruct_eq_groups [MomentReader] (hp : p.Named) {rows : List Fields} (hr : ∀ row ∈ rows, p.Reads row) :
    p.reconstruct rows = .ok ((groups p.keyColumn.sameKey rows).map p.recordOf) := by
  rw [reconstruct, foldlM_readRow_groups hp hr, ok_bind, ownersIn, List.map_map]
  exact congrArg Except.ok (List.map_congr_left fun g _ => record_ownerIn hp g)

end JoinPlan

/-! ## Reading all rows -/

/-- Rows are grouped by the keys that a column holds in them. -/
theorem grouped_by_key [MomentReader] (c : ColumnPlan) (rows : List Fields) : Grouped c.sameKey rows (groups c.sameKey rows) := by
  have symm (a b : Fields) (h : c.sameKey a b = true) : c.sameKey b a = true := Value.sameKey_symm h
  have trans (a b d : Fields) (h : c.sameKey a b = true) (h' : c.sameKey b d = true) : c.sameKey a d = true :=
    Value.sameKey_trans h h'
  exact grouped_groups symm trans rows

/-- Whatever rows come back, they are read as one record for each owner, in the order in which the owners first occur: the rows
are grouped by the owner's key, and a record has the fields of the last row of its group. For each relation it has a list of one
item for each related record that the rows of the group show, grouped by its key in the same way. Neither the table nor a related
one may declare its own key as a property, every column has to be readable in every row, and the keys have to be values that can
be keys. -/
theorem reconstruct_grouped [MomentReader] {tables : List Table} {t : Table} (hd : ∀ u ∈ t :: tables, u.Distinct)
    (hk : ¬t.Declares t.key) (hr : ∀ u, findTable? tables u.name = some u → t.RelatesTo u → ¬u.Declares u.key) {p : JoinPlan}
    (hp : t.plan tables = .ok p) {rows : List Fields} (hrows : ∀ row ∈ rows, p.Reads row) :
    p.reconstruct rows = .ok ((groups p.keyColumn.sameKey rows).map p.recordOf) ∧
    Grouped p.keyColumn.sameKey rows (groups p.keyColumn.sameKey rows) ∧
    ∀ g ∈ groups p.keyColumn.sameKey rows, ∀ r ∈ p.relations, Grouped r.keyColumn.sameKey (g.all.filter r.shows) (r.groupsIn g.all) :=
  ⟨JoinPlan.reconstruct_eq_groups (plan_named hd hk hr hp) hrows, grouped_by_key p.keyColumn rows,
    fun g _ r _ => grouped_by_key r.keyColumn (g.all.filter r.shows)⟩

/-- Rows about two users and one without a key: the first user comes back with another name and another title of the post. -/
def scatteredRows : List Fields :=
  [[("userId", .int 1), ("name", .text "Ada"), ("posts_postId", .int 7), ("posts_title", .text "first"), ("posts_userId", .int 1)],
    [("userId", .null), ("name", .null), ("posts_postId", .int 9), ("posts_title", .null), ("posts_userId", .null)],
    [("userId", .int 2), ("name", .text "Bob")],
    [("userId", .int 1), ("name", .text "Ada"), ("posts_postId", .int 8), ("posts_title", .text "second")],
    [("userId", .bool true), ("name", .text "Lady"), ("posts_postId", .int 7), ("posts_title", .text "changed")]]

/-- The users in them, in the order in which they first occur: the first has the name of the last row about him and two posts. -/
def scatteredRecords : List Fields :=
  [[("userId", .bool true), ("name", .text "Lady"), ("posts", .list
      [.record [("postId", .int 7), ("title", .text "changed"), ("userId", .null)],
        .record [("postId", .int 8), ("title", .text "second"), ("userId", .null)]])],
    [("userId", .null), ("name", .null), ("posts", .list
      [.record [("postId", .int 9), ("title", .null), ("userId", .null)]])],
    [("userId", .int 2), ("name", .text "Bob"), ("posts", .list [])]]

theorem reads_scattered [MomentReader] : ∀ row ∈ scatteredRows, usersPlan.Reads row := by
  have hint (v : Value) : ∃ w, v.decode .int = .ok w := ⟨v, v.decode_int⟩
  have hvarchar (v : Value) : ∃ w, v.decode .varchar = .ok w := by cases v <;> exact ⟨_, rfl⟩
  have hkeys : ∀ row ∈ scatteredRows, (ColumnPlan.value ⟨"User", "userId", "userId", .int⟩ row).isKey = true ∧
      (ColumnPlan.value ⟨"posts", "postId", "posts_postId", .int⟩ row).isKey = true := by
    refine List.forall_mem_cons.mpr ⟨⟨rfl, rfl⟩, ?_⟩
    refine List.forall_mem_cons.mpr ⟨⟨rfl, rfl⟩, ?_⟩
    refine List.forall_mem_cons.mpr ⟨⟨rfl, rfl⟩, ?_⟩
    refine List.forall_mem_cons.mpr ⟨⟨rfl, rfl⟩, ?_⟩
    exact List.forall_mem_singleton.mpr ⟨rfl, rfl⟩
  refine fun row hrow => ⟨?_, (hkeys row hrow).1, List.forall_mem_singleton.mpr (hkeys row hrow).2⟩
  simp [usersPlan, JoinPlan.allColumns, JoinPlan.columns, RelationPlan.columns, ColumnPlan.read, hint, hvarchar]

/-- The rows are read as these records: one and true are the same key, and a row without a user's key is about a user as well. -/
theorem reconstruct_grouped_scattered :
    (∀ t ∈ blog, t.Distinct) ∧ (∀ t ∈ blog, ¬t.Declares t.key) ∧ users.plan blog = .ok usersPlan ∧
    (∀ row ∈ scatteredRows, usersPlan.Reads row) ∧
    (groups usersPlan.keyColumn.sameKey scatteredRows).map usersPlan.recordOf = scatteredRecords := by
  have hd : ∀ u ∈ users :: blog, u.Distinct :=
    List.forall_mem_cons.mpr ⟨blog_distinct _ users_mem_blog, blog_distinct⟩
  have hk := blog_keys_undeclared
  have hr : ∀ u, findTable? blog u.name = some u → users.RelatesTo u → ¬u.Declares u.key :=
    fun u hu _ => hk u (List.mem_of_find?_eq_some hu)
  obtain ⟨hrecords, -, -⟩ := reconstruct_grouped hd (hk _ users_mem_blog) hr plan_users reads_scattered
  exact ⟨blog_distinct, hk, plan_users, reads_scattered, Except.ok.inj (hrecords.symm.trans rfl)⟩

/-- A list cannot be a key. Rows in which one stands for the key are not read, although every column of them can be. -/
theorem list_key_not_grouped :
    ∃ p : JoinPlan, (Table.mk "User" "userId" [⟨"name", "varchar(64)"⟩] 0).plan [] = .ok p ∧
      (∀ c ∈ p.allColumns, ∃ v, c.read [("userId", .list [.int 1]), ("name", .text "ada")] = .ok v) ∧
      p.reconstruct [[("userId", .list [.int 1]), ("name", .text "ada")]] = .error .wrongType := by
  refine ⟨_, rfl, ?_, rfl⟩
  exact List.forall_mem_cons.mpr ⟨⟨_, rfl⟩, List.forall_mem_singleton.mpr ⟨_, rfl⟩⟩

end RelationMapper
