import RelationMapper.Proofs.Client.InsertedTree
import RelationMapper.Proofs.Naming

/-!
# Unambiguous statements

Which statements for a valid schema name something twice (`unambiguous_iff`). A selection, and a table that is created, do so only
where a name was not checked: the key is repeated, or a relation is named like its table. A row that is inserted for an entry
that was checked has distinct columns unless it stands below one of the same table (`InsertsFrom`): then the key is both that of
the row and that of its owner.
-/

namespace RelationMapper.Client

open Act

variable {r : Registry JoinPlan} {t u : Table} {o : Options} {quote : String} {entry : Value}

/-! ## Rows of a tree -/

/-- An entry that stands below one of the same table is reached through a relation of the table to itself, for which the table
declares its key as a column. -/
theorem relatesTo_self (hr : r.Validated) (hi : Insertable r t none entry) {child : Value}
    (hc : Contains r.tables t entry u (some u.key) child) : u.RelatesTo u ∧ u.RepeatsKey := by
  have hu : Insertable r u (some (u.key, .int 0)) child := hi.of_contains hr hc 0
  obtain ⟨p, hp, hn, spec, hs, hb, -⟩ := (hu.above _ rfl).1
  refine ⟨?_, p, hp, hn, spec, hs, by rw [TypeSpec.isPrimitive, TypeSpec.columnType?, hb]; rfl⟩
  generalize hkey : some u.key = owner at hc
  cases hc with
  | top => cases hkey
  | @nested owning _ above fields key value name spec items _ hcontains _ _ hnamed hcol hrelated =>
    -- no two tables share a key, so the table above is the same
    have howner : Insertable r owning (above.map (·, .int 0)) (.map fields) := hi.of_contains hr hcontains 0
    have hsame : owning = u :=
      List.inj_on_of_nodup_map hr.wellFormed.keys howner.mem hu.mem (Option.some.inj hkey).symm
    subst hsame
    have hrelation : spec.isPrimitive = false := by rw [TypeSpec.isPrimitive, hcol, Option.isSome_none]
    exact (relates_of_related hr.wellFormed.names (Table.named_eq_ok.mp hnamed).2 hrelation hrelated).1

/-- An entry below one of a tree is in the tree: what stands under the key of the owner is no relation. -/
theorem contains_of_standsBelow (hr : r.Validated) (hi : Insertable r t none entry) {owner : Option String}
    {fields : Keyed Value} (hc : Contains r.tables t entry u owner (.map fields)) {field : Value × Value} (hf : field ∈ fields)
    {related : Table} {child : Value} (hbelow : StandsBelow r.tables u field related child) :
    Contains r.tables t entry related (some u.key) child := by
  obtain ⟨⟨name, spec, hnamed, hrelation, hrelated⟩, items, hitems, hchild⟩ := hbelow
  have hcol : spec.columnType? = none := Option.not_isSome_iff_eq_none.mp (Bool.eq_false_iff.mp hrelation)
  refine .nested hc hf ?_ hnamed hcol hrelated hitems hchild
  cases owner with
  | none => rfl
  | some above =>
    refine Bool.eq_false_iff.mpr fun hown => ?_
    have hu : Insertable r u (some (above, .int 0)) (.map fields) := hi.of_contains hr hc 0
    obtain ⟨spec', hs, hcol', -⟩ := spec_of_declaresInt (hr.distinct u hu.mem) (hu.above _ rfl).1
    rw [isText_eq_true.mp hown] at hnamed
    obtain ⟨heq, hs'⟩ := Table.named_eq_ok.mp hnamed
    cases heq
    cases hs.symm.trans hs'
    cases hcol.symm.trans hcol'

/-- A statement that inserts a row does so for an entry of a tree. The columns of the row are distinct unless the entry stands
below one of the same table; the table then relates to itself, and repeats its key. -/
def InsertsFrom (tables : List Table) (t : Table) (entry : Value) (statement : Statement) : Prop :=
  ∀ table columns literals, statement = .insert table columns literals →
    ∃ u ∈ tables, u.name = table ∧ ∃ owner child, Contains tables t entry u owner child ∧
      (columns.Nodup ↔ owner ≠ some u.key) ∧ (owner = some u.key → u.RelatesTo u ∧ u.RepeatsKey)

/-- The row of an entry of a tree. -/
theorem insertsFrom_row (hr : r.Validated) (hi : Insertable r t none entry) {tables : List Table}
    {owner : Option (String × Value)} {fields : Keyed Value}
    (hc : Contains r.tables t entry u (owner.map (·.1)) (.map fields)) {key : String} {row : List (String × String)}
    (hrow : renderRow quote tables u (rowFields owner fields) = .ok row) :
    InsertsFrom r.tables t entry (.insert u.name (u.key :: row.map (·.1)) (key :: row.map (·.2))) := by
  rintro _ _ _ ⟨⟩
  have hu : Insertable r u ((owner.map (·.1)).map (·, .int 0)) (.map fields) := hi.of_contains hr hc 0
  have checked := hu.checked
  rw [Option.map_map, Function.comp_def, Option.map_id'] at checked
  have above : ∀ name, owner.map (·.1) = some name → u.DeclaresInt name := fun name ho =>
    (hu.above (name, .int 0) (by rw [ho]; rfl)).1
  refine ⟨u, hu.mem, rfl, _, _, hc, ?_, fun ho => relatesTo_self hr hi (ho ▸ hc)⟩
  rw [List.nodup_cons, and_iff_left (nodup_names_renderRow hrow (pairwise_rowFields hu.keysDiffer.1 owner)),
    key_mem_row_iff (hr.distinct u hu.mem) hu.keysDiffer.1 checked above hrow]

/-- All rows that are inserted are those of entries of the tree. -/
theorem keptByRowWork_insertsFrom (hr : r.Validated) (ht : t ∈ r.tables) (hk : entry.KeysDiffer) (s₀ : Session) :
    KeptByRowWork o
      (fun u owner child => Contains r.tables t entry u owner child ∧ Table.checkEntry r.tables t none entry = .ok ())
      (fun s => s.registry = r ∧ SentOnly (InsertsFrom r.tables t entry) s₀ s) := by
  have sends {statement : Statement} (h : InsertsFrom r.tables t entry statement) :
      Keeps (fun s => s.registry = r ∧ SentOnly (InsertsFrom r.tables t entry) s₀ s)
        (onConnection (Connection.run o statement)) :=
    (keeps_onConnection (I := (· = r)) _).and (keeps_sentOnly h)
  have top (hc : Table.checkEntry r.tables t none entry = .ok ()) : Insertable r t none entry :=
    ⟨ht, fun _ ho => by (cases ho), hc, hk⟩
  exact
    { gate := by
        rintro s ⟨hs, hsent⟩
        rw [ensureValid, Setting.runFrom_ensureValid _ (hs ▸ hr.valid)]
        exact ⟨hs, hsent⟩
      nextKey := fun _ => sends nofun
      insert := fun _ _ _ _ _ _ ⟨hcontains, hc⟩ hrow => sends (insertsFrom_row hr (top hc) hcontains hrow)
      below := by
        rintro u owner fields ⟨hcontains, hc⟩ field hfield s ⟨rfl, -⟩ related child hbelow
        exact ⟨contains_of_standsBelow hr (top hc) hcontains hfield hbelow, hc⟩
      keys := fun _ _ _ => sends nofun
      delete := fun _ _ _ => sends nofun
      cascade := fun _ _ _ _ => sends nofun
      update := fun _ _ _ _ _ => sends nofun
      select := fun _ _ _ => sends nofun
      selectMax := fun _ _ _ => sends nofun }

/-- Every row that a call inserts for an entry is that of an entry of its tree, whatever the database answers. -/
theorem insertsFrom_of_sent [MomentReader] {s s' : Session} (hr : s.registry.Validated) (ht : t ∈ s.registry.tables)
    {call : RowCall} (he : call.entry? = some entry) (hk : entry.KeysDiffer) {result : Except Fault Unit}
    (hrun : (call.run o t).runFrom s = (result, s')) :
    ∀ statement ∈ sentSince s s', InsertsFrom s.registry.tables t entry statement := by
  have keeps : Keeps (fun s₁ => s₁.registry = s.registry ∧ SentOnly (InsertsFrom s.registry.tables t entry) s s₁)
      (call.run o t) := by
    refine keeps_rowCall (keptByRowWork_insertsFrom hr ht hk s) t fun entry' he' s₁ hs₁ hc => ?_
    cases he.symm.trans he'
    rw [hs₁.1] at hc
    exact ⟨.top, hc⟩
  have hkept := keeps s ⟨rfl, SentOnly.refl⟩
  rw [hrun] at hkept
  exact hkept.2.sentSince

/-! ## All statements -/

/-- The statements for a table of a valid schema name things once, with these exceptions. A selection reads from two tables of
one name exactly if the table has a relation of its own name. It answers two columns under one alias exactly if the table, or one
that it relates to, declares its own key as a column; and a table that does so is created with two columns of one name. A row
that is inserted for an entry that was checked has two columns of one name exactly if its entry stands below one of the same
table, which then declares its own key as a column. The keys of a map in an entry differ, as they do wherever they come from. -/
theorem unambiguous_iff [MomentReader] {o o' : Options} {s₀ s₁ s : Session} {report : Report}
    (hv : (Setting.runValidation (validation o')).runFrom s₀ = (.ok report, s₁)) (hs : s.registry = s₁.registry)
    (hd : ∀ t ∈ s.registry.tables, t.Distinct) {t : Table} (ht : t ∈ s.registry.tables) :
    (∃ plan, s.registry.planFor? t.name = some plan ∧ (plan.sources.Nodup ↔ ¬t.HasRelation t.name) ∧
      ((plan.allColumns.map (·.label)).Nodup ↔
        ¬t.RepeatsKey ∧ ∀ u ∈ s.registry.tables, t.RelatesTo u → ¬u.RepeatsKey)) ∧
    (∃ columns, t.columnDeclarations = .ok columns ∧ ((columns.map (·.1)).Nodup ↔ ¬t.RepeatsKey)) ∧
    ∀ (call : RowCall) (entry : Value), call.entry? = some entry → entry.KeysDiffer →
      ∀ result s', (call.run o t).runFrom s = (result, s') →
        ∀ statement ∈ sentSince s s', InsertsFrom s.registry.tables t entry statement := by
  have hr : s.registry.Validated := hs ▸ validated_of_run (hs ▸ hd) hv
  obtain ⟨plan, hstored, hplan⟩ := lookup_plans hr.plans hr.wellFormed.names ht
  obtain ⟨columns, hcolumns⟩ := Table.columnDeclarations_exists hr.wellFormed ht
  refine ⟨⟨plan, hstored, sources_nodup_iff (hd t ht) hplan, labels_nodup_iff hr.wellFormed hd ht hplan⟩,
    ⟨columns, hcolumns, Table.columnDeclarations_nodup_iff (hd t ht) hcolumns⟩, ?_⟩
  intro call entry he hk result s' hrun
  exact insertsFrom_of_sent hr ht he hk hrun

/-- Neither users nor posts repeat a name, in a selection of users or in the rows of a user with a post. -/
theorem unambiguous_iff_blog :
    (Setting.runValidation (validation blogOptions)).runFrom blogClient =
      (.ok ⟨[.missingTable "User", .missingTable "Post"], []⟩, blogReady) ∧
    (∀ t ∈ blogReady.registry.tables, t.Distinct) ∧ users ∈ blogReady.registry.tables ∧
    ∃ plan, blogReady.registry.planFor? "User" = some plan ∧ plan.sources.Nodup ∧ (plan.allColumns.map (·.label)).Nodup ∧
      ∀ result s', ((RowCall.insert (userWithPost (.text "First"))).run blogOptions users).runFrom blogReady = (result, s') →
        ∀ table columns literals, .insert table columns literals ∈ sentSince blogReady s' → columns.Nodup := by
  have hv : (Setting.runValidation (validation blogOptions)).runFrom blogClient =
      (.ok ⟨[.missingTable "User", .missingTable "Post"], []⟩, blogReady) := rfl
  have hd : ∀ t ∈ blogReady.registry.tables, t.Distinct := blog_distinct
  have ht : users ∈ blogReady.registry.tables := List.mem_cons_self
  have hkeys : ∀ u ∈ blog, ¬u.RepeatsKey := fun u hu ⟨p, hp, hn, _⟩ => blog_keys_undeclared u hu ⟨p, hp, hn⟩
  obtain ⟨⟨plan, hplan, hsources, hlabels⟩, -, hrows⟩ := unambiguous_iff (o := blogOptions) hv rfl hd ht
  refine ⟨hv, hd, ht, plan, hplan, hsources.mpr ?_, hlabels.mpr ⟨hkeys _ ht, fun u hu _ => hkeys u hu⟩, ?_⟩
  · rintro ⟨p, hp, hn, -⟩
    have hother : ∀ p ∈ users.properties, p.name ≠ "User" := by decide
    exact hother p hp hn
  · intro result s' hrun table columns literals hsent
    obtain ⟨u, hu, -, owner, child, -, hdistinct, hself⟩ :=
      hrows (.insert (userWithPost (.text "First"))) _ rfl (userWithPost_keysDiffer trivial) result s' hrun _ hsent _ _ _ rfl
    exact hdistinct.mpr fun ho => hkeys u hu (hself ho).2

/-- Persons, each of whom may have others below. The relation is named like the table, and the key is declared as a column, as
it has to be for the relation. -/
def persons : Table := ⟨"Person", "personId", [⟨"personId", "int"⟩, ⟨"name", "varchar(64)"⟩, ⟨"Person", "Person[]"⟩], 0⟩

/-- A client that has declared persons; the database has no table yet. -/
def personsClient : Session :=
  ⟨{ Registry.empty with tables := [persons] }, ⟨⟨true, 0, ⟨[{ answer := .ok (.rows [] []) }], [], none⟩, []⟩, none, 1⟩⟩

/-- The client after a validation. -/
def personsReady : Session := ((Setting.runValidation (validation blogOptions)).runFrom personsClient).2

/-- A valid schema may have statements that name things twice: the tables of a selection, its aliases, the columns of a table
that is created, and those of a row. -/
theorem names_repeated :
    (Setting.runValidation (validation blogOptions)).runFrom personsClient =
      (.ok ⟨[.missingTable "Person"], []⟩, personsReady) ∧
    (personsReady.registry.planFor? "Person").map (·.sources) = some ["Person", "Person"] ∧
    (personsReady.registry.planFor? "Person").map (·.allColumns.map (·.label)) =
      some ["personId", "personId", "name", "Person_personId", "Person_personId", "Person_name"] ∧
    persons.columnDeclarations = .ok [("personId", "int"), ("personId", "int"), ("name", "varchar(64)")] ∧
    let entry : Value := .map [(.text "name", .text "Ada"), (.text "Person", .list [.map [(.text "name", .text "Eve")]])]
    sentSince personsReady ((insertRow blogOptions persons entry).runFrom personsReady).2 =
      [.nextKey "Person" "personId", .insert "Person" ["personId", "name"] ["1", "'Ada'"],
        .nextKey "Person" "personId", .insert "Person" ["personId", "name", "personId"] ["1", "'Eve'", "1"]] :=
  ⟨rfl, rfl, rfl, rfl, by decide +kernel⟩

end RelationMapper.Client
