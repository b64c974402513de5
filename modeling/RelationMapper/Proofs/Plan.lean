import Mathlib.Data.List.Basic
import RelationMapper.Plan
import RelationMapper.Proofs.Schema.WellFormed

/-!
# Plans can be read back

Every table of a well-formed schema has a join plan (`plan_exists`). The rows that a plan selects are unambiguous
(`JoinPlan.Readable`) where no table involved declares its own key as a property, since it would be selected twice:
`plan_readable`. The reason is in the names. Those of a table are distinct and plain, so the underscore in an alias tells where
the name of the relation ends and that of the column begins.
-/

namespace RelationMapper

/-- A plan under which every selected column has an alias of its own, and every field of a record a name of its own. Keys are
integers. -/
structure JoinPlan.Readable (p : JoinPlan) : Prop where
  key : p.keyColumn.type = .int
  relationKeys : ∀ r ∈ p.relations, r.keyColumn.type = .int
  names : (p.columns.map (·.name) ++ p.relations.map (·.property)).Nodup
  relationNames : ∀ r ∈ p.relations, (r.columns.map (·.name)).Nodup
  labels : (p.allColumns.map (·.label)).Nodup

/-- No two columns of a table or related table have one name, nor a column and a relation. -/
structure JoinPlan.Named (p : JoinPlan) : Prop where
  names : (p.columns.map (·.name) ++ p.relations.map (·.property)).Nodup
  relationNames : ∀ r ∈ p.relations, (r.columns.map (·.name)).Nodup

/-! ## What a plan consists of -/

/-- What is chosen from a list and carries a name of the list carries the names in the order of the list. -/
theorem map_filterMap_sublist {α β γ : Type} {xs : List α} {choose : α → Option β} {name : β → γ} {name' : α → γ}
    (h : ∀ x ∈ xs, ∀ y, choose x = some y → name y = name' x) :
    ((xs.filterMap choose).map name).Sublist (xs.map name') := by
  induction xs with
  | nil => exact List.Sublist.refl _
  | cons x xs ih =>
    rw [List.forall_mem_cons] at h
    rw [List.filterMap_cons, List.map_cons]
    cases hx : choose x with
    | none => exact (ih h.2).cons _
    | some y =>
      rw [List.map_cons, h.1 y hx]
      exact (ih h.2).cons_cons _

namespace Table

variable {t : Table} {tables : List Table} {source start : String}

/-- The declared columns that are planned: each is a property with a column type. -/
theorem mem_planColumns {columns : List ColumnPlan} (h : t.planColumns source start = .ok columns) {c : ColumnPlan}
    (hc : c ∈ columns) :
    c.label = start ++ c.name ∧ ∃ p ∈ t.properties, p.name = c.name ∧
      ∃ spec, p.spec = .ok spec ∧ spec.columnType? = some c.type := by
  obtain ⟨choose, hchoose, rfl⟩ := filterMapM_eq_ok.mp h
  obtain ⟨p, hp, hpc⟩ := List.mem_filterMap.mp hc
  obtain ⟨spec, hs, hcs⟩ := bind_eq_ok.mp (hchoose p hp)
  rw [pure_eq_ok, hpc] at hcs
  obtain ⟨type, ht, rfl⟩ := Option.map_eq_some_iff.mp hcs
  exact ⟨rfl, p, hp, rfl, spec, hs, ht⟩

/-- All planned columns of a table are read from one source. -/
theorem source_planColumns {columns : List ColumnPlan} (h : t.planColumns source start = .ok columns) {c : ColumnPlan}
    (hc : c ∈ columns) : c.source = source := by
  obtain ⟨choose, hchoose, rfl⟩ := filterMapM_eq_ok.mp h
  obtain ⟨p, hp, hpc⟩ := List.mem_filterMap.mp hc
  obtain ⟨spec, -, hcs⟩ := bind_eq_ok.mp (hchoose p hp)
  rw [pure_eq_ok, hpc] at hcs
  obtain ⟨type, -, rfl⟩ := Option.map_eq_some_iff.mp hcs
  rfl

/-- Columns are planned in the order in which they are declared. -/
theorem planColumns_names {columns : List ColumnPlan} (h : t.planColumns source start = .ok columns) :
    (columns.map (·.name)).Sublist (t.properties.map (·.name)) := by
  obtain ⟨choose, hchoose, rfl⟩ := filterMapM_eq_ok.mp h
  refine map_filterMap_sublist fun p hp c hc => ?_
  obtain ⟨spec, -, hcs⟩ := bind_eq_ok.mp (hchoose p hp)
  rw [pure_eq_ok, hc] at hcs
  obtain ⟨type, -, rfl⟩ := Option.map_eq_some_iff.mp hcs
  rfl

/-- Where the types of a table can be read, its columns can be planned. -/
theorem planColumns_exists (h : ∀ p ∈ t.properties, ∃ spec, p.spec = .ok spec) (source start : String) :
    ∃ columns, t.planColumns source start = .ok columns := by
  refine filterMapM_exists fun p hp => ?_
  obtain ⟨spec, hs⟩ := h p hp
  exact ⟨_, bind_eq_ok.mpr ⟨spec, hs, rfl⟩⟩

/-- An integer property is planned as an integer column. -/
theorem exists_mem_planColumns {columns : List ColumnPlan} (h : t.planColumns source start = .ok columns) {name : String}
    (hi : t.DeclaresInt name) : ∃ c ∈ columns, c.name = name ∧ c.type = .int := by
  obtain ⟨choose, hchoose, rfl⟩ := filterMapM_eq_ok.mp h
  obtain ⟨p, hp, rfl, spec, hs, hb, -⟩ := hi
  have hcol : spec.columnType? = some .int := by
    rw [TypeSpec.columnType?, hb]
    exact ColumnType.ofName?_name .int
  have hpc := hchoose p hp
  rw [hs, ok_bind, hcol, pure_eq_ok] at hpc
  exact ⟨_, List.mem_filterMap.mpr ⟨p, hp, hpc.symm⟩, rfl, rfl⟩

/-- The names of the columns of a table that does not declare its own key are distinct, the key's among them. -/
theorem planColumns_nodup {columns : List ColumnPlan} (h : t.planColumns source start = .ok columns) (hd : t.Distinct)
    (hk : ¬t.Declares t.key) : ((t.planKey source start :: columns).map (·.name)).Nodup := by
  rw [List.map_cons, List.nodup_cons]
  refine ⟨fun hm => hk ?_, hd.sublist (planColumns_names h)⟩
  obtain ⟨p, hp, hn⟩ := List.mem_map.mp ((planColumns_names h).subset hm)
  exact ⟨p, hp, hn⟩

/-- A relation that is planned is a property that names a table, and joins that table's columns. -/
structure PlansRelation (tables : List Table) (p : Property) (r : RelationPlan) (type : TypeSpec) (related : Table) :
    Prop where
  spec : p.spec = .ok type
  notPrimitive : type.isPrimitive = false
  found : findTable? tables type.base = some related
  property : r.property = p.name
  table : r.table = related.name
  key : r.keyColumn = related.planKey p.name (p.name ++ "_")
  others : related.planColumns p.name (p.name ++ "_") = .ok r.otherColumns

/-- A property has a planned relation only if it names a table; the relation joins that table on the key of the owner. -/
theorem planRelation_inv {p : Property} {r : RelationPlan} (h : t.planRelation tables p = .ok (some r)) :
    ∃ type related others, p.spec = .ok type ∧ type.isPrimitive = false ∧ findTable? tables type.base = some related ∧
      related.planColumns p.name (p.name ++ "_") = .ok others ∧
      r = ⟨p.name, related.name, related.key, t.key, related.planKey p.name (p.name ++ "_"), others⟩ := by
  obtain ⟨spec, hs, h⟩ := bind_eq_ok.mp h
  rw [mapError_eq_ok] at hs
  cases hb : spec.isPrimitive with
  | true =>
    rw [if_pos hb] at h
    cases pure_eq_ok.mp h
  | false =>
    rw [if_neg (by rw [hb]; exact Bool.false_ne_true)] at h
    cases hf : findTable? tables spec.base with
    | none =>
      rw [hf] at h
      cases h
    | some related =>
      cases ha : spec.isArray with
      | false =>
        rw [hf, ha] at h
        cases h
      | true =>
        rw [hf, ha] at h
        obtain ⟨others, ho, h⟩ := bind_eq_ok.mp h
        cases pure_eq_ok.mp h
        exact ⟨spec, related, others, hs, hb, hf, mapError_eq_ok.mp ho, rfl⟩

theorem planRelation_eq_some {p : Property} {r : RelationPlan} (h : t.planRelation tables p = .ok (some r)) :
    ∃ type related, PlansRelation tables p r type related := by
  obtain ⟨type, related, others, hs, hb, hf, ho, rfl⟩ := planRelation_inv h
  exact ⟨type, related, hs, hb, hf, rfl, rfl, rfl, ho⟩

/-- A table relates to another if one of its properties is declared as an array of it. -/
def RelatesTo (t related : Table) : Prop :=
  ∃ p ∈ t.properties, ∃ spec, p.spec = .ok spec ∧ spec.isPrimitive = false ∧ spec.base = related.name

end Table

/-! ## Plans of well-formed schemas -/

section

variable {t : Table} {tables : List Table}

/-- Every table of a well-formed schema has a plan. -/
theorem plan_exists (h : WellFormedSchema tables) (ht : t ∈ tables) : ∃ p, t.plan tables = .ok p := by
  have columns : ∀ u ∈ tables, ∀ source start : String, ∃ columns, u.planColumns source start = .ok columns := by
    intro u hu
    refine Table.planColumns_exists fun p hp => ?_
    obtain ⟨spec, hs, -⟩ := h.types u hu p hp
    exact ⟨spec, hs⟩
  have relations : ∃ rs, t.properties.filterMapM (t.planRelation tables) = .ok rs := by
    refine filterMapM_exists fun p hp => ?_
    obtain ⟨spec, hs, hsup⟩ := h.types t ht p hp
    have hs' : p.spec.mapError Fault.declaration = .ok spec := mapError_eq_ok.mpr hs
    cases hsup with
    | column type hc _ _ =>
      have hb : spec.isPrimitive = true := by rw [TypeSpec.isPrimitive, hc, Option.isSome_some]
      exact ⟨none, bind_eq_ok.mpr ⟨spec, hs', by rw [if_pos hb]; rfl⟩⟩
    | relation related hc ha _ hm hn _ =>
      have hb : ¬spec.isPrimitive = true := by rw [TypeSpec.isPrimitive, hc]; exact Bool.false_ne_true
      have hf : findTable? tables spec.base = some related := (findTable?_eq_some h.names).mpr ⟨hm, hn⟩
      obtain ⟨others, ho⟩ := columns related hm p.name (p.name ++ "_")
      refine ⟨some ⟨p.name, related.name, related.key, t.key, related.planKey p.name (p.name ++ "_"), others⟩,
        bind_eq_ok.mpr ⟨spec, hs', ?_⟩⟩
      rw [if_neg hb, hf, ha]
      exact bind_eq_ok.mpr ⟨others, mapError_eq_ok.mpr ho, rfl⟩
  obtain ⟨rs, hrs⟩ := relations
  obtain ⟨others, ho⟩ := columns t ht t.name ""
  exact ⟨_, bind_eq_ok.mpr ⟨rs, hrs, bind_eq_ok.mpr ⟨others, mapError_eq_ok.mpr ho, rfl⟩⟩⟩

/-- Each relation of a plan is planned for a property. -/
theorem planRelation_of_mem {p : JoinPlan} (h : t.plan tables = .ok p) {r : RelationPlan} (hr : r ∈ p.relations) :
    ∃ q ∈ t.properties, t.planRelation tables q = .ok (some r) := by
  obtain ⟨relations, hrel, h⟩ := bind_eq_ok.mp h
  obtain ⟨others, -, h⟩ := bind_eq_ok.mp h
  cases pure_eq_ok.mp h
  obtain ⟨choose, hchoose, rfl⟩ := filterMapM_eq_ok.mp hrel
  obtain ⟨q, hq, hqr⟩ := List.mem_filterMap.mp hr
  exact ⟨q, hq, hqr ▸ hchoose q hq⟩

/-- The parts of a plan: columns of the table, and relations that are properties of it. -/
theorem plan_eq_ok {p : JoinPlan} (h : t.plan tables = .ok p) :
    t.planColumns t.name "" = .ok p.otherColumns ∧ p.keyColumn = t.planKey t.name "" ∧
      (p.relations.map (·.property)).Sublist (t.properties.map (·.name)) ∧
      ∀ r ∈ p.relations, ∃ q ∈ t.properties, ∃ type related, Table.PlansRelation tables q r type related := by
  have planned (r : RelationPlan) (hr : r ∈ p.relations) :
      ∃ q ∈ t.properties, ∃ type related, Table.PlansRelation tables q r type related := by
    obtain ⟨q, hq, hqr⟩ := planRelation_of_mem h hr
    exact ⟨q, hq, Table.planRelation_eq_some hqr⟩
  obtain ⟨relations, hr, h⟩ := bind_eq_ok.mp h
  obtain ⟨others, ho, h⟩ := bind_eq_ok.mp h
  cases pure_eq_ok.mp h
  obtain ⟨choose, hchoose, rfl⟩ := filterMapM_eq_ok.mp hr
  refine ⟨mapError_eq_ok.mp ho, rfl, map_filterMap_sublist fun q hq r hqr => ?_, planned⟩
  obtain ⟨type, related, hp⟩ := Table.planRelation_eq_some (hqr ▸ hchoose q hq)
  exact hp.property

/-- A relation of a plan joins a table of the schema that holds the owner's key. -/
theorem relation_declaresInt (h : WellFormedSchema tables) (ht : t ∈ tables) {p : JoinPlan} (hp : t.plan tables = .ok p)
    {r : RelationPlan} (hr : r ∈ p.relations) : ∃ related ∈ tables, related.name = r.table ∧ related.DeclaresInt t.key := by
  obtain ⟨q, hq, type, related, hpl⟩ := (plan_eq_ok hp).2.2.2 r hr
  have hfound := (findTable?_eq_some h.names).mp hpl.found
  obtain ⟨spec, hs, hsup⟩ := h.types t ht q hq
  rw [hpl.spec] at hs
  cases hs
  cases hsup with
  | column column hc _ _ =>
    have hb := hpl.notPrimitive
    rw [TypeSpec.isPrimitive, hc] at hb
    cases hb
  | relation related' _ _ _ hm hn hd =>
    have hsame : related' = related := by
      have hf := (findTable?_eq_some h.names).mpr ⟨hm, hn⟩
      rw [hpl.found] at hf
      exact (Option.some.inj hf).symm
    exact ⟨related, hfound.1, hpl.table.symm, hsame ▸ hd⟩

/-! ## Aliases -/

/-- A plain name has no underscore. -/
theorem IsPlain.no_underscore {name : String} (h : IsPlain name) : '_' ∉ name.toList := by
  intro hm
  have hp : ¬IsPlainChar '_' := by
    unfold IsPlainChar
    decide
  exact hp (h.2 _ hm)

/-- The underscore of an alias stands between the relation and the column. -/
theorem alias_injective {a a' b b' : String} (ha : IsPlain a) (hb : IsPlain b) (h : a ++ "_" ++ b = a' ++ "_" ++ b') :
    a = a' ∧ b = b' := by
  have hl : a.toList ++ '_' :: b.toList = a'.toList ++ '_' :: b'.toList := by
    simpa using congrArg String.toList h
  obtain ⟨hl, -, hr⟩ := (List.append_cons_inj_of_notMem ha.no_underscore hb.no_underscore).mp hl
  exact ⟨String.toList_inj.mp hl, String.toList_inj.mp hr⟩

/-- No plain name is an alias of a related column. -/
theorem alias_not_plain {name : String} (a b : String) (h : IsPlain name) : name ≠ a ++ "_" ++ b := by
  intro he
  refine h.no_underscore ?_
  rw [he]
  simp

/-- A column is answered under its name, which is plain, after the start that the columns of its table have. -/
theorem Table.mem_columns {source start : String} {others : List ColumnPlan} (h : t.planColumns source start = .ok others)
    (hp : t.PlainlyNamed) {c : ColumnPlan} (hc : c ∈ t.planKey source start :: others) :
    c.label = start ++ c.name ∧ IsPlain c.name := by
  rcases List.mem_cons.mp hc with rfl | hc
  · exact ⟨rfl, hp.key⟩
  · obtain ⟨hl, q, hq, hn, -⟩ := Table.mem_planColumns h hc
    exact ⟨hl, hn ▸ hp.properties q hq⟩

/-- Aliases of columns of one table differ where the names do. -/
theorem labels_nodup {columns : List ColumnPlan} {start : String} (hn : (columns.map (·.name)).Nodup)
    (hl : ∀ c ∈ columns, c.label = start ++ c.name) : (columns.map (·.label)).Nodup := by
  have hm : columns.map (·.label) = (columns.map (·.name)).map (start ++ ·) := by
    rw [List.map_map]
    exact List.map_congr_left hl
  rw [hm, List.Nodup, List.pairwise_map]
  exact List.Pairwise.imp (fun hne he => hne (String.append_right_inj start |>.mp he)) hn

/-- No column of a table has the name of a relation of it: a property is the one or the other. -/
theorem column_ne_relation {others : List ColumnPlan} (hd : t.Distinct) (hk : ¬t.Declares t.key)
    (h : t.planColumns t.name "" = .ok others) {c : ColumnPlan} (hc : c ∈ t.planKey t.name "" :: others) {q : Property}
    (hq : q ∈ t.properties) {r : RelationPlan} {type : TypeSpec} {related : Table}
    (hr : Table.PlansRelation tables q r type related) : c.name ≠ r.property := by
  intro he
  rw [hr.property] at he
  rcases List.mem_cons.mp hc with rfl | hc
  · exact hk ⟨q, hq, he.symm⟩
  · obtain ⟨-, q', hq', hn, spec, hs, hcol⟩ := Table.mem_planColumns h hc
    have hfind : t.property? q.name = some q' := (Table.property?_eq_some hd).mpr ⟨hq', hn.trans he⟩
    have hsame : q' = q := Option.some.inj (hfind.symm.trans ((Table.property?_eq_some hd).mpr ⟨hq, rfl⟩))
    rw [hsame, hr.spec] at hs
    have hb := hr.notPrimitive
    rw [Except.ok.inj hs, TypeSpec.isPrimitive, hcol] at hb
    cases hb

/-- The aliases of own columns and those of related ones are all different. -/
theorem labels_disjoint {own : List ColumnPlan} {relations : List RelationPlan}
    (hown : (own.map (·.name)).Nodup) (hplain : ∀ c ∈ own, c.label = c.name ∧ IsPlain c.name)
    (hproperties : (relations.map (·.property)).Nodup)
    (hrelations : ∀ r ∈ relations, IsPlain r.property ∧ (r.columns.map (·.name)).Nodup ∧
      ∀ c ∈ r.columns, c.label = r.property ++ "_" ++ c.name ∧ IsPlain c.name) :
    ((own ++ relations.flatMap (·.columns)).map (·.label)).Nodup := by
  rw [List.map_append, List.map_flatMap]
  refine List.nodup_append.mpr ⟨?_, List.pairwise_flatMap.mpr ⟨?_, ?_⟩, ?_⟩
  · exact labels_nodup hown fun c hc => by rw [(hplain c hc).1, String.empty_append]
  · intro r hr
    exact labels_nodup (hrelations r hr).2.1 fun c hc => ((hrelations r hr).2.2 c hc).1
  · refine List.Pairwise.imp_of_mem (fun {r r'} hr hr' hne x hx y hy he => ?_) (List.pairwise_map.mp hproperties)
    obtain ⟨c, hc, rfl⟩ := List.mem_map.mp hx
    obtain ⟨c', hc', rfl⟩ := List.mem_map.mp hy
    have hl := (hrelations r hr).2.2 c hc
    rw [hl.1, ((hrelations r' hr').2.2 c' hc').1] at he
    exact hne (alias_injective (hrelations r hr).1 hl.2 he).1
  · intro a ha b hb hab
    obtain ⟨c, hc, rfl⟩ := List.mem_map.mp ha
    obtain ⟨r, hr, hb⟩ := List.mem_flatMap.mp hb
    obtain ⟨c', hc', rfl⟩ := List.mem_map.mp hb
    rw [(hplain c hc).1, ((hrelations r hr).2.2 c' hc').1] at hab
    exact alias_not_plain _ _ (hplain c hc).2 hab

/-- No two columns of a table or related table have one name, nor a column and a relation, unless the table or a related one
declares its own key as a property. -/
theorem plan_named {p : JoinPlan} (hd : ∀ u ∈ t :: tables, u.Distinct) (hk : ¬t.Declares t.key)
    (hr : ∀ u, findTable? tables u.name = some u → t.RelatesTo u → ¬u.Declares u.key) (hp : t.plan tables = .ok p) :
    p.Named := by
  obtain ⟨hothers, hkey, hsub, hrel⟩ := plan_eq_ok hp
  rw [List.forall_mem_cons] at hd
  have hcolumns : p.columns = t.planKey t.name "" :: p.otherColumns := by rw [JoinPlan.columns, hkey]
  refine ⟨List.nodup_append.mpr ⟨?_, hd.1.sublist hsub, fun a ha b hb => ?_⟩, fun r hmem => ?_⟩
  · exact hcolumns ▸ Table.planColumns_nodup hothers hd.1 hk
  · obtain ⟨c, hc, rfl⟩ := List.mem_map.mp ha
    obtain ⟨r, hmem, rfl⟩ := List.mem_map.mp hb
    obtain ⟨q, hq, type, u, hpl⟩ := hrel r hmem
    exact column_ne_relation hd.1 hk hothers (hcolumns ▸ hc) hq hpl
  · obtain ⟨q, hq, type, u, hpl⟩ := hrel r hmem
    have hname : u.name = type.base := by simpa using List.find?_some hpl.found
    have hku := hr u (hname ▸ hpl.found) ⟨q, hq, type, hpl.spec, hpl.notPrimitive, hname.symm⟩
    rw [RelationPlan.columns, hpl.key]
    exact Table.planColumns_nodup hpl.others (hd.2 u (List.mem_of_find?_eq_some hpl.found)) hku

/-- The rows that a plan of a well-formed schema selects can be read back, unless the table or a related one declares its own
key as a property. -/
theorem plan_readable {p : JoinPlan} (h : WellFormedSchema tables) (hd : ∀ u ∈ tables, u.Distinct) (ht : t ∈ tables)
    (hk : ¬t.Declares t.key) (hr : ∀ u ∈ tables, t.RelatesTo u → ¬u.Declares u.key) (hp : t.plan tables = .ok p) :
    p.Readable := by
  obtain ⟨hothers, hkey, -, hrel⟩ := plan_eq_ok hp
  have hcolumns : p.columns = t.planKey t.name "" :: p.otherColumns := by rw [JoinPlan.columns, hkey]
  have hnamed : p.Named := by
    refine plan_named (List.forall_mem_cons.mpr ⟨hd t ht, hd⟩) hk (fun u hu => ?_) hp
    exact hr u (List.mem_of_find?_eq_some hu)
  have relationColumns : ∀ r ∈ p.relations, IsPlain r.property ∧ (r.columns.map (·.name)).Nodup ∧
      ∀ c ∈ r.columns, c.label = r.property ++ "_" ++ c.name ∧ IsPlain c.name := by
    intro r hmem
    obtain ⟨q, hq, type, u, hpl⟩ := hrel r hmem
    have hu : u ∈ tables := List.mem_of_find?_eq_some hpl.found
    have hc : r.columns = u.planKey q.name (q.name ++ "_") :: r.otherColumns := by rw [RelationPlan.columns, hpl.key]
    refine ⟨hpl.property ▸ (h.plain t ht).properties q hq, hnamed.relationNames r hmem, fun c hcm => ?_⟩
    rw [hpl.property]
    exact Table.mem_columns hpl.others (h.plain u hu) (hc ▸ hcm)
  have hnames := List.nodup_append.mp hnamed.names
  refine ⟨by rw [hkey]; rfl, fun r hmem => ?_, hnamed.names, hnamed.relationNames, ?_⟩
  · obtain ⟨q, -, type, u, hpl⟩ := hrel r hmem
    rw [hpl.key]
    rfl
  · refine labels_disjoint hnames.1 (fun c hc => ?_) hnames.2.1 relationColumns
    have hl := Table.mem_columns hothers (h.plain t ht) (hcolumns ▸ hc)
    rwa [String.empty_append] at hl

end

end RelationMapper
