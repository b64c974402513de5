import Mathlib.Data.List.Nodup
import RelationMapper.Proofs.Plan

/-!
# Names in statements

When the names in a statement are distinct: the tables that a selection reads from (`sources_nodup_iff`), the aliases under which
it answers columns (`labels_nodup_iff`) and the columns of a table that is created (`columnDeclarations_nodup_iff`).

The names of a well-formed schema are distinct as far as they are checked against each other. A table is not checked against its
own properties, and neither is its key: a relation may have the name of its table (`Table.HasRelation`), and a column that of the
key, which is then there twice (`Table.RepeatsKey`). Nothing else makes names meet.
-/

namespace RelationMapper

namespace Table

variable {t : Table} {tables : List Table} {source start : String} {columns : List ColumnPlan}

/-- A table has a property of the given name that is a column. -/
def DeclaresColumn (t : Table) (name : String) : Prop :=
  ∃ p ∈ t.properties, p.name = name ∧ ∃ spec, p.spec = .ok spec ∧ spec.isPrimitive = true

/-- A table has a property of the given name that is a relation. -/
def HasRelation (t : Table) (name : String) : Prop :=
  ∃ p ∈ t.properties, p.name = name ∧ ∃ spec, p.spec = .ok spec ∧ spec.isPrimitive = false

/-- A table declares a column under the name of its own key. -/
def RepeatsKey (t : Table) : Prop := t.DeclaresColumn t.key

/-- The planned columns beside the key are those that the table declares. -/
theorem mem_names_planColumns (h : t.planColumns source start = .ok columns) {name : String} :
    name ∈ columns.map (·.name) ↔ t.DeclaresColumn name := by
  constructor
  · intro hm
    obtain ⟨c, hc, rfl⟩ := List.mem_map.mp hm
    obtain ⟨-, p, hp, hn, spec, hs, hcol⟩ := mem_planColumns h hc
    exact ⟨p, hp, hn, spec, hs, by rw [TypeSpec.isPrimitive, hcol, Option.isSome_some]⟩
  · rintro ⟨p, hp, rfl, spec, hs, hb⟩
    obtain ⟨choose, hchoose, rfl⟩ := filterMapM_eq_ok.mp h
    obtain ⟨type, htype⟩ := Option.isSome_iff_exists.mp hb
    have hpc := hchoose p hp
    rw [hs, ok_bind, htype, pure_eq_ok] at hpc
    exact List.mem_map.mpr ⟨_, List.mem_filterMap.mpr ⟨p, hp, hpc.symm⟩, rfl⟩

/-- The names of the planned columns, the key's among them, are distinct unless the key is repeated. -/
theorem planColumns_nodup_iff (h : t.planColumns source start = .ok columns) (hd : t.Distinct) :
    ((t.planKey source start :: columns).map (·.name)).Nodup ↔ ¬t.RepeatsKey := by
  rw [List.map_cons, List.nodup_cons, mem_names_planColumns h]
  exact and_iff_left (hd.sublist (planColumns_names h))

/-- The declared columns of a table that is created, beside the key, are those that the table declares. -/
theorem columnDeclarations_eq_ok {declarations : List (String × String)} (h : t.columnDeclarations = .ok declarations) :
    ∃ columns, declarations = (t.key, ColumnType.int.name) :: columns ∧
      (columns.map (·.1)).Sublist (t.properties.map (·.name)) ∧ ∀ name, name ∈ columns.map (·.1) ↔ t.DeclaresColumn name := by
  obtain ⟨columns, hcolumns, h⟩ := bind_eq_ok.mp h
  cases pure_eq_ok.mp h
  obtain ⟨choose, hchoose, rfl⟩ := filterMapM_eq_ok.mp hcolumns
  have chosen : ∀ p ∈ t.properties, ∀ c, choose p = some c ↔
      (∃ spec, p.spec = .ok spec ∧ spec.isPrimitive = true) ∧ c = (p.name, p.declared) := by
    intro p hp c
    obtain ⟨spec, hs, hp⟩ := bind_eq_ok.mp (hchoose p hp)
    rw [pure_eq_ok] at hp
    rw [← hp, hs]
    simp only [Except.ok.injEq, exists_eq_left', Option.ite_none_right_eq_some, Option.some.injEq]
    exact and_congr_right' eq_comm
  refine ⟨_, rfl, map_filterMap_sublist fun p hp c hc => ?_, fun name => ?_⟩
  · rw [((chosen p hp c).mp hc).2]
  · simp only [List.mem_map, List.mem_filterMap]
    constructor
    · rintro ⟨c, ⟨p, hp, hc⟩, rfl⟩
      obtain ⟨hspec, rfl⟩ := (chosen p hp c).mp hc
      exact ⟨p, hp, rfl, hspec⟩
    · rintro ⟨p, hp, rfl, hspec⟩
      exact ⟨_, ⟨p, hp, (chosen p hp _).mpr ⟨hspec, rfl⟩⟩, rfl⟩

/-- The columns of a table that is created are distinct unless the key is repeated. -/
theorem columnDeclarations_nodup_iff (hd : t.Distinct) {declarations : List (String × String)}
    (h : t.columnDeclarations = .ok declarations) : (declarations.map (·.1)).Nodup ↔ ¬t.RepeatsKey := by
  obtain ⟨columns, rfl, hsub, hmem⟩ := columnDeclarations_eq_ok h
  rw [List.map_cons, List.nodup_cons, hmem]
  exact and_iff_left (hd.sublist hsub)

/-- A table of a well-formed schema can be created. -/
theorem columnDeclarations_exists (h : WellFormedSchema tables) (ht : t ∈ tables) :
    ∃ declarations, t.columnDeclarations = .ok declarations := by
  have columns : ∃ columns, t.properties.filterMapM (fun p => do
      return if (← p.spec).isPrimitive then some (p.name, p.declared) else none) = .ok columns := by
    refine filterMapM_exists fun p hp => ?_
    obtain ⟨spec, hs, -⟩ := h.types t ht p hp
    exact ⟨_, bind_eq_ok.mpr ⟨spec, hs, rfl⟩⟩
  obtain ⟨columns, hcolumns⟩ := columns
  exact ⟨_, bind_eq_ok.mpr ⟨columns, hcolumns, rfl⟩⟩

/-- A property that is no column is planned as a relation. -/
theorem exists_planRelation {plan : JoinPlan} (h : t.plan tables = .ok plan) {p : Property} (hp : p ∈ t.properties)
    {spec : TypeSpec} (hs : p.spec = .ok spec) (hb : spec.isPrimitive = false) :
    ∃ r ∈ plan.relations, t.planRelation tables p = .ok (some r) := by
  obtain ⟨relations, hrelations, h⟩ := bind_eq_ok.mp h
  obtain ⟨others, -, h⟩ := bind_eq_ok.mp h
  cases pure_eq_ok.mp h
  obtain ⟨choose, hchoose, rfl⟩ := filterMapM_eq_ok.mp hrelations
  have hplanned := hchoose p hp
  cases hc : choose p with
  | some r => exact ⟨r, List.mem_filterMap.mpr ⟨p, hp, hc⟩, hc ▸ hplanned⟩
  | none =>
    rw [hc, planRelation, hs] at hplanned
    obtain ⟨spec', hs', hplanned⟩ := bind_eq_ok.mp hplanned
    cases hs'
    rw [if_neg (by rw [hb]; exact Bool.false_ne_true)] at hplanned
    split at hplanned
    · obtain ⟨_, -, hplanned⟩ := bind_eq_ok.mp hplanned
      cases pure_eq_ok.mp hplanned
    · cases hplanned

end Table

/-- The names of the tables that a plan reads from: its table, and the related ones under the names of the relations. -/
def JoinPlan.sources (p : JoinPlan) : List String := p.table :: p.relations.map (·.label)

section

variable {t : Table} {tables : List Table} {plan : JoinPlan}

/-- A plan is for the table that it was made of. -/
theorem plan_table (h : t.plan tables = .ok plan) : plan.table = t.name := by
  obtain ⟨relations, -, h⟩ := bind_eq_ok.mp h
  obtain ⟨others, -, h⟩ := bind_eq_ok.mp h
  cases pure_eq_ok.mp h
  rfl

theorem plan_key (h : t.plan tables = .ok plan) : plan.key = t.key := by
  obtain ⟨relations, -, h⟩ := bind_eq_ok.mp h
  obtain ⟨others, -, h⟩ := bind_eq_ok.mp h
  cases pure_eq_ok.mp h
  rfl

/-- The relations of a plan have the names of those of the table. -/
theorem mem_labels_relations (h : t.plan tables = .ok plan) {name : String} :
    name ∈ plan.relations.map (·.label) ↔ t.HasRelation name := by
  constructor
  · intro hm
    obtain ⟨r, hr, rfl⟩ := List.mem_map.mp hm
    obtain ⟨q, hq, type, related, hpl⟩ := (plan_eq_ok h).2.2.2 r hr
    exact ⟨q, hq, hpl.property.symm, type, hpl.spec, hpl.notPrimitive⟩
  · rintro ⟨q, hq, rfl, spec, hs, hb⟩
    obtain ⟨r, hr, hqr⟩ := Table.exists_planRelation h hq hs hb
    obtain ⟨type, related, hpl⟩ := Table.planRelation_eq_some hqr
    exact List.mem_map.mpr ⟨r, hr, hpl.property⟩

/-- The tables that a selection reads from have distinct names unless a relation is named like its table. -/
theorem sources_nodup_iff (hd : t.Distinct) (h : t.plan tables = .ok plan) :
    plan.sources.Nodup ↔ ¬t.HasRelation t.name := by
  rw [JoinPlan.sources, List.nodup_cons, plan_table h, mem_labels_relations h]
  exact and_iff_left (hd.sublist (plan_eq_ok h).2.2.1)

/-- The columns that are selected for a relation: the related table is one of the schema, to which the table relates. -/
theorem relation_columns (h : WellFormedSchema tables) (hp : t.plan tables = .ok plan) {r : RelationPlan}
    (hr : r ∈ plan.relations) : ∃ q ∈ t.properties, ∃ u ∈ tables, t.RelatesTo u ∧ r.property = q.name ∧
      u.planColumns q.name (q.name ++ "_") = .ok r.otherColumns ∧
      r.columns = u.planKey q.name (q.name ++ "_") :: r.otherColumns := by
  obtain ⟨q, hq, type, u, hpl⟩ := (plan_eq_ok hp).2.2.2 r hr
  obtain ⟨hu, hn⟩ := (findTable?_eq_some h.names).mp hpl.found
  exact ⟨q, hq, u, hu, ⟨q, hq, type, hpl.spec, hpl.notPrimitive, hn.symm⟩, hpl.property, hpl.others,
    by rw [RelationPlan.columns, hpl.key]⟩

/-- A table of the schema to which a table relates is joined by one of its relations. -/
theorem exists_relation_columns (h : WellFormedSchema tables) (hp : t.plan tables = .ok plan) {u : Table} (hu : u ∈ tables)
    (hrelates : t.RelatesTo u) : ∃ r ∈ plan.relations, ∃ source start, u.planColumns source start = .ok r.otherColumns ∧
      r.columns = u.planKey source start :: r.otherColumns ∧ r.table = u.name := by
  obtain ⟨q, hq, spec, hs, hb, hn⟩ := hrelates
  obtain ⟨r, hr, hqr⟩ := Table.exists_planRelation hp hq hs hb
  obtain ⟨type, related, hpl⟩ := Table.planRelation_eq_some hqr
  cases hs.symm.trans hpl.spec
  have hsame : related = u := by
    have hfound := (findTable?_eq_some h.names).mpr ⟨hu, hn.symm⟩
    exact Option.some.inj (hpl.found.symm.trans hfound)
  subst hsame
  exact ⟨r, hr, _, _, hpl.others, by rw [RelationPlan.columns, hpl.key], hpl.table⟩

/-- Aliases are distinct unless the key of the table, or of a related one, is repeated. -/
theorem labels_nodup_iff (h : WellFormedSchema tables) (hd : ∀ u ∈ tables, u.Distinct) (ht : t ∈ tables)
    (hp : t.plan tables = .ok plan) :
    (plan.allColumns.map (·.label)).Nodup ↔ ¬t.RepeatsKey ∧ ∀ u ∈ tables, t.RelatesTo u → ¬u.RepeatsKey := by
  obtain ⟨hothers, hkey, hsub, -⟩ := plan_eq_ok hp
  have hcolumns : plan.columns = t.planKey t.name "" :: plan.otherColumns := by rw [JoinPlan.columns, hkey]
  have names {u : Table} (hu : u ∈ tables) {source start : String} {others : List ColumnPlan}
      (ho : u.planColumns source start = .ok others) (hl : ((u.planKey source start :: others).map (·.label)).Nodup) :
      ¬u.RepeatsKey := by
    refine (Table.planColumns_nodup_iff ho (hd u hu)).mp ?_
    have hlabels : (u.planKey source start :: others).map (·.label) =
        ((u.planKey source start :: others).map (·.name)).map (start ++ ·) := by
      rw [List.map_map]
      exact List.map_congr_left fun c hc => (Table.mem_columns ho (h.plain u hu) hc).1
    exact List.Nodup.of_map _ (hlabels ▸ hl)
  constructor
  · intro hl
    rw [JoinPlan.allColumns, List.map_append, List.map_flatMap] at hl
    obtain ⟨hown, hrelated, -⟩ := List.nodup_append.mp hl
    refine ⟨names ht hothers (hcolumns ▸ hown), fun u hu hrelates => ?_⟩
    obtain ⟨r, hr, source, start, ho, hrc, -⟩ := exists_relation_columns h hp hu hrelates
    exact names hu ho (hrc ▸ (List.nodup_flatMap.mp hrelated).1 r hr)
  · rintro ⟨hk, hrelated⟩
    refine labels_disjoint ?_ (fun c hc => ?_) ((hd t ht).sublist hsub) fun r hr => ?_
    · exact hcolumns ▸ (Table.planColumns_nodup_iff hothers (hd t ht)).mpr hk
    · have hl := Table.mem_columns hothers (h.plain t ht) (hcolumns ▸ hc)
      rwa [String.empty_append] at hl
    · obtain ⟨q, hq, u, hu, hrelates, hproperty, ho, hrc⟩ := relation_columns h hp hr
      rw [hrc, hproperty]
      exact ⟨(h.plain t ht).properties q hq, (Table.planColumns_nodup_iff ho (hd u hu)).mpr (hrelated u hu hrelates),
        fun c hc => Table.mem_columns ho (h.plain u hu) hc⟩

end

end RelationMapper
