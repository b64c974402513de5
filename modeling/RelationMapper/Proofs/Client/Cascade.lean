import RelationMapper.Client.Rows
import RelationMapper.Proofs.Entry
import RelationMapper.Proofs.Plan
import RelationMapper.Proofs.Validation

/-!
# From validation to deletion

Whoever deletes rows of a table goes on to the related rows: he takes the plan of the table, finds the related table of each
relation by its name, and makes a filter that asks for the owner's key there. The type of the property that holds this key is
read three times on the way, by the validation, by the plan and by the filter.

The main statement is `validated_cascades`: once a validation has reported, every table has a plan, every relation of it leads
to a table of the schema with an integer column for the owner's key (`RelationPlan.LeadsTo`), and the filter can be made for
every list of integer keys, except for keys that are too long to be written (`long_key_not_rendered`).
-/

namespace RelationMapper

open Client Number

variable {tables : List Table} {t related : Table}

/-- A relation of a plan leads to a table of the schema. It selects the key of this table first, and joins on the owner's key,
which is an integer column of the table, among those that the relation selects and among those of the table's own plan. -/
structure RelationPlan.LeadsTo (tables : List Table) (owner : Table) (r : RelationPlan) (related : Table) : Prop where
  found : findTable? tables r.table = some related
  mem : related ∈ tables
  key : r.key = related.key
  first : r.columns.head?.map (·.name) = some related.key
  foreignKey : r.foreignKey = owner.key
  selected : ∃ c ∈ r.otherColumns, c.name = r.foreignKey ∧ c.type = .int
  planned : ∃ plan, related.plan tables = .ok plan ∧ ∃ c ∈ plan.otherColumns, c.name = r.foreignKey ∧ c.type = .int

/-- Every relation of a plan in a well-formed schema leads to a table that holds the owner's key. -/
theorem leadsTo_of_mem (h : WellFormedSchema tables) (ht : t ∈ tables) {plan : JoinPlan} (hp : t.plan tables = .ok plan)
    {r : RelationPlan} (hr : r ∈ plan.relations) : ∃ related, r.LeadsTo tables t related ∧ related.DeclaresInt t.key := by
  obtain ⟨related, hm, hn, hi⟩ := relation_declaresInt h ht hp hr
  obtain ⟨q, -, hqr⟩ := planRelation_of_mem hp hr
  obtain ⟨type, related', others, -, -, hf, ho, rfl⟩ := Table.planRelation_inv hqr
  have hfound : findTable? tables related'.name = some related := (findTable?_eq_some h.names).mpr ⟨hm, hn⟩
  -- the table that was planned is the one that is found under its name
  obtain rfl : related' = related := by
    have hm' := ((findTable?_eq_some h.names).mp hf).1
    rw [(findTable?_eq_some h.names).mpr ⟨hm', rfl⟩] at hfound
    exact Option.some.inj hfound
  obtain ⟨own, hown⟩ := plan_exists h hm
  exact ⟨related', ⟨hfound, hm, rfl, rfl, rfl, Table.exists_mem_planColumns ho hi,
    own, hown, Table.exists_mem_planColumns (plan_eq_ok hown).1 hi⟩, hi⟩

/-! ## The filter for related rows -/

/-- An integer is written into an integer column as it is. -/
theorem checkedLiteral_int (quote name : String) (n : Int) : checkedLiteral quote name .int (.int n) = writeInt n := by
  rw [checkedLiteral, assertFits_int]
  rfl

/-- Integers are written one by one, unless one of them is too long. -/
theorem mapM_writeInt (keys : List Int) :
    keys.mapM writeInt =
      if ∃ key ∈ keys, isTooLong key = true then .error (.badValue .tooLongToWrite) else .ok (keys.map intText) := by
  induction keys with
  | nil => simp [pure, Except.pure]
  | cons key keys ih =>
    rw [List.mapM_cons, ih]
    cases hk : isTooLong key with
    | true => simp [writeInt, hk, bind, Except.bind]
    | false =>
      by_cases hrest : ∃ key ∈ keys, isTooLong key = true
      · simp [writeInt, hk, hrest, bind, Except.bind]
      · simp [writeInt, hk, hrest, bind, Except.bind, pure, Except.pure]

/-- The filter for the related rows of owners: no row is related if there are no owners, and otherwise the key of an owner has
to be among theirs. It cannot be made if one of the keys is too long to be written. -/
theorem renderFilter_ownedBy (hd : related.Distinct) (h : related.DeclaresInt t.key) (quote : String) (keys : List Int) :
    related.renderFilter quote (ownedBy t (keys.map .int)) =
      if ∃ key ∈ keys, isTooLong key = true then .error (.badValue .tooLongToWrite)
      else .ok (if keys = [] then none else some [.among related.name t.key (keys.map intText)]) := by
  obtain ⟨spec, hs, hcol, -⟩ := spec_of_declaresInt hd h
  have named : related.named (.text t.key) = .ok (t.key, spec) := Table.named_eq_ok.mpr ⟨rfl, hs⟩
  have literals : (keys.map Value.int).mapM (checkedLiteral quote t.key .int) = keys.mapM writeInt := by
    rw [List.mapM_map]
    simp only [Function.comp_def, checkedLiteral_int]
  change related.renderTests quote [(.text t.key, .list (keys.map .int))] = _
  rw [Table.renderTests, Table.renderTest, named, ok_bind]
  dsimp only
  rw [hcol]
  cases keys with
  | nil => simp [Value.items?, pure, Except.pure, bind, Except.bind]
  | cons key keys =>
    change ((List.map Value.int (key :: keys)).mapM (checkedLiteral quote t.key .int) >>= _) >>= _ = _
    rw [literals, mapM_writeInt]
    by_cases hlong : ∃ k ∈ key :: keys, isTooLong k = true
    · simp only [if_pos hlong]
      rfl
    · simp only [if_neg hlong]
      rfl

/-! ## The way from the one to the other -/

/-- What a validation has reported on can be planned and deleted from. Every table has a plan; every relation of the plan leads
to a table of the schema with an integer column for the key of the owner; and in either dialect the filter that asks this table
for the keys of any owners can be made, unless one of the keys is too long to be written. -/
theorem validated_cascades {σ : Type} {strict : Bool} {readColumns : String → Act σ (List ColumnInfo)} {s : σ}
    {report : Report} (hd : ∀ t ∈ tables, t.Distinct) (h : ((validate strict readColumns tables).runFrom s).1 = .ok report) :
    ∀ t ∈ tables, ∃ plan, t.plan tables = .ok plan ∧ ∀ relation ∈ plan.relations, ∃ related,
      relation.LeadsTo tables t related ∧ ∀ (dialect : Dialect) (keys : List Int),
        related.renderFilter dialect.quote (ownedBy t (keys.map .int)) =
          if ∃ key ∈ keys, isTooLong key = true then .error (.badValue .tooLongToWrite)
          else .ok (if keys = [] then none else some [.among related.name t.key (keys.map intText)]) := by
  have hwf := wellFormed_of_report hd h
  intro t ht
  obtain ⟨plan, hplan⟩ := plan_exists hwf ht
  refine ⟨plan, hplan, fun relation hrelation => ?_⟩
  obtain ⟨related, hleads, hi⟩ := leadsTo_of_mem hwf ht hplan hrelation
  exact ⟨related, hleads, fun dialect keys => renderFilter_ownedBy (hd related hleads.mem) hi dialect.quote keys⟩

/-- Users and posts pass a validation, and the posts of two users are found by their keys. -/
theorem validated_cascades_blog :
    (∀ t ∈ blog, t.Distinct) ∧
    ((validate true (fun _ => pure []) blog).runFrom ()).1 = .ok ⟨[.missingTable "User", .missingTable "Post"], []⟩ ∧
    ∃ user ∈ blog, ∃ plan, user.plan blog = .ok plan ∧ ∃ relation ∈ plan.relations, ∃ related,
      relation.LeadsTo blog user related ∧ related.renderFilter Dialect.sqlite.quote (ownedBy user [.int 1, .int (-20)]) =
        .ok (some [.among "Post" "userId" ["1", "-20"]]) := by
  have hreport := congrArg Prod.fst validate_blog
  refine ⟨blog_distinct, hreport, _, List.mem_cons_self, ?_⟩
  obtain ⟨plan, hplan, hrelations⟩ := validated_cascades blog_distinct hreport _ List.mem_cons_self
  cases hplan.symm.trans (rfl : _ = Except.ok _)
  refine ⟨_, hplan, _, List.mem_cons_self, ?_⟩
  obtain ⟨related, hleads, hfilter⟩ := hrelations _ List.mem_cons_self
  refine ⟨related, hleads, (hfilter .sqlite [1, -20]).trans ?_⟩
  cases hleads.found
  rfl

/-- The key of a user may be too long to be written; then his posts cannot be asked for. -/
theorem long_key_not_rendered :
    ((validate true (fun _ => pure []) blog).runFrom ()).1 = .ok ⟨[.missingTable "User", .missingTable "Post"], []⟩ ∧
    ∃ user ∈ blog, ∃ plan, user.plan blog = .ok plan ∧ ∃ relation ∈ plan.relations, ∃ related,
      relation.LeadsTo blog user related ∧
        related.renderFilter Dialect.sqlite.quote (ownedBy user [.int leastTooLong]) =
          .error (.badValue .tooLongToWrite) := by
  obtain ⟨plan, hplan⟩ := plan_exists blog_wellFormed List.mem_cons_self
  cases hplan.symm.trans (rfl : _ = Except.ok _)
  obtain ⟨related, hleads, hi⟩ := leadsTo_of_mem blog_wellFormed List.mem_cons_self hplan List.mem_cons_self
  have refused := renderFilter_ownedBy (blog_distinct related hleads.mem) hi Dialect.sqlite.quote [leastTooLong]
  rw [if_pos ⟨_, List.mem_cons_self, isTooLong_least⟩] at refused
  exact ⟨congrArg Prod.fst validate_blog, _, List.mem_cons_self, _, hplan, _, List.mem_cons_self, related, hleads, refused⟩

end RelationMapper
