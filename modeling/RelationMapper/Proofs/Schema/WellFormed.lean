import RelationMapper.Proofs.Except
import RelationMapper.Validation.Structure

/-!
# Well-formed schemas

What the four structural checks are there for, said without them. A schema is well-formed (`WellFormedSchema`) if its names
are plain, no two tables share a name or a key, no two tables declare each other's key, and every property is a column that
has a precision exactly if it is a `varchar`, or an array of records of a table of the schema that holds the owner's key as an
integer.

`checkStructure_eq_ok` says that the checks let pass exactly these schemas. Nothing in the definition refers to the order of
the tables (`WellFormedSchema.perm`), while the checks go through them in order, look tables up by name and stop at the first
violation.
-/

namespace RelationMapper

/-! ## Plain names -/

/-- A letter or digit of ASCII. -/
def IsPlainChar (c : Char) : Prop := ('0' ≤ c ∧ c ≤ '9') ∨ ('A' ≤ c ∧ c ≤ 'Z') ∨ ('a' ≤ c ∧ c ≤ 'z')

/-- A name of ASCII letters and digits, at least one. -/
def IsPlain (name : String) : Prop := name ≠ "" ∧ ∀ c ∈ name.toList, IsPlainChar c

theorem isAlphanum_iff (c : Char) : c.isAlphanum = true ↔ IsPlainChar c := by
  have between : ∀ lo hi : Char, (decide (c.val ≥ lo.val) && decide (c.val ≤ hi.val)) = true ↔ lo ≤ c ∧ c ≤ hi := by
    intro lo hi
    rw [Bool.and_eq_true, decide_eq_true_eq, decide_eq_true_eq]
    exact Iff.rfl
  have upper : c.isUpper = true ↔ 'A' ≤ c ∧ c ≤ 'Z' := decide_eq_true_iff
  have lower : c.isLower = true ↔ 'a' ≤ c ∧ c ≤ 'z' := between 'a' 'z'
  have digit : c.isDigit = true ↔ '0' ≤ c ∧ c ≤ '9' := between '0' '9'
  change ((c.isUpper || c.isLower) || c.isDigit) = true ↔ _
  rw [Bool.or_eq_true, Bool.or_eq_true, upper, lower, digit]
  exact or_comm

/-- The check of a name passes exactly the plain ones. -/
theorem isPlainName_iff (name : String) : isPlainName name = true ↔ IsPlain name := by
  simp only [isPlainName, Bool.and_eq_true, Bool.not_eq_true', String.isEmpty_eq_false_iff, List.all_eq_true,
    isAlphanum_iff, IsPlain]

/-! ## Tables of a schema -/

namespace Table

/-- No two properties of a table share a name. -/
def Distinct (t : Table) : Prop := (t.properties.map (·.name)).Nodup

/-- All names of a table are plain. -/
structure PlainlyNamed (t : Table) : Prop where
  name : IsPlain t.name
  key : IsPlain t.key
  properties : ∀ p ∈ t.properties, IsPlain p.name

/-- A table has a property of the given name. -/
def Declares (t : Table) (name : String) : Prop := ∃ p ∈ t.properties, p.name = name

/-- A table has a property of the given name that is an integer and no array. -/
def DeclaresInt (t : Table) (name : String) : Prop :=
  ∃ p ∈ t.properties, p.name = name ∧ ∃ spec, p.spec = .ok spec ∧ spec.base = ColumnType.int.name ∧ spec.isArray = false

/-- A table is declared with distinct properties or not at all. -/
theorem declare_distinct {name key : String} {number : Nat} {forms : List (Except Fault Property)} {t : Table}
    (h : Table.declare name key number forms = .ok t) : t.Distinct := by
  obtain ⟨properties, hp, ht⟩ := bind_eq_ok.mp h
  rw [← pure_eq_ok.mp ht]
  refine foldlM_invariant (fun ps => (ps.map Property.name).Nodup) ?_ List.nodup_nil hp
  intro declared form next hd hnext
  obtain ⟨p, -, hnext⟩ := bind_eq_ok.mp hnext
  obtain ⟨hnew, hnext⟩ := refuse_eq_ok.mp hnext
  rw [← pure_eq_ok.mp hnext, List.map_append, List.nodup_append]
  refine ⟨hd, List.pairwise_singleton _ _, fun a ha b hb hab => hnew ?_⟩
  obtain ⟨q, hq, rfl⟩ := List.mem_map.mp ha
  rw [List.map_singleton, List.mem_singleton] at hb
  exact List.any_eq_true.mpr ⟨q, hq, beq_iff_eq.mpr (hab.trans hb)⟩

end Table

/-- The types that a property of a table may have: a column is no array and has a precision exactly if it is a `varchar`; a
relation is an array without precision of a table that holds the owner's key. -/
inductive Supported (tables : List Table) (owner : Table) (spec : TypeSpec) : Prop where
  | column (type : ColumnType) : spec.columnType? = some type → spec.isArray = false →
      (spec.precision.isSome ↔ type = .varchar) → Supported tables owner spec
  | relation (related : Table) : spec.columnType? = none → spec.isArray = true → spec.precision = none →
      related ∈ tables → related.name = spec.base → related.DeclaresInt owner.key → Supported tables owner spec

/-- A schema whose tables can be used together. -/
structure WellFormedSchema (tables : List Table) : Prop where
  plain : ∀ t ∈ tables, t.PlainlyNamed
  names : (tables.map (·.name)).Nodup
  keys : (tables.map (·.key)).Nodup
  acyclic : ∀ a ∈ tables, ∀ b ∈ tables, a ≠ b → ¬(b.Declares a.key ∧ a.Declares b.key)
  types : ∀ t ∈ tables, ∀ p ∈ t.properties, ∃ spec, p.spec = .ok spec ∧ Supported tables t spec

/-- A type that is supported among some tables is supported among them in any order, and among more of them. -/
theorem Supported.mono {tables tables' : List Table} (h : tables ⊆ tables') {owner : Table} {spec : TypeSpec}
    (hs : Supported tables owner spec) : Supported tables' owner spec := by
  cases hs with
  | column type hc ha hp => exact .column type hc ha hp
  | relation related hc ha hp hm hn hd => exact .relation related hc ha hp (h hm) hn hd

/-- The order of the tables does not matter. -/
theorem WellFormedSchema.perm {tables tables' : List Table} (h : WellFormedSchema tables) (hp : tables.Perm tables') :
    WellFormedSchema tables' where
  plain t ht := h.plain t (hp.mem_iff.mpr ht)
  names := (hp.map _).nodup_iff.mp h.names
  keys := (hp.map _).nodup_iff.mp h.keys
  acyclic a ha b hb := h.acyclic a (hp.mem_iff.mpr ha) b (hp.mem_iff.mpr hb)
  types t ht p hpt := by
    obtain ⟨spec, hspec, hs⟩ := h.types t (hp.mem_iff.mpr ht) p hpt
    exact ⟨spec, hspec, hs.mono hp.subset⟩

/-! ## Looking up by name -/

/-- Where no two elements share a name, a lookup finds the one that has it. -/
theorem find?_eq_some_of_nodup {α : Type} {name : α → String} {xs : List α} (h : (xs.map name).Nodup) {s : String} {x : α} :
    xs.find? (name · == s) = some x ↔ x ∈ xs ∧ name x = s := by
  induction xs with
  | nil => simp
  | cons y ys ih =>
    rw [List.map_cons, List.nodup_cons] at h
    by_cases hy : name y = s
    · rw [List.find?_cons_of_pos (by simpa using hy), List.mem_cons]
      constructor
      · rintro ⟨⟩
        exact ⟨Or.inl rfl, hy⟩
      · rintro ⟨rfl | hx, hs⟩
        · rfl
        · exact absurd (List.mem_map.mpr ⟨x, hx, hs.trans hy.symm⟩) h.1
    · rw [List.find?_cons_of_neg (by simpa using hy), ih h.2, List.mem_cons]
      constructor
      · rintro ⟨hx, hs⟩
        exact ⟨Or.inr hx, hs⟩
      · rintro ⟨rfl | hx, hs⟩
        · exact absurd hs hy
        · exact ⟨hx, hs⟩

/-- Tables of distinct names are distinct. -/
theorem nodup_of_names {tables : List Table} (h : (tables.map (·.name)).Nodup) : tables.Nodup :=
  List.Pairwise.of_map (·.name) (fun _ _ hne he => hne (congrArg Table.name he)) h

/-- Where names differ, a table is found under a name exactly if it is there and has that name. -/
theorem findTable?_eq_some {tables : List Table} (h : (tables.map (·.name)).Nodup) {name : String} {t : Table} :
    findTable? tables name = some t ↔ t ∈ tables ∧ t.name = name :=
  find?_eq_some_of_nodup h

theorem Table.property?_eq_some {t : Table} (h : t.Distinct) {name : String} {p : Property} :
    t.property? name = some p ↔ p ∈ t.properties ∧ p.name = name :=
  find?_eq_some_of_nodup h

theorem Table.declares_iff (t : Table) (name : String) : t.declares name = true ↔ t.Declares name := by
  simp only [Table.declares, Table.property?, List.find?_isSome, beq_iff_eq, Table.Declares]

/-! ## A schema -/

/-- Users, who have posts. -/
def users : Table := ⟨"User", "userId", [⟨"name", "varchar(64)"⟩, ⟨"posts", "Post[]"⟩], 0⟩

/-- Posts of users. -/
def posts : Table := ⟨"Post", "postId", [⟨"title", "varchar(256)"⟩, ⟨"userId", "int"⟩], 1⟩

/-- Users and their posts. -/
def blog : List Table := [users, posts]

theorem users_mem_blog : users ∈ blog := List.mem_cons_self

theorem posts_mem_blog : posts ∈ blog := List.mem_cons_of_mem _ List.mem_cons_self

theorem blog_distinct : ∀ t ∈ blog, t.Distinct := by
  unfold Table.Distinct
  decide

theorem blog_keys_undeclared : ∀ t ∈ blog, ¬t.Declares t.key := by
  unfold Table.Declares
  decide

end RelationMapper
