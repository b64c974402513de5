import RelationMapper.Proofs.Schema.WellFormed

/-!
# What the structural checks let pass

One lemma for each of the four checks says which schemas it lets pass; `checkStructure_eq_ok` puts them together. The check of
names comes first but the later ones do not rest on it. The check of cycles compares tables by their places and the check of
types finds tables by name; both say what they should because the check of duplicates stands before them.
-/

namespace RelationMapper

namespace Table

/-- The check of names lets pass plain names. -/
theorem checkNames_eq_ok (t : Table) : t.checkNames = .ok () ↔ t.PlainlyNamed := by
  have hp : ∀ p : Property, (if isPlainName p.name = true then Except.ok () else .error (SchemaFlaw.propertyName p.name)) =
      .ok () ↔ IsPlain p.name := by
    intro p
    rw [← isPlainName_iff]
    split <;> simp_all
  simp only [checkNames, refuse_eq_ok, forM_eq_ok, Bool.not_eq_true', Bool.not_eq_false, isPlainName_iff, hp]
  exact ⟨fun ⟨h1, h2, h3⟩ => ⟨h1, h2, h3⟩, fun ⟨h1, h2, h3⟩ => ⟨h1, h2, h3⟩⟩

/-- The check of a pair lets pass two tables that do not declare each other's key. -/
theorem checkCycle_eq_ok (owner dependent : Table) :
    checkCycle owner dependent = .ok () ↔ ¬(dependent.Declares owner.key ∧ owner.Declares dependent.key) := by
  simp only [checkCycle, Bool.and_eq_true, declares_iff, ite_error_eq_ok, and_true]

end Table

/-- The check of duplicates lets pass names and keys that are new each. -/
theorem checkDuplicates_eq_ok {names keys : List String} {tables : List Table} :
    checkDuplicates names keys tables = .ok () ↔
      (tables.map (·.name)).Nodup ∧ (tables.map (·.key)).Nodup ∧ ∀ t ∈ tables, t.name ∉ names ∧ t.key ∉ keys := by
  induction tables generalizing names keys with
  | nil => simp [checkDuplicates]
  | cons t rest ih =>
    rw [List.map_cons, List.map_cons, List.nodup_cons, List.nodup_cons, List.forall_mem_cons]
    simp only [checkDuplicates, ite_error_eq_ok, List.contains_iff_mem, ih, List.mem_cons, not_or, List.mem_map,
      not_exists, not_and]
    constructor
    · rintro ⟨hn, hk, h1, h2, h3⟩
      exact ⟨⟨fun u hu => (h3 u hu).1.1, h1⟩, ⟨fun u hu => (h3 u hu).2.1, h2⟩, ⟨hn, hk⟩,
        fun u hu => ⟨(h3 u hu).1.2, (h3 u hu).2.2⟩⟩
    · rintro ⟨⟨h1, h2⟩, ⟨h3, h4⟩, ⟨hn, hk⟩, h5⟩
      exact ⟨hn, hk, h2, h4, fun u hu => ⟨⟨h1 u hu, (h5 u hu).1⟩, h3 u hu, (h5 u hu).2⟩⟩

/-- Where no table occurs twice, the check of cycles compares each table with all the others. -/
theorem checkCycles_eq_ok {earlier tables : List Table} (h : (earlier ++ tables).Nodup) :
    checkCycles earlier tables = .ok () ↔
      ∀ owner ∈ tables, ∀ dependent ∈ earlier ++ tables, owner ≠ dependent → owner.checkCycle dependent = .ok () := by
  induction tables generalizing earlier with
  | nil => simp [checkCycles]
  | cons owner later ih =>
    have hassoc : earlier ++ owner :: later = earlier ++ [owner] ++ later := by simp
    -- the owner has no place beside its own, so the others are the tables that differ from it
    have others : ∀ d, d ∈ earlier ++ later ↔ d ∈ earlier ++ owner :: later ∧ owner ≠ d := by
      intro d
      have hn := List.nodup_cons.mp (List.perm_middle.nodup_iff.mp h)
      rw [List.perm_middle.mem_iff, List.mem_cons]
      constructor
      · intro hd
        exact ⟨Or.inr hd, fun he => hn.1 (he ▸ hd)⟩
      · rintro ⟨rfl | hd, hne⟩
        · exact absurd rfl hne
        · exact hd
    rw [checkCycles, bind_eq_ok, List.forall_mem_cons]
    simp only [forM_eq_ok]
    rw [ih (hassoc ▸ h), ← hassoc]
    constructor
    · rintro ⟨-, h1, h2⟩
      exact ⟨fun d hd hne => h1 d ((others d).mpr ⟨hd, hne⟩), h2⟩
    · rintro ⟨h1, h2⟩
      exact ⟨(), fun d hd => h1 d ((others d).mp hd).1 ((others d).mp hd).2, h2⟩

/-! ## Types of properties -/

namespace Table

/-- A column has nothing wrong with it if it is no array and has a precision exactly if it is a `varchar`. -/
theorem columnFlaw?_eq_none (spec : TypeSpec) (column : ColumnType) :
    columnFlaw? spec column = none ↔ spec.isArray = false ∧ (spec.precision.isSome ↔ column = .varchar) := by
  simp only [columnFlaw?, Bool.and_eq_true, decide_eq_true_eq, Option.isNone_iff_eq_none, ne_eq]
  by_cases hc : column = .varchar
  · subst hc
    cases spec.precision <;> cases spec.isArray <;> simp
  · cases spec.precision <;> cases spec.isArray <;> simp [hc]

/-- The lookup of an integer property finds it if there is one. -/
theorem declaresInt_eq_ok_true {t : Table} (h : t.Distinct) (name : String) :
    t.declaresInt name = .ok true ↔ t.DeclaresInt name := by
  unfold declaresInt
  cases hp : t.property? name with
  | none =>
    simp only [Except.ok.injEq, Bool.false_eq_true, false_iff]
    rintro ⟨p, hm, hn, -⟩
    rw [(property?_eq_some h).mpr ⟨hm, hn⟩] at hp
    cases hp
  | some p =>
    have hm := (property?_eq_some h).mp hp
    -- of the properties only this one has the name
    have only : t.DeclaresInt name ↔
        ∃ spec, p.spec = .ok spec ∧ spec.base = ColumnType.int.name ∧ spec.isArray = false := by
      constructor
      · rintro ⟨q, hq, hn, hs⟩
        rw [(property?_eq_some h).mpr ⟨hq, hn⟩] at hp
        exact Option.some.inj hp ▸ hs
      · intro hs
        exact ⟨p, hm.1, hm.2, hs⟩
    rw [only]
    dsimp only
    cases hs : p.spec with
    | ok spec => simp
    | error e => cases e <;> simp

/-- A relation has nothing wrong with it if it is an array without precision of a table that holds the owner's key. -/
theorem relationFlaw?_eq_ok_none {tables : List Table} (hn : (tables.map (·.name)).Nodup)
    (hd : ∀ t ∈ tables, t.Distinct) (t : Table) (spec : TypeSpec) :
    t.relationFlaw? tables spec = .ok none ↔
      ∃ related ∈ tables, related.name = spec.base ∧ spec.precision = none ∧ spec.isArray = true ∧
        related.DeclaresInt t.key := by
  unfold relationFlaw?
  cases hf : findTable? tables spec.base with
  | none =>
    simp only [pure_eq_ok, reduceCtorEq, false_iff]
    rintro ⟨related, hm, hb, -⟩
    rw [(findTable?_eq_some hn).mpr ⟨hm, hb⟩] at hf
    cases hf
  | some related =>
    have hm := (findTable?_eq_some hn).mp hf
    have only : (∃ r ∈ tables, r.name = spec.base ∧ spec.precision = none ∧ spec.isArray = true ∧ r.DeclaresInt t.key) ↔
        spec.precision = none ∧ spec.isArray = true ∧ related.DeclaresInt t.key := by
      constructor
      · rintro ⟨r, hr, hb, h⟩
        rw [(findTable?_eq_some hn).mpr ⟨hr, hb⟩] at hf
        exact Option.some.inj hf ▸ h
      · intro h
        exact ⟨related, hm.1, hm.2, h⟩
    rw [only, ← declaresInt_eq_ok_true (hd related hm.1)]
    cases hp : spec.precision with
    | some n => simp
    | none =>
      cases ha : spec.isArray with
      | false => simp
      | true =>
        simp only [Option.isSome_none, Bool.false_eq_true, if_false, Bool.not_true, bind_eq_ok, true_and]
        constructor
        · rintro ⟨b, hb, h⟩
          cases b
          · simp at h
          · exact hb
        · intro h
          exact ⟨true, h, rfl⟩

/-- The check of a property lets pass the supported types. -/
theorem checkProperty_eq_ok {tables : List Table} (hn : (tables.map (·.name)).Nodup) (hd : ∀ t ∈ tables, t.Distinct)
    (t : Table) (p : Property) :
    t.checkProperty tables p = .ok () ↔ ∃ spec, p.spec = .ok spec ∧ Supported tables t spec := by
  have flawless : t.checkProperty tables p = .ok () ↔ t.propertyFlaw? tables p = .ok none := by
    unfold checkProperty
    rw [bind_eq_ok]
    simp only [mapError_eq_ok]
    constructor
    · rintro ⟨_ | flaw, hf, h⟩
      · exact hf
      · simp at h
    · intro h
      exact ⟨none, h, rfl⟩
  rw [flawless, propertyFlaw?]
  cases hs : p.spec with
  | error e => cases e <;> simp
  | ok spec =>
    simp only [Except.ok.injEq, exists_eq_left']
    cases hc : spec.columnType? with
    | some type =>
      simp only [Except.ok.injEq, columnFlaw?_eq_none]
      constructor
      · rintro ⟨ha, hp⟩
        exact .column type hc ha hp
      · rintro (⟨type', hc', ha, hp⟩ | ⟨related, hc', -⟩)
        · rw [hc] at hc'
          exact ⟨ha, Option.some.inj hc' ▸ hp⟩
        · rw [hc] at hc'
          cases hc'
    | none =>
      simp only
      rw [relationFlaw?_eq_ok_none hn hd]
      constructor
      · rintro ⟨related, hm, hb, hp, ha, hi⟩
        exact .relation related hc ha hp hm hb hi
      · rintro (⟨type', hc', -⟩ | ⟨related, -, ha, hp, hm, hb, hi⟩)
        · rw [hc] at hc'
          cases hc'
        · exact ⟨related, hm, hb, hp, ha, hi⟩

/-- The type of a property that passes its check can be read. -/
theorem spec_of_checkProperty {tables : List Table} {t : Table} {p : Property} (h : t.checkProperty tables p = .ok ()) :
    ∃ spec, p.spec = .ok spec := by
  obtain ⟨flaw?, hflaw, hnone⟩ := bind_eq_ok.mp h
  cases hspec : p.spec with
  | ok spec => exact ⟨spec, rfl⟩
  | error e =>
    rw [propertyFlaw?, hspec] at hflaw
    cases e with
    | precisionTooLong => cases hflaw
    | unexpected | precisionOn =>
      cases hflaw
      cases hnone

end Table

/-! ## All checks -/

/-- A schema passes if each of its checks lets it pass. -/
theorem checkStructure_iff_checks {tables : List Table} : checkStructure tables = .ok () ↔
    (∀ t ∈ tables, t.checkNames = .ok ()) ∧ checkDuplicates [] [] tables = .ok () ∧ checkCycles [] tables = .ok () ∧
      ∀ t ∈ tables, ∀ p ∈ t.properties, t.checkProperty tables p = .ok () := by
  simp only [checkStructure, bind_eq_ok, mapError_eq_ok, forM_eq_ok]
  constructor
  · rintro ⟨_, h1, _, h2, _, h3, h4⟩
    exact ⟨h1, h2, h3, h4⟩
  · rintro ⟨h1, h2, h3, h4⟩
    exact ⟨(), h1, (), h2, (), h3, h4⟩

/-- The types of all properties of a schema that passes the checks can be read. -/
theorem spec_of_checkStructure {tables : List Table} (h : checkStructure tables = .ok ()) {t : Table} (ht : t ∈ tables)
    {p : Property} (hp : p ∈ t.properties) : ∃ spec, p.spec = .ok spec :=
  Table.spec_of_checkProperty ((checkStructure_iff_checks.mp h).2.2.2 t ht p hp)

/-- The checks let pass exactly the well-formed schemas. -/
theorem checkStructure_eq_ok {tables : List Table} (hd : ∀ t ∈ tables, t.Distinct) :
    checkStructure tables = .ok () ↔ WellFormedSchema tables := by
  rw [checkStructure_iff_checks, checkDuplicates_eq_ok]
  constructor
  · rintro ⟨h1, ⟨h2, h3, -⟩, h4, h5⟩
    refine ⟨fun t ht => t.checkNames_eq_ok.mp (h1 t ht), h2, h3, fun a ha b hb hne => ?_, fun t ht p hp => ?_⟩
    · have h := (@checkCycles_eq_ok [] tables (nodup_of_names h2)).mp h4 a ha b hb hne
      exact (Table.checkCycle_eq_ok a b).mp h
    · exact (Table.checkProperty_eq_ok h2 hd t p).mp (h5 t ht p hp)
  · intro h
    refine ⟨fun t ht => t.checkNames_eq_ok.mpr (h.plain t ht), ⟨h.names, h.keys, by simp⟩, ?_, fun t ht p hp => ?_⟩
    · refine (@checkCycles_eq_ok [] tables (nodup_of_names h.names)).mpr fun a ha b hb hne => ?_
      exact (Table.checkCycle_eq_ok a b).mpr (h.acyclic a ha b hb hne)
    · exact (Table.checkProperty_eq_ok h.names hd t p).mpr (h.types t ht p hp)

/-! ## A schema that passes -/

/-- Users and their posts are a well-formed schema. -/
theorem blog_wellFormed : WellFormedSchema blog where
  plain := by
    have h : blog.forM (·.checkNames) = .ok () := rfl
    exact fun t ht => t.checkNames_eq_ok.mp (forM_eq_ok.mp h t ht)
  names := by decide
  keys := by decide
  acyclic := by
    have h : ∀ a ∈ blog, ∀ b ∈ blog, a ≠ b → ¬(b.declares a.key = true ∧ a.declares b.key = true) := by decide
    simpa only [Table.declares_iff] using h
  types := by
    have name : (Property.mk "name" "varchar(64)").spec = .ok ⟨"varchar", some 64, false⟩ := rfl
    have relation : (Property.mk "posts" "Post[]").spec = .ok ⟨"Post", none, true⟩ := rfl
    have title : (Property.mk "title" "varchar(256)").spec = .ok ⟨"varchar", some 256, false⟩ := rfl
    have userId : (Property.mk "userId" "int").spec = .ok ⟨"int", none, false⟩ := rfl
    intro t ht p hp
    simp only [blog, List.mem_cons, List.not_mem_nil, or_false] at ht
    rcases ht with rfl | rfl
    · simp only [users, List.mem_cons, List.not_mem_nil, or_false] at hp
      rcases hp with rfl | rfl
      · exact ⟨_, name, .column .varchar (by decide) rfl (by decide)⟩
      · refine ⟨_, relation, .relation _ (by decide) rfl rfl posts_mem_blog rfl ?_⟩
        exact ⟨_, List.mem_cons_of_mem _ List.mem_cons_self, rfl, _, userId, rfl, rfl⟩
    · simp only [posts, List.mem_cons, List.not_mem_nil, or_false] at hp
      rcases hp with rfl | rfl
      · exact ⟨_, title, .column .varchar (by decide) rfl (by decide)⟩
      · exact ⟨_, userId, .column .int (by decide) rfl (by decide)⟩

end RelationMapper
