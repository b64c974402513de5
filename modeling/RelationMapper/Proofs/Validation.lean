import RelationMapper.Proofs.Act
import RelationMapper.Proofs.Schema.Structure
import RelationMapper.Validation

/-!
# The verdict of a validation

A validation compares the tables with the database and then checks their structure. Where the comparison goes through, the
verdict is about the structure alone: the validation reports exactly if the schema is well-formed
(`validate_iff_wellFormed`), whatever the order of the tables.
-/

namespace RelationMapper

variable {σ : Type}

/-- Tables are compared one after the other. -/
theorem runFrom_compareTables_append (strict : Bool) (readColumns : String → Act σ (List ColumnInfo)) (r : Report)
    (before after : List Table) (s : σ) :
    (compareTables strict readColumns r (before ++ after)).runFrom s =
      match (compareTables strict readColumns r before).runFrom s with
      | (.ok r', s') => (compareTables strict readColumns r' after).runFrom s'
      | (.error e, s') => (.error e, s') := by
  induction before generalizing r s with
  | nil => rfl
  | cons t before ih =>
    rw [List.cons_append, compareTables, compareTables, Act.runFrom_bind, Act.runFrom_bind]
    cases (readColumns t.name).runFrom s with
    | mk answer s' =>
      cases answer with
      | error e => rfl
      | ok columns =>
        dsimp only
        rw [Act.runFrom_bind, Act.runFrom_bind, Act.runFrom_lift]
        cases r.record strict (t.findings columns) with
        | error e => rfl
        | ok r' => exact ih r' s'

/-- After a comparison that went through, the structure decides. -/
theorem runFrom_validate {strict : Bool} {readColumns : String → Act σ (List ColumnInfo)} {tables : List Table} {s s' : σ}
    {r : Report} (h : (compareTables strict readColumns .empty tables).runFrom s = (.ok r, s')) :
    (validate strict readColumns tables).runFrom s = (checkStructure tables >>= fun _ => .ok r, s') := by
  rw [validate, Act.runFrom_bind, h]
  change ((Act.lift (checkStructure tables) >>= fun _ => pure r : Act σ Report)).runFrom s' = _
  rw [Act.runFrom_bind, Act.runFrom_lift]
  cases checkStructure tables <;> rfl

/-- What a validation reports is the outcome of the comparison, and the structure passed its checks. -/
theorem passed_of_report {strict : Bool} {readColumns : String → Act σ (List ColumnInfo)} {tables : List Table} {s : σ}
    {r : Report} (h : ((validate strict readColumns tables).runFrom s).1 = .ok r) :
    ((compareTables strict readColumns .empty tables).runFrom s).1 = .ok r ∧ checkStructure tables = .ok () := by
  cases hc : (compareTables strict readColumns .empty tables).runFrom s with
  | mk compared s' =>
    cases compared with
    | error e =>
      rw [validate, Act.runFrom_bind, hc] at h
      cases h
    | ok r' =>
      rw [runFrom_validate hc] at h
      obtain ⟨_, hchecked, hr⟩ := bind_eq_ok.mp h
      exact ⟨hr, hchecked⟩

/-- A schema that a validation reports on is well-formed. -/
theorem wellFormed_of_report {strict : Bool} {readColumns : String → Act σ (List ColumnInfo)} {tables : List Table}
    (hd : ∀ t ∈ tables, t.Distinct) {s : σ} {r : Report}
    (h : ((validate strict readColumns tables).runFrom s).1 = .ok r) : WellFormedSchema tables :=
  (checkStructure_eq_ok hd).mp (passed_of_report h).2

/-- A validation that gets past the comparison reports exactly if the schema is well-formed. -/
theorem reports_iff {strict : Bool} {readColumns : String → Act σ (List ColumnInfo)} {tables : List Table}
    (hd : ∀ t ∈ tables, t.Distinct) {s s' : σ} {r : Report}
    (hc : (compareTables strict readColumns .empty tables).runFrom s = (.ok r, s')) :
    (∃ report, ((validate strict readColumns tables).runFrom s).1 = .ok report) ↔ WellFormedSchema tables := by
  rw [runFrom_validate hc, ← checkStructure_eq_ok hd]
  simp only [bind_eq_ok]
  constructor
  · rintro ⟨_, _, h, -⟩
    exact h
  · intro h
    exact ⟨r, (), h, rfl⟩

/-- Where the comparison with the database goes through, a validation reports exactly if the schema is well-formed. Hence the
verdict is the same for the same tables in any other order. -/
theorem validate_iff_wellFormed {strict : Bool} {readColumns : String → Act σ (List ColumnInfo)} {tables : List Table}
    (hd : ∀ t ∈ tables, t.Distinct) {s s' : σ} {r : Report}
    (hc : (compareTables strict readColumns .empty tables).runFrom s = (.ok r, s')) :
    ((∃ report, ((validate strict readColumns tables).runFrom s).1 = .ok report) ↔ WellFormedSchema tables) ∧
    ∀ tables' : List Table, tables'.Perm tables → ∀ (s₁ s₁' : σ) (r' : Report),
      (compareTables strict readColumns .empty tables').runFrom s₁ = (.ok r', s₁') →
      ((∃ report, ((validate strict readColumns tables').runFrom s₁).1 = .ok report) ↔
        ∃ report, ((validate strict readColumns tables).runFrom s).1 = .ok report) := by
  refine ⟨reports_iff hd hc, fun tables' hp s₁ s₁' r' hc' => ?_⟩
  have hd' : ∀ t ∈ tables', t.Distinct := fun t ht => hd t (hp.mem_iff.mp ht)
  rw [reports_iff hd' hc', reports_iff hd hc]
  exact ⟨fun h => h.perm hp, fun h => h.perm hp.symm⟩

/-- Users and posts that are not in the database yet: the comparison only warns, and the validation reports. -/
theorem validate_blog : (validate true (fun _ => pure []) blog).runFrom () =
    (.ok ⟨[.missingTable "User", .missingTable "Post"], []⟩, ()) := by
  have hc : (compareTables true (fun _ => pure []) .empty blog).runFrom () =
      (.ok ⟨[.missingTable "User", .missingTable "Post"], []⟩, ()) := rfl
  rw [runFrom_validate hc, (checkStructure_eq_ok blog_distinct).mpr blog_wellFormed]
  rfl

/-- Users and posts pass, and so they do with the posts first. -/
theorem validate_iff_wellFormed_blog :
    (∀ t ∈ blog, t.Distinct) ∧
    (compareTables true (fun _ => pure []) .empty blog).runFrom () =
      (.ok ⟨[.missingTable "User", .missingTable "Post"], []⟩, ()) ∧
    (∃ report, ((validate true (fun _ => pure []) blog).runFrom ()).1 = .ok report) ∧
    (compareTables true (fun _ => pure []) .empty blog.reverse).runFrom () =
      (.ok ⟨[.missingTable "Post", .missingTable "User"], []⟩, ()) ∧
    ∃ report, ((validate true (fun _ => pure []) blog.reverse).runFrom ()).1 = .ok report := by
  have hc : (compareTables true (fun _ => pure []) .empty blog).runFrom () =
      (.ok ⟨[.missingTable "User", .missingTable "Post"], []⟩, ()) := rfl
  have hc' : (compareTables true (fun _ => pure []) .empty blog.reverse).runFrom () =
      (.ok ⟨[.missingTable "Post", .missingTable "User"], []⟩, ()) := rfl
  obtain ⟨hiff, hperm⟩ := validate_iff_wellFormed blog_distinct hc
  have hreport := hiff.mpr blog_wellFormed
  exact ⟨blog_distinct, hc, hreport, hc', (hperm blog.reverse blog.reverse_perm () _ _ hc').mpr hreport⟩

end RelationMapper
