import RelationMapper.Proofs.Malformed

/-!
# Strict and lenient comparisons

A lenient comparison with the database takes the flaws that it finds into its report and goes on; a strict one ends at the first
of them. `compareLeniently` says how a lenient comparison ends: with which report, and with which fault if it broke off, in which
case the report is lost to the caller but holds what was found until then. This tells all about the strict one as well
(`strict_stops_at_first_flaw`): it is the lenient one, stopped where the first flaw is taken into the report.
-/

namespace RelationMapper

open Act

variable {σ : Type}

/-! ## How a comparison ends -/

/-- How a lenient comparison ends: with its report as it is then, and with the fault that broke it off, if one did. -/
structure Comparison where
  report : Report
  fault : Option Fault

namespace Comparison

/-- What comes of a lenient comparison. -/
def lenient (c : Comparison) : Except Fault Report :=
  match c.fault with
  | none => .ok c.report
  | some e => .error e

/-- What comes of a strict one: the first flaw of the report is raised. -/
def strict (c : Comparison) : Except Fault Report :=
  match c.report.flaws with
  | [] => c.lenient
  | flaw :: _ => .error (.schema flaw)

end Comparison

theorem Comparison.fault_of_lenient {c : Comparison} {e : Fault} (h : c.lenient = .error e) : c.fault = some e := by
  obtain ⟨report, fault⟩ := c
  cases fault with
  | none => cases h
  | some e' =>
    cases h
    rfl

/-- Takes findings into a report, up to the first failure. -/
def Report.compare (r : Report) : List Finding → Comparison
  | [] => ⟨r, none⟩
  | .warning w :: rest => compare { r with warnings := r.warnings ++ [w] } rest
  | .flaw f :: rest => compare { r with flaws := r.flaws ++ [f] } rest
  | .failure e :: _ => ⟨r, some e⟩

/-- Compares tables with the database leniently: how this ends, and the state that is left. -/
def compareLeniently (readColumns : String → Act σ (List ColumnInfo)) (r : Report) : List Table → σ → Comparison × σ
  | [], s => (⟨r, none⟩, s)
  | t :: rest, s =>
    match (readColumns t.name).runFrom s with
    | (.error e, s') => (⟨r, some e⟩, s')
    | (.ok columns, s') =>
      match r.compare (t.findings columns) with
      | ⟨r, some e⟩ => (⟨r, some e⟩, s')
      | ⟨r, none⟩ => compareLeniently readColumns r rest s'

/-! ## Findings -/

theorem Report.record_lenient (r : Report) (findings : List Finding) :
    r.record false findings = (r.compare findings).lenient := by
  induction findings generalizing r with
  | nil => rfl
  | cons finding findings ih =>
    cases finding with
    | warning w => exact ih _
    | flaw f => exact ih _
    | failure e => rfl

/-- A flaw that is in a report stays the first one. -/
theorem Report.head?_compare {r : Report} {flaw : SchemaFlaw} (h : r.flaws.head? = some flaw) (findings : List Finding) :
    (r.compare findings).report.flaws.head? = some flaw := by
  induction findings generalizing r with
  | nil => exact h
  | cons finding findings ih =>
    cases finding with
    | warning w => exact ih h
    | flaw f => exact ih (by rw [List.head?_append, h, Option.some_or])
    | failure e => exact h

/-- With flaws in its report a comparison ends strictly at the first of them. -/
theorem Comparison.strict_of_head? {c : Comparison} {flaw : SchemaFlaw} (h : c.report.flaws.head? = some flaw) :
    c.strict = .error (.schema flaw) := by
  obtain ⟨rest, hflaws⟩ := List.head?_eq_some_iff.mp h
  rw [Comparison.strict, hflaws]

/-- Without flaws in its report a comparison ends strictly as it does leniently. -/
theorem Comparison.strict_of_nil {r : Report} (h : r.flaws = []) (fault : Option Fault) :
    (Comparison.mk r fault).strict = (Comparison.mk r fault).lenient := by
  rw [Comparison.strict, h]

/-- Taken strictly, findings end at the first flaw. -/
theorem Report.record_strict {r : Report} (h : r.flaws = []) (findings : List Finding) :
    r.record true findings = (r.compare findings).strict := by
  induction findings generalizing r with
  | nil => exact (Comparison.strict_of_nil h none).symm
  | cons finding findings ih =>
    cases finding with
    | warning w => exact ih h
    | flaw f =>
      have hfirst : (r.flaws ++ [f]).head? = some f := by rw [h]; rfl
      exact (Comparison.strict_of_head? (Report.head?_compare (r := { r with flaws := r.flaws ++ [f] }) hfirst findings)).symm
    | failure e => exact (Comparison.strict_of_nil h (some e)).symm

/-! ## Tables -/

/-- A lenient comparison ends as it is said to. -/
theorem runFrom_lenient (readColumns : String → Act σ (List ColumnInfo)) (r : Report) (tables : List Table) (s : σ) :
    (compareTables false readColumns r tables).runFrom s =
      ((compareLeniently readColumns r tables s).1.lenient, (compareLeniently readColumns r tables s).2) := by
  induction tables generalizing r s with
  | nil => rfl
  | cons t tables ih =>
    rw [compareTables, compareLeniently, runFrom_bind]
    cases (readColumns t.name).runFrom s with
    | mk answer s' =>
      cases answer with
      | error e => rfl
      | ok columns =>
        dsimp only
        rw [runFrom_bind, runFrom_lift, Report.record_lenient]
        obtain ⟨r', fault⟩ := r.compare (t.findings columns)
        cases fault with
        | some e => rfl
        | none => exact ih r' s'

/-- The first flaw in a report stays the first, whatever is compared after it. -/
theorem head?_compareLeniently {r : Report} {flaw : SchemaFlaw} (h : r.flaws.head? = some flaw)
    (readColumns : String → Act σ (List ColumnInfo)) (tables : List Table) (s : σ) :
    (compareLeniently readColumns r tables s).1.report.flaws.head? = some flaw := by
  induction tables generalizing r s with
  | nil => exact h
  | cons t tables ih =>
    rw [compareLeniently]
    cases (readColumns t.name).runFrom s with
    | mk answer s' =>
      cases answer with
      | error e => exact h
      | ok columns =>
        have hnext := Report.head?_compare h (t.findings columns)
        dsimp only
        generalize r.compare (t.findings columns) = c at hnext
        obtain ⟨r', fault⟩ := c
        cases fault with
        | some e => exact hnext
        | none => exact ih hnext s'

/-- A strict comparison is the lenient one up to the first flaw. -/
theorem runFrom_strict (readColumns : String → Act σ (List ColumnInfo)) {r : Report} (h : r.flaws = []) (tables : List Table)
    (s : σ) :
    ((compareTables true readColumns r tables).runFrom s).1 = (compareLeniently readColumns r tables s).1.strict := by
  induction tables generalizing r s with
  | nil => exact (Comparison.strict_of_nil h none).symm
  | cons t tables ih =>
    rw [compareTables, compareLeniently, runFrom_bind]
    cases (readColumns t.name).runFrom s with
    | mk answer s' =>
      cases answer with
      | error e => exact (Comparison.strict_of_nil h (some e)).symm
      | ok columns =>
        dsimp only
        rw [runFrom_bind, runFrom_lift, Report.record_strict h]
        obtain ⟨r', fault⟩ := r.compare (t.findings columns)
        cases hflaws : r'.flaws with
        | cons flaw rest =>
          -- the strict comparison ends here, and the lenient one keeps the flaw
          have hfirst : r'.flaws.head? = some flaw := by rw [hflaws]; rfl
          rw [Comparison.strict_of_head? hfirst]
          cases fault with
          | some e => exact (Comparison.strict_of_head? hfirst).symm
          | none => exact (Comparison.strict_of_head? (head?_compareLeniently hfirst readColumns tables s')).symm
        | nil =>
          rw [Comparison.strict_of_nil hflaws _]
          cases fault with
          | some e => exact (Comparison.strict_of_nil hflaws (some e)).symm
          | none => exact ih hflaws s'

/-! ## What breaks a comparison off -/

/-- Whether a fault says that the schema is at fault, in the words of the library or of something that it runs. -/
def Fault.isSchemaFault : Fault → Bool
  | .schema _ => true
  | .foreign e => e.kind = .schema
  | _ => false

/-- A comparison with columns that were read is never broken off because the schema is at fault: that is a flaw. -/
theorem isSchemaFault_of_findings {t : Table} {columns : List ColumnInfo} {f : Fault}
    (h : Finding.failure f ∈ t.findings columns) : f.isSchemaFault = false := by
  rcases fault_of_findings h with rfl | ⟨b, rfl⟩ | ⟨d, rfl⟩ <;> rfl

theorem Report.fault_compare {r : Report} {findings : List Finding} {f : Fault} (h : (r.compare findings).fault = some f) :
    .failure f ∈ findings := by
  induction findings generalizing r with
  | nil => cases h
  | cons finding findings ih =>
    cases finding with
    | warning w => exact List.mem_cons_of_mem _ (ih h)
    | flaw flaw => exact List.mem_cons_of_mem _ (ih h)
    | failure e =>
      cases h
      exact List.mem_cons_self

/-- Where reading columns never says that the schema is at fault, nothing that breaks a comparison off does. -/
theorem isSchemaFault_of_compareLeniently {readColumns : String → Act σ (List ColumnInfo)}
    (hread : ∀ table s e, ((readColumns table).runFrom s).1 = .error e → e.isSchemaFault = false) {r : Report}
    {tables : List Table} {s : σ} {f : Fault} (h : (compareLeniently readColumns r tables s).1.fault = some f) :
    f.isSchemaFault = false := by
  induction tables generalizing r s with
  | nil => cases h
  | cons t tables ih =>
    rw [compareLeniently] at h
    cases hrun : (readColumns t.name).runFrom s with
    | mk answer s' =>
      rw [hrun] at h
      cases answer with
      | error e =>
        cases h
        exact hread t.name s f (congrArg Prod.fst hrun)
      | ok columns =>
        have hfault := @Report.fault_compare r (t.findings columns)
        dsimp only at h
        generalize r.compare (t.findings columns) = c at h hfault
        obtain ⟨r', fault⟩ := c
        cases fault with
        | some e =>
          cases h
          exact isSchemaFault_of_findings (hfault rfl)
        | none => exact ih h

/-! ## The first flaw -/

/-- A strict comparison is a lenient one that stops at the first flaw, for any tables and any columns that are read. The lenient
one ends as `compareLeniently` says. If there is a flaw in its report, however it ended, the strict one raises the first; if there
is none, both come to the same, warnings included. Hence the strict one says that the schema is at fault, with a message, exactly
if the lenient one has this message in its report, as the first; reading the columns does not say so itself. -/
theorem strict_stops_at_first_flaw {readColumns : String → Act σ (List ColumnInfo)}
    (hread : ∀ table s e, ((readColumns table).runFrom s).1 = .error e → e.isSchemaFault = false) (tables : List Table) (s : σ) :
    let ended := (compareLeniently readColumns .empty tables s).1
    let lenient := ((compareTables false readColumns .empty tables).runFrom s).1
    let strict := ((compareTables true readColumns .empty tables).runFrom s).1
    lenient = ended.lenient ∧
      (∀ message, (∃ e, strict = .error e ∧ e.isSchemaFault = true ∧ e.message = message) ↔
        (ended.report.flaws.map (·.message)).head? = some message) ∧
      (∀ flaw, ended.report.flaws.head? = some flaw → strict = .error (.schema flaw)) ∧
      (ended.report.flaws = [] → strict = lenient) := by
  intro ended lenient strict
  have hlenient : lenient = ended.lenient := congrArg Prod.fst (runFrom_lenient readColumns .empty tables s)
  have hstrict : strict = ended.strict := runFrom_strict readColumns rfl tables s
  have hfault : ∀ f, ended.fault = some f → f.isSchemaFault = false := fun _ => isSchemaFault_of_compareLeniently hread
  have hfirst : ∀ flaw, ended.report.flaws.head? = some flaw → strict = .error (.schema flaw) :=
    fun _ hflaw => hstrict.trans (Comparison.strict_of_head? hflaw)
  have hnone : ended.report.flaws = [] → strict = lenient :=
    fun hnil => (hstrict.trans (Comparison.strict_of_nil hnil ended.fault)).trans hlenient.symm
  refine ⟨hlenient, fun message => ?_, hfirst, hnone⟩
  rw [List.head?_map, Option.map_eq_some_iff]
  constructor
  · rintro ⟨e, he, hschema, rfl⟩
    cases hflaws : ended.report.flaws with
    | nil =>
      -- without a flaw, whatever was raised broke the lenient comparison off as well
      have hbroken : ended.fault = some e := Comparison.fault_of_lenient (hlenient.symm.trans ((hnone hflaws).symm.trans he))
      rw [hfault e hbroken] at hschema
      cases hschema
    | cons flaw rest =>
      rw [hfirst flaw (by rw [hflaws]; rfl)] at he
      cases he
      exact ⟨flaw, rfl, rfl⟩
  · rintro ⟨flaw, hflaw, rfl⟩
    exact ⟨_, hfirst flaw hflaw, rfl, rfl⟩

/-- Users in a database that has no key for them, an age that is a text, and a column that nobody declared: the lenient comparison
has two flaws and a warning in its report, and the strict one raises the first. -/
theorem strict_stops_at_first_flaw_users :
    let users : Table := ⟨"User", "userId", [⟨"name", "varchar(64)"⟩, ⟨"age", "int"⟩], 0⟩
    let readColumns : String → Act Unit (List ColumnInfo) := fun _ => pure
      [⟨.text "name", "varchar", .int 64⟩, ⟨.text "age", "text", .null⟩, ⟨.text "legacy", "int", .null⟩]
    let flaws : List SchemaFlaw := [.missingKey "User" "userId", .columnType "User" "age" "int" "text"]
    (∀ table s e, ((readColumns table).runFrom s).1 = .error e → e.isSchemaFault = false) ∧
    ((compareTables false readColumns .empty [users]).runFrom ()).1 =
      .ok ⟨[.surplusColumns "User" [.text "legacy"]], flaws⟩ ∧
    ((compareTables true readColumns .empty [users]).runFrom ()).1 = .error (.schema (.missingKey "User" "userId")) := by
  intro users readColumns flaws
  have hread : ∀ table s e, ((readColumns table).runFrom s).1 = .error e → e.isSchemaFault = false := nofun
  obtain ⟨hlenient, -, hfirst, -⟩ := strict_stops_at_first_flaw hread [users] ()
  exact ⟨hread, hlenient.trans rfl, hfirst _ rfl⟩

end RelationMapper
