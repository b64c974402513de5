import RelationMapper.Proofs.Client.Gate
import RelationMapper.Proofs.Malformed

/-!
# Asking for quiet

A caller that asks for quiet gets a fault of the driver as an answer. This covers all that can go wrong while the statement is
sent (`Connection.failure?`): opening the connection, getting a cursor, executing, reading and committing; a rollback that fails
is passed over. It does not cover the validation that may come before the statement. `driver_fault_raised_iff` says that a fault
of the driver is raised in spite of quiet exactly if a validation is due and the columns of a table cannot be read
(`ColumnsUnread`), as when another connection holds the database (`raised_while_quiet`). Every other fault is raised as it is.
-/

namespace RelationMapper

open Act

/-! ## Sending -/

/-- What is wrong with a reply: there is no cursor for it, its answer cannot be read, or it cannot be committed. -/
def Reply.failure? (r : Reply) : Option Fault :=
  match r.cursorFault, r.result with
  | some e, _ => some e
  | none, .error e => some e
  | none, .ok _ => r.commitFault

namespace Connection

/-- What goes wrong when a statement is sent: the connection cannot be opened, or something is wrong with the waiting reply. -/
def failure? (o : Options) (s : Statement) (c : Connection) : Option Fault :=
  match (ensureOpen o).runFrom c with
  | (.error e, _) => some e
  | (.ok _, c') => (c'.waiting s).failure?

/-- A statement fails with what goes wrong when it is sent, whatever is read off the result. -/
theorem perform_eq_error {α : Type} {o : Options} {s : Statement} {read : Reply → Except Fault α} {c : Connection} {e : Fault}
    (hread : ∀ reply e, read reply = .error e ↔ reply.result = .error e) :
    ((perform o s read).runFrom c).1 = .error e ↔ c.failure? o s = some e := by
  rw [perform_eq, runFrom_bind, failure?]
  cases (ensureOpen o).runFrom c with
  | mk opened c' =>
    cases opened with
    | error e' => simp
    | ok _ =>
      dsimp only
      rw [runFrom_exchange, Reply.failure?]
      cases (c'.waiting s).cursorFault with
      | some e' => simp
      | none =>
        dsimp only
        cases hresult : (c'.waiting s).result with
        | error e' =>
          rw [(hread _ _).mpr hresult]
          simp
        | ok result =>
          cases hr : read (c'.waiting s) with
          | error e' => cases ((hread _ _).mp hr).symm.trans hresult
          | ok a => cases (c'.waiting s).commitFault <;> simp

/-- Performing a statement fails exactly with what goes wrong on the connection. -/
theorem run_eq_error {o : Options} {s : Statement} {c : Connection} {e : Fault} :
    ((run o s).runFrom c).1 = .error e ↔ c.failure? o s = some e :=
  perform_eq_error fun _ _ => Iff.rfl

/-- Selecting fails exactly with what goes wrong on the connection. -/
theorem select_eq_error {o : Options} {s : Statement} {c : Connection} {e : Fault} :
    ((select o s).runFrom c).1 = .error e ↔ c.failure? o s = some e :=
  perform_eq_error fun reply e => by cases reply.result <;> simp [Except.map]

end Connection

/-- A computation whose faults do not come from the driver. -/
abbrev Undriven {α : Type} (r : Except Fault α) : Prop := Only (fun e => e.isDriver = false) r

namespace Client

variable {o : Options} {statement : Statement} {s s' : Session} {e : Fault}

/-- What comes of sending depends on what comes of it for the connection. -/
theorem fst_runFrom_send (o : Options) (statement : Statement) (quiet : Bool) (s : Session) :
    ((send o statement quiet).runFrom s).1 =
      match ((Connection.run o statement).runFrom s.rest.connection).1 with
      | .ok result => .ok (.result result)
      | .error e => if (quiet && e.isDriver) = true then .ok (.fault e) else .error e := by
  rw [send, runFrom_bind, runFrom_outcome, runFrom_onConnection]
  dsimp only
  cases ((Connection.run o statement).runFrom s.rest.connection).1 with
  | ok result => rfl
  | error e => cases hq : quiet && e.isDriver <;> simp [hq]

/-- A fault of the driver is an answer to a caller that asks for quiet; any other fault is raised. -/
theorem send_quiet (h : s.rest.connection.failure? o statement = some e) :
    ((send o statement true).runFrom s).1 = if e.isDriver = true then .ok (.fault e) else .error e := by
  rw [fst_runFrom_send, Connection.run_eq_error.mpr h]
  rfl

/-- Where nothing goes wrong, there is a result. -/
theorem send_result (quiet : Bool) (h : s.rest.connection.failure? o statement = none) :
    ∃ result, ((send o statement quiet).runFrom s).1 = .ok (.result result) := by
  rw [fst_runFrom_send]
  cases hrun : ((Connection.run o statement).runFrom s.rest.connection).1 with
  | error e => cases h.symm.trans (Connection.run_eq_error.mp hrun)
  | ok result => exact ⟨result, rfl⟩

/-- A caller that asks for quiet is not told of a fault of the driver by raising it. -/
theorem undriven_send : Undriven ((send o statement true).runFrom s).1 := by
  intro e he
  cases h : s.rest.connection.failure? o statement with
  | none =>
    obtain ⟨result, hresult⟩ := send_result true h
    cases hresult.symm.trans he
  | some e' =>
    rw [send_quiet h] at he
    split at he
    · cases he
    · case isFalse hdriver =>
      cases he
      exact Bool.eq_false_iff.mpr hdriver

/-! ## Loading -/

/-- A column fails to be loaded only for a number that is too large. -/
theorem undriven_needsReals (survey : ColumnSurvey) (cells : List Value) : Undriven (survey.needsReals cells) := by
  induction cells generalizing survey with
  | nil => exact Only.ok _
  | cons cell cells ih =>
    cases cell with
    | real x => exact ih _
    | null => exact ih _
    | int n =>
      have hreal : Undriven (discard (Value.int n).toReal : Except Fault Unit) := by
        unfold Value.toReal
        simp only [Value.int?, Option.map_some]
        split
        · exact Only.ok _
        · exact Only.error rfl
      refine hreal.bind fun _ _ => ?_
      dsimp only
      split
      · exact ih _
      · exact Only.ok _
    | _ => exact Only.ok _

theorem undriven_load (l : Loader) (outcome : Outcome) : Undriven (l.load outcome) := by
  cases outcome with
  | fault e => exact Only.ok _
  | result r =>
    cases r with
    | count n => exact Only.ok _
    | records columns rows =>
      cases l with
      | records => exact Only.ok _
      | frame =>
        refine Only.bind (Only.mapM fun column _ => ?_) fun cells _ => Only.ok _
        exact (undriven_needsReals _ _).bind fun _ _ => Only.ok _

/-! ## Validating -/

theorem undriven_ofRow (dialect : Dialect) (row : Fields) : Undriven (ColumnInfo.ofRow dialect row) := by
  have undriven_cell : ∀ name, Undriven (cell row name) := by
    intro name
    unfold cell
    split
    · exact Only.ok _
    · exact Only.error rfl
  have undriven_text : ∀ v, Undriven (asText v) := by
    intro v
    unfold asText
    split
    · split
      · exact Only.ok _
      · exact Only.error rfl
    · split
      · exact Only.ok _
      · exact Only.error rfl
    · exact Only.ok _
  have undriven_declared : ∀ v, Undriven (asDeclared v) := by
    intro v
    unfold asDeclared
    split
    · exact Only.ok _
    · split
      · exact Only.ok _
      · exact Only.error rfl
  cases dialect with
  | mysql =>
    exact (undriven_cell _).bind fun _ _ => (undriven_cell _).bind fun _ _ => (undriven_text _).bind fun _ _ =>
      (undriven_cell _).bind fun _ _ => Only.ok _
  | sqlite =>
    refine (undriven_cell _).bind fun _ _ => (undriven_declared _).bind fun _ _ => ?_
    exact Only.bind (Only.mapError fun _ => rfl) fun _ _ => (undriven_cell _).bind fun _ _ => Only.ok _

/-- Reading the columns of a table fails with a fault of the driver exactly if sending the question for them does. -/
theorem readColumns_eq_error (table : String) (hdriver : e.isDriver = true) :
    ((readColumns o table).runFrom s).1 = .error e ↔ s.rest.connection.failure? o (.columnsOf o.dialect table) = some e := by
  rw [← Connection.select_eq_error, readColumns, runFrom_bind, runFrom_onConnection]
  cases ((Connection.select o (.columnsOf o.dialect table)).runFrom s.rest.connection).1 with
  | error e' => simp
  | ok rows =>
    dsimp only
    rw [runFrom_lift]
    refine iff_of_false (fun he => ?_) (by simp)
    have hundriven := Only.mapM (fun row _ => undriven_ofRow o.dialect row) e he
    rw [hdriver] at hundriven
    cases hundriven

theorem undriven_record (strict : Bool) (r : Report) (t : Table) (columns : List ColumnInfo) :
    Undriven (r.record strict (t.findings columns)) := by
  intro e he
  rcases error_of_record he with ⟨flaw, rfl⟩ | hfailure
  · rfl
  · rcases fault_of_findings hfailure with rfl | ⟨b, rfl⟩ | ⟨d, rfl⟩ <;> rfl

theorem undriven_checkStructure (tables : List Table) : Undriven (checkStructure tables) := by
  intro e he
  rcases error_of_checkStructure he with ⟨flaw, rfl⟩ | ⟨t, -, p, -, n, -, rfl⟩ <;> rfl

theorem undriven_plansOf (tables : List Table) : Undriven (plansOf tables) := by
  have undriven_planColumns : ∀ (t : Table) source start,
      Undriven ((t.planColumns source start).mapError Fault.declaration) := fun t source start => Only.mapError fun _ => rfl
  have undriven_planRelation : ∀ (t : Table) p, Undriven (t.planRelation tables p) := by
    intro t p
    refine Only.bind (Only.mapError fun _ => rfl) fun spec _ => ?_
    split
    · exact Only.ok _
    · split
      · exact (undriven_planColumns _ _ _).bind fun _ _ => Only.ok _
      · exact Only.error rfl
  refine Only.mapM fun t _ => Only.bind ?_ fun _ _ => Only.ok _
  exact (Only.filterMapM fun p _ => undriven_planRelation t p).bind fun _ _ =>
    (undriven_planColumns t _ _).bind fun _ _ => Only.ok _

/-- The columns of a table cannot be read: the tables before it are compared without a fault, and then the question for its columns
fails when it is sent. -/
def ColumnsUnread (o : Options) (s : Session) (e : Fault) : Prop :=
  ∃ before t after report s', s.registry.tables = before ++ t :: after ∧
    (compareTables o.strict.isTruthy (readColumns o) .empty before).runFrom s = (.ok report, s') ∧
    s'.rest.connection.failure? o (.columnsOf o.dialect t.name) = some e

/-- A comparison ends with a fault of the driver exactly if the columns of one of the tables cannot be read. -/
theorem compareTables_eq_error {strict : Bool} {r : Report} {tables : List Table} (hdriver : e.isDriver = true) :
    ((compareTables strict (readColumns o) r tables).runFrom s).1 = .error e ↔
      ∃ before t after report s', tables = before ++ t :: after ∧
        (compareTables strict (readColumns o) r before).runFrom s = (.ok report, s') ∧
        s'.rest.connection.failure? o (.columnsOf o.dialect t.name) = some e := by
  simp only [← readColumns_eq_error _ hdriver]
  constructor
  · intro h
    induction tables generalizing r s with
    | nil => cases h
    | cons t tables ih =>
      rw [compareTables, runFrom_bind] at h
      cases hread : (readColumns o t.name).runFrom s with
      | mk answer s₁ =>
        rw [hread] at h
        cases answer with
        | error e' =>
          cases h
          exact ⟨[], t, tables, r, s, rfl, rfl, by rw [hread]⟩
        | ok columns =>
          dsimp only at h
          rw [runFrom_bind, runFrom_lift] at h
          cases hrecord : r.record strict (t.findings columns) with
          | error e' =>
            rw [hrecord] at h
            cases h
            rw [undriven_record strict r t columns e hrecord] at hdriver
            cases hdriver
          | ok r' =>
            rw [hrecord] at h
            obtain ⟨before, t', after, report, s', rfl, hbefore, hfails⟩ := ih h
            refine ⟨t :: before, t', after, report, s', rfl, ?_, hfails⟩
            rw [compareTables, runFrom_bind, hread]
            dsimp only
            rw [runFrom_bind, runFrom_lift, hrecord]
            exact hbefore
  · rintro ⟨before, t, after, report, s', rfl, hbefore, hfails⟩
    rw [runFrom_compareTables_append, hbefore]
    dsimp only
    rw [compareTables, runFrom_bind]
    cases hread : (readColumns o t.name).runFrom s' with
    | mk answer s₁ =>
      rw [hread] at hfails
      cases hfails
      rfl

/-- A validation ends with a fault of the driver exactly if the columns of a table cannot be read. -/
theorem runValidation_eq_error (hdriver : e.isDriver = true) :
    ((Setting.runValidation (validation o)).runFrom s).1 = .error e ↔
      ColumnsUnread o { s with registry := s.registry.begin } e := by
  have driven : ∀ {α : Type} {r : Except Fault α}, Undriven r → r ≠ .error e := fun hr he => by
    cases hdriver.symm.trans (hr e he)
  rw [ColumnsUnread, ← compareTables_eq_error hdriver, Setting.runFrom_runValidation, runFrom_validation]
  generalize { s with registry := s.registry.begin } = s₀
  rw [validate, runFrom_bind]
  cases (compareTables o.strict.isTruthy (readColumns o) .empty s₀.registry.tables).runFrom s₀ with
  | mk compared s₁ =>
    cases compared with
    | error e' => exact Iff.rfl
    | ok report =>
      dsimp only
      refine iff_of_false ?_ (by simp)
      rw [runFrom_bind, runFrom_lift]
      cases hchecked : checkStructure s₀.registry.tables with
      | error e' =>
        intro he
        cases he
        exact driven (undriven_checkStructure _) hchecked
      | ok _ =>
        dsimp only
        rw [runFrom_pure]
        dsimp only
        cases hplans : plansOf s₁.registry.tables with
        | error e' =>
          intro he
          cases he
          exact driven (undriven_plansOf _) hplans
        | ok plans => simp

/-- The gate ends with a fault of the driver exactly if a validation is due and does. -/
theorem ensureValid_eq_error (hdriver : e.isDriver = true) :
    ((ensureValid o).runFrom s).1 = .error e ↔
      s.registry.Due ∧ ColumnsUnread o { s with registry := s.registry.begin } e := by
  rw [← runValidation_eq_error hdriver]
  by_cases hv : s.registry.phase = .valid
  · rw [ensureValid, Setting.runFrom_ensureValid _ hv]
    exact iff_of_false (by simp) fun h => h.1.1 hv
  · by_cases hr : s.registry.phase = .validating
    · rw [runFrom_ensureValid_validating o hr]
      refine iff_of_false (fun he => ?_) fun h => h.1.2 hr
      cases he
      cases hdriver
    · rw [runFrom_ensureValid_due o hv hr, and_iff_right ⟨hv, hr⟩]
      cases (Setting.runValidation (validation o)).runFrom s with
      | mk verdict s' => cases verdict <;> simp

/-! ## Asking for quiet -/

/-- Past the gate a statement is sent from the state that is found there. -/
theorem runFrom_query_passed {quiet : Bool} (h : (ensureValid o).runFrom s = (.ok (), s')) :
    (query o statement quiet).runFrom s = (send o statement quiet).runFrom s' := by
  rw [query, runFrom_bind, h]

/-- If the registry does not become valid, a query fails with what went wrong there, quiet or not. -/
theorem runFrom_query_failed {quiet : Bool} (h : (ensureValid o).runFrom s = (.error e, s')) :
    (query o statement quiet).runFrom s = (.error e, s') := by
  rw [query, runFrom_bind, h]

/-- What comes of a statement whose caller asks for quiet, whatever the state of the client and whatever the database answers.

* Without the gate, no fault of the driver is raised: what goes wrong when the statement is sent is the answer if it comes from the
  driver, and is raised otherwise.
* With the gate, a fault of the driver is raised exactly if a validation is due and the columns of a table cannot be read. Whoever
  gets past the gate is answered as without it, and any fault of the gate is raised as it is. -/
theorem driver_fault_raised_iff (o : Options) (statement : Statement) (s : Session) (e : Fault) :
    (((adminQuery o statement true).runFrom s).1 = .error e → e.isDriver = false) ∧
    (s.rest.connection.failure? o statement = some e →
      ((adminQuery o statement true).runFrom s).1 = if e.isDriver = true then .ok (.fault e) else .error e) ∧
    (((query o statement true).runFrom s).1 = .error e ∧ e.isDriver = true ↔
      e.isDriver = true ∧ s.registry.Due ∧ ColumnsUnread o { s with registry := s.registry.begin } e) ∧
    (∀ s', (ensureValid o).runFrom s = (.ok (), s') → s'.rest.connection.failure? o statement = some e →
      ((query o statement true).runFrom s).1 = if e.isDriver = true then .ok (.fault e) else .error e) ∧
    (∀ s', (ensureValid o).runFrom s = (.error e, s') → (query o statement true).runFrom s = (.error e, s')) := by
  have hadmin : ((adminQuery o statement true).runFrom s).1 = ((send o statement true).runFrom s).1 >>= o.loader.load := by
    rw [adminQuery, runFrom_bind]
    cases (send o statement true).runFrom s with
    | mk outcome s' => cases outcome <;> rfl
  refine ⟨fun he => ?_, fun hfailure => ?_, ?_, fun s' hgate hfailure => ?_, fun s' hgate => ?_⟩
  · rw [hadmin] at he
    exact Only.bind undriven_send (fun _ _ => undriven_load _ _) e he
  · rw [hadmin, send_quiet hfailure]
    cases e.isDriver <;> rfl
  · rw [and_comm]
    refine and_congr_right fun hdriver => ?_
    rw [← ensureValid_eq_error hdriver]
    cases hgate : (ensureValid o).runFrom s with
    | mk verdict s' =>
      cases verdict with
      | error e' =>
        rw [runFrom_query_failed hgate]
        simp
      | ok _ =>
        rw [runFrom_query_passed hgate]
        refine iff_of_false (fun he => ?_) (by simp)
        cases hdriver.symm.trans (undriven_send e he)
  · rw [runFrom_query_passed hgate]
    exact send_quiet hfailure
  · exact runFrom_query_failed hgate

/-- A database that another connection holds: the fault is an answer without the gate, and raised at it. -/
theorem raised_while_quiet :
    let declared : List Incident := [.turn ⟨Session.silence, .declare "User" "userId" [.ok ⟨"name", "varchar(64)"⟩]⟩]
    let script : Script := ⟨[{ answer := .error Session.locked }], [], none⟩
    let s : Session := (Session.afterAll blogOptions declared).withScript script
    Session.locked.isDriver = true ∧
      ((adminQuery blogOptions (.given "SELECT 1") true).runFrom s).1 = .ok (.fault Session.locked) ∧
      ((query blogOptions (.given "SELECT 1") true).runFrom s).1 = .error Session.locked :=
  ⟨rfl, rfl, rfl⟩

end Client

end RelationMapper
