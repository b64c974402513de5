import RelationMapper.Client.Rows
import RelationMapper.Proofs.Client
import RelationMapper.Proofs.Registry

/-!
# What calls keep of the registry

Statements of the library change the registry in one way only: at the gate, where a registry that is not valid is validated
first. What the gate keeps (`KeptByGate`), every statement keeps. The gate keeps what survives a validation (`SurvivesGate`), by
what a validation leaves (`registry_runValidation`).
-/

namespace RelationMapper.Client

open Act

variable {α : Type} {I : Registry JoinPlan → Prop} {o : Options}

/-! ## Validations -/

/-- The registry after a validation that succeeded. -/
def passed (r : Registry JoinPlan) (plans : List (String × JoinPlan)) : Registry JoinPlan :=
  { r with phase := .valid, error := none, plans }

/-- The registry after a validation that failed. The plans stay. -/
def failed (r : Registry JoinPlan) (e : Fault) : Registry JoinPlan := { r with phase := .invalid, error := some e }

/-- What a validation leaves: the plans of the tables if it succeeds, otherwise the error and the plans that were there. -/
theorem registry_runValidation (o : Options) (s : Session) :
    match (Setting.runValidation (validation o)).runFrom s with
    | (.ok _, s') => ∃ plans, plansOf s.registry.tables = .ok plans ∧ s'.registry = passed s.registry plans
    | (.error e, s') => s'.registry = failed s.registry e := by
  rw [Setting.runFrom_runValidation]
  cases hv : (validation o).runFrom { s with registry := s.registry.begin } with
  | mk verdict s' =>
    cases verdict with
    | ok report =>
      obtain ⟨-, plans, hplans, hr⟩ := registry_validation hv
      refine ⟨plans, hplans, ?_⟩
      change s'.registry.finish _ none = _
      rw [hr]
      exact if_pos rfl
    | error e =>
      change s'.registry.finish _ (some e) = _
      rw [registry_validation_error hv]
      exact if_pos rfl

/-- Where none is under way, a validation that is forced is run. -/
theorem runFrom_validateAll (o : Options) {s : Session} (h : s.registry.phase ≠ .validating) :
    (validateAll o).runFrom s = (Setting.runValidation (validation o)).runFrom s := by
  rw [validateAll, Setting.revalidate, runFrom_bind, Setting.supervise, runFrom_bind, Setting.runFrom_getRegistry]
  dsimp only
  rw [Registry.gate_forced h]
  dsimp only
  rw [runFrom_bind]
  cases (Setting.runValidation (validation o)).runFrom s with
  | mk verdict s' => cases verdict <;> rfl

/-- The same, where a validation is forced. -/
theorem registry_validateAll (o : Options) {s : Session} (h : s.registry.phase ≠ .validating) :
    match (validateAll o).runFrom s with
    | (.ok _, s') => ∃ plans, plansOf s.registry.tables = .ok plans ∧ s'.registry = passed s.registry plans
    | (.error e, s') => s'.registry = failed s.registry e := by
  rw [runFrom_validateAll o h]
  exact registry_runValidation o s

/-! ## The gate -/

/-- Where the registry is not valid and no validation is under way, one is run at the gate. -/
theorem runFrom_ensureValid_due (o : Options) {s : Session} (hv : s.registry.phase ≠ .valid)
    (hr : s.registry.phase ≠ .validating) :
    (ensureValid o).runFrom s =
      match (Setting.runValidation (validation o)).runFrom s with
      | (.ok _, s') => (.ok (), s')
      | (.error e, s') => (.error e, s') := by
  change (Setting.supervise false false (validation o) >>= fun _ => pure ()).runFrom s = _
  rw [runFrom_bind, Setting.supervise, runFrom_bind, Setting.runFrom_getRegistry]
  dsimp only
  rw [Registry.gate_due hv hr]
  dsimp only
  rw [runFrom_bind]
  cases (Setting.runValidation (validation o)).runFrom s with
  | mk verdict s' => cases verdict <;> rfl

/-- What survives a validation at the gate, where the registry was not valid, whatever comes of it. -/
structure SurvivesGate (I : Registry JoinPlan → Prop) : Prop where
  passed : ∀ r plans, I r → r.phase ≠ .valid → plansOf r.tables = .ok plans → I (passed r plans)
  failed : ∀ r e, I r → r.phase ≠ .valid → I (failed r e)

/-- Whether a registry is of a kind is a matter of the registry alone. -/
abbrev KeepsRegistry (I : Registry JoinPlan → Prop) (act : Work α) : Prop := Keeps (fun s => I s.registry) act

theorem keeps_onConnection (act : Act Connection α) : KeepsRegistry I (onConnection act) := fun _ hs => hs

theorem keeps_getRegistry {I : Session → Prop} : Keeps I Setting.getRegistry := fun _ hs => hs

/-- What follows a look at the tables may count on them. -/
theorem keeps_tables_bind {I : Session → Prop} {f : List Table → Work α} (h : ∀ s, I s → Keeps I (f s.registry.tables)) :
    Keeps I (tables >>= f) := fun s hs => h s hs s hs

/-- What passing the gate keeps. -/
def KeptByGate (I : Registry JoinPlan → Prop) : Prop := ∀ o, KeepsRegistry I (ensureValid o)

/-- The gate keeps what survives a validation there. -/
theorem SurvivesGate.kept (hI : SurvivesGate I) : KeptByGate I := by
  refine fun o => Keeps.discard fun s hs => ?_
  rw [Setting.supervise, runFrom_bind, Setting.runFrom_getRegistry]
  dsimp only
  cases hg : s.registry.gate false false with
  | wait => exact hs
  | pass => exact hs
  | fail e => exact hs
  | validate =>
    have hphase := Registry.phase_of_gate_unforced hg
    dsimp only
    rw [runFrom_bind]
    have h := registry_runValidation o s
    cases hrun : (Setting.runValidation (validation o)).runFrom s with
    | mk verdict s' =>
      rw [hrun] at h
      cases verdict with
      | ok report =>
        obtain ⟨plans, hplans, hr⟩ := h
        change I s'.registry
        rw [hr]
        exact hI.passed _ _ hs hphase hplans
      | error e =>
        change I s'.registry
        rw [show s'.registry = Client.failed s.registry e from h]
        exact hI.failed _ _ hs hphase

/-! ## Statements -/

/-- A statement of a caller keeps what it keeps as it is sent. -/
theorem keeps_send {I : Session → Prop} {s : Statement} (sent : Keeps I (onConnection (Connection.run o s)))
    (quiet : Bool) : Keeps I (send o s quiet) := by
  refine sent.outcome.bind fun result => ?_
  cases result with
  | ok result => exact Keeps.pure _
  | error e => exact Keeps.ite (Keeps.pure _) (Keeps.throw e)

/-- A query keeps what is kept at the gate and by sending its statement. -/
theorem keeps_query {I : Session → Prop} (gate : Keeps I (ensureValid o)) {s : Statement}
    (sent : Keeps I (onConnection (Connection.run o s))) (quiet : Bool) : Keeps I (query o s quiet) :=
  gate.bind fun _ => keeps_send sent quiet

/-- A statement of the library keeps what the gate and the statement itself keep. -/
theorem keeps_ask {I : Session → Prop} (gate : Keeps I (ensureValid o)) {s : Statement}
    (sent : Keeps I (onConnection (Connection.run o s))) : Keeps I (ask o s) := gate.bind fun _ => sent

/-- A query that does not wait for the gate keeps the registry. -/
theorem keeps_adminQuery (s : Statement) (quiet : Bool) : KeepsRegistry I (adminQuery o s quiet) :=
  (keeps_send (keeps_onConnection _) quiet).bind fun _ => Keeps.lift _

theorem keeps_planFor {I : Session → Prop} (name : String) : Keeps I (planFor name) := by
  refine keeps_getRegistry.bind fun registry => ?_
  split
  · exact Keeps.pure _
  · exact Keeps.lift _
  · exact Keeps.throw _

theorem keeps_close : KeepsRegistry I close := keeps_onConnection _

theorem keeps_createTable (t : Table) : KeepsRegistry I (createTable o t) :=
  (Keeps.lift _).bind fun _ => (keeps_adminQuery _ _).discard

theorem keeps_nextKey {I : Session → Prop} (gate : Keeps I (ensureValid o)) {t : Table}
    (sent : Keeps I (onConnection (Connection.run o (.nextKey t.name t.key)))) : Keeps I (nextKey o t) :=
  (keeps_ask gate sent).bind fun _ => Keeps.lift _

end RelationMapper.Client
