import RelationMapper.Client
import RelationMapper.Proofs.Connection
import RelationMapper.Proofs.Plan
import RelationMapper.Proofs.Validation

/-!
# A valid registry

What a successful validation leaves (`Registry.Validated`, `validated_of_run`): a well-formed schema with a plan for each table.
While the registry is valid, work on rows goes through the gate without a validation and does not change the registry. The
lemmas about the parts of such work say how each of them behaves in this sense (`behaves_ask`, `behaves_planFor`).
-/

namespace RelationMapper

open Act

/-- A registry as a successful validation leaves it. -/
structure Registry.Validated (r : Registry JoinPlan) : Prop where
  valid : r.phase = .valid
  wellFormed : WellFormedSchema r.tables
  distinct : ∀ t ∈ r.tables, t.Distinct
  plans : Client.plansOf r.tables = .ok r.plans

namespace Setting

variable {π ω α : Type}

theorem runFrom_getRegistry (s : Setting π ω) : getRegistry.runFrom s = (.ok s.registry, s) := rfl

theorem runFrom_changeRegistry (change : Registry π → Registry π) (s : Setting π ω) :
    (changeRegistry change).runFrom s = (.ok (), { s with registry := change s.registry }) := rfl

/-- A validation is run between its beginning and its end, which records what came of it. -/
theorem runFrom_runValidation (validation : Act (Setting π ω) α) (s : Setting π ω) :
    (runValidation validation).runFrom s =
      match validation.runFrom { s with registry := s.registry.begin } with
      | (.ok a, s') => (.ok a, { s' with registry := s'.registry.finish s.registry.generation none })
      | (.error e, s') => (.error e, { s' with registry := s'.registry.finish s.registry.generation (some e) }) := by
  rw [runValidation, runFrom_bind, runFrom_getRegistry]
  dsimp only
  rw [runFrom_bind, runFrom_changeRegistry]
  dsimp only
  rw [runFrom_bind, runFrom_outcome]
  cases validation.runFrom { s with registry := s.registry.begin } with
  | mk verdict s' => cases verdict <;> rfl

/-- While the registry is valid, the gate lets pass without a validation. -/
theorem runFrom_ensureValid (validation : Act (Setting π ω) α) {s : Setting π ω} (h : s.registry.phase = .valid) :
    (ensureValid validation).runFrom s = (.ok (), s) := by
  have hg : s.registry.gate false false = .pass := by
    rw [Registry.gate, h]
    rfl
  have hs : (supervise false false validation).runFrom s = (.ok none, s) := by
    rw [supervise, runFrom_bind, runFrom_getRegistry]
    dsimp only
    rw [hg]
    rfl
  change (supervise false false validation >>= fun _ => pure ()).runFrom s = _
  rw [runFrom_bind, hs]
  rfl

end Setting

namespace Client

variable {α : Type} {P : Prop} {r : Registry JoinPlan}

/-- The state of a client whose registry stays as it is. -/
def settled (r : Registry JoinPlan) : Frame Session := ⟨fun s => s.rest.connection, fun s => s.registry = r, r.tables⟩

/-- Work on the connection changes nothing else. -/
theorem runFrom_onConnection (act : Act Connection α) (s : Session) :
    (onConnection act).runFrom s = ((act.runFrom s.rest.connection).1,
      { s with rest := { s.rest with connection := (act.runFrom s.rest.connection).2 } }) := rfl

/-- Work on the connection behaves for the client as it does for the connection. -/
theorem behaves_onConnection [MomentReader] {act : Act Connection α} {Q : α → Prop}
    (h : Behaves (Connection.alone r.tables) P act Q) : Behaves (settled r) P (onConnection act) Q := by
  intro s hs
  obtain ⟨-, events, ht, hq⟩ := h s.rest.connection trivial
  exact ⟨hs, events, ht, hq⟩

theorem behaves_getRegistry [MomentReader] : Behaves (settled r) P Setting.getRegistry (· = r) := by
  intro s hs
  exact ⟨hs, [], (List.append_nil _).symm, fun _ hd _ => ⟨hs, hd, rfl⟩⟩

theorem behaves_tables [MomentReader] : Behaves (settled r) P tables (· = r.tables) :=
  behaves_getRegistry.bind fun _ => Behaves.pure fun h => congrArg Registry.tables h.2

/-! ## Validation -/

/-- Reading columns leaves the registry as it is. -/
theorem behaves_compareTables [MomentReader] (o : Options) (strict : Bool) (report : Report) (ts : List Table) :
    Behaves (settled r) False (compareTables strict (readColumns o) report ts) fun _ => True := by
  induction ts generalizing report with
  | nil => exact Behaves.pure fun h => h.elim
  | cons t ts ih =>
    have columns : Behaves (settled r) False (readColumns o t.name) fun _ => True :=
      (behaves_onConnection (Q := fun _ => True) (Connection.behaves_perform o (fun h => h.elim) fun h => h.elim)).bind
        fun _ => (Behaves.lift fun h => h.1.elim).mono fun _ _ _ => trivial
    refine columns.bind fun _ => ?_
    exact (Behaves.lift fun h => h.1.elim).bind fun _ =>
      (ih _).weaken fun h => h.1.1

/-- Validating tables leaves the registry as it is. -/
theorem registry_validate {o : Options} {strict : Bool} {ts : List Table} (s : Session) :
    ((validate strict (readColumns o) ts).runFrom s).2.registry = s.registry := by
  have behaves : Behaves (settled s.registry) False (validate strict (readColumns o) ts) fun _ => True :=
    (behaves_compareTables o _ _ _).bind fun _ =>
      (Behaves.lift fun h => h.1.elim).bind fun _ => Behaves.pure fun _ => trivial
  exact (behaves s rfl).1

/-- A validation compares the tables, and then stores their plans and the report. -/
theorem runFrom_validation (o : Options) (s : Session) :
    (validation o).runFrom s =
      match (validate o.strict.isTruthy (readColumns o) s.registry.tables).runFrom s with
      | (.error e, s₁) => (.error e, s₁)
      | (.ok report, s₁) =>
        match plansOf s₁.registry.tables with
        | .error e => (.error e, s₁)
        | .ok plans => (.ok report, ⟨s₁.registry.storePlans plans, { s₁.rest with report := some report }⟩) := by
  have hread : ∀ s : Session, (tables : Work (List Table)).runFrom s = (.ok s.registry.tables, s) := fun _ => rfl
  rw [validation, runFrom_bind, hread]
  dsimp only
  rw [runFrom_bind]
  cases (validate o.strict.isTruthy (readColumns o) s.registry.tables).runFrom s with
  | mk verdict s₁ =>
    cases verdict with
    | error e => rfl
    | ok report =>
      dsimp only
      rw [runFrom_bind, hread]
      dsimp only
      rw [runFrom_bind, runFrom_lift]
      cases plansOf s₁.registry.tables <;> rfl

/-- A validation changes the registry only when it stores the plans. -/
theorem registry_validation {o : Options} {s s' : Session} {report : Report}
    (h : (validation o).runFrom s = (.ok report, s')) :
    (∃ strict readColumns, ((validate strict readColumns s.registry.tables).runFrom s).1 = .ok report) ∧
      ∃ plans, plansOf s.registry.tables = .ok plans ∧ s'.registry = s.registry.storePlans plans := by
  rw [runFrom_validation] at h
  have hstay := @registry_validate o o.strict.isTruthy s.registry.tables s
  cases hv : (validate o.strict.isTruthy (readColumns o) s.registry.tables).runFrom s with
  | mk verdict s₁ =>
    rw [hv] at h hstay
    cases verdict with
    | error e => cases h
    | ok r =>
      dsimp only at h hstay
      cases hp : plansOf s₁.registry.tables with
      | error e =>
        rw [hp] at h
        cases h
      | ok plans =>
        rw [hp] at h
        cases h
        rw [hstay] at hp
        exact ⟨⟨_, _, by rw [hv]⟩, plans, hp, congrArg (·.storePlans plans) hstay⟩

/-- A validation that fails leaves the registry as it was. -/
theorem registry_validation_error {o : Options} {s s' : Session} {e : Fault}
    (h : (validation o).runFrom s = (.error e, s')) : s'.registry = s.registry := by
  rw [runFrom_validation] at h
  have hstay := @registry_validate o o.strict.isTruthy s.registry.tables s
  cases hv : (validate o.strict.isTruthy (readColumns o) s.registry.tables).runFrom s with
  | mk verdict s₁ =>
    rw [hv] at h hstay
    cases verdict with
    | error e' =>
      cases h
      exact hstay
    | ok report =>
      dsimp only at h
      cases hp : plansOf s₁.registry.tables with
      | error e' =>
        rw [hp] at h
        cases h
        exact hstay
      | ok plans =>
        rw [hp] at h
        cases h

/-- After a successful validation the registry is valid, with the tables it had. -/
theorem validated_of_run {o : Options} {s s' : Session} {report : Report} (hd : ∀ t ∈ s'.registry.tables, t.Distinct)
    (h : (Setting.runValidation (validation o)).runFrom s = (.ok report, s')) : s'.registry.Validated := by
  rw [Setting.runFrom_runValidation] at h
  cases hv : (validation o).runFrom { s with registry := s.registry.begin } with
  | mk verdict s₂ =>
    rw [hv] at h
    cases verdict with
    | error e => cases h
    | ok r =>
      cases h
      obtain ⟨⟨strict, readColumns, hreport⟩, plans, hplans, hregistry⟩ := registry_validation hv
      have hfinal : s₂.registry.finish s.registry.generation none =
          { s.registry with phase := .valid, error := none, plans } := by
        rw [hregistry]
        simp [Registry.finish, Registry.storePlans, Registry.begin]
      rw [hfinal] at hd ⊢
      exact ⟨rfl, wellFormed_of_report hd hreport, hd, hplans⟩

/-! ## The gate and the statements of the library -/

/-- Waiting for a registry that is validated already behaves. -/
theorem behaves_ensureValid [MomentReader] (hr : r.Validated) (o : Options) :
    Behaves (settled r) P (ensureValid o) fun _ => True := by
  intro s hs
  rw [ensureValid, Setting.runFrom_ensureValid _ (hs ▸ hr.valid)]
  exact ⟨hs, [], (List.append_nil _).symm, fun _ hd _ => ⟨trivial, hd, rfl⟩⟩

/-- A statement of the library brings what is admissible for it. -/
theorem behaves_ask [MomentReader] (hr : r.Validated) (o : Options) (s : Statement) :
    Behaves (settled r) P (ask o s) fun result => s.Admits r.tables result :=
  (behaves_ensureValid hr o).bind fun _ => behaves_onConnection (Connection.behaves_run o s)

/-- Under the name of each table its plan is stored. -/
theorem lookup_plans {ts tables : List Table} {plans : List (String × JoinPlan)}
    (h : (ts.mapM fun t => do return (t.name, ← t.plan tables) : Except Fault _) = .ok plans)
    (hn : (ts.map (·.name)).Nodup) {t : Table} (ht : t ∈ ts) :
    ∃ plan, plans.lookup t.name = some plan ∧ t.plan tables = .ok plan := by
  induction ts generalizing plans with
  | nil => exact absurd ht List.not_mem_nil
  | cons u ts ih =>
    rw [List.map_cons, List.nodup_cons] at hn
    rw [List.mapM_cons] at h
    obtain ⟨named, hu, h⟩ := bind_eq_ok.mp h
    obtain ⟨plan, hplan, hu⟩ := bind_eq_ok.mp hu
    obtain ⟨rest, hrest, h⟩ := bind_eq_ok.mp h
    cases pure_eq_ok.mp hu
    cases pure_eq_ok.mp h
    rcases List.mem_cons.mp ht with rfl | ht
    · exact ⟨plan, List.lookup_cons_self, hplan⟩
    · obtain ⟨plan', hl, hp⟩ := ih hrest hn.2 ht
      have hne : (t.name == u.name) = false := beq_false_of_ne fun he => hn.1 (List.mem_map.mpr ⟨t, ht, he⟩)
      exact ⟨plan', by rw [List.lookup_cons, hne]; exact hl, hp⟩

/-- For a table of the schema there is a plan. -/
theorem behaves_planFor [MomentReader] (hr : r.Validated) (name : String) :
    Behaves (settled r) (∃ t ∈ r.tables, t.name = name) (planFor name)
      fun plan => ∀ t ∈ r.tables, t.name = name → t.plan r.tables = .ok plan := by
  refine behaves_getRegistry.bind fun registry => ?_
  have stored : (∃ t ∈ r.tables, t.name = name) ∧ registry = r → ∃ plan, registry.planFor? name = some plan ∧
      ∀ t ∈ r.tables, t.name = name → t.plan r.tables = .ok plan := by
    rintro ⟨⟨t, ht, rfl⟩, rfl⟩
    obtain ⟨plan, hl, hp⟩ := lookup_plans hr.plans hr.wellFormed.names ht
    refine ⟨plan, hl, fun u hu hn => ?_⟩
    have hfind := (findTable?_eq_some hr.wellFormed.names).mpr ⟨hu, hn⟩
    rw [(findTable?_eq_some hr.wellFormed.names).mpr ⟨ht, rfl⟩] at hfind
    exact Option.some.inj hfind ▸ hp
  cases hl : registry.planFor? name with
  | some plan =>
    refine Behaves.pure fun h => ?_
    obtain ⟨plan', hl', hp⟩ := stored h
    rw [hl] at hl'
    exact Option.some.inj hl' ▸ hp
  | none =>
    have hno : ¬((∃ t ∈ r.tables, t.name = name) ∧ registry = r) := fun h => by
      obtain ⟨plan, hl', -⟩ := stored h
      rw [hl] at hl'
      cases hl'
    cases registry.find? name with
    | some t => exact (Behaves.lift fun h => absurd h hno).mono fun h => absurd h hno
    | none => exact Behaves.throw fun h => absurd h hno

end Client

end RelationMapper
