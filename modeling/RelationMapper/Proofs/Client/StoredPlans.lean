import Mathlib.Data.List.Induction
import RelationMapper.Proofs.Client.RowWork

/-!
# Plans of a valid schema

Whatever a client is asked to do, call after call, plans are stored only while its registry is valid, with one exception: a
forced validation of a valid registry that fails leaves the plans of the validation before it (`plans_only_while_valid`,
`plans_left_by_failure`). Every other way out of the valid state clears them.
-/

namespace RelationMapper

namespace Client

/-- What a client can be asked to do. -/
inductive Call where
  | declare (name key : String) (properties : List (Except Fault Property))
  | drop (t : Table)
  | validateAll
  | ensureValid
  | query (s : Statement) (quiet : Bool)
  | adminQuery (s : Statement) (quiet : Bool)
  | createTable (t : Table)
  | nextKey (t : Table)
  | rows (t : Table) (call : RowCall)
  | close

/-- What a call does, apart from what it answers. -/
def Call.run [MomentReader] (o : Options) : Call → Work Unit
  | declare name key properties => discard (declareTable name key properties)
  | drop t => dropTable t
  | validateAll => discard (Client.validateAll o)
  | ensureValid => Client.ensureValid o
  | query s quiet => discard (Client.query o s quiet)
  | adminQuery s quiet => discard (Client.adminQuery o s quiet)
  | createTable t => Client.createTable o t
  | nextKey t => discard (Client.nextKey o t)
  | rows t call => call.run o t
  | close => Client.close

end Client

/-- A call, and what the database will do while it lasts. -/
structure Turn where
  script : Script
  call : Client.Call

namespace Session

open Client Act

/-- What comes of a turn. -/
def take [MomentReader] (o : Options) (s : Session) (turn : Turn) : Except Fault Unit × Session :=
  (turn.call.run o).runFrom { s with rest := { s.rest with connection := s.rest.connection.withScript turn.script } }

/-- A client after some turns. -/
def after [MomentReader] (o : Options) (turns : List Turn) : Session := turns.foldl (fun s turn => (s.take o turn).2) new

/-- A client after one turn more. -/
theorem after_snoc [MomentReader] (o : Options) (turns : List Turn) (turn : Turn) :
    after o (turns ++ [turn]) = ((after o turns).take o turn).2 := by
  simp [after, List.foldl_append]

/-- Whether a valid registry was lost in one of the turns because a validation was forced and failed. -/
def Relapsed [MomentReader] (o : Options) (turns : List Turn) : Prop :=
  ∃ before script later, turns = before ++ ⟨script, .validateAll⟩ :: later ∧ (after o before).registry.phase = .valid ∧
    ∃ e, ((after o before).take o ⟨script, .validateAll⟩).1 = .error e

/-- A valid registry that was lost is lost, whatever comes after. -/
theorem Relapsed.snoc [MomentReader] {o : Options} {turns : List Turn} (h : Relapsed o turns) (turn : Turn) :
    Relapsed o (turns ++ [turn]) := by
  obtain ⟨before, script, later, rfl, hv, he⟩ := h
  exact ⟨before, script, later ++ [turn], by simp, hv, he⟩

/-! ## What a call keeps of the registry -/

/-- What the gate keeps, and every change of the tables. -/
structure KeptByCalls (I : Registry JoinPlan → Prop) : Prop where
  gate : KeptByGate I
  register : ∀ t, KeepsRegistry I (Setting.changeRegistry (·.register t))
  unregister : ∀ name, KeepsRegistry I (Setting.changeRegistry (·.unregister name))

variable {I : Registry JoinPlan → Prop}

/-- Declaring a table keeps what registering it keeps. -/
theorem keeps_declareTable (register : ∀ t, KeepsRegistry I (Setting.changeRegistry (·.register t))) (name key : String)
    (properties : List (Except Fault Property)) : KeepsRegistry I (declareTable name key properties) := by
  refine Keeps.get.bind fun s => (Keeps.lift _).bind fun t => ?_
  exact Keeps.bind (fun s hs => hs) fun _ => (register t).bind fun _ => Keeps.pure _

/-- Every call keeps this but a forced validation, which may be run on a valid registry too. -/
theorem keeps_call [MomentReader] (hI : KeptByCalls I) (o : Options) {call : Call} (hc : call ≠ .validateAll) :
    KeepsRegistry I (call.run o) := by
  have gate : KeptByGate I := hI.gate
  cases call with
  | declare name key properties => exact (keeps_declareTable hI.register name key properties).discard
  | drop t => exact hI.unregister t.name
  | validateAll => exact absurd rfl hc
  | ensureValid => exact gate o
  | query s quiet => exact (keeps_query (gate o) (keeps_onConnection _) quiet).discard
  | adminQuery s quiet => exact (keeps_adminQuery s quiet).discard
  | createTable t => exact keeps_createTable t
  | nextKey t => exact (keeps_nextKey (gate o) (keeps_onConnection _)).discard
  | rows t call => exact keeps_rowCall gate.rowWork t fun _ _ _ _ _ => trivial
  | close => exact keeps_close

/-! ## What a call does to the plans -/

/-- No validation is under way, and there are no plans unless the registry is valid or has become invalid in the one way that
leaves them. -/
structure PlansHeld (relapsed : Prop) (r : Registry JoinPlan) : Prop where
  atRest : r.phase ≠ .validating
  plans : r.phase ≠ .valid → r.plans = [] ∨ (r.phase = .invalid ∧ relapsed)

theorem PlansHeld.mono {relapsed relapsed' : Prop} {r : Registry JoinPlan} (h : PlansHeld relapsed r)
    (hr : relapsed → relapsed') : PlansHeld relapsed' r :=
  ⟨h.atRest, fun hp => (h.plans hp).imp_right fun ⟨hi, hl⟩ => ⟨hi, hr hl⟩⟩

variable {relapsed : Prop} {r : Registry JoinPlan}

/-- The plans after a validation that succeeded are those of a valid registry. -/
theorem plansHeld_passed (r : Registry JoinPlan) (plans : List (String × JoinPlan)) : PlansHeld relapsed (passed r plans) :=
  ⟨by simp [passed], fun h => absurd rfl h⟩

/-- A failure leaves no plans where there were none. -/
theorem PlansHeld.failed (h : PlansHeld relapsed r) (hp : r.phase ≠ .valid ∨ relapsed) (e : Fault) :
    PlansHeld relapsed (failed r e) := by
  refine ⟨by simp [Client.failed], fun _ => ?_⟩
  rcases hp with hp | hl
  · exact (h.plans hp).imp_right fun ⟨_, hl⟩ => ⟨rfl, hl⟩
  · exact .inr ⟨rfl, hl⟩

/-- A change of the tables clears the plans. -/
theorem PlansHeld.invalidate (h : PlansHeld relapsed r) : PlansHeld relapsed r.invalidate :=
  ⟨fun hp => h.atRest ((Registry.phase_invalidate_eq_validating r).mp hp), fun _ => .inl rfl⟩

theorem PlansHeld.register (h : PlansHeld relapsed r) (t : Table) : PlansHeld relapsed (r.register t) :=
  PlansHeld.invalidate ⟨h.atRest, h.plans⟩

theorem PlansHeld.unregister (h : PlansHeld relapsed r) (name : String) : PlansHeld relapsed (r.unregister name) :=
  Registry.of_unregister h (fun _ => PlansHeld.invalidate ⟨h.atRest, h.plans⟩) name

/-- Only a forced validation lets a valid registry fail. -/
theorem keptByCalls_plansHeld : KeptByCalls (PlansHeld relapsed) where
  gate := SurvivesGate.kept ⟨fun r plans _ _ _ => plansHeld_passed r plans, fun _ e h hp => h.failed (.inl hp) e⟩
  register t _ h := h.register t
  unregister name _ h := h.unregister name

/-- A forced validation leaves plans behind only if the registry was valid and the validation fails. -/
theorem plansHeld_validateAll [MomentReader] (o : Options) {s : Session} (h : PlansHeld relapsed s.registry)
    (hl : s.registry.phase = .valid → ∀ e, ((Call.validateAll.run o).runFrom s).1 = .error e → relapsed) :
    PlansHeld relapsed ((Call.validateAll.run o).runFrom s).2.registry := by
  have hleft := registry_validateAll o h.atRest
  change PlansHeld relapsed ((Client.validateAll o >>= fun _ => pure ()).runFrom s).2.registry
  change s.registry.phase = .valid → ∀ e, ((Client.validateAll o >>= fun _ => pure ()).runFrom s).1 = .error e → _ at hl
  rw [runFrom_bind] at hl ⊢
  cases hrun : (Client.validateAll o).runFrom s with
  | mk verdict s' =>
    rw [hrun] at hleft hl
    cases verdict with
    | ok report =>
      obtain ⟨plans, -, hr⟩ := hleft
      change PlansHeld relapsed s'.registry
      rw [hr]
      exact plansHeld_passed _ plans
    | error e =>
      change PlansHeld relapsed s'.registry
      rw [show s'.registry = Client.failed s.registry e from hleft]
      by_cases hv : s.registry.phase = .valid
      · exact h.failed (.inr (hl hv e rfl)) e
      · exact h.failed (.inl hv) e

/-- After every turn the plans are held. -/
theorem plansHeld_after [MomentReader] (o : Options) (turns : List Turn) :
    PlansHeld (Relapsed o turns) (after o turns).registry := by
  induction turns using List.reverseRecOn with
  | nil => exact ⟨by simp [after, new, Registry.empty], fun _ => .inl rfl⟩
  | append_singleton turns turn ih =>
    rw [after_snoc]
    have ih := ih.mono fun h => h.snoc turn
    obtain ⟨script, call⟩ := turn
    by_cases hc : call = .validateAll
    · subst hc
      exact plansHeld_validateAll o ih fun hv e he => ⟨turns, script, [], rfl, hv, e, he⟩
    · exact keeps_call keptByCalls_plansHeld o hc _ ih

/-! ## Plans and validity -/

/-- Join plans exist only for a valid schema: after any calls on a client, whatever the database answered to each of them, no
validation is under way, and a registry that is not valid stores no plan under any name. The exception is a registry that is
invalid after a valid one was validated again by force and failed. -/
theorem plans_only_while_valid [MomentReader] (o : Options) (turns : List Turn) :
    (after o turns).registry.phase ≠ .validating ∧
    ((after o turns).registry.phase ≠ .valid →
      (∀ name, (after o turns).registry.planFor? name = none) ∨
        ((after o turns).registry.phase = .invalid ∧ Relapsed o turns)) := by
  have h := plansHeld_after o turns
  refine ⟨h.atRest, fun hp => (h.plans hp).imp_left fun hplans name => ?_⟩
  rw [Registry.planFor?, hplans]
  rfl

/-- What a database does that answers every statement without rows. -/
def silence : Script := ⟨[], [], none⟩

/-- A table is declared, validated, and another one is declared. -/
def secondTable : List Turn :=
  [⟨silence, .declare "User" "userId" []⟩, ⟨silence, .validateAll⟩, ⟨silence, .declare "Post" "postId" []⟩]

/-- The declaration of a second table clears the plan of the first. -/
theorem plans_only_while_valid_second :
    (after blogOptions (secondTable.take 2)).registry.phase = .valid ∧
      ((after blogOptions (secondTable.take 2)).registry.planFor? "User").isSome ∧
      (after blogOptions secondTable).registry.phase ≠ .valid ∧
      ∀ name, (after blogOptions secondTable).registry.planFor? name = none := by
  have hp : (after blogOptions secondTable).registry.phase = .unvalidated := by decide +kernel
  have hv : (after blogOptions secondTable).registry.phase ≠ .valid := by simp [hp]
  refine ⟨by decide +kernel, by decide +kernel, hv, ?_⟩
  rcases (plans_only_while_valid blogOptions secondTable).2 hv with h | ⟨hi, -⟩
  · exact h
  · rw [hp] at hi
    cases hi

/-- A table is declared, validated, and validated again while its columns cannot be read. -/
def failedAgain : List Turn :=
  [⟨silence, .declare "User" "userId" []⟩, ⟨silence, .validateAll⟩,
    ⟨⟨[{ answer := .error (.foreign ⟨.sqliteOperational, "database is locked"⟩) }], [], none⟩, .validateAll⟩]

/-- A forced validation of a valid registry that fails leaves the plan of the table, although the registry is invalid. -/
theorem plans_left_by_failure :
    ¬ ∀ (o : Options) (turns : List Turn), (after o turns).registry.phase ≠ .valid →
      ∀ name, (after o turns).registry.planFor? name = none := by
  intro h
  have hp : (after blogOptions failedAgain).registry.phase = .invalid := by decide +kernel
  have hplan : ((after blogOptions failedAgain).registry.planFor? "User").isSome = true := by decide +kernel
  rw [h blogOptions failedAgain (by simp [hp]) "User"] at hplan
  cases hplan

end Session

end RelationMapper
