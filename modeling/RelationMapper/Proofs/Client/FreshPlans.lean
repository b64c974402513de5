import RelationMapper.Proofs.Client.History

/-!
# Stored plans are never stale

A client plans its tables when it validates them, and then uses the stored plans. Whatever happens to it, the answer is the same as
if it planned anew each time (`planFor_eq_planAnew`): a stored plan belongs to the first table of its name among those that are
registered now, and is the plan that this table has among them. A change of the tables gives all plans up; a declaration, or a
validation that fails, leaves the tables as they are, and so the plans that are stored stay right.
-/

namespace RelationMapper

/-- The plan of a table as it is made from the tables that are registered. -/
def Registry.planAnew (r : Registry JoinPlan) (name : String) : Except Fault JoinPlan :=
  match r.find? name with
  | some t => t.plan r.tables
  | none => .error (.misuse (.undeclaredTable name))

namespace Session

open Client Act

variable {r : Registry JoinPlan} {name : String} {plan : JoinPlan}

/-- Every stored plan is that of a registered table, and the one that this table has now. -/
def Fresh (r : Registry JoinPlan) : Prop :=
  ∀ name plan, r.planFor? name = some plan → ∃ t, r.find? name = some t ∧ t.plan r.tables = .ok plan

/-- Among the plans of tables, the one that is found under a name is that of the first table of this name. -/
theorem lookup_plans_of_tables {ts tables : List Table} {plans : List (String × JoinPlan)}
    (h : (ts.mapM fun t => do return (t.name, ← t.plan tables) : Except Fault _) = .ok plans)
    (hl : plans.lookup name = some plan) : ∃ t, findTable? ts name = some t ∧ t.plan tables = .ok plan := by
  induction ts generalizing plans with
  | nil =>
    cases pure_eq_ok.mp h
    cases hl
  | cons t ts ih =>
    rw [List.mapM_cons] at h
    obtain ⟨named, ht, h⟩ := bind_eq_ok.mp h
    obtain ⟨own, hown, ht⟩ := bind_eq_ok.mp ht
    obtain ⟨rest, hrest, h⟩ := bind_eq_ok.mp h
    cases pure_eq_ok.mp ht
    cases pure_eq_ok.mp h
    by_cases hn : t.name = name
    · subst hn
      rw [List.lookup_cons_self] at hl
      exact ⟨t, List.find?_cons_of_pos (beq_self_eq_true _), Option.some.inj hl ▸ hown⟩
    · rw [List.lookup_cons, beq_false_of_ne (Ne.symm hn)] at hl
      obtain ⟨u, hu, hplan⟩ := ih hrest hl
      exact ⟨u, (List.find?_cons_of_neg (by simpa using hn)).trans hu, hplan⟩

/-- Everything that can happen keeps the plans fresh. -/
theorem keptByHistory_fresh : KeptByHistory fun r => r.phase ≠ .validating ∧ Fresh r where
  atRest _ h := h.1
  passed r plans _ hplans := ⟨by simp [Client.passed], fun _ _ hl => lookup_plans_of_tables hplans hl⟩
  failed _ _ h := ⟨by simp [Client.failed], h.2⟩
  changed r tables h := ⟨keptByHistory_notValidating.changed r tables h.1, fun _ _ hl => by cases hl⟩
  setValid r valid h := ⟨keptByHistory_notValidating.setValid r valid h.1, h.2⟩

/-- Where the plans are fresh, the plan of a table is the one that is made anew, whether it is stored or not. -/
theorem runFrom_planFor_of_fresh {s : Session} (h : Fresh s.registry) (name : String) :
    (planFor name).runFrom s = (s.registry.planAnew name, s) := by
  rw [planFor, runFrom_bind, Setting.runFrom_getRegistry, Registry.planAnew]
  dsimp only
  cases hplan : s.registry.planFor? name with
  | some plan =>
    obtain ⟨t, ht, hfresh⟩ := h name plan hplan
    rw [ht]
    dsimp only
    rw [hfresh]
    rfl
  | none => cases s.registry.find? name <;> rfl

/-- Stored plans are never stale: whatever has happened to a client, a plan that is stored under a name is the plan of the first
registered table of this name among the tables that are registered now, nothing is stored under a name that no table has, and the
client answers for every name what planning anew would. -/
theorem planFor_eq_planAnew [MomentReader] (o : Options) (history : List Incident) (name : String) :
    (∀ plan, (afterAll o history).registry.planFor? name = some plan →
      ∃ t, (afterAll o history).registry.find? name = some t ∧
        t.plan (afterAll o history).registry.tables = .ok plan) ∧
    ((afterAll o history).registry.find? name = none →
      (afterAll o history).registry.planFor? name = none ∧
        (planFor name).runFrom (afterAll o history) =
          (.error (.misuse (.undeclaredTable name)), afterAll o history)) ∧
    (planFor name).runFrom (afterAll o history) =
      ((afterAll o history).registry.planAnew name, afterAll o history) := by
  have hfresh : Fresh (afterAll o history).registry :=
    (keptByHistory_fresh.holds ⟨by simp [Registry.empty], fun _ _ hl => by cases hl⟩ o history).2
  have hplan := runFrom_planFor_of_fresh hfresh name
  refine ⟨hfresh name, fun hnone => ⟨?_, ?_⟩, hplan⟩
  · refine Option.eq_none_iff_forall_ne_some.mpr fun plan hl => ?_
    obtain ⟨t, ht, -⟩ := hfresh name plan hl
    cases hnone.symm.trans ht
  · rw [hplan, Registry.planAnew, hnone]

/-- Users are validated, and a validation that is forced afterwards fails; the plan of the first one is still that of the table. -/
example :
    let s := afterAll blogOptions ((failedAgain.map .turn) ++ [.setValid true])
    s.registry.phase = .valid ∧ (s.registry.planFor? "User").isSome ∧
      s.registry.planFor? "User" = (s.registry.planAnew "User").toOption := by
  decide +kernel

end Session

end RelationMapper
