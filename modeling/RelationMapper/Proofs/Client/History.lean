import RelationMapper.Proofs.Client.StoredPlans

/-!
# The history of a client

Everything that can happen to a client, one thing after the other: it takes turns, and between them its registry may be declared
valid or not (`Incident`). What survives a validation, changes of the tables and declarations holds of the registry at all times
(`KeptByHistory.holds`).
-/

namespace RelationMapper

/-- What happens to a client: it takes a turn, or its registry is declared valid or not. -/
inductive Incident where
  | turn (turn : Turn)
  | setValid (valid : Bool)

namespace Session

open Client Act

/-- A client after something happened to it. -/
def meet [MomentReader] (o : Options) (s : Session) : Incident → Session
  | .turn turn => (s.take o turn).2
  | .setValid valid => { s with registry := s.registry.setValid valid }

/-- A client after everything that has happened to it since it was created. -/
def afterAll [MomentReader] (o : Options) (history : List Incident) : Session := history.foldl (meet o) new

/-- A client after one thing more. -/
theorem afterAll_snoc [MomentReader] (o : Options) (history : List Incident) (incident : Incident) :
    afterAll o (history ++ [incident]) = (afterAll o history).meet o incident := by
  simp [afterAll, List.foldl_append]

/-! ## What a history keeps -/

variable {I : Registry JoinPlan → Prop}

/-- What survives a validation, whether one is due or forced, and whatever comes of it. Where it holds, none is under way. -/
structure SurvivesValidation (I : Registry JoinPlan → Prop) : Prop where
  atRest : ∀ r, I r → r.phase ≠ .validating
  passed : ∀ r plans, I r → plansOf r.tables = .ok plans → I (passed r plans)
  failed : ∀ r e, I r → I (failed r e)

theorem SurvivesValidation.gate (hI : SurvivesValidation I) : KeptByGate I :=
  SurvivesGate.kept ⟨fun r plans hr _ => hI.passed r plans hr, fun r e hr _ => hI.failed r e hr⟩

theorem SurvivesValidation.forced (hI : SurvivesValidation I) (o : Options) : KeepsRegistry I (validateAll o) := by
  intro s hs
  have hleft := registry_validateAll o (hI.atRest _ hs)
  cases hrun : (validateAll o).runFrom s with
  | mk verdict s' =>
    rw [hrun] at hleft
    change I s'.registry
    cases verdict with
    | ok report =>
      obtain ⟨plans, hplans, hr⟩ := hleft
      rw [hr]
      exact hI.passed _ plans hs hplans
    | error e =>
      rw [show s'.registry = Client.failed s.registry e from hleft]
      exact hI.failed _ e hs

/-- What everything that can happen keeps of a registry: a change of the tables counts as a change, whichever it is. -/
structure KeptByHistory (I : Registry JoinPlan → Prop) : Prop extends SurvivesValidation I where
  changed : ∀ r tables, I r → I { r with tables }.invalidate
  setValid : ∀ r valid, I r → I (r.setValid valid)

theorem KeptByHistory.calls (hI : KeptByHistory I) : KeptByCalls I where
  gate := hI.gate
  register _ s hs := hI.changed s.registry _ hs
  unregister name s hs := Registry.of_unregister hs (fun tables => hI.changed s.registry tables hs) name

/-- What everything that can happen keeps holds at all times, if it holds of a new client. -/
theorem KeptByHistory.holds [MomentReader] (hI : KeptByHistory I) (hnew : I .empty) (o : Options) (history : List Incident) :
    I (afterAll o history).registry := by
  induction history using List.reverseRecOn with
  | nil => exact hnew
  | append_singleton history incident ih =>
    rw [afterAll_snoc]
    cases incident with
    | setValid valid => exact hI.setValid _ valid ih
    | turn turn =>
      obtain ⟨script, call⟩ := turn
      by_cases hc : call = .validateAll
      · subst hc
        exact (hI.forced o).discard _ ih
      · exact keeps_call hI.calls o hc _ ih

/-- Between two incidents no validation is under way. -/
theorem keptByHistory_notValidating : KeptByHistory (·.phase ≠ .validating) where
  atRest _ h := h
  passed _ _ _ _ := by simp [Client.passed]
  failed _ _ _ := by simp [Client.failed]
  changed r tables h := mt (Registry.phase_invalidate_eq_validating { r with tables }).mp h
  setValid r valid _ := r.phase_setValid_ne_validating valid

end Session

end RelationMapper
