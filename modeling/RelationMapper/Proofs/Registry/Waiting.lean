import RelationMapper.Plan
import RelationMapper.Proofs.Registry.Interleaving

/-!
# Callers that wait

A caller at the gate of a registry that is validating waits. When he is woken, the validation he waited for may be long over:
others may have run since, the tables may have changed, and the registry may have been declared valid or not. What he then
finds is a phase and an error, which different steps have written.

`Failures` is a run together with the errors of the validations that ended it in an invalid registry. The main statement
is `outcome_shared`: an invalid registry holds the last of these errors and a valid one none, and whoever has waited passes a
valid registry, fails with an error that was recorded while he waited, or starts a validation of an unvalidated registry.
-/

namespace RelationMapper

namespace Crowd

variable {π : Type} {c c' c'' c₁ c₂ c₃ : Crowd π} {m : Move π} {moves : List (Move π)} {errors : List Fault} {i : Nat}

/-- A run, and the errors of the validations that ended with an invalid registry, in their order. -/
inductive Failures : Crowd π → List (Move π) → Crowd π → List Fault → Prop
  | nil {c : Crowd π} : Failures c [] c []
  | recorded {c c' c'' : Crowd π} {moves : List (Move π)} {errors : List Fault} {i : Nat} {e : Fault}
    (run : Failures c moves c' errors) (step : Step c' (.finish i (some e)) c'') (invalid : c''.registry.phase = .invalid) :
    Failures c (moves ++ [.finish i (some e)]) c'' (errors ++ [e])
  | other {c c' c'' : Crowd π} {moves : List (Move π)} {errors : List Fault} {m : Move π}
    (run : Failures c moves c' errors) (step : Step c' m c'')
    (unrecorded : ∀ i error, m = .finish i error → c''.registry.phase ≠ .invalid) :
    Failures c (moves ++ [m]) c'' errors

theorem Failures.run (h : Failures c moves c' errors) : Run c moves c' := by
  induction h with
  | nil => exact .nil
  | recorded _ hs _ ih | other _ hs _ ih => exact ih.snoc hs

/-! ## What a step does to the phase and the error -/

/-- A registry is invalid because it was, with the same error, or because a validation has just ended with the error that it
holds. -/
theorem Step.invalid_inv (hs : Step c m c') (h : c'.registry.phase = .invalid) :
    (c.registry.phase = .invalid ∧ c'.registry.error = c.registry.error ∧ ∀ i error, m ≠ .finish i error) ∨
      ∃ i e, m = .finish i (some e) ∧ c'.registry.error = some e := by
  cases hs with
  | call | wait | pass | fail | storePlans => exact .inl ⟨h, rfl, nofun⟩
  | start => cases h
  | @finish i generation error hi =>
    obtain ⟨e, rfl, he⟩ := Registry.finish_invalid h
    exact .inr ⟨i, e, rfl, he⟩
  | register => exact absurd h (Registry.phase_invalidate_ne_invalid _)
  | @unregister name =>
    rw [registry_change] at h ⊢
    cases hfound : c.registry.tables.any (·.name == name) with
    | true =>
      rw [Registry.unregister_of_found hfound] at h
      exact absurd h (Registry.phase_invalidate_ne_invalid _)
    | false =>
      rw [Registry.unregister_of_missing hfound] at h ⊢
      exact .inl ⟨h, rfl, nofun⟩
  | @setValid valid => cases valid <;> cases h

/-- A step that leaves the registry valid leaves no error in it, unless there was one in a valid registry before. -/
theorem Step.error_of_valid (hs : Step c m c') (hc : c.registry.phase = .valid → c.registry.error = none)
    (h : c'.registry.phase = .valid) : c'.registry.error = none := by
  cases hs with
  | call | wait | pass | fail | storePlans => exact hc h
  | start => cases h
  | finish => exact Registry.finish_valid h
  | register => rfl
  | @unregister name =>
    rw [registry_change] at h ⊢
    cases hfound : c.registry.tables.any (·.name == name) with
    | true =>
      rw [Registry.unregister_of_found hfound]
      rfl
    | false =>
      rw [Registry.unregister_of_missing hfound] at h ⊢
      exact hc h
  | setValid => rfl

/-- Whoever has waited and leaves the gate passes a valid registry, fails with the error of an invalid one, or starts a
validation of an unvalidated one. -/
theorem Step.leaves_inv (hs : Step c m c') (hi : c.stage i = .atGate false true) (hm : m.leaves i = true) :
    (m = .pass i ∧ c.registry.phase = .valid ∧ c'.registry = c.registry) ∨
      (∃ e, m = .fail i e ∧ c.registry.phase = .invalid ∧ (∀ e', c.registry.error = some e' → e = e') ∧
        c'.registry = c.registry) ∨
      (m = .start i ∧ c.registry.phase = .unvalidated) := by
  cases hs with
  | call | wait | finish | register | unregister | setValid | storePlans => cases hm
  | @pass caller _ _ hc gate =>
    obtain rfl : caller = i := by simpa [Move.leaves] using hm
    exact .inl ⟨rfl, Registry.phase_of_gate_pass gate, rfl⟩
  | @fail caller _ _ e hc gate =>
    obtain rfl : caller = i := by simpa [Move.leaves] using hm
    obtain ⟨hp, he⟩ := Registry.phase_of_gate_fail gate
    exact .inr (.inl ⟨e, rfl, hp, he, rfl⟩)
  | @start caller _ _ hc gate =>
    obtain rfl : caller = i := by simpa [Move.leaves] using hm
    rw [hi] at hc
    cases hc
    exact .inr (.inr ⟨rfl, Registry.phase_of_gate_waited gate⟩)

/-! ## What a run leaves -/

/-- In every run it is settled which validations ended with an invalid registry. -/
theorem Run.failures (h : Run c moves c') : ∃ errors, Failures c moves c' errors := by
  induction h with
  | nil => exact ⟨[], .nil⟩
  | @snoc _ c'' _ m _ hs ih =>
    obtain ⟨errors, herrors⟩ := ih
    by_cases hm : (∃ i error, m = .finish i error) ∧ c''.registry.phase = .invalid
    · obtain ⟨⟨i, error, rfl⟩, hp⟩ := hm
      rcases hs.invalid_inv hp with ⟨-, -, hm⟩ | ⟨_, e, hm, -⟩
      · exact absurd rfl (hm i error)
      · cases hm
        exact ⟨errors ++ [e], .recorded herrors hs hp⟩
    · exact ⟨errors, .other herrors hs fun i error he hp => hm ⟨⟨i, error, he⟩, hp⟩⟩

/-- A run that ends with an invalid registry, and did not begin with one, leaves the error of the last validation that ended
so. -/
theorem Failures.last (h : Failures c moves c' errors) (hc : c.registry.phase ≠ .invalid)
    (hp : c'.registry.phase = .invalid) : ∃ e, c'.registry.error = some e ∧ errors.getLast? = some e := by
  induction h with
  | nil => exact absurd hp hc
  | @recorded _ _ _ errors i e _ hs _ _ =>
    rcases hs.invalid_inv hp with ⟨-, -, hm⟩ | ⟨_, e', hm, he⟩
    · exact absurd rfl (hm i (some e))
    · cases hm
      exact ⟨e, he, List.getLast?_concat⟩
  | other _ hs unrecorded ih =>
    rcases hs.invalid_inv hp with ⟨hp', he, -⟩ | ⟨i, e, hm, -⟩
    · rw [he]
      exact ih hp'
    · exact absurd hp (unrecorded i _ hm)

/-- A run leaves no error in a valid registry if it began without. -/
theorem Run.error_of_valid (h : Run c moves c') (hc : c.registry.phase = .valid → c.registry.error = none) :
    c'.registry.phase = .valid → c'.registry.error = none := by
  induction h with
  | nil => exact hc
  | snoc _ hs ih => exact hs.error_of_valid ih

/-- Those who wait share a real outcome. An invalid registry holds the error of the last validation that ended with an invalid
registry, and a valid registry holds no error. And whoever asks for a valid registry, waits, and at last leaves the gate passes
while the registry is valid, or fails with the error of the last validation that ended with an invalid registry since he
began to wait, or starts a validation of an unvalidated registry. -/
theorem outcome_shared :
    (∀ (moves : List (Move π)) (c : Crowd π), Run new moves c →
      ∃ errors, Failures new moves c errors ∧
        (c.registry.phase = .invalid → ∃ e, c.registry.error = some e ∧ errors.getLast? = some e) ∧
        (c.registry.phase = .valid → c.registry.error = none)) ∧
    (∀ (c₀ c₁ c₂ c₃ : Crowd π) (i : Nat) (waited : Bool) (moves : List (Move π)) (m : Move π),
      c₀.stage i = .atGate false waited → Step c₀ (.wait i) c₁ → Run c₁ moves c₂ → (∀ m ∈ moves, m.leaves i = false) →
      Step c₂ m c₃ → m.leaves i = true →
      ∃ errors, Failures c₁ moves c₂ errors ∧
        ((m = .pass i ∧ c₂.registry.phase = .valid ∧ c₃.registry = c₂.registry) ∨
          (∃ e, m = .fail i e ∧ errors.getLast? = some e ∧ c₃.registry = c₂.registry) ∨
          (m = .start i ∧ c₂.registry.phase = .unvalidated))) := by
  constructor
  · intro moves c hrun
    obtain ⟨errors, herrors⟩ := hrun.failures
    exact ⟨errors, herrors, herrors.last nofun, hrun.error_of_valid nofun⟩
  · intro c₀ c₁ c₂ c₃ i waited moves m hi hwait hrun hmoves hs hm
    obtain ⟨errors, herrors⟩ := hrun.failures
    obtain ⟨hp, hr, force, _, hi', hwaiting⟩ := hwait.wait_inv
    rw [hi] at hi'
    cases hi'
    refine ⟨errors, herrors, ?_⟩
    rcases hs.leaves_inv (hrun.waited hwaiting hmoves) hm with hpass | ⟨e, rfl, hinvalid, he, hr'⟩ | hstart
    · exact .inl hpass
    · -- while he began to wait the registry was validating, so the error that he finds was recorded since
      have hc₁ : c₁.registry.phase ≠ .invalid := by simp [hr, hp]
      obtain ⟨e', herror, hlast⟩ := herrors.last hc₁ hinvalid
      obtain rfl := he e' herror
      exact .inr (.inl ⟨e, rfl, hlast, hr'⟩)
    · exact .inr (.inr hstart)

/-- A caller waits for a validation that fails. Before he is woken another caller has tried again, and has failed with an error
of its own; the caller who has waited fails with that one. -/
theorem outcome_shared_retry :
    ∃ (first second : Fault) (c₀ c₁ c₂ c₃ : Crowd JoinPlan) (before later : List (Move JoinPlan)), first ≠ second ∧
      later = [.finish 0 (some first), .call 2 false, .start 2, .finish 2 (some second)] ∧
      Run new (before ++ later) c₂ ∧ c₂.registry.phase = .invalid ∧
      (∃ errors, Failures new (before ++ later) c₂ errors ∧ errors.getLast? = some second) ∧
      c₀.stage 1 = .atGate false false ∧ Step c₀ (.wait 1) c₁ ∧ Run c₁ later c₂ ∧
      (∀ m ∈ later, m.leaves 1 = false) ∧ Step c₂ (.fail 1 second) c₃ ∧
      ∃ errors, Failures c₁ later c₂ errors ∧ errors.getLast? = some second := by
  let first : Fault := .foreign ⟨.runtime, "first"⟩
  let second : Fault := .foreign ⟨.runtime, "second"⟩
  let later : List (Move JoinPlan) := [.finish 0 (some first), .call 2 false, .start 2, .finish 2 (some second)]
  let c₀ : Crowd JoinPlan :=
    (((new.place 0 (.atGate true false)).change Registry.begin).place 0 (.running 0)).place 1 (.atGate false false)
  let c₁ : Crowd JoinPlan := c₀.place 1 (.atGate false true)
  have came : Run new [.call 0 true, .start 0, .call 1 false] c₀ :=
    .snoc (.snoc (.snoc .nil (.call rfl)) (.start rfl rfl)) (.call rfl)
  have waits : Step c₀ (.wait 1) c₁ := .wait rfl rfl
  have retried : Run c₁ later _ :=
    .snoc (.snoc (.snoc (.snoc .nil (.finish rfl)) (.call rfl)) (.start rfl rfl)) (.finish rfl)
  have fails : Step _ (.fail 1 second) _ := .fail (retried.waited rfl (by simp [later, Move.leaves])) rfl
  have whole := (came.snoc waits).append retried
  refine ⟨first, second, c₀, c₁, _, _, _, later, by simp [first, second], rfl, whole, rfl, ?_, rfl, waits, retried,
    by simp [later, Move.leaves], fails, ?_⟩
  · obtain ⟨errors, herrors, invalid, -⟩ := outcome_shared.1 _ _ whole
    obtain ⟨e, he, hlast⟩ := invalid rfl
    obtain rfl : second = e := Option.some.inj he
    exact ⟨errors, herrors, hlast⟩
  · obtain ⟨errors, herrors, outcome⟩ :=
      outcome_shared.2 c₀ c₁ _ _ 1 false later _ rfl waits retried (by simp [later, Move.leaves]) fails rfl
    rcases outcome with ⟨hm, -⟩ | ⟨e, hm, hlast, -⟩ | ⟨hm, -⟩
    · cases hm
    · cases hm
      exact ⟨errors, herrors, hlast⟩
    · cases hm

end Crowd

end RelationMapper
