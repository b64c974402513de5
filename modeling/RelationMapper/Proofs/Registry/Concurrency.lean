import RelationMapper.Plan
import RelationMapper.Proofs.Registry.Interleaving

/-!
# Validations side by side

What the gate and the generations of a registry guarantee for every interleaving of its callers.

- `change_not_covered`: a validation that is in flight while the tables change leaves no verdict, and a registry whose tables
  have changed becomes valid again only by a validation that was started after the change, or by declaration.
- `one_validation_at_a_time`: at most one validation is in flight, and exactly then the registry is validating, as long as
  nobody declares the registry valid or not in the meantime. If somebody does, two validations may be in flight
  (`validations_overlap`).
-/

namespace RelationMapper

/-- A validation of the caller was started among the moves and has not finished since. -/
def UnderWay {π : Type} (moves : List (Move π)) (i : Nat) : Prop :=
  ∃ before between, moves = before ++ .start i :: between ∧ ∀ error, Move.finish i error ∉ between

/-- The registry is declared valid among the moves, or a validation is started and finishes without an error. -/
def Covered {π : Type} (moves : List (Move π)) : Prop :=
  .setValid true ∈ moves ∨ ∃ i before after, UnderWay before i ∧ moves = before ++ .finish i none :: after

namespace Crowd

variable {π : Type} {c c' c₁ c₂ : Crowd π} {m : Move π} {moves : List (Move π)} {i j g : Nat}

/-! ## Changes of the tables -/

theorem underWay_start (moves : List (Move π)) (i : Nat) : UnderWay (moves ++ [.start i]) i :=
  ⟨moves, [], rfl, fun _ => List.not_mem_nil⟩

/-- A validation stays under way until it finishes. -/
theorem UnderWay.snoc (h : UnderWay moves i) (hm : ∀ error, m ≠ .finish i error) : UnderWay (moves ++ [m]) i := by
  obtain ⟨before, between, rfl, hb⟩ := h
  refine ⟨before, between ++ [m], by simp, fun error he => ?_⟩
  rcases List.mem_append.mp he with he | he
  · exact hb error he
  · exact hm error (List.mem_singleton.mp he).symm

/-- A validation that is under way and finishes without an error covers what came before. -/
theorem UnderWay.covered (h : UnderWay moves i) : Covered (moves ++ [.finish i none]) := .inr ⟨i, moves, [], h, rfl⟩

theorem Covered.snoc (h : Covered moves) (m : Move π) : Covered (moves ++ [m]) := by
  rcases h with h | ⟨i, before, after, hw, rfl⟩
  · exact .inl (List.mem_append_left _ h)
  · exact .inr ⟨i, before, after ++ [m], hw, by simp⟩

/-- A registry is not valid right after a change of its tables. -/
theorem Step.not_valid_of_changes (hs : Step c m c') (hm : m.changes = true) : c'.registry.phase ≠ .valid := by
  cases hs with
  | register => exact Registry.phase_invalidate_ne_valid _
  | unregister =>
    rw [registry_change, Registry.unregister_of_found hm]
    exact Registry.phase_invalidate_ne_valid _
  | _ => cases hm

/-- A registry becomes valid by declaration, or by a validation that finishes without an error in the generation in which it
was started. -/
theorem Step.valid_inv (hs : Step c m c') (h : c'.registry.phase = .valid) :
    c.registry.phase = .valid ∨ m = .setValid true ∨
      ∃ i, m = .finish i none ∧ c.stage i = .running c.registry.generation := by
  cases hm : m.changes with
  | true => exact absurd h (hs.not_valid_of_changes hm)
  | false =>
    cases hs with
    | call | wait | pass | fail | storePlans => exact .inl h
    | start => cases h
    | register => cases hm
    | @unregister name =>
      rw [registry_change, Registry.unregister_of_missing hm] at h
      exact .inl h
    | @setValid valid =>
      cases valid with
      | true => exact .inr (.inl rfl)
      | false => cases h
    | @finish i generation error hi =>
      obtain ⟨rfl, rfl⟩ := Registry.phase_finish_eq_valid.mp h
      exact .inr (.inr ⟨i, rfl, hi⟩)

/-- From a point on that no validation in flight has reached the generation of, every validation that has reached it was
started since, and the registry is valid only if one of them succeeded or it was declared to be. -/
theorem Run.covered (h : Run c moves c') (hv : c.registry.phase ≠ .valid)
    (hold : ∀ i g, c.stage i = .running g → g < c.registry.generation) :
    (∀ i g, c'.stage i = .running g → c.registry.generation ≤ g → UnderWay moves i) ∧
      (c'.registry.phase = .valid → Covered moves) := by
  induction h with
  | nil => exact ⟨fun i g hi hg => absurd (hold i g hi) (Nat.not_lt.mpr hg), fun hp => absurd hp hv⟩
  | snoc hrun hs ih =>
    obtain ⟨started, covered⟩ := ih
    refine ⟨fun i g hi hg => ?_, fun hp => ?_⟩
    · rcases hs.running_inv hi with ⟨hi, hm⟩ | ⟨rfl, -, -⟩
      · exact UnderWay.snoc (started i g hi hg) hm
      · exact underWay_start _ i
    · rcases hs.valid_inv hp with hp | rfl | ⟨i, rfl, hi⟩
      · exact Covered.snoc (covered hp) _
      · exact .inl (by simp)
      · exact UnderWay.covered (started i _ hi hrun.generation_le)

/-- A change of the tables is never covered by an older validation. If the tables change while a validation is in flight, the
validation ends in an unvalidated registry without plans, whatever its outcome. And whenever the registry is valid after a
change, it has been declared valid since, or a validation has been started since and has finished without an error. -/
theorem change_not_covered :
    (∀ (c₀ c₁ c₂ c₃ : Crowd π) (caller : Nat) (error : Option Fault) (moves : List (Move π)),
      Step c₀ (.start caller) c₁ → Run c₁ moves c₂ → (∀ error, Move.finish caller error ∉ moves) →
      Step c₂ (.finish caller error) c₃ → (∃ m ∈ moves, m.changes = true) →
      c₃.registry.phase = .unvalidated ∧ c₃.registry.plans = []) ∧
    (∀ (c c₁ c₂ : Crowd π) (change : Move π) (moves : List (Move π)),
      c.Reachable → Step c change c₁ → change.changes = true → Run c₁ moves c₂ →
      c₂.registry.phase = .valid → Covered moves) := by
  constructor
  · intro c₀ c₁ c₂ c₃ caller error moves hstart hrun hm hfinish hchange
    obtain ⟨hi, hr⟩ := hstart.running_start
    have hlt := hrun.generation_lt hchange
    rw [hr, Registry.generation_begin] at hlt
    obtain ⟨hr', -⟩ := hfinish.finish_inv (hrun.running hi hm)
    rw [hr', Registry.finish_outdated (Nat.ne_of_gt hlt)]
    exact ⟨rfl, rfl⟩
  · intro c c₁ c₂ change moves hreach hs hchange hrun hp
    refine (hrun.covered (hs.not_valid_of_changes hchange) fun i g hi => ?_).2 hp
    have hg := hs.generation
    rw [if_pos hchange] at hg
    rcases hs.running_inv hi with ⟨hi, -⟩ | ⟨rfl, -, -⟩
    · rw [hg]
      exact Nat.lt_succ_of_le (hreach.running_le hi)
    · cases hchange

/-- A table is added while a validation is in flight, and the result of the validation is discarded; the next validation makes
the registry valid. -/
theorem change_not_covered_addition :
    ∃ (addition : Move JoinPlan) (c₁ c₂ c₃ c₄ : Crowd JoinPlan), addition.changes = true ∧
      Step (new.place 0 (.atGate true false)) (.start 0) c₁ ∧ Run c₁ [addition] c₂ ∧ Step c₂ (.finish 0 none) c₃ ∧
      Run (new.change (·.register ⟨"User", "userId", [], 0⟩)) [.call 1 false, .start 1, .finish 1 none] c₄ ∧
      (c₃.registry.phase = .unvalidated ∧ c₃.registry.plans = []) ∧
      c₄.registry.phase = .valid ∧ Covered [.call 1 false, .start 1, Move.finish (π := JoinPlan) 1 none] := by
  let addition : Move JoinPlan := .register ⟨"User", "userId", [], 0⟩
  have validated : Run ((new : Crowd JoinPlan).change (·.register ⟨"User", "userId", [], 0⟩))
      [.call 1 false, .start 1, .finish 1 none] _ :=
    .snoc (.snoc (.snoc .nil (.call rfl)) (.start rfl rfl)) (.finish rfl)
  refine ⟨addition, _, _, _, _, rfl, .start rfl rfl, .snoc .nil .register, .finish rfl, validated, ?_, rfl, ?_⟩
  · exact change_not_covered.1 _ _ _ _ 0 none [addition] (.start rfl rfl) (.snoc .nil .register) (fun _ => by simp [addition])
      (.finish rfl) ⟨addition, List.mem_singleton_self _, rfl⟩
  · exact change_not_covered.2 new _ _ addition _ ⟨[], .nil⟩ .register rfl validated rfl

/-! ## Validations in flight -/

/-- A validation of the caller is in flight. -/
def InFlight (c : Crowd π) (i : Nat) : Prop := ∃ g, c.stage i = .running g

/-- A crowd that can come to be if nobody declares the registry valid or not while a validation is in flight. -/
inductive Orderly : Crowd π → Prop
  | new : Orderly new
  | step {c c' : Crowd π} {m : Move π} (h : Orderly c) (step : Step c m c')
    (quiet : m.declares = true → ∀ i, ¬c.InFlight i) : Orderly c'

/-- At most one validation is in flight, and exactly then the registry is validating. -/
structure Exclusive (c : Crowd π) : Prop where
  unique : ∀ i j, c.InFlight i → c.InFlight j → i = j
  validating : (∃ i, c.InFlight i) ↔ c.registry.phase = .validating

/-- Unless it is declared valid or not, a registry is validating once a validation has been started and until one finishes. -/
theorem Step.validating_iff (hs : Step c m c') (hm : m.declares = false) :
    c'.registry.phase = .validating ↔
      (∃ i, m = .start i) ∨ (c.registry.phase = .validating ∧ ∀ i error, m ≠ .finish i error) := by
  cases hs with
  | call | wait | pass | fail | storePlans => simp [Registry.storePlans]
  | start => simp
  | finish => simp [Registry.phase_finish_ne_validating]
  | register => simp [Registry.phase_register_eq_validating]
  | unregister => simp [Registry.phase_unregister_eq_validating]
  | setValid => cases hm

/-- A validation is in flight if it was and does not finish, or if it has just been started. -/
theorem Step.inFlight_iff (hs : Step c m c') :
    c'.InFlight i ↔ m = .start i ∨ (c.InFlight i ∧ ∀ error, m ≠ .finish i error) := by
  constructor
  · rintro ⟨g, hi⟩
    rcases hs.running_inv hi with ⟨hi, hm⟩ | ⟨hm, -, -⟩
    · exact .inr ⟨⟨g, hi⟩, hm⟩
    · exact .inl hm
  · rintro (rfl | ⟨⟨g, hi⟩, hm⟩)
    · exact ⟨_, hs.running_start.1⟩
    · exact ⟨g, hs.running hi hm⟩

/-- Only a validation in flight finishes. -/
theorem Step.inFlight_of_finish {error : Option Fault} (hs : Step c (.finish i error) c') : c.InFlight i := by
  cases hs with
  | finish hi => exact ⟨_, hi⟩

/-- A validation is started only while the registry is not validating. -/
theorem Step.phase_of_start (hs : Step c (.start i) c') : c.registry.phase ≠ .validating := by
  cases hs with
  | start _ gate => exact Registry.phase_of_gate_validate gate

/-- A declaration of validity leaves no validating registry, and every validation in flight. -/
theorem Step.declared (hs : Step c m c') (hm : m.declares = true) :
    c'.registry.phase ≠ .validating ∧ c'.stage = c.stage := by
  cases hs with
  | setValid => exact ⟨Registry.phase_setValid_ne_validating _ _, rfl⟩
  | _ => cases hm

theorem exclusive_new : Exclusive (new : Crowd π) := by
  have none (i : Nat) : ¬(new : Crowd π).InFlight i := fun ⟨_, h⟩ => by cases h
  exact ⟨fun i _ hi => absurd hi (none i), fun ⟨i, hi⟩ => absurd hi (none i), fun h => by cases h⟩

/-- Every step keeps validations apart, unless the registry is declared valid or not while one is in flight. -/
theorem Exclusive.step (h : c.Exclusive) (hs : Step c m c') (quiet : m.declares = true → ∀ i, ¬c.InFlight i) :
    c'.Exclusive := by
  cases hm : m.declares with
  | true =>
    obtain ⟨hp, hstage⟩ := hs.declared hm
    have none (i : Nat) : ¬c'.InFlight i := fun ⟨g, hi⟩ => quiet hm i ⟨g, hstage ▸ hi⟩
    exact ⟨fun i _ hi => absurd hi (none i), fun ⟨i, hi⟩ => absurd hi (none i), fun hv => absurd hv hp⟩
  | false =>
    constructor
    · intro i j hi hj
      -- a validation that has just been started is the only one: before it, the registry was not validating
      have alone {i j : Nat} (hi : m = .start i) (hj : c.InFlight j) : i = j :=
        absurd (h.validating.mp ⟨j, hj⟩) (hi ▸ hs).phase_of_start
      rcases hs.inFlight_iff.mp hi with hi | ⟨hi, -⟩ <;> rcases hs.inFlight_iff.mp hj with hj | ⟨hj, -⟩
      · rw [hi] at hj
        cases hj
        rfl
      · exact alone hi hj
      · exact (alone hj hi).symm
      · exact h.unique i j hi hj
    · rw [hs.validating_iff hm, ← h.validating]
      constructor
      · rintro ⟨i, hi⟩
        rcases hs.inFlight_iff.mp hi with hi | ⟨hi, hf⟩
        · exact .inl ⟨i, hi⟩
        · refine .inr ⟨⟨i, hi⟩, ?_⟩
          rintro j error rfl
          exact hf error (h.unique i j hi hs.inFlight_of_finish ▸ rfl)
      · rintro (⟨i, hi⟩ | ⟨⟨i, hi⟩, hf⟩)
        · exact ⟨i, hs.inFlight_iff.mpr (.inl hi)⟩
        · exact ⟨i, hs.inFlight_iff.mpr (.inr ⟨hi, hf i⟩)⟩

/-- Only one validation runs at a time: as long as nobody declares the registry valid or not while a validation is in flight, at
most one is in flight at every moment, and the registry is validating exactly while one is. -/
theorem one_validation_at_a_time (h : c.Orderly) :
    (∀ i j, c.InFlight i → c.InFlight j → i = j) ∧ ((∃ i, c.InFlight i) ↔ c.registry.phase = .validating) := by
  have exclusive : c.Exclusive := by
    induction h with
    | new => exact exclusive_new
    | step _ hs quiet ih => exact ih.step hs quiet
  exact ⟨exclusive.unique, exclusive.validating⟩

/-- While the first validation is in flight, another caller has to wait, and a table is added. -/
theorem one_validation_at_a_time_addition :
    ∃ c : Crowd JoinPlan, c.Orderly ∧ c.InFlight 0 ∧ c.stage 1 = .atGate true true ∧
      (∀ i j, c.InFlight i → c.InFlight j → i = j) ∧ ((∃ i, c.InFlight i) ↔ c.registry.phase = .validating) := by
  have called : Orderly ((new : Crowd JoinPlan).place 0 (.atGate true false)) :=
    Orderly.new.step (m := .call 0 true) (.call rfl) nofun
  have started := called.step (m := .start 0) (.start rfl rfl) nofun
  have joined := started.step (m := .call 1 true) (.call rfl) nofun
  have waiting := joined.step (m := .wait 1) (.wait rfl rfl) nofun
  have added := waiting.step (m := .register ⟨"User", "userId", [], 0⟩) .register nofun
  exact ⟨_, added, ⟨_, rfl⟩, rfl, one_validation_at_a_time added⟩

/-- If the registry is declared not to be valid while a validation is in flight, it is no longer validating, and another caller
starts a second validation beside the first. -/
theorem validations_overlap :
    ∃ c₁ c₂ : Crowd JoinPlan, Run new [.call 0 true, .start 0, .setValid false] c₁ ∧
      c₁.InFlight 0 ∧ c₁.registry.phase ≠ .validating ∧
      Run c₁ [.call 1 true, .start 1] c₂ ∧ c₂.InFlight 0 ∧ c₂.InFlight 1 := by
  refine ⟨_, _, .snoc (.snoc (.snoc .nil (.call rfl)) (.start rfl rfl)) .setValid, ⟨_, rfl⟩, by decide,
    .snoc (.snoc .nil (.call rfl)) (.start rfl rfl), ⟨_, rfl⟩, ⟨_, rfl⟩⟩

end Crowd

end RelationMapper
