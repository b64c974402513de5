import RelationMapper.Registry

/-!
# The steps of a registry

What each step of a registry leaves of its phase, its generation and its plans, by the state it is taken in.
-/

namespace RelationMapper.Registry

variable {π : Type} {r : Registry π}

/-! ## Changes of the tables -/

@[simp] theorem generation_invalidate (r : Registry π) : r.invalidate.generation = r.generation + 1 := rfl

/-- A change of the tables leaves no plans. -/
@[simp] theorem plans_invalidate (r : Registry π) : r.invalidate.plans = [] := rfl

/-- A change leaves the registry unvalidated, or a validation under way. -/
theorem phase_invalidate (r : Registry π) :
    r.invalidate.phase = if r.phase = .validating then .validating else .unvalidated := rfl

/-- After a change of the tables the registry is not valid. -/
theorem phase_invalidate_ne_valid (r : Registry π) : r.invalidate.phase ≠ .valid := by
  rw [phase_invalidate]
  by_cases h : r.phase = .validating <;> simp [h]

/-- After a change of the tables the registry is not found invalid: nothing is known of it yet. -/
theorem phase_invalidate_ne_invalid (r : Registry π) : r.invalidate.phase ≠ .invalid := by
  rw [phase_invalidate]
  by_cases h : r.phase = .validating <;> simp [h]

/-- A validation is under way after a change exactly if it was before. -/
theorem phase_invalidate_eq_validating (r : Registry π) : r.invalidate.phase = .validating ↔ r.phase = .validating := by
  rw [phase_invalidate]
  by_cases h : r.phase = .validating <;> simp [h]

/-- A table that is there is removed. -/
theorem unregister_of_found {name : String} (h : r.tables.any (·.name == name) = true) :
    r.unregister name = { r with tables := r.tables.eraseP (·.name == name) }.invalidate := if_pos h

/-- The removal of a table that is not there changes nothing. -/
theorem unregister_of_missing {name : String} (h : r.tables.any (·.name == name) = false) : r.unregister name = r :=
  if_neg (Bool.eq_false_iff.mp h)

/-- What holds of a registry, and after any change of its tables, holds after the removal of a table, whether it is there or
not. -/
theorem of_unregister {I : Registry π → Prop} (h : I r) (changed : ∀ tables, I { r with tables }.invalidate) (name : String) :
    I (r.unregister name) := by
  cases hfound : r.tables.any (·.name == name) with
  | true =>
    rw [unregister_of_found hfound]
    exact changed _
  | false =>
    rw [unregister_of_missing hfound]
    exact h

/-- A validation that is under way stays under way when a table is registered. -/
theorem phase_register_eq_validating (r : Registry π) (t : Table) :
    (r.register t).phase = .validating ↔ r.phase = .validating :=
  phase_invalidate_eq_validating _

theorem phase_unregister_eq_validating (r : Registry π) (name : String) :
    (r.unregister name).phase = .validating ↔ r.phase = .validating := by
  cases h : r.tables.any (·.name == name) with
  | true =>
    rw [unregister_of_found h]
    exact phase_invalidate_eq_validating _
  | false => rw [unregister_of_missing h]

/-- A declaration ends every validation in the books. -/
theorem phase_setValid_ne_validating (r : Registry π) (valid : Bool) : (r.setValid valid).phase ≠ .validating := by
  cases valid <;> simp [setValid]

/-! ## The beginning and the end of a validation -/

@[simp] theorem phase_begin (r : Registry π) : r.begin.phase = .validating := rfl

@[simp] theorem generation_begin (r : Registry π) : r.begin.generation = r.generation := rfl

/-- A validation of the tables as they still are makes the registry valid, if it ends without an error. -/
theorem finish_passed (r : Registry π) : r.finish r.generation none = { r with phase := .valid, error := none } :=
  if_pos rfl

theorem finish_failed (r : Registry π) (e : Fault) :
    r.finish r.generation (some e) = { r with phase := .invalid, error := some e } := if_pos rfl

/-- The verdict of a validation that began in another generation is not recorded. -/
theorem finish_outdated {generation : Nat} (h : r.generation ≠ generation) (error : Option Fault) :
    r.finish generation error = { r with phase := .unvalidated, plans := [] } := if_neg h

@[simp] theorem generation_finish (r : Registry π) (generation : Nat) (error : Option Fault) :
    (r.finish generation error).generation = r.generation := by
  by_cases h : r.generation = generation
  · subst h
    cases error with
    | none => rw [finish_passed]
    | some e => rw [finish_failed]
  · rw [finish_outdated h]

/-- A validation that has ended is no longer under way. -/
theorem phase_finish_ne_validating (r : Registry π) (generation : Nat) (error : Option Fault) :
    (r.finish generation error).phase ≠ .validating := by
  by_cases h : r.generation = generation
  · subst h
    cases error with
    | none => simp [finish_passed]
    | some e => simp [finish_failed]
  · simp [finish_outdated h]

/-- A validation makes the registry valid only without an error and in the generation in which it began. -/
theorem phase_finish_eq_valid {generation : Nat} {error : Option Fault} :
    (r.finish generation error).phase = .valid ↔ r.generation = generation ∧ error = none := by
  by_cases h : r.generation = generation
  · subst h
    cases error with
    | none => simp [finish_passed]
    | some e => simp [finish_failed]
  · simp [finish_outdated h, h]

/-- A valid registry that a validation leaves holds no error. -/
theorem finish_valid {generation : Nat} {error : Option Fault} (h : (r.finish generation error).phase = .valid) :
    (r.finish generation error).error = none := by
  obtain ⟨rfl, rfl⟩ := phase_finish_eq_valid.mp h
  rw [finish_passed]

/-- An invalid registry that a validation leaves holds the error of the validation. -/
theorem finish_invalid {generation : Nat} {error : Option Fault} (h : (r.finish generation error).phase = .invalid) :
    ∃ e, error = some e ∧ (r.finish generation error).error = some e := by
  by_cases hg : r.generation = generation
  · subst hg
    cases error with
    | none => simp [finish_passed] at h
    | some e => exact ⟨e, rfl, by rw [finish_failed]⟩
  · simp [finish_outdated hg] at h

/-! ## The gate -/

/-- Whoever is told to wait waits for a validation that is under way. -/
theorem phase_of_gate_wait {force waited : Bool} (h : r.gate force waited = .wait) : r.phase = .validating := by
  unfold gate at h
  grind

/-- Whoever passes finds a valid registry. -/
theorem phase_of_gate_pass {force waited : Bool} (h : r.gate force waited = .pass) : r.phase = .valid := by
  unfold gate at h
  grind

/-- Whoever fails has waited for a validation, and finds an invalid registry. -/
theorem phase_of_gate_fail {force waited : Bool} {e : Fault} (h : r.gate force waited = .fail e) :
    r.phase = .invalid ∧ (∀ e', r.error = some e' → e = e') := by
  unfold gate at h
  grind

/-- Whoever has waited without forcing a validation starts one only in an unvalidated registry. -/
theorem phase_of_gate_waited (h : r.gate false true = .validate) : r.phase = .unvalidated := by
  unfold gate at h
  grind

/-- Nobody is told to validate while a validation is under way. -/
theorem phase_of_gate_validate {force waited : Bool} (h : r.gate force waited = .validate) : r.phase ≠ .validating := by
  intro hp
  rw [gate, hp] at h
  cases h

/-- Nobody is told to validate a valid registry unless he forces it. -/
theorem phase_of_gate_unforced {waited : Bool} (h : r.gate false waited = .validate) : r.phase ≠ .valid := by
  intro hp
  rw [gate, hp] at h
  cases h

/-- Whoever comes to a registry that is neither valid nor being validated is told to validate it. -/
theorem gate_due (hv : r.phase ≠ .valid) (hr : r.phase ≠ .validating) : r.gate false false = .validate := by
  unfold gate
  cases hp : r.phase with
  | valid => exact absurd hp hv
  | validating => exact absurd hp hr
  | unvalidated | invalid => rfl

/-- A caller that forces a validation runs one, unless one is under way. -/
theorem gate_forced {waited : Bool} (h : r.phase ≠ .validating) : r.gate true waited = .validate := by
  unfold gate
  cases hp : r.phase with
  | validating => exact absurd hp h
  | unvalidated | valid | invalid => rfl

end RelationMapper.Registry
