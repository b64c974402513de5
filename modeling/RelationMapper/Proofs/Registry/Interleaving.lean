import Mathlib.Data.List.Induction
import Mathlib.Logic.Function.Basic
import RelationMapper.Proofs.Registry

/-!
# Callers of one registry

Many callers may ask for a valid registry at the same time, and the registry may change meanwhile. Every passage through
the gate, every beginning and every end of a validation is one step, and so is every change of the registry; what happens
between the steps is anybody's. `Step` says which steps there are, `Run` which sequences of them.

A caller is one call, not one thread: what a validation does to the registry while it is in flight, and the calls it makes,
are steps like any others.
-/

namespace RelationMapper

/-- Where a caller stands: it has not called yet or has got its answer, it is at the gate, or a validation that it began in
some generation is in flight. -/
inductive Stage where
  | away
  | atGate (force waited : Bool)
  | running (generation : Nat)
deriving DecidableEq

/-- A registry and its callers, by number. -/
structure Crowd (π : Type) where
  registry : Registry π
  stage : Nat → Stage

/-- What may happen at a registry. A caller arrives, waits, passes, fails with an error, starts a validation or finishes it,
in which the validation may have failed; and anybody may change the registry. The removal of a table says whether there was
one of that name. -/
inductive Move (π : Type) where
  | call (caller : Nat) (force : Bool)
  | wait (caller : Nat)
  | pass (caller : Nat)
  | fail (caller : Nat) (e : Fault)
  | start (caller : Nat)
  | finish (caller : Nat) (error : Option Fault)
  | register (t : Table)
  | unregister (name : String) (found : Bool)
  | setValid (valid : Bool)
  | storePlans (plans : List (String × π))

namespace Move

variable {π : Type}

/-- Whether the tables change: one is added, or one is removed that was there. -/
def changes : Move π → Bool
  | .register _ => true
  | .unregister _ found => found
  | _ => false

/-- Whether the move declares the registry valid or not, without a validation. -/
def declares : Move π → Bool
  | .setValid _ => true
  | _ => false

/-- Whether a caller leaves the gate with the move: he passes, he fails, or he starts a validation. -/
def leaves (caller : Nat) : Move π → Bool
  | .pass i | .fail i _ | .start i => i == caller
  | _ => false

/-- Whether a caller has his answer with the move. -/
def answers (caller : Nat) : Move π → Bool
  | .pass i | .fail i _ | .finish i _ => i == caller
  | _ => false

/-- Whoever leaves the gate without an answer starts a validation. -/
theorem eq_start {m : Move π} {i : Nat} (hl : m.leaves i = true) (ha : m.answers i = false) : m = .start i := by
  cases m with
  | start j =>
    obtain rfl : j = i := by simpa [leaves] using hl
    rfl
  | pass j | fail j e => exact absurd hl (Bool.eq_false_iff.mp ha)
  | _ => cases hl

end Move

namespace Crowd

variable {π : Type} {c c' c'' : Crowd π} {m : Move π} {moves more : List (Move π)} {i g : Nat}

/-- An empty registry, and no caller yet. -/
def new : Crowd π := ⟨.empty, fun _ => .away⟩

/-- The crowd after a caller went on to another stage. -/
def place (c : Crowd π) (caller : Nat) (stage : Stage) : Crowd π := { c with stage := Function.update c.stage caller stage }

@[simp] theorem registry_place (c : Crowd π) (caller : Nat) (stage : Stage) : (c.place caller stage).registry = c.registry :=
  rfl

@[simp] theorem stage_place_self (c : Crowd π) (caller : Nat) (stage : Stage) : (c.place caller stage).stage caller = stage :=
  Function.update_self ..

theorem stage_place_of_ne (c : Crowd π) {caller : Nat} (stage : Stage) (h : i ≠ caller) :
    (c.place caller stage).stage i = c.stage i :=
  Function.update_of_ne h ..

/-- The crowd after a change of its registry. -/
def change (c : Crowd π) (f : Registry π → Registry π) : Crowd π := { c with registry := f c.registry }

@[simp] theorem registry_change (c : Crowd π) (f : Registry π → Registry π) : (c.change f).registry = f c.registry := rfl

@[simp] theorem stage_change (c : Crowd π) (f : Registry π → Registry π) : (c.change f).stage = c.stage := rfl

/-- One step. What a caller at the gate does is what the gate says. -/
inductive Step : Crowd π → Move π → Crowd π → Prop
  | call {c : Crowd π} {caller : Nat} {force : Bool} (h : c.stage caller = .away) :
    Step c (.call caller force) (c.place caller (.atGate force false))
  | wait {c : Crowd π} {caller : Nat} {force waited : Bool} (h : c.stage caller = .atGate force waited)
    (gate : c.registry.gate force waited = .wait) : Step c (.wait caller) (c.place caller (.atGate force true))
  | pass {c : Crowd π} {caller : Nat} {force waited : Bool} (h : c.stage caller = .atGate force waited)
    (gate : c.registry.gate force waited = .pass) : Step c (.pass caller) (c.place caller .away)
  | fail {c : Crowd π} {caller : Nat} {force waited : Bool} {e : Fault} (h : c.stage caller = .atGate force waited)
    (gate : c.registry.gate force waited = .fail e) : Step c (.fail caller e) (c.place caller .away)
  | start {c : Crowd π} {caller : Nat} {force waited : Bool} (h : c.stage caller = .atGate force waited)
    (gate : c.registry.gate force waited = .validate) :
    Step c (.start caller) ((c.change Registry.begin).place caller (.running c.registry.generation))
  | finish {c : Crowd π} {caller generation : Nat} {error : Option Fault} (h : c.stage caller = .running generation) :
    Step c (.finish caller error) ((c.change (·.finish generation error)).place caller .away)
  | register {c : Crowd π} {t : Table} : Step c (.register t) (c.change (·.register t))
  | unregister {c : Crowd π} {name : String} :
    Step c (.unregister name (c.registry.tables.any (·.name == name))) (c.change (·.unregister name))
  | setValid {c : Crowd π} {valid : Bool} : Step c (.setValid valid) (c.change (·.setValid valid))
  | storePlans {c : Crowd π} {plans : List (String × π)} : Step c (.storePlans plans) (c.change (·.storePlans plans))

/-- Steps one after the other. -/
inductive Run : Crowd π → List (Move π) → Crowd π → Prop
  | nil {c : Crowd π} : Run c [] c
  | snoc {c c' c'' : Crowd π} {moves : List (Move π)} {m : Move π} (run : Run c moves c') (step : Step c' m c'') :
    Run c (moves ++ [m]) c''

/-- A crowd that can come to be. -/
def Reachable (c : Crowd π) : Prop := ∃ moves, Run new moves c

theorem Reachable.step (h : c.Reachable) (hs : Step c m c') : c'.Reachable := by
  obtain ⟨moves, hrun⟩ := h
  exact ⟨moves ++ [m], hrun.snoc hs⟩

/-- A run may go on. -/
theorem Run.append (h : Run c moves c') (h' : Run c' more c'') : Run c (moves ++ more) c'' := by
  induction h' with
  | nil => rwa [List.append_nil]
  | snoc _ hs ih =>
    rw [← List.append_assoc]
    exact .snoc ih hs

/-- A run up to a move among its moves, the move, and the run from there on. -/
theorem Run.split {before after : List (Move π)} (h : Run c (before ++ m :: after) c') :
    ∃ d d', Run c before d ∧ Step d m d' ∧ Run d' after c' := by
  induction after using List.reverseRecOn generalizing c' with
  | nil =>
    generalize hmoves : before ++ [m] = moves at h
    cases h with
    | nil => simp at hmoves
    | snoc hrun hs =>
      obtain ⟨rfl, rfl⟩ : before = _ ∧ m = _ := by simpa using List.append_inj' hmoves rfl
      exact ⟨_, _, hrun, hs, .nil⟩
  | append_singleton after last ih =>
    generalize hmoves : before ++ m :: (after ++ [last]) = moves at h
    cases h with
    | nil => simp at hmoves
    | snoc hrun hs =>
      rw [← List.cons_append, ← List.append_assoc] at hmoves
      obtain ⟨rfl, rfl⟩ : before ++ m :: after = _ ∧ last = _ := by simpa using List.append_inj' hmoves rfl
      obtain ⟨d, d', hbefore, hm, hafter⟩ := ih hrun
      exact ⟨d, d', hbefore, hm, hafter.snoc hs⟩

/-! ## What a step does to a validation in flight -/

/-- A validation is in flight until it finishes. -/
theorem Step.running (hs : Step c m c') (h : c.stage i = .running g) (hm : ∀ error, m ≠ .finish i error) :
    c'.stage i = .running g := by
  cases hs with
  | register | unregister | setValid | storePlans => exact h
  | @finish caller _ error _ =>
    have hne : i ≠ caller := fun he => hm error (he ▸ rfl)
    rw [stage_place_of_ne _ _ hne]
    exact h
  | @call caller _ hc | @wait caller _ _ hc | @pass caller _ _ hc | @fail caller _ _ _ hc | @start caller _ _ hc =>
    have hne : i ≠ caller := by
      rintro rfl
      rw [h] at hc
      cases hc
    rw [stage_place_of_ne _ _ hne]
    exact h

/-- A validation in flight was in flight before, or it has just been started, in the generation that the registry is in. -/
theorem Step.running_inv (hs : Step c m c') (h : c'.stage i = .running g) :
    (c.stage i = .running g ∧ ∀ error, m ≠ .finish i error) ∨
      (m = .start i ∧ g = c.registry.generation ∧ c'.registry = c.registry.begin) := by
  cases hs with
  | register | unregister | setValid | storePlans => exact .inl ⟨h, fun _ => by simp⟩
  | @start caller =>
    by_cases he : i = caller
    · subst he
      rw [stage_place_self] at h
      cases h
      exact .inr ⟨rfl, rfl, rfl⟩
    · rw [stage_place_of_ne _ _ he] at h
      exact .inl ⟨h, fun _ => by simp⟩
  | @call caller | @wait caller | @pass caller | @fail caller | @finish caller =>
    have he : i ≠ caller := by
      rintro rfl
      rw [stage_place_self] at h
      cases h
    rw [stage_place_of_ne _ _ he] at h
    exact .inl ⟨h, fun _ => by simp [he.symm]⟩

/-- A validation is in flight once it has been started. -/
theorem Step.running_start (hs : Step c (.start i) c') :
    c'.stage i = .running c.registry.generation ∧ c'.registry = c.registry.begin := by
  cases hs with
  | start => exact ⟨stage_place_self .., rfl⟩

/-- The end of a validation is recorded for the generation in which it was started. -/
theorem Step.finish_inv {error : Option Fault} (hs : Step c (.finish i error) c') (h : c.stage i = .running g) :
    c'.registry = c.registry.finish g error ∧ ∀ j, c'.stage j = if j = i then .away else c.stage j := by
  cases hs with
  | @finish _ generation _ hc =>
    rw [h] at hc
    cases hc
    refine ⟨rfl, fun j => ?_⟩
    by_cases he : j = i
    · subst he
      rw [stage_place_self, if_pos rfl]
    · rw [stage_place_of_ne _ _ he, if_neg he]
      rfl

/-! ## What a step does to a caller at the gate -/

/-- A caller stays at the gate until he leaves it; he has waited if he had, or if he waits now. -/
theorem Step.atGate {force waited : Bool} (hs : Step c m c') (hi : c.stage i = .atGate force waited)
    (hm : m.leaves i = false) :
    c'.stage i = .atGate force waited ∨ (m = .wait i ∧ c'.stage i = .atGate force true) := by
  cases hs with
  | register | unregister | setValid | storePlans => exact .inl hi
  | @wait caller force' _ hc =>
    by_cases he : i = caller
    · subst he
      rw [hi] at hc
      cases hc
      exact .inr ⟨rfl, stage_place_self ..⟩
    · exact .inl ((stage_place_of_ne _ _ he).trans hi)
  | @pass caller | @fail caller | @start caller =>
    have he : i ≠ caller := fun he => by simp [Move.leaves, he] at hm
    exact .inl ((stage_place_of_ne _ _ he).trans hi)
  | @call caller _ hc | @finish caller _ _ hc =>
    have he : i ≠ caller := by
      rintro rfl
      rw [hi] at hc
      cases hc
    exact .inl ((stage_place_of_ne _ _ he).trans hi)

/-- A caller who waits again has waited. -/
theorem Step.wait_inv (hs : Step c (.wait i) c') :
    c.registry.phase = .validating ∧ c'.registry = c.registry ∧
      ∃ force waited, c.stage i = .atGate force waited ∧ c'.stage i = .atGate force true := by
  cases hs with
  | wait hi gate => exact ⟨Registry.phase_of_gate_wait gate, rfl, _, _, hi, stage_place_self ..⟩

/-- A caller who has waited stays one who has waited, as long as he does not leave the gate. -/
theorem Run.waited {force : Bool} (h : Run c moves c') (hi : c.stage i = .atGate force true)
    (hm : ∀ m ∈ moves, m.leaves i = false) : c'.stage i = .atGate force true := by
  induction h with
  | nil => exact hi
  | snoc _ hs ih =>
    simp only [List.mem_append, List.mem_singleton] at hm
    rcases hs.atGate (ih fun m h => hm m (.inl h)) (hm _ (.inr rfl)) with hi' | ⟨-, hi'⟩
    · exact hi'
    · exact hi'

/-! ## Generations -/

/-- The generation of a registry grows with each change of its tables, and stays otherwise. -/
theorem Step.generation (hs : Step c m c') :
    c'.registry.generation = c.registry.generation + if m.changes then 1 else 0 := by
  cases hs with
  | call | wait | pass | fail | start | register | setValid | storePlans => rfl
  | finish => exact Registry.generation_finish ..
  | @unregister name =>
    simp only [Move.changes, registry_change]
    cases hfound : c.registry.tables.any (·.name == name) with
    | true => simp [Registry.unregister_of_found hfound]
    | false => simp [Registry.unregister_of_missing hfound]

/-- The generation never goes down in a run. -/
theorem Run.generation_le (h : Run c moves c') : c.registry.generation ≤ c'.registry.generation := by
  induction h with
  | nil => exact Nat.le_refl _
  | snoc _ hs ih =>
    rw [hs.generation]
    exact Nat.le_add_right_of_le ih

/-- A run in which the tables change leads to a later generation. -/
theorem Run.generation_lt (h : Run c moves c') (hc : ∃ m ∈ moves, m.changes = true) :
    c.registry.generation < c'.registry.generation := by
  induction h with
  | nil =>
    obtain ⟨_, hm, _⟩ := hc
    exact absurd hm List.not_mem_nil
  | @snoc _ _ _ m hrun hs ih =>
    obtain ⟨m', hm, hch⟩ := hc
    rw [hs.generation]
    rcases List.mem_append.mp hm with hm | hm
    · exact Nat.lt_add_right _ (ih ⟨m', hm, hch⟩)
    · rw [List.mem_singleton.mp hm] at hch
      rw [if_pos hch]
      exact Nat.lt_succ_of_le hrun.generation_le

/-- A validation stays in flight in every run in which it does not finish. -/
theorem Run.running (h : Run c moves c') (hi : c.stage i = .running g) (hm : ∀ error, Move.finish i error ∉ moves) :
    c'.stage i = .running g := by
  induction h with
  | nil => exact hi
  | snoc _ hs ih =>
    simp only [List.mem_append, List.mem_singleton, not_or] at hm
    exact hs.running (ih fun error => (hm error).1) fun error he => (hm error).2 he.symm

/-- No validation was started in a generation that is still to come. -/
theorem Reachable.running_le (h : c.Reachable) (hi : c.stage i = .running g) : g ≤ c.registry.generation := by
  obtain ⟨moves, hrun⟩ := h
  induction hrun generalizing i g with
  | nil => cases hi
  | snoc hrun hs ih =>
    rw [hs.generation]
    rcases hs.running_inv hi with ⟨hi, -⟩ | ⟨-, rfl, -⟩
    · exact Nat.le_add_right_of_le (ih hi)
    · exact Nat.le_add_right ..

end Crowd

end RelationMapper
