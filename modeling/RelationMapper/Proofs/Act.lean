import RelationMapper.Fault

/-!
# Runs of a computation

What a computation with a state ends with and which state it leaves, step by step. A run of a chain is a run of its first
part and, unless that ends in a fault, of the rest from the state that was left.

`Act.Keeps` says that a computation stays within states of some kind. It does if all of its parts do.
-/

namespace RelationMapper.Act

variable {σ α β : Type}

/-- The run of a chain. -/
theorem runFrom_bind (act : Act σ α) (f : α → Act σ β) (s : σ) :
    (act >>= f).runFrom s =
      match act.runFrom s with
      | (.ok a, s') => (f a).runFrom s'
      | (.error e, s') => (.error e, s') := by
  change StateT.run (ExceptT.run (act >>= f)) s = _
  rw [ExceptT.run_bind, StateT.run_bind]
  change (match StateT.run act.run s with | (r, s') => _) = _
  unfold runFrom
  cases h : StateT.run act.run s with
  | mk r s' => cases r <;> rfl

@[simp] theorem runFrom_pure (a : α) (s : σ) : (pure a : Act σ α).runFrom s = (.ok a, s) := rfl

@[simp] theorem runFrom_throw (e : Fault) (s : σ) : (throw e : Act σ α).runFrom s = (.error e, s) := rfl

@[simp] theorem runFrom_lift (r : Except Fault α) (s : σ) : (lift r : Act σ α).runFrom s = (r, s) := rfl

@[simp] theorem runFrom_get (s : σ) : (get : Act σ σ).runFrom s = (.ok s, s) := rfl

@[simp] theorem runFrom_set (s s' : σ) : (set s' : Act σ Unit).runFrom s = (.ok (), s') := rfl

@[simp] theorem runFrom_modify (change : σ → σ) (s : σ) : (modify change : Act σ Unit).runFrom s = (.ok (), change s) :=
  rfl

/-- The outcome of a computation is a result, even of one that ends in a fault. -/
theorem runFrom_outcome (act : Act σ α) (s : σ) : act.outcome.runFrom s = (.ok (act.runFrom s).1, (act.runFrom s).2) := rfl

/-! ## What a computation keeps -/

/-- A computation that leaves a state of a kind if it starts in one, whether it ends with a result or with a fault. -/
def Keeps (I : σ → Prop) (act : Act σ α) : Prop := ∀ s, I s → I (act.runFrom s).2

namespace Keeps

variable {I : σ → Prop}

theorem lift (r : Except Fault α) : Keeps I (Act.lift r) := fun _ hs => hs

theorem pure (a : α) : Keeps I (pure a : Act σ α) := fun _ hs => hs

theorem throw (e : Fault) : Keeps I (throw e : Act σ α) := fun _ hs => hs

theorem get : Keeps I (get : Act σ σ) := fun _ hs => hs

theorem bind {act : Act σ α} {f : α → Act σ β} (h : Keeps I act) (hf : ∀ a, Keeps I (f a)) : Keeps I (act >>= f) := by
  intro s hs
  have hs' := h s hs
  rw [runFrom_bind]
  cases hrun : act.runFrom s with
  | mk r s' =>
    rw [hrun] at hs'
    cases r with
    | ok a => exact hf a s' hs'
    | error e => exact hs'

/-- What follows a check may count on its result. -/
theorem lift_bind {r : Except Fault α} {f : α → Act σ β} (h : ∀ a, r = .ok a → Keeps I (f a)) :
    Keeps I (Act.lift r >>= f) := by
  intro s hs
  rw [runFrom_bind, runFrom_lift]
  cases r with
  | ok a => exact h a rfl s hs
  | error e => exact hs

theorem outcome {act : Act σ α} (h : Keeps I act) : Keeps I act.outcome := fun s hs => h s hs

theorem discard {act : Act σ α} (h : Keeps I act) : Keeps I (discard act) := h.bind fun _ => pure ()

theorem forM {xs : List α} {f : α → Act σ Unit} (h : ∀ x, Keeps I (f x)) : Keeps I (xs.forM f) := by
  induction xs with
  | nil => exact pure ()
  | cons x xs ih => exact (h x).bind fun _ => ih

/-- States of two kinds are kept if those of each are. -/
theorem and {J : σ → Prop} {act : Act σ α} (h : Keeps I act) (h' : Keeps J act) : Keeps (fun s => I s ∧ J s) act :=
  fun s hs => ⟨h s hs.1, h' s hs.2⟩

theorem ite {c : Prop} [Decidable c] {act act' : Act σ α} (h : Keeps I act) (h' : Keeps I act') :
    Keeps I (if c then act else act') := by
  by_cases hc : c
  · rw [if_pos hc]
    exact h
  · rw [if_neg hc]
    exact h'

end Keeps

end RelationMapper.Act
