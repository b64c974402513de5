import RelationMapper.Proofs.Client.Keeping
import RelationMapper.Proofs.Registry.Interleaving

/-!
# Calls that return

Whoever asks for a valid registry relies on what he is told: he goes on to use the tables as soon as his call returns. There
are four ways to a return: the registry is valid when he comes, it is valid when he has waited, his own validation is
recorded, or his own validation is discarded since the tables have changed (`Overtaken`).

The main statement is `returned_valid_iff`, for every interleaving: on the first three ways the registry is valid at the very
step with which the call returns. On the fourth it is not, although the call returns all the same (`returned_unvalidated`).
The validation of a client changes no tables, so a client that is alone with its registry is never overtaken
(`valid_of_ensureValid`).
-/

namespace RelationMapper

/-- The caller has started a validation among the moves, and the tables have changed since. -/
def Overtaken {π : Type} (moves : List (Move π)) (i : Nat) : Prop :=
  ∃ before during, moves = before ++ .start i :: during ∧ ∃ m ∈ during, m.changes = true

/-- Whether a call of the caller returns with the move: he passes the gate, or his validation finishes without an error. -/
def Move.returns {π : Type} (caller : Nat) : Move π → Bool
  | .pass i | .finish i none => i == caller
  | _ => false

namespace Crowd

variable {π : Type} {c c' c₀ c₁ c₂ c₃ : Crowd π} {m : Move π} {moves : List (Move π)} {i g : Nat}

/-- A run in which the tables do not change stays in its generation. -/
theorem Run.generation_eq (h : Run c moves c') (hc : ∀ m ∈ moves, m.changes = false) :
    c'.registry.generation = c.registry.generation := by
  induction h with
  | nil => rfl
  | @snoc _ _ _ m _ hs ih =>
    simp only [List.mem_append, List.mem_singleton] at hc
    rw [hs.generation, hc m (.inr rfl), ih fun m h => hc m (.inl h)]
    rfl

/-- A call that has not ended is at the gate, where it forces a validation if it did at first, or its validation is in flight:
it was started among the moves, in the generation that the registry was in. -/
theorem Run.unanswered (h : Run c moves c') {force waited : Bool} (hi : c.stage i = .atGate force waited)
    (hopen : ∀ m ∈ moves, m.answers i = false) :
    (∃ waited, c'.stage i = .atGate force waited) ∨
      ∃ before during d d', moves = before ++ .start i :: during ∧ Step d (.start i) d' ∧ Run d' during c' ∧
        c'.stage i = .running d.registry.generation := by
  induction h with
  | nil => exact .inl ⟨waited, hi⟩
  | @snoc d d' moves m _ hs ih =>
    simp only [List.mem_append, List.mem_singleton] at hopen
    have hm := hopen m (.inr rfl)
    rcases ih fun m h => hopen m (.inl h) with ⟨waited', hgate⟩ | ⟨before, during, e, e', rfl, hstart, hduring, hrunning⟩
    · cases hl : m.leaves i with
      | false =>
        rcases hs.atGate hgate hl with hgate' | ⟨-, hgate'⟩
        · exact .inl ⟨_, hgate'⟩
        · exact .inl ⟨_, hgate'⟩
      | true =>
        -- of the moves with which he leaves the gate, only a validation that he starts leaves his call open
        obtain rfl := Move.eq_start hl hm
        exact .inr ⟨moves, [], d, d', rfl, hs, .nil, hs.running_start.1⟩
    · refine .inr ⟨before, during ++ [m], e, e', by simp, hstart, hduring.snoc hs, hs.running hrunning ?_⟩
      rintro error rfl
      simp [Move.answers] at hm

/-- A validation in flight that was overtaken was started in an earlier generation. -/
theorem Run.running_of_overtaken (h : Run c moves c') (hopen : ∀ m ∈ moves, m.answers i = false)
    (ho : Overtaken moves i) : ∃ g, c'.stage i = .running g ∧ g < c'.registry.generation := by
  obtain ⟨before, during, rfl, hchange⟩ := ho
  obtain ⟨d, d', -, hstart, hduring⟩ := h.split
  obtain ⟨hi, hr⟩ := hstart.running_start
  have hlt := hduring.generation_lt hchange
  rw [hr, Registry.generation_begin] at hlt
  refine ⟨_, hduring.running hi fun error he => ?_, hlt⟩
  have := hopen (.finish i error) (by simp [he])
  simp [Move.answers] at this

/-- A call returns from the gate, or from a validation of its own. -/
theorem Step.returns_inv (hs : Step c m c') (hm : m.returns i = true) :
    (m = .pass i ∧ c.registry.phase = .valid ∧ c'.registry = c.registry ∧ ∃ force waited, c.stage i = .atGate force waited) ∨
      (m = .finish i none ∧ ∃ g, c.stage i = .running g) := by
  cases hs with
  | @pass caller force waited hc gate =>
    obtain rfl : caller = i := by simpa [Move.returns] using hm
    exact .inl ⟨rfl, Registry.phase_of_gate_pass gate, rfl, force, waited, hc⟩
  | @finish caller g error hc =>
    cases error with
    | none =>
      obtain rfl : caller = i := by simpa [Move.returns] using hm
      exact .inr ⟨rfl, g, hc⟩
    | some e => cases hm
  | _ => cases hm

/-- Whatever else happens at a registry, a call that asks for a valid registry and returns leaves it valid at the step with
which it returns, unless its own validation was overtaken. Only a call that has validated itself is overtaken; then it returns
though its validation is discarded, and leaves an unvalidated registry without plans. -/
theorem returned_valid_iff (hcall : Step c₀ (.call i false) c₁) (hrun : Run c₁ moves c₂)
    (hopen : ∀ m ∈ moves, m.answers i = false) (hs : Step c₂ m c₃) (hm : m.returns i = true) :
    (c₃.registry.phase = .valid ↔ ¬Overtaken moves i) ∧
      (Overtaken moves i → m = .finish i none ∧ c₃.registry.phase = .unvalidated ∧ c₃.registry.plans = []) := by
  have hi : c₁.stage i = .atGate false false := by
    cases hcall
    exact stage_place_self ..
  have overtaken (ho : Overtaken moves i) :
      m = .finish i none ∧ c₃.registry.phase = .unvalidated ∧ c₃.registry.plans = [] := by
    obtain ⟨g, hg, hlt⟩ := hrun.running_of_overtaken hopen ho
    rcases hs.returns_inv hm with ⟨-, -, -, force, waited, hgate⟩ | ⟨rfl, -⟩
    · rw [hg] at hgate
      cases hgate
    · rw [(hs.finish_inv hg).1, Registry.finish_outdated (Nat.ne_of_gt hlt)]
      exact ⟨rfl, rfl, rfl⟩
  refine ⟨⟨fun hv ho => ?_, fun ho => ?_⟩, overtaken⟩
  · rw [(overtaken ho).2.1] at hv
    cases hv
  · rcases hs.returns_inv hm with ⟨-, hv, hr, -⟩ | ⟨rfl, g, hg⟩
    · rw [hr]
      exact hv
    · rcases hrun.unanswered hi hopen with ⟨waited, hgate⟩ | ⟨before, during, d, d', rfl, hstart, hduring, hrunning⟩
      · rw [hg] at hgate
        cases hgate
      · -- as the tables have not changed since, the registry is still in the generation of the validation
        have hsame := hduring.generation_eq fun m hm => Bool.eq_false_iff.mpr fun hc => ho ⟨before, during, rfl, m, hm, hc⟩
        rw [hstart.running_start.2, Registry.generation_begin] at hsame
        rw [(hs.finish_inv hrunning).1, Registry.phase_finish_eq_valid]
        exact ⟨hsame, rfl⟩

/-- A caller waits for the validation of another. A table is added, so that this validation is discarded; then he validates
himself, and the registry is valid when his call returns. -/
theorem returned_valid_iff_waited :
    ∃ (c₀ c₁ c₂ c₃ : Crowd JoinPlan) (moves : List (Move JoinPlan)), Run new [.call 0 true, .start 0] c₀ ∧
      moves = [.wait 1, .register ⟨"User", "userId", [], 0⟩, .finish 0 none, .start 1] ∧
      Step c₀ (.call 1 false) c₁ ∧ Run c₁ moves c₂ ∧ (∀ m ∈ moves, m.answers 1 = false) ∧
      Step c₂ (.finish 1 none) c₃ ∧ c₃.registry.phase = .valid ∧ (c₃.registry.phase = .valid ↔ ¬Overtaken moves 1) ∧
      (Overtaken moves 1 → c₃.registry.phase = .unvalidated ∧ c₃.registry.plans = []) := by
  let moves : List (Move JoinPlan) := [.wait 1, .register ⟨"User", "userId", [], 0⟩, .finish 0 none, .start 1]
  let c₀ : Crowd JoinPlan := ((new.place 0 (.atGate true false)).change Registry.begin).place 0 (.running 0)
  let c₁ : Crowd JoinPlan := c₀.place 1 (.atGate false false)
  have started : Run new [.call 0 true, .start 0] c₀ := .snoc (.snoc .nil (.call rfl)) (.start rfl rfl)
  have called : Step c₀ (.call 1 false) c₁ := .call rfl
  have waited : Run c₁ moves _ :=
    .snoc (.snoc (.snoc (.snoc .nil (.wait rfl rfl)) .register) (.finish rfl)) (.start rfl rfl)
  have hopen : ∀ m ∈ moves, m.answers 1 = false := by simp [moves, Move.answers]
  obtain ⟨hvalid, hovertaken⟩ := returned_valid_iff called waited hopen (m := .finish 1 none) (.finish rfl) rfl
  exact ⟨_, _, _, _, moves, started, rfl, called, waited, hopen, .finish rfl, rfl, hvalid, fun h => (hovertaken h).2⟩

/-- A caller validates, a table is removed while his validation is in flight, and his call returns with an unvalidated registry;
so it does if the validation itself removes the table. -/
theorem returned_unvalidated :
    (∃ c₀ c₁ c₂ c₃ : Crowd JoinPlan, Run new [.register ⟨"User", "userId", [], 0⟩] c₀ ∧ Step c₀ (.call 0 false) c₁ ∧
      Run c₁ [.start 0, .unregister "User" true] c₂ ∧ Step c₂ (.finish 0 none) c₃ ∧
      (Move.finish (π := JoinPlan) 0 none).returns 0 = true ∧ c₃.registry.phase = .unvalidated) ∧
    ∃ s' : Setting JoinPlan Unit,
      (Setting.ensureValid (Setting.changeRegistry (·.unregister "User"))).runFrom
        ⟨Registry.empty.register ⟨"User", "userId", [], 0⟩, ()⟩ = (.ok (), s') ∧ s'.registry.phase = .unvalidated := by
  let c₀ : Crowd JoinPlan := new.change (·.register ⟨"User", "userId", [], 0⟩)
  let c₁ : Crowd JoinPlan := c₀.place 0 (.atGate false false)
  have called : Step c₀ (.call 0 false) c₁ := .call rfl
  have validating : Run c₁ [.start 0] _ := .snoc .nil (.start rfl rfl)
  have removed : Run c₁ [.start 0, .unregister "User" true] _ := validating.snoc (@Step.unregister _ _ "User")
  exact ⟨⟨c₀, c₁, _, _, .snoc .nil .register, called, removed, .finish rfl, rfl, rfl⟩, _, rfl, rfl⟩

end Crowd

/-- A statement that a client sends once its own gate has let it pass finds a valid registry. -/
theorem Client.valid_of_ensureValid {o : Options} {s s' : Session} (h : (ensureValid o).runFrom s = (.ok (), s')) :
    s'.registry.phase = .valid := by
  change (Setting.supervise false false (validation o) >>= fun _ => pure ()).runFrom s = _ at h
  rw [Act.runFrom_bind, Setting.supervise, Act.runFrom_bind, Setting.runFrom_getRegistry] at h
  dsimp only at h
  cases hg : s.registry.gate false false with
  | wait | fail =>
    rw [hg] at h
    cases h
  | pass =>
    rw [hg] at h
    cases h
    exact Registry.phase_of_gate_pass hg
  | validate =>
    rw [hg] at h
    dsimp only at h
    rw [Act.runFrom_bind] at h
    have hleft := registry_runValidation o s
    cases hv : (Setting.runValidation (validation o)).runFrom s with
    | mk verdict s₁ =>
      rw [hv] at h hleft
      cases verdict with
      | error e => cases h
      | ok report =>
        cases h
        obtain ⟨plans, -, hr⟩ := hleft
        rw [hr]
        rfl

end RelationMapper
