import RelationMapper.Proofs.Client.StoredPlans
import RelationMapper.Proofs.Registry.Interleaving

/-!
# Work under a registry is a run of callers

Work on a setting does to the registry what callers do who come, pass the gate or validate, and leave again (`Follows`).
This holds of the changes of a registry, of chains, and of the gate itself, whatever the validation does, be it that it
changes the tables or calls for a validation in turn (`follows_supervise`). After any calls on a client its registry is
therefore one that callers can bring about (`atRest_after`), and what is proved of every interleaving of callers holds of it.
-/

namespace RelationMapper

namespace Crowd

variable {π : Type} {c c' c'' : Crowd π} {moves more : List (Move π)}

/-- The callers from a number on are away. -/
def FreeFrom (c : Crowd π) (first : Nat) : Prop := ∀ i, first ≤ i → c.stage i = .away

end Crowd

namespace Setting

open Act Crowd

variable {π ω α β : Type} {first : Nat}

/-- Work that does to the registry what callers from a number on do: in each crowd with the same registry in which these
are away, there is a run to what the work leaves of the registry, after which every caller stands where it stood. -/
def Follows (first : Nat) (act : Act (Setting π ω) α) : Prop :=
  ∀ (s : Setting π ω) (c : Crowd π), c.registry = s.registry → c.FreeFrom first →
    ∃ moves c', Run c moves c' ∧ c'.registry = (act.runFrom s).2.registry ∧ c'.stage = c.stage

namespace Follows

/-- What leaves the registry alone needs no caller. -/
theorem still {act : Act (Setting π ω) α} (h : ∀ s, (act.runFrom s).2.registry = s.registry) : Follows first act :=
  fun s c hr _ => ⟨[], c, .nil, hr.trans (h s).symm, rfl⟩

/-- A change of the registry that is a step. -/
theorem change {f : Registry π → Registry π} {move : Crowd π → Move π} (h : ∀ c, Step c (move c) (c.change f)) :
    Follows first (changeRegistry (ω := ω) f) :=
  fun _ c hr _ => ⟨[move c], c.change f, .snoc .nil (h c), congrArg f hr, rfl⟩

theorem bind {act : Act (Setting π ω) α} {f : α → Act (Setting π ω) β} (h : Follows first act)
    (hf : ∀ a, Follows first (f a)) : Follows first (act >>= f) := by
  intro s c hr hfree
  obtain ⟨moves, c₁, hrun, hr₁, hstage⟩ := h s c hr hfree
  rw [runFrom_bind]
  cases hact : act.runFrom s with
  | mk verdict s₁ =>
    rw [hact] at hr₁
    cases verdict with
    | error e => exact ⟨moves, c₁, hrun, hr₁, hstage⟩
    | ok a =>
      obtain ⟨more, c₂, hrun', hr₂, hstage'⟩ := hf a s₁ c₁ hr₁ fun i hi => (congrFun hstage i).trans (hfree i hi)
      exact ⟨moves ++ more, c₂, hrun.append hrun', hr₂, hstage'.trans hstage⟩

/-- The first caller validates, and leaves the others to the validation. -/
theorem runValidation {validation : Act (Setting π ω) α} (h : Follows (first + 1) validation) {s : Setting π ω}
    {c : Crowd π} {force waited : Bool} (hr : c.registry = s.registry) (hfree : c.FreeFrom (first + 1))
    (hi : c.stage first = .atGate force waited) (hg : s.registry.gate force waited = .validate) :
    ∃ moves c', Run c moves c' ∧ c'.registry = ((Setting.runValidation validation).runFrom s).2.registry ∧
      c'.stage first = .away ∧ ∀ j, j ≠ first → c'.stage j = c.stage j := by
  have start : Step c (.start first) ((c.change Registry.begin).place first (.running c.registry.generation)) :=
    .start hi (hr ▸ hg)
  have free : ((c.change Registry.begin).place first (.running c.registry.generation)).FreeFrom (first + 1) := by
    intro i hle
    rw [stage_place_of_ne _ _ (show i ≠ first by omega)]
    exact hfree i hle
  obtain ⟨moves, c₁, hrun, hr₁, hstage⟩ :=
    h { s with registry := s.registry.begin } _ (congrArg Registry.begin hr) free
  have running : c₁.stage first = .running s.registry.generation := by
    rw [hstage, stage_place_self, hr]
  have others (j : Nat) (hj : j ≠ first) : c₁.stage j = c.stage j :=
    (congrFun hstage j).trans (stage_place_of_ne _ _ hj)
  rw [runFrom_runValidation]
  cases hv : validation.runFrom { s with registry := s.registry.begin } with
  | mk verdict s₁ =>
    rw [hv] at hr₁
    -- the verdict is recorded, whatever it is
    have finish (error : Option Fault) : ∃ moves c', Run c moves c' ∧
        c'.registry = s₁.registry.finish s.registry.generation error ∧ c'.stage first = .away ∧
        ∀ j, j ≠ first → c'.stage j = c.stage j :=
      ⟨_, _, ((Run.snoc .nil start).append hrun).snoc (m := .finish first error) (.finish running),
        congrArg (fun r => r.finish s.registry.generation error) hr₁, stage_place_self ..,
        fun j hj => (stage_place_of_ne _ _ hj).trans (others j hj)⟩
    cases verdict with
    | ok a => exact finish none
    | error e => exact finish (some e)

end Follows

/-- Whoever comes to the gate does what the gate says: he passes, fails, or validates. The validation may consist of steps
of other callers. Whoever would wait for a validation that is below himself does not come at all. -/
theorem follows_supervise {validation : Act (Setting π ω) α} (h : Follows (first + 1) validation) (force : Bool) :
    Follows first (supervise force false validation) := by
  intro s c hr hfree
  have hi := hfree first (Nat.le_refl _)
  have call : Step c (.call first force) (c.place first (.atGate force false)) := .call hi
  have back (c' : Crowd π) (hs : ∀ j, j ≠ first → c'.stage j = c.stage j) (ha : c'.stage first = .away) :
      c'.stage = c.stage := by
    funext j
    by_cases he : j = first
    · rw [he, ha, hi]
    · exact hs j he
  have returned : ((c.place first (.atGate force false)).place first .away).stage = c.stage :=
    back _ (fun j hj => (stage_place_of_ne _ _ hj).trans (stage_place_of_ne _ _ hj)) (stage_place_self ..)
  rw [supervise, runFrom_bind, runFrom_getRegistry]
  dsimp only
  cases hg : s.registry.gate force false with
  | wait => exact ⟨[], c, .nil, hr, rfl⟩
  | pass => exact ⟨_, _, (Run.snoc .nil call).snoc (.pass (stage_place_self ..) (hr ▸ hg)), hr, returned⟩
  | fail e => exact ⟨_, _, (Run.snoc .nil call).snoc (.fail (stage_place_self ..) (hr ▸ hg)), hr, returned⟩
  | validate =>
    have free : (c.place first (.atGate force false)).FreeFrom (first + 1) := fun i hle =>
      (stage_place_of_ne _ _ (show i ≠ first by omega)).trans (hfree i (Nat.le_of_succ_le hle))
    have atGate : (c.place first (.atGate force false)).stage first = .atGate force false := stage_place_self ..
    have reached : (c.place first (.atGate force false)).registry = s.registry := hr
    obtain ⟨moves, c', hrun, hr', ha, hs⟩ := Follows.runValidation h reached free atGate hg
    refine ⟨_, c', (Run.snoc .nil call).append hrun, ?_,
      back c' (fun j hj => (hs j hj).trans (stage_place_of_ne _ _ hj)) ha⟩
    rw [hr']
    dsimp only
    rw [runFrom_bind]
    cases hv : (runValidation validation).runFrom s with
    | mk verdict s' => cases verdict <;> rfl

/-- So does whoever asks for a valid registry, and whoever forces a validation. -/
theorem follows_ensureValid {validation : Act (Setting π ω) α} (h : Follows (first + 1) validation) :
    Follows first (ensureValid validation) :=
  (follows_supervise h false).bind fun _ => .still fun _ => rfl

/-- A validation does what callers do, if the work within it does what the callers after the first do. -/
theorem follows_revalidate {validation : Act (Setting π ω) α} (h : Follows (first + 1) validation) :
    Follows first (revalidate validation) := by
  refine (follows_supervise h true).bind fun answer => .still fun s => ?_
  cases answer <;> rfl

end Setting

/-! ## Clients -/

namespace Client

open Setting

/-- A validation of a client stores plans, or does nothing to the registry. -/
theorem follows_validation (o : Options) (first : Nat) : Follows first (validation o) := by
  intro s c hr _
  cases hv : (validation o).runFrom s with
  | mk verdict s' =>
    cases verdict with
    | ok report =>
      obtain ⟨-, plans, -, hs⟩ := registry_validation hv
      have stored : s'.registry = c.registry.storePlans plans := hs.trans (congrArg (·.storePlans plans) hr.symm)
      exact ⟨_, c.change (·.storePlans plans), .snoc .nil .storePlans, stored.symm, rfl⟩
    | error e => exact ⟨[], c, .nil, hr.trans (registry_validation_error hv).symm, rfl⟩

/-- Passing the gate leaves no validation under way. -/
theorem keptByGate_notValidating : KeptByGate (·.phase ≠ .validating) :=
  SurvivesGate.kept ⟨fun _ _ _ _ _ => by simp [passed], fun _ _ _ _ => by simp [failed]⟩

/-- Nor does a forced validation. -/
theorem keeps_notValidating_validateAll (o : Options) : KeepsRegistry (·.phase ≠ .validating) (validateAll o) := by
  intro s hs
  have hleft := registry_validateAll o hs
  cases hrun : (validateAll o).runFrom s with
  | mk verdict s' =>
    rw [hrun] at hleft
    change s'.registry.phase ≠ .validating
    cases verdict with
    | ok report =>
      obtain ⟨plans, -, hr⟩ := hleft
      simp [hr, passed]
    | error e => simp [show s'.registry = failed s.registry e from hleft, failed]

end Client

namespace Session

open Client Crowd Act Setting

variable {α : Type} {r : Registry JoinPlan}

/-- Between two calls: no validation is under way, and the registry is that of a crowd that can come to be and in which nobody
is at the gate or validates. -/
structure AtRest (r : Registry JoinPlan) : Prop where
  phase : r.phase ≠ .validating
  reached : ∃ c : Crowd JoinPlan, c.Reachable ∧ c.registry = r ∧ c.FreeFrom 0

theorem atRest_empty : AtRest Registry.empty := ⟨by simp [Registry.empty], .new, ⟨[], .nil⟩, rfl, fun _ _ => rfl⟩

/-- Work that follows callers leaves the registry at rest, unless it leaves a validation under way. -/
theorem keeps_atRest {act : Work α} (hact : Follows 0 act) (hp : KeepsRegistry (·.phase ≠ .validating) act) :
    KeepsRegistry AtRest act := by
  intro s h
  obtain ⟨c, ⟨moves, hc⟩, hr, hfree⟩ := h.reached
  obtain ⟨more, c', hrun, hr', hstage⟩ := hact s c hr hfree
  exact ⟨hp s h.phase, c', ⟨_, hc.append hrun⟩, hr', fun i hi => (congrFun hstage i).trans (hfree i hi)⟩

theorem keptByCalls_atRest : KeptByCalls AtRest where
  gate o := keeps_atRest (follows_ensureValid (follows_validation o 1)) (keptByGate_notValidating o)
  register t :=
    keeps_atRest (Follows.change fun _ => .register) fun s => mt (s.registry.phase_register_eq_validating t).mp
  unregister name :=
    keeps_atRest (Follows.change fun _ => .unregister) fun s => mt (s.registry.phase_unregister_eq_validating name).mp

/-- Whatever a client was asked to do, its registry is one that callers of a registry can bring about: what is proved of every
crowd holds of it. -/
theorem atRest_after [MomentReader] (o : Options) (turns : List Turn) : AtRest (after o turns).registry := by
  induction turns using List.reverseRecOn with
  | nil => exact atRest_empty
  | append_singleton turns turn ih =>
    rw [after_snoc]
    obtain ⟨script, call⟩ := turn
    by_cases hc : call = .validateAll
    · subst hc
      exact (keeps_atRest (follows_revalidate (follows_validation o 1)) (keeps_notValidating_validateAll o)).discard _ ih
    · exact keeps_call keptByCalls_atRest o hc _ ih

end Session

end RelationMapper
