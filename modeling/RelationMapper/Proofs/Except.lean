import Mathlib.Data.List.Forall2
import RelationMapper.Fault

/-!
# Computations that may fail

A chain of computations succeeds if each step of it does, in turn. The lemmas here take such a chain apart (`bind_eq_ok`,
`mapError_eq_ok`, `refuse_eq_ok`) and say what walks through a list bring (`forM_eq_ok`, `exists_of_mem_mapM`,
`filterMapM_eq_ok`) and where they fail (`exists_of_forM_error`).
-/

namespace RelationMapper

variable {ε ε' α β : Type}

/-! ## Single steps -/

/-- A chain succeeds if the first step does and then the rest. -/
theorem bind_eq_ok {x : Except ε α} {f : α → Except ε β} {b : β} :
    (x >>= f) = .ok b ↔ ∃ a, x = .ok a ∧ f a = .ok b := by
  cases x <;> simp [bind, Except.bind]

/-- A chain fails if the first step does, or else the rest. -/
theorem bind_eq_error {x : Except ε α} {f : α → Except ε β} {e : ε} :
    (x >>= f) = .error e ↔ x = .error e ∨ ∃ a, x = .ok a ∧ f a = .error e := by
  cases x <;> simp [bind, Except.bind]

/-- What comes after a computation does not fail if it cannot. -/
theorem exists_bind_pure_error {x : Except ε α} {f : α → β} :
    (∃ e, (x >>= fun a => pure (f a)) = .error e) ↔ ∃ e, x = .error e := by
  cases x <;> simp [bind, Except.bind, pure, Except.pure]

@[simp] theorem ok_bind (a : α) (f : α → Except ε β) : (Except.ok a >>= f) = f a := rfl

@[simp] theorem pure_eq_ok {a b : α} : (pure a : Except ε α) = .ok b ↔ a = b := by simp [pure, Except.pure]

@[simp] theorem pure_ne_error {a : α} {e : ε} : (pure a : Except ε α) ≠ .error e := by simp [pure, Except.pure]

/-- A fault in other words is a fault all the same. -/
@[simp] theorem mapError_eq_ok {x : Except ε α} {f : ε → ε'} {a : α} : x.mapError f = .ok a ↔ x = .ok a := by
  cases x with
  | ok b =>
    change (Except.ok b : Except ε' α) = .ok a ↔ _
    rw [Except.ok.injEq, Except.ok.injEq]
  | error e => exact ⟨nofun, nofun⟩

theorem mapError_eq_error {x : Except ε α} {f : ε → ε'} {e' : ε'} :
    x.mapError f = .error e' ↔ ∃ e, x = .error e ∧ f e = e' := by
  cases x with
  | ok a => exact ⟨nofun, nofun⟩
  | error e =>
    change (Except.error (f e) : Except ε' α) = .error e' ↔ _
    simp

/-- A check that refuses under a condition lets pass where the condition does not hold and the rest lets pass. -/
theorem ite_error_eq_ok {c : Prop} [Decidable c] {e : ε} {rest : Except ε α} {a : α} :
    (if c then .error e else rest) = .ok a ↔ ¬c ∧ rest = .ok a := by
  by_cases hc : c <;> simp [hc]

/-- The same for a check in the middle of a chain. -/
theorem refuse_eq_ok {c : Prop} [Decidable c] {e : ε} {f : Unit → Except ε α} {rest : Except ε α} {a : α} :
    (if c then throw e >>= f else rest) = .ok a ↔ ¬c ∧ rest = .ok a :=
  ite_error_eq_ok

/-! ## Walks through lists -/

/-- A walk succeeds if every step does. -/
theorem forM_eq_ok {xs : List α} {f : α → Except ε Unit} {u : Unit} :
    xs.forM f = .ok u ↔ ∀ x ∈ xs, f x = .ok () := by
  induction xs with
  | nil => simp [pure, Except.pure]
  | cons x xs ih =>
    change (f x >>= fun _ => xs.forM f) = _ ↔ _
    rw [bind_eq_ok, List.forall_mem_cons, ih]
    exact ⟨fun ⟨(), hx, hxs⟩ => ⟨hx, hxs⟩, fun ⟨hx, hxs⟩ => ⟨(), hx, hxs⟩⟩

/-- A walk fails at one of its steps. -/
theorem exists_of_forM_error {xs : List α} {f : α → Except ε Unit} {e : ε} (h : xs.forM f = .error e) :
    ∃ x ∈ xs, f x = .error e := by
  induction xs with
  | nil => cases h
  | cons x xs ih =>
    rcases bind_eq_error.mp h with h | ⟨_, -, h⟩
    · exact ⟨x, List.mem_cons_self, h⟩
    · obtain ⟨y, hy, h⟩ := ih h
      exact ⟨y, List.mem_cons_of_mem _ hy, h⟩

/-- The same of a walk that passes on what it has. -/
theorem exists_of_foldlM_error {xs : List α} {f : β → α → Except ε β} {b : β} {e : ε} (h : xs.foldlM f b = .error e) :
    ∃ b', ∃ x ∈ xs, f b' x = .error e := by
  induction xs generalizing b with
  | nil => cases h
  | cons x xs ih =>
    rcases bind_eq_error.mp h with h | ⟨b', -, h⟩
    · exact ⟨b, x, List.mem_cons_self, h⟩
    · obtain ⟨b', y, hy, h⟩ := ih h
      exact ⟨b', y, List.mem_cons_of_mem _ hy, h⟩

/-- What each step of a walk preserves holds at its end. -/
theorem foldlM_invariant {f : β → α → Except ε β} (inv : β → Prop) (step : ∀ b a b', inv b → f b a = .ok b' → inv b')
    {xs : List α} {b b' : β} (hb : inv b) (h : xs.foldlM f b = .ok b') : inv b' := by
  induction xs generalizing b with
  | nil => exact pure_eq_ok.mp h ▸ hb
  | cons x xs ih =>
    obtain ⟨c, hc, h⟩ := bind_eq_ok.mp h
    exact ih (step b x c hb hc) h

/-- A walk brings one thing for each step, in order. -/
theorem forall₂_mapM {xs : List α} {f : α → Except ε β} {ys : List β} (h : xs.mapM f = .ok ys) :
    List.Forall₂ (fun x y => f x = .ok y) xs ys := by
  induction xs generalizing ys with
  | nil =>
    cases pure_eq_ok.mp h
    exact .nil
  | cons x xs ih =>
    rw [List.mapM_cons] at h
    obtain ⟨b, hb, h⟩ := bind_eq_ok.mp h
    obtain ⟨bs, hbs, h⟩ := bind_eq_ok.mp h
    cases pure_eq_ok.mp h
    exact .cons hb (ih hbs)

/-- A walk whose steps succeed brings what they bring. -/
theorem mapM_eq_ok_map {xs : List α} {f : α → Except ε β} {g : α → β} (h : ∀ x ∈ xs, f x = .ok (g x)) :
    xs.mapM f = .ok (xs.map g) := by
  induction xs with
  | nil => rfl
  | cons x xs ih =>
    rw [List.forall_mem_cons] at h
    rw [List.mapM_cons, h.1, ok_bind, ih h.2]
    rfl

/-- What a step of a walk brings is kept. -/
theorem exists_mem_of_mapM {xs : List α} {f : α → Except ε β} {ys : List β} (h : xs.mapM f = .ok ys) {x : α} (hx : x ∈ xs) :
    ∃ y ∈ ys, f x = .ok y := by
  replace h := forall₂_mapM h
  induction h with
  | nil => exact absurd hx List.not_mem_nil
  | cons hy _ ih =>
    rcases List.mem_cons.mp hx with rfl | hx
    · exact ⟨_, List.mem_cons_self, hy⟩
    · obtain ⟨y', hy', h'⟩ := ih hx
      exact ⟨y', List.mem_cons_of_mem _ hy', h'⟩

/-- A walk fails exactly if one of its steps does. -/
theorem exists_mapM_error {xs : List α} {f : α → Except ε β} :
    (∃ e, xs.mapM f = .error e) ↔ ∃ x ∈ xs, ∃ e, f x = .error e := by
  constructor
  · rintro ⟨e, he⟩
    induction xs with
    | nil => cases he
    | cons x xs ih =>
      rw [List.mapM_cons] at he
      rcases bind_eq_error.mp he with hx | ⟨y, -, he⟩
      · exact ⟨x, List.mem_cons_self, e, hx⟩
      · rcases bind_eq_error.mp he with hxs | ⟨ys, -, he⟩
        · obtain ⟨x', hx', herror⟩ := ih hxs
          exact ⟨x', List.mem_cons_of_mem _ hx', herror⟩
        · cases he
  · rintro ⟨x, hx, e, he⟩
    cases hm : xs.mapM f with
    | error e' => exact ⟨e', rfl⟩
    | ok ys =>
      obtain ⟨y, -, hy⟩ := exists_mem_of_mapM hm hx
      cases he.symm.trans hy

/-- What a walk keeps was brought by one of its steps. -/
theorem exists_of_mem_mapM {xs : List α} {f : α → Except ε β} {ys : List β} (h : xs.mapM f = .ok ys) {y : β} (hy : y ∈ ys) :
    ∃ x ∈ xs, f x = .ok y := by
  induction xs generalizing ys with
  | nil =>
    cases pure_eq_ok.mp h
    exact absurd hy List.not_mem_nil
  | cons x xs ih =>
    rw [List.mapM_cons] at h
    obtain ⟨b, hb, h⟩ := bind_eq_ok.mp h
    obtain ⟨bs, hbs, h⟩ := bind_eq_ok.mp h
    cases pure_eq_ok.mp h
    rcases List.mem_cons.mp hy with rfl | hy
    · exact ⟨x, List.mem_cons_self, hb⟩
    · obtain ⟨x', hx', h⟩ := ih hbs hy
      exact ⟨x', List.mem_cons_of_mem _ hx', h⟩

/-- A walk whose steps may bring something succeeds if every step does, and keeps what they bring. -/
theorem filterMapM_eq_ok {xs : List α} {f : α → Except ε (Option β)} {ys : List β} :
    xs.filterMapM f = .ok ys ↔ ∃ g : α → Option β, (∀ x ∈ xs, f x = .ok (g x)) ∧ ys = xs.filterMap g := by
  induction xs generalizing ys with
  | nil => exact ⟨fun h => ⟨fun _ => none, by simp, (pure_eq_ok.mp h).symm⟩, fun ⟨_, _, h⟩ => pure_eq_ok.mpr h.symm⟩
  | cons x xs ih =>
    rw [List.filterMapM_cons, bind_eq_ok]
    constructor
    · rintro ⟨o, ho, h⟩
      obtain ⟨zs, hz, rfl⟩ : ∃ zs, xs.filterMapM f = .ok zs ∧ ys = o.toList ++ zs := by
        cases o with
        | none => exact ⟨ys, h, rfl⟩
        | some y =>
          obtain ⟨zs, hz, h⟩ := bind_eq_ok.mp h
          exact ⟨zs, hz, (pure_eq_ok.mp h).symm⟩
      -- what the steps bring can be read off the steps themselves
      have hall : ∀ y ∈ x :: xs, f y = .ok (f y).toOption.join := by
        obtain ⟨g, hg, -⟩ := ih.mp hz
        intro y hy
        rcases List.mem_cons.mp hy with rfl | hy
        · rw [ho]
          rfl
        · rw [hg y hy]
          rfl
      refine ⟨fun y => (f y).toOption.join, hall, ?_⟩
      have hzs := ih.mpr ⟨_, fun y hy => hall y (List.mem_cons_of_mem _ hy), rfl⟩
      rw [hz] at hzs
      rw [List.filterMap_cons, Except.ok.inj hzs, ho]
      cases o <;> rfl
    · rintro ⟨g, hg, rfl⟩
      rw [List.forall_mem_cons] at hg
      refine ⟨g x, hg.1, ?_⟩
      rw [ih.mpr ⟨g, hg.2, rfl⟩, List.filterMap_cons]
      cases g x <;> rfl

/-- What such a walk keeps was brought by one of its steps. -/
theorem exists_of_mem_filterMapM {xs : List α} {f : α → Except ε (Option β)} {ys : List β} (h : xs.filterMapM f = .ok ys)
    {y : β} (hy : y ∈ ys) : ∃ x ∈ xs, f x = .ok (some y) := by
  obtain ⟨g, hg, rfl⟩ := filterMapM_eq_ok.mp h
  obtain ⟨x, hx, hgx⟩ := List.mem_filterMap.mp hy
  exact ⟨x, hx, hgx ▸ hg x hx⟩

/-- Two walks with like steps keep like things. -/
theorem forall₂_filterMapM {f f' : α → Except ε (Option β)} {like : α → α → Prop} {like' : β → β → Prop}
    (step : ∀ x x' o o', like x x' → f x = .ok o → f' x' = .ok o' → Option.Rel like' o o') {xs xs' : List α}
    (hxs : List.Forall₂ like xs xs') {ys ys' : List β} (h : xs.filterMapM f = .ok ys) (h' : xs'.filterMapM f' = .ok ys') :
    List.Forall₂ like' ys ys' := by
  obtain ⟨g, hg, rfl⟩ := filterMapM_eq_ok.mp h
  obtain ⟨g', hg', rfl⟩ := filterMapM_eq_ok.mp h'
  clear h h'
  induction hxs with
  | nil => exact .nil
  | @cons x x' xs xs' hx _ ih =>
    rw [List.forall_mem_cons] at hg hg'
    have hstep := step x x' _ _ hx hg.1 hg'.1
    rw [List.filterMap_cons, List.filterMap_cons]
    cases ho : g x with
    | none =>
      cases ho' : g' x' with
      | none => exact ih hg.2 hg'.2
      | some y' => rw [ho, ho'] at hstep; cases hstep
    | some y =>
      cases ho' : g' x' with
      | none => rw [ho, ho'] at hstep; cases hstep
      | some y' =>
        rw [ho, ho'] at hstep
        cases hstep with
        | some hy => exact .cons hy (ih hg.2 hg'.2)

theorem filterMapM_exists {xs : List α} {f : α → Except ε (Option β)} (h : ∀ x ∈ xs, ∃ o, f x = .ok o) :
    ∃ ys, xs.filterMapM f = .ok ys := by
  refine ⟨_, filterMapM_eq_ok.mpr ⟨fun x => (f x).toOption.join, fun x hx => ?_, rfl⟩⟩
  obtain ⟨o, ho⟩ := h x hx
  change f x = .ok (f x).toOption.join
  rw [ho]
  rfl

end RelationMapper
