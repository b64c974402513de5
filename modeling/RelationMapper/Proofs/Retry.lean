import Mathlib.Data.ENat.Lattice
import Mathlib.Algebra.Order.Field.Rat
import RelationMapper.Proofs.Act
import RelationMapper.Retry

/-!
# How often a call is tried

A call is tried until its outcome is no fault that may pass, and not more often than the policy allows. Between two calls there
is one pause; the first is the delay of the policy, and each further one is the one before times the factor. The last outcome is
what comes of it all (`tried_until_settled`).

The products of a policy are those of `Value.times`, which rounds. Where it does not round, a pause is the delay times a power of
the factor.
-/

namespace RelationMapper

open Act Number

/-! ## Numbers and exact products -/

/-- The number that a finite floating point number is. -/
def Number.Binary64.amount (x : Binary64) : ℚ := (if x.isNegative then -1 else 1) * x.significand * 2 ^ x.exponent

/-- The number that a value is, if it is one. -/
def Value.amount? : Value → Option ℚ
  | .real x => if x.isFinite then some x.amount else none
  | v => v.int?.map (↑)

/-- Whether the product of two numbers is a value, without rounding. -/
def Value.ExactProduct (a b : Value) : Prop :=
  ∃ product x y, a.times b = .ok product ∧ a.amount? = some x ∧ b.amount? = some y ∧ product.amount? = some (x * y)

/-- Integers are multiplied without rounding. -/
theorem Value.exactProduct_int (m n : Int) : Value.ExactProduct (.int m) (.int n) :=
  ⟨.int (m * n), m, n, rfl, rfl, rfl, congrArg some (Int.cast_mul m n)⟩

namespace RetryPolicy

variable {σ ι α : Type} {policy : RetryPolicy} {pauses : Nat → Value} {mayPass : Fault → Bool}
  {outcomes : Nat → Except Fault α}

/-- The pauses of a policy, as far as it needs any: each one is the one before times the factor. -/
structure Paces (policy : RetryPolicy) (pauses : Nat → Value) : Prop where
  first : pauses 0 = policy.delay
  next : ∀ i : Nat, i + 1 < policy.limit → (pauses i).times policy.factor = .ok (pauses (i + 1))

/-- Without rounding, the pauses grow by powers of the factor. -/
theorem Paces.amount (h : policy.Paces pauses) {delay factor : ℚ} (hdelay : policy.delay.amount? = some delay)
    (hfactor : policy.factor.amount? = some factor)
    (exact : ∀ i : Nat, i + 1 < policy.limit → (pauses i).ExactProduct policy.factor) (i : Nat) (hi : i < policy.limit) :
    (pauses i).amount? = some (delay * factor ^ i) := by
  induction i with
  | zero => rw [h.first, hdelay, pow_zero, mul_one]
  | succ i ih =>
    obtain ⟨product, x, y, hproduct, hx, hy, hxy⟩ := exact i hi
    cases hproduct.symm.trans (h.next i hi)
    cases hx.symm.trans (ih (by omega))
    cases hy.symm.trans hfactor
    rw [hxy, pow_succ, mul_assoc]

/-- Integers make pauses that are integers. -/
theorem paces_int (limit delay factor : Int) :
    (⟨limit, .int delay, .int factor⟩ : RetryPolicy).Paces fun i => .int (delay * factor ^ i) where
  first := by rw [pow_zero, mul_one]
  next i _ := by
    rw [pow_succ, ← mul_assoc]
    rfl

/-! ## Outcomes -/

/-- Whether an outcome is a fault that may pass. -/
def passes (mayPass : Fault → Bool) : Except Fault α → Bool
  | .ok _ => false
  | .error e => mayPass e

/-- The number of calls up to the first outcome that is no fault that may pass; if there is none, it is infinite. -/
noncomputable def callsToSettle (mayPass : Fault → Bool) (outcomes : Nat → Except Fault α) : ℕ∞ :=
  ⨅ i ∈ {i | passes mayPass (outcomes i) = false}, ((i + 1 : Nat) : ℕ∞)

/-- After each failure that may pass there is one more call. -/
theorem le_callsToSettle {n : Nat} (h : ∀ i < n, passes mayPass (outcomes i) = true) :
    ((n + 1 : Nat) : ℕ∞) ≤ callsToSettle mayPass outcomes := by
  refine le_iInf₂ fun i hi => Nat.cast_le.mpr (Nat.succ_le_succ ?_)
  by_contra hlt
  cases (h i (Nat.lt_of_not_le hlt)).symm.trans hi

/-- The first outcome that is no failure that may pass settles the matter. -/
theorem callsToSettle_le {n : Nat} (h : passes mayPass (outcomes n) = false) :
    callsToSettle mayPass outcomes ≤ ((n + 1 : Nat) : ℕ∞) :=
  iInf₂_le n h

/-! ## What is done -/

/-- What is done while a call is tried. -/
inductive Deed (ι : Type) where
  | called (arguments : ι)
  | paused (pause : Value)

/-- Whether a deed is a call. -/
def Deed.isCall : Deed ι → Bool
  | .called _ => true
  | .paused _ => false

/-- Calls a function that has the given outcomes, one after the other. -/
def recordCall (outcomes : Nat → Except Fault α) (arguments : ι) : Act (List (Deed ι)) α := do
  let done ← get
  set (done ++ [.called arguments])
  Act.lift (outcomes (done.countP Deed.isCall))

/-- Pauses. -/
def recordPause (pause : Value) : Act (List (Deed ι)) Unit := modify (· ++ [.paused pause])

/-- A number of calls with the same arguments, with a pause between each two of them. -/
def callsWithPauses (arguments : ι) (pauses : Nat → Value) : (calls : Nat) → List (Deed ι)
  | 0 => []
  | calls + 1 => .called arguments :: (List.range calls).flatMap fun i => [.paused (pauses i), .called arguments]

theorem runFrom_recordCall (outcomes : Nat → Except Fault α) (arguments : ι) (done : List (Deed ι)) :
    (recordCall outcomes arguments).runFrom done =
      (outcomes (done.countP Deed.isCall), done ++ [.called arguments]) := rfl

/-- A run of attempts: the call settles it or is the last one, or there is a pause and the rest of the attempts. -/
theorem runFrom_attempts_succ (mayPass : Fault → Bool) (pause : Value → Act σ Unit) (factor : Value) (call : Act σ α)
    (calls : Nat) (delay : Value) (s : σ) :
    (attempts mayPass pause factor call (calls + 1) delay).runFrom s =
      match call.runFrom s with
      | (.ok a, s') => (.ok (some a), s')
      | (.error e, s') =>
        if !mayPass e || calls = 0 then (.error e, s')
        else (pause delay >>= fun _ => Act.lift (delay.times factor) >>= attempts mayPass pause factor call calls).runFrom s' := by
  rw [attempts, runFrom_bind, runFrom_outcome]
  cases call.runFrom s with
  | mk outcome s' =>
    cases outcome with
    | ok a => rfl
    | error e =>
      dsimp only
      split
      · rfl
      · rfl

section

variable {arguments : ι} {factor delay next : Value} {calls : Nat} {done : List (Deed ι)}

/-- A call after which no other one is made. -/
theorem runFrom_attempts_last
    (h : calls = 0 ∨ passes mayPass (outcomes (done.countP Deed.isCall)) = false) :
    (attempts mayPass recordPause factor (recordCall outcomes arguments) (calls + 1) delay).runFrom done =
      ((outcomes (done.countP Deed.isCall)).map some, done ++ [.called arguments]) := by
  rw [runFrom_attempts_succ, runFrom_recordCall]
  cases ho : outcomes (done.countP Deed.isCall) with
  | ok a => rfl
  | error e =>
    have hlast : (!mayPass e || decide (calls = 0)) = true := by
      rw [ho] at h
      rcases h with h | h
      · simp [h]
      · simp [show mayPass e = false from h]
    dsimp only
    rw [if_pos hlast]
    rfl

/-- A call after which there is a pause, and then the next one. -/
theorem runFrom_attempts_again (h : passes mayPass (outcomes (done.countP Deed.isCall)) = true)
    (hnext : delay.times factor = .ok next) :
    (attempts mayPass recordPause factor (recordCall outcomes arguments) (calls + 2) delay).runFrom done =
      (attempts mayPass recordPause factor (recordCall outcomes arguments) (calls + 1) next).runFrom
        (done ++ [.called arguments] ++ [.paused delay]) := by
  rw [runFrom_attempts_succ, runFrom_recordCall]
  cases ho : outcomes (done.countP Deed.isCall) with
  | ok a =>
    rw [ho] at h
    cases h
  | error e =>
    rw [ho] at h
    have hmore : ¬(!mayPass e || decide (calls + 1 = 0)) = true := by simp [show mayPass e = true from h]
    dsimp only
    rw [if_neg hmore, hnext]
    rfl

end

/-- Attempts are calls and pauses in turn, up to the first outcome that is no fault that may pass, or to the last call. -/
theorem runFrom_attempts (mayPass : Fault → Bool) (outcomes : Nat → Except Fault α) (arguments : ι) {factor : Value}
    (pauses : Nat → Value) (n : Nat) (hpauses : ∀ i < n, (pauses i).times factor = .ok (pauses (i + 1)))
    (done : List (Deed ι)) (first : Nat) (hdone : done.countP Deed.isCall = first) :
    ∃ again ≤ n, (∀ i < again, passes mayPass (outcomes (first + i)) = true) ∧
      (again = n ∨ passes mayPass (outcomes (first + again)) = false) ∧
      (attempts mayPass recordPause factor (recordCall outcomes arguments) (n + 1) (pauses 0)).runFrom done =
        ((outcomes (first + again)).map some, done ++ callsWithPauses arguments pauses (again + 1)) := by
  induction n generalizing done first pauses with
  | zero =>
    refine ⟨0, Nat.le_refl 0, nofun, .inl rfl, ?_⟩
    rw [runFrom_attempts_last (.inl rfl), hdone]
    rfl
  | succ n ih =>
    cases hp : passes mayPass (outcomes first) with
    | false =>
      refine ⟨0, Nat.zero_le _, nofun, .inr hp, ?_⟩
      rw [runFrom_attempts_last (.inr (hdone ▸ hp)), hdone]
      rfl
    | true =>
      obtain ⟨again, hle, hpassed, hlast, hrun⟩ := ih (fun i => pauses (i + 1)) (fun i hi => hpauses (i + 1) (by omega))
        (done ++ [.called arguments] ++ [.paused (pauses 0)]) (first + 1) (by rw [List.countP_append, List.countP_append, hdone]; rfl)
      refine ⟨again + 1, by omega, ?_, ?_, ?_⟩
      · intro i hi
        cases i with
        | zero => exact hp
        | succ i => exact (show first + (i + 1) = first + 1 + i by omega) ▸ hpassed i (by omega)
      · rw [show first + (again + 1) = first + 1 + again by omega]
        exact hlast.imp_left (congrArg (· + 1))
      · rw [runFrom_attempts_again (hdone ▸ hp) (hpauses 0 (by omega)), hrun, show first + (again + 1) = first + 1 + again by omega]
        simp [callsWithPauses, List.range_succ_eq_map, List.flatMap_map]

/-! ## The run of a policy -/

/-- Under a policy that allows a call, a function is called until it settles, or as often as the policy allows, whichever is
less; each time with the arguments of the caller. There is one pause between each two calls and none after the last, and what comes
of the last call is what comes of it all. Where the products of the policy are not rounded, the pauses are the delay, the delay
times the factor, times its square and so on. -/
theorem tried_until_settled (hlimit : 1 ≤ policy.limit) (hpaces : policy.Paces pauses) (mayPass : Fault → Bool)
    (outcomes : Nat → Except Fault α) (arguments : ι) :
    ∃ calls : Nat, (calls : ℕ∞) = min (callsToSettle mayPass outcomes) policy.limit.toNat ∧
      (policy.run mayPass recordPause (recordCall outcomes arguments)).runFrom [] =
        ((outcomes (calls - 1)).map some, callsWithPauses arguments pauses calls) ∧
      ∀ delay factor : ℚ, policy.delay.amount? = some delay → policy.factor.amount? = some factor →
        (∀ i : Nat, i + 1 < policy.limit → (pauses i).ExactProduct policy.factor) →
          ∀ i, i + 1 < calls → (pauses i).amount? = some (delay * factor ^ i) := by
  obtain ⟨n, hn⟩ : ∃ n : Nat, policy.limit = n + 1 := ⟨(policy.limit - 1).toNat, by omega⟩
  have hlimit : policy.limit.toNat = n + 1 := by omega
  obtain ⟨again, hle, hpassed, hlast, hrun⟩ := runFrom_attempts mayPass outcomes arguments pauses n
    (fun i hi => hpaces.next i (by omega)) [] 0 rfl
  simp only [Nat.zero_add] at hpassed hlast hrun
  refine ⟨again + 1, le_antisymm ?_ ?_, ?_, ?_⟩
  · rw [hlimit]
    exact le_min (le_callsToSettle hpassed) (Nat.cast_le.mpr (Nat.succ_le_succ hle))
  · rcases hlast with rfl | hsettled
    · exact (min_le_right _ _).trans (le_of_eq (congrArg _ hlimit))
    · exact (min_le_left _ _).trans (callsToSettle_le hsettled)
  · rw [run, hlimit, ← hpaces.first, hrun]
    rfl
  · exact fun delay factor hdelay hfactor hexact i hi => hpaces.amount hdelay hfactor hexact i (by omega)

/-- Four calls at most, with pauses of 2, 6 and 18 seconds. -/
def patient : RetryPolicy := ⟨4, .int 2, .int 3⟩

/-- The outcomes of a function that cannot reach a database twice, and then answers. -/
def thirdTime : Nat → Except Fault Nat
  | 0 | 1 => .error (.foreign ⟨.sqliteOperational, "unable to open database file"⟩)
  | _ => .ok 7

/-- The third of four possible calls is the last, after pauses of 2 and 2 * 3 seconds. -/
theorem tried_until_settled_third :
    1 ≤ patient.limit ∧ patient.Paces (fun i => .int (2 * 3 ^ i)) ∧
      (patient.run Fault.isConnection recordPause (recordCall thirdTime "orders")).runFrom [] =
        (.ok (some 7), [.called "orders", .paused (.int 2), .called "orders", .paused (.int 6), .called "orders"]) ∧
      (Value.int 6).amount? = some (2 * 3 ^ 1) := by
  have hlimit : 1 ≤ patient.limit := by decide
  have hpaces : patient.Paces fun i => .int (2 * 3 ^ i) := paces_int 4 2 3
  obtain ⟨calls, hcalls, hrun, hamount⟩ := tried_until_settled hlimit hpaces Fault.isConnection thirdTime "orders"
  have hsettle : callsToSettle Fault.isConnection thirdTime = ((3 : Nat) : ℕ∞) :=
    le_antisymm (callsToSettle_le rfl) (le_callsToSettle (by decide))
  have hthree : calls = 3 := by
    rw [hsettle, min_eq_left (Nat.cast_le.mpr (by decide))] at hcalls
    exact ENat.natCast_inj.mp hcalls
  subst hthree
  exact ⟨hlimit, hpaces, hrun, hamount 2 3 rfl rfl (fun i _ => Value.exactProduct_int (2 * 3 ^ i) 3) 1 (by decide)⟩

end RetryPolicy

end RelationMapper
