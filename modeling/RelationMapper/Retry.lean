import RelationMapper.Fault

/-!
# Trying again

A call that fails is tried again while its fault is of a kind that may pass, up to a greatest number of calls. Before
each further call there is a pause, and each pause is longer than the one before by a factor. The last fault is raised as
it is.
-/

namespace RelationMapper

open Number

/-- How often and at what pace a call is tried. -/
structure RetryPolicy where
  limit : Int
  delay : Value
  factor : Value

/-- Three calls, a pause of a second, and half as long again for the next one. -/
def RetryPolicy.standard : RetryPolicy := ⟨3, .int 1, .real ⟨0x3ff8000000000000⟩⟩

/-- A number as a floating point number; an integer beyond their range is too large. -/
def Value.toReal : Value → Except Fault Binary64
  | .real x => .ok x
  | v =>
    match v.int?.map Binary64.ofInt with
    | some x => if x.isFinite then .ok x else .error .overflow
    | none => .error .wrongType

/-- Several copies of a row of things, one after the other; less than none are none. -/
def copies {α : Type} (n : Int) (parts : List α) : Except Fault (List α) :=
  if n < -0x8000000000000000 ∨ 0x8000000000000000 ≤ n ∨ 0x8000000000000000 ≤ n * parts.length then .error .overflow
  else .ok (if parts.isEmpty then [] else (List.replicate n.toNat parts).flatten)

/-- A value with parts in a row, as often as an integer says. -/
def Value.repeated (n : Int) : Value → Except Fault Value
  | .text s => do return .text (String.ofList (← copies n s.toList))
  | .bytes b => do return .bytes (← copies n b)
  | .buffer b => do return .buffer (← copies n b)
  | .list items => do return .list (← copies n items)
  | .tuple items => do return .tuple (← copies n items)
  | _ => .error .wrongType

/-- The product of two values. That of two integers is an integer and that of other numbers a floating point number; an
integer repeats a value with parts in a row. -/
def Value.times (a b : Value) : Except Fault Value :=
  match a, b with
  | .real _, _ | _, .real _ => do return .real ((← a.toReal).mul (← b.toReal))
  | a, b =>
    match a.int?, b.int? with
    | some m, some n => .ok (.int (m * n))
    | some m, none => b.repeated m
    | none, some n => a.repeated n
    | none, none => .error .wrongType

/-- More calls than are ever made. -/
def unboundedCalls : Int := 0x10000000000000000

/-- The least integer that is not below a number: it bounds the same counts. -/
def Value.countLimit : Value → Except Fault Int
  | .real x =>
    if x.isNaN then .ok 0
    else if !x.isFinite then .ok (if x.isNegative then 0 else unboundedCalls)
    else
      let n := x.truncate
      .ok (if x.isNegative || x.equalsInt n then n else n + 1)
  | v =>
    match v.int? with
    | some n => .ok n
    | none => .error .wrongType

namespace RetryPolicy

variable {σ α : Type}

/-- Tries a call up to `calls` times, with the given pause before the second one. -/
def attempts (mayPass : Fault → Bool) (pause : Value → Act σ Unit) (factor : Value) (call : Act σ α) :
    (calls : Nat) → (delay : Value) → Act σ (Option α)
  | 0, _ => return none
  | calls + 1, delay => do
    match ← call.outcome with
    | .ok a => return some a
    | .error e =>
      if !mayPass e || calls = 0 then throw e
      pause delay
      attempts mayPass pause factor call calls (← Act.lift (delay.times factor))

/-- Tries a call under a policy. With a limit below one nothing is called and there is no answer. -/
def run (policy : RetryPolicy) (mayPass : Fault → Bool) (pause : Value → Act σ Unit) (call : Act σ α) :
    Act σ (Option α) :=
  attempts mayPass pause policy.factor call policy.limit.toNat policy.delay

end RetryPolicy

end RelationMapper
