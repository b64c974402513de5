import RelationMapper.Table

/-!
# The registry

The tables of a client, and whether they have been validated. A change of the tables makes the registry unvalidated and
counts as a new generation; a validation that ends in another generation than it began in leaves no verdict. Callers
that need a valid registry ask at the gate (`Registry.gate`) whether they may pass, have to wait for a validation that
is under way, fail with its error, or have to validate themselves.

The steps here are the only ones: a validation is `begin`, whatever the callback does, and `finish`. Plans are whatever
a validation leaves for the use of its tables.
-/

namespace RelationMapper

/-- Where the validation of a registry stands. -/
inductive Phase where
  | unvalidated
  | validating
  | valid
  | invalid
deriving DecidableEq

/-- The tables of a client, the state of their validation, the error of a validation that failed, the number of changes
so far, and the plans that are stored by table name. -/
structure Registry (π : Type) where
  tables : List Table
  phase : Phase
  error : Option Fault
  generation : Nat
  plans : List (String × π)

/-- What a caller at the gate has to do. -/
inductive Passage where
  | wait
  | pass
  | fail (e : Fault)
  | validate

namespace Registry

variable {π : Type}

/-- No tables, not validated. -/
def empty : Registry π := ⟨[], .unvalidated, none, 0, []⟩

/-- Counts a change of the tables. A validation that is under way goes on. -/
def invalidate (r : Registry π) : Registry π :=
  { r with
    generation := r.generation + 1
    phase := if r.phase = .validating then .validating else .unvalidated
    error := none
    plans := [] }

/-- Adds a table. -/
def register (r : Registry π) (t : Table) : Registry π := { r with tables := r.tables ++ [t] }.invalidate

/-- Removes the first table of a name. Without one, nothing changes. -/
def unregister (r : Registry π) (name : String) : Registry π :=
  if r.tables.any (·.name == name) then { r with tables := r.tables.eraseP (·.name == name) }.invalidate else r

/-- The first table of a name. -/
def find? (r : Registry π) (name : String) : Option Table := findTable? r.tables name

/-- Whether the registry is valid. -/
def isValid (r : Registry π) : Bool := r.phase = .valid

/-- Declares the registry valid or not, without a validation. -/
def setValid (r : Registry π) (valid : Bool) : Registry π :=
  { r with phase := if valid then .valid else .unvalidated, error := none }

/-- The plan stored under a name. -/
def planFor? (r : Registry π) (name : String) : Option π := r.plans.lookup name

/-- Stores plans in place of the earlier ones. -/
def storePlans (r : Registry π) (plans : List (String × π)) : Registry π := { r with plans }

/-- What a caller has to do. One that forces a validation never passes; one that has waited for a validation shares its
failure, where a caller that has not waited tries again. -/
def gate (r : Registry π) (force waited : Bool) : Passage :=
  match r.phase with
  | .validating => .wait
  | .valid => if force then .validate else .pass
  | .invalid =>
    if !force && waited then
      match r.error with
      | some e => .fail e
      | none => .fail .wrongType
    else .validate
  | .unvalidated => .validate

/-- Begins a validation. -/
def begin (r : Registry π) : Registry π := { r with phase := .validating }

/-- Ends a validation that began in the given generation, with its error if it failed. -/
def finish (r : Registry π) (generation : Nat) (error : Option Fault) : Registry π :=
  if r.generation = generation then
    match error with
    | none => { r with phase := .valid, error := none }
    | some e => { r with phase := .invalid, error := some e }
  else { r with phase := .unvalidated, plans := [] }

end Registry

end RelationMapper
