import RelationMapper.Registry

/-!
# Work under a registry

A `Setting` is a registry together with the rest of a state. `Setting.supervise` passes the gate of the registry and runs
a validation where one is due; the validation may change the registry and the rest.
-/

namespace RelationMapper

/-- A registry and the rest of a state. -/
structure Setting (π ω : Type) where
  registry : Registry π
  rest : ω

namespace Setting

variable {π ω α : Type}

/-- The registry. -/
def getRegistry : Act (Setting π ω) (Registry π) := return (← get).registry

/-- Changes the registry. -/
def changeRegistry (change : Registry π → Registry π) : Act (Setting π ω) Unit :=
  modify fun s => { s with registry := change s.registry }

/-- Runs a validation from its beginning to its end and records what came of it. -/
def runValidation (validation : Act (Setting π ω) α) : Act (Setting π ω) α := do
  let generation := (← getRegistry).generation
  changeRegistry Registry.begin
  match ← validation.outcome with
  | .ok a =>
    changeRegistry (·.finish generation none)
    return a
  | .error e =>
    changeRegistry (·.finish generation (some e))
    throw e

/-- Passes the gate. The answer is that of the validation, if one was run; a caller that meets a validation under way in
its own work would wait for itself. -/
def supervise (force waited : Bool) (validation : Act (Setting π ω) α) : Act (Setting π ω) (Option α) := do
  match (← getRegistry).gate force waited with
  | .wait => throw .waitsForItself
  | .pass => return none
  | .fail e => throw e
  | .validate => return some (← runValidation validation)

/-- Returns once the registry is valid. -/
def ensureValid (validation : Act (Setting π ω) α) : Act (Setting π ω) Unit := do
  discard (supervise false false validation)

/-- Validates in any case. -/
def revalidate (validation : Act (Setting π ω) α) : Act (Setting π ω) α := do
  match ← supervise true false validation with
  | some a => return a
  | none => throw .waitsForItself

end Setting

end RelationMapper
