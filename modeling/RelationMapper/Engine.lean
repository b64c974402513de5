import RelationMapper.Url

/-!
# Engines

An engine is created once for an address and then shared by all who connect to it. `EngineRegistry.get` finds the engine of
an address or creates one, with the arguments of its dialect and those of the caller.
-/

namespace RelationMapper

/-- An engine: its number in the order of creation and the arguments it was created with. -/
structure Engine where
  number : Nat
  arguments : Fields

/-- The engines by address, and how many have been created. -/
structure EngineRegistry where
  engines : List (String × Engine)
  created : Nat

namespace EngineRegistry

/-- No engines. -/
def empty : EngineRegistry := ⟨[], 0⟩

/-- The arguments that every engine is created with. Connections are not pooled. -/
def commonArguments : Fields := [("echo", .bool false), ("poolclass", .text "NullPool")]

/-- The engine for options, and the registry with it. -/
def get (r : EngineRegistry) (o : Options) (arguments : Fields) : Except Fault (Engine × EngineRegistry) := do
  let address := (← Url.ofOptions o).text
  match r.engines.lookup address with
  | some engine => return (engine, r)
  | none =>
    let engine : Engine := ⟨r.created, (commonArguments.setAll o.dialect.engineArguments).setAll arguments⟩
    return (engine, ⟨r.engines ++ [(address, engine)], r.created + 1⟩)

/-- Gives all engines up. Engines that are created later are counted on. -/
def dispose (r : EngineRegistry) : EngineRegistry := { r with engines := [] }

end EngineRegistry

end RelationMapper
