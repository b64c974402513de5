import RelationMapper.Value.Writable

/-!
# Values under keys

What callers pass as a map: an entry, a filter, or the options of a selection. Keys are values, and two keys that are the
same, such as one and true, have one place: the first of them stays, and the last value counts. A key that is a text is a
name.
-/

namespace RelationMapper

/-- Things under keys, in the order in which the keys were first set. -/
abbrev Keyed (α : Type) := List (Value × α)

namespace Keyed

variable {α : Type}

/-- Changes what is under a key, or adds the key with what the change makes of nothing. -/
def update (keyed : Keyed α) (key : Value) (change : Option α → α) : Keyed α :=
  match keyed with
  | [] => [(key, change none)]
  | (k, a) :: rest => if k.sameKey key then (k, change (some a)) :: rest else (k, a) :: update rest key change

/-- Puts something under a key, in place of what is there. -/
def set (keyed : Keyed α) (key : Value) (a : α) : Keyed α := keyed.update key fun _ => a

/-- What is under a key, if the key is there. -/
def find? (keyed : Keyed α) (key : Value) : Option α := (List.find? (fun (k, _) => k.sameKey key) keyed).map (·.2)

/-- Whether a key is there. -/
def has (keyed : Keyed α) (key : Value) : Bool := keyed.any fun (k, _) => k.sameKey key

/-- The map of keys and values in order; of a key that occurs again the last value counts. -/
def ofList (entries : List (Value × α)) : Keyed α := entries.foldl (fun keyed (k, a) => set keyed k a) []

end Keyed

namespace Value

mutual

/-- Refuses a value that cannot be a key, with the first part of it that is the reason. -/
def checkKey : Value → Except Fault Unit
  | .list _ | .set _ | .map _ | .buffer _ => .error .wrongType
  | .moment m => m.checkWritable
  | .tuple items => checkKeys items
  | _ => .ok ()

/-- Refuses values of which one cannot be a key. -/
def checkKeys : List Value → Except Fault Unit
  | [] => .ok ()
  | v :: rest => do
    checkKey v
    checkKeys rest

end

end Value

/-- Named values as a map. -/
def Value.record (fields : Fields) : Value := .map (fields.map fun (name, v) => (.text name, v))

/-- The named ones among the values of a map. -/
def Value.namedFields : Value → Fields
  | .map entries => entries.filterMap fun (key, v) =>
    match key with
    | .text name => some (name, v)
    | _ => none
  | _ => []

end RelationMapper
