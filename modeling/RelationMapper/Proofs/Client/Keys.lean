import RelationMapper.Client.Rows
import RelationMapper.Proofs.Traffic

/-!
# Keys that are answered

What is made of the answers to statements that ask for keys: the key after the greatest one (`Result.keyAfter`), and the keys of
rows (`Result.keys`). If the answers are admissible, these are integers.
-/

namespace RelationMapper

namespace Result

/-- The key after the greatest one that is answered. -/
def keyAfter (result : Result) : Except Fault Value := do
  let current ← match ← result.first? with
    | some row => cell row "id_max"
    | none => pure .null
  current.successor

/-- The keys that are answered. -/
def keys (key : String) (result : Result) : Except Fault (List Value) := do (← result.each).mapM (cell · key)

end Result

namespace Client

theorem cell_eq_ok {row : Fields} {name : String} {v : Value} : cell row name = .ok v ↔ row.get? name = some v := by
  unfold cell
  cases row.get? name <;> simp

theorem unrefused_cell (row : Fields) (name : String) : Unrefused (cell row name) := by
  unfold cell
  split
  · exact Only.ok _
  · exact Only.error rfl

theorem unrefused_first (result : Result) : Unrefused result.first? := by
  cases result with
  | records columns rows => exact Only.ok _
  | count n =>
    rw [Result.first?]
    split
    · exact Only.ok _
    · exact Only.error rfl

theorem unrefused_each (result : Result) : Unrefused result.each := by
  cases result with
  | records columns rows => exact Only.ok _
  | count n => exact Only.error rfl

theorem unrefused_successor (v : Value) : Unrefused v.successor := by
  unfold Value.successor
  repeat' split
  all_goals first | exact Only.ok _ | exact Only.error rfl

/-- The number after an integer, or after nothing, is an integer. -/
theorem successor_int {v w : Value} (hv : v = .null ∨ ∃ n, v = .int n) (h : v.successor = .ok w) : ∃ n, w = .int n := by
  unfold Value.successor at h
  split at h
  · exact ⟨1, (Except.ok.inj h).symm⟩
  · rcases hv with rfl | ⟨n, rfl⟩
    · cases h
    · exact ⟨n + 1, (Except.ok.inj h).symm⟩

/-- The first record of a result is one of its records. -/
theorem first_eq_some {result : Result} {row : Fields} (h : result.first? = .ok (some row)) :
    ∃ columns rows, result = .records columns rows ∧ row ∈ rows := by
  cases result with
  | records columns rows => exact ⟨columns, rows, rfl, List.mem_of_head? (Except.ok.inj h)⟩
  | count n =>
    rw [Result.first?] at h
    split at h <;> cases h

/-! ## The next key -/

/-- The next key is asked for and read from the answer. -/
theorem nextKey_eq (o : Options) (t : Table) :
    nextKey o t = ask o (.nextKey t.name t.key) >>= fun result => Act.lift result.keyAfter := rfl

theorem unrefused_keyAfter (result : Result) : Unrefused result.keyAfter := by
  refine (unrefused_first result).bind fun first _ => ?_
  cases first with
  | none => exact (Only.ok _).bind fun current _ => unrefused_successor current
  | some row => exact (unrefused_cell row _).bind fun current _ => unrefused_successor current

/-- The next key is an integer if the greatest one is, or if there is none. -/
theorem int_of_keyAfter [MomentReader] {tables : List Table} {table column : String} {result : Result}
    (h : (Statement.nextKey table column).Admits tables result) {key : Value} (hkey : result.keyAfter = .ok key) :
    ∃ n, key = .int n := by
  obtain ⟨first, hfirst, hnext⟩ := bind_eq_ok.mp hkey
  cases first with
  | none => exact successor_int (Or.inl rfl) hnext
  | some row =>
    obtain ⟨current, hcurrent, hsuccessor⟩ := bind_eq_ok.mp hnext
    obtain ⟨columns, rows, rfl, hrow⟩ := first_eq_some hfirst
    exact successor_int (h row hrow current (cell_eq_ok.mp hcurrent)) hsuccessor

/-! ## The keys of rows -/

theorem matchingKeys_eq (o : Options) (t : Table) (conditions : List Condition) :
    matchingKeys o t conditions =
      ask o (.selectKeys t.name t.key conditions) >>= fun result => Act.lift (result.keys t.key) := rfl

theorem unrefused_keys (key : String) (result : Result) : Unrefused (result.keys key) :=
  (unrefused_each result).bind fun _ _ => Only.mapM fun row _ => unrefused_cell row _

/-- The keys of rows are integers. -/
theorem int_of_mem_keys [MomentReader] {tables : List Table} {table key : String} {conditions : List Condition} {result : Result}
    (h : (Statement.selectKeys table key conditions).Admits tables result) {keys : List Value}
    (hkeys : result.keys key = .ok keys) {k : Value} (hk : k ∈ keys) : ∃ n, k = .int n := by
  obtain ⟨rows, hrows, hcells⟩ := bind_eq_ok.mp hkeys
  obtain ⟨row, hrow, hcell⟩ := exists_of_mem_mapM hcells hk
  cases result with
  | count n => cases hrows
  | records columns rows' =>
    cases hrows
    exact h row hrow k (cell_eq_ok.mp hcell)

end Client

end RelationMapper
