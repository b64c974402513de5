import RelationMapper.Proofs.Entry

/-!
# The conditions of a filter

A filter gives one condition for each property that it names, in order (`forall₂_renderTests`), unless a property is to have
one of no values (`renderTests_ne_some`). A condition is on a column of the table: it names the literal of the value, or those
of the items where the value is like a list (`TestRendered`).
-/

namespace RelationMapper

variable {t : Table} {quote : String} {key value : Value} {tests : Keyed Value}

namespace Condition

/-- The table that a condition is on. -/
def table : Condition → String
  | .equals table _ _ | .among table _ _ => table

/-- The literals that a condition names. -/
def literals : Condition → List String
  | .equals _ _ literal => [literal]
  | .among _ _ literals => literals

end Condition

/-- A condition says what a filter says of a property. -/
inductive TestRendered (t : Table) (quote : String) (key value : Value) : Condition → Prop where
  | equals {name literal : String} {spec : TypeSpec} {type : ColumnType} : t.named key = .ok (name, spec) →
      spec.columnType? = some type → value.items? = none → checkedLiteral quote name type value = .ok literal →
      TestRendered t quote key value (.equals t.name name literal)
  | among {name : String} {literals : List String} {spec : TypeSpec} {type : ColumnType} {items : List Value} :
      t.named key = .ok (name, spec) → spec.columnType? = some type → value.items? = some items → items ≠ [] →
      items.mapM (checkedLiteral quote name type) = .ok literals →
      TestRendered t quote key value (.among t.name name literals)

/-- The condition for a property says what the filter says; there is none if the property is to have one of no values. -/
theorem testRendered_of_renderTest {condition : Option Condition} (h : t.renderTest quote key value = .ok condition) :
    match condition with
    | some condition => TestRendered t quote key value condition
    | none => value.items? = some [] := by
  obtain ⟨⟨name, spec⟩, hn, h⟩ := bind_eq_ok.mp h
  dsimp only at h
  cases hs : spec.columnType? with
  | none =>
    rw [hs] at h
    cases h
  | some type =>
    rw [hs] at h
    dsimp only at h
    cases hi : value.items? with
    | none =>
      rw [hi] at h
      obtain ⟨literal, hl, h⟩ := bind_eq_ok.mp h
      cases pure_eq_ok.mp h
      exact .equals hn hs hi hl
    | some items =>
      rw [hi] at h
      cases items with
      | nil =>
        cases pure_eq_ok.mp h
        rfl
      | cons item items =>
        obtain ⟨literals, hl, h⟩ := bind_eq_ok.mp h
        cases pure_eq_ok.mp h
        exact .among hn hs hi (List.cons_ne_nil _ _) hl

/-- There is no condition for a property exactly if it is to have one of no values. -/
theorem renderTest_eq_none {condition : Option Condition} (h : t.renderTest quote key value = .ok condition) :
    condition = none ↔ value.items? = some [] := by
  have hrendered := testRendered_of_renderTest h
  cases condition with
  | none => exact iff_of_true rfl hrendered
  | some condition =>
    refine iff_of_false nofun fun hi => ?_
    cases hrendered with
    | equals _ _ hn => cases hn.symm.trans hi
    | among _ _ hs hne => exact hne (Option.some.inj (hs.symm.trans hi))

/-- Tests give conditions exactly if the first gives one and the others give theirs. -/
theorem renderTests_cons {conditions : List Condition} {test : Value × Value} :
    t.renderTests quote (test :: tests) = .ok (some conditions) ↔ ∃ condition rest, conditions = condition :: rest ∧
      t.renderTest quote test.1 test.2 = .ok (some condition) ∧ t.renderTests quote tests = .ok (some rest) := by
  rw [Table.renderTests, bind_eq_ok]
  constructor
  · rintro ⟨condition, htest, h⟩
    cases condition with
    | none => cases pure_eq_ok.mp h
    | some condition =>
      obtain ⟨rest, hrest, h⟩ := bind_eq_ok.mp h
      obtain ⟨rest', rfl, rfl⟩ := Option.map_eq_some_iff.mp (pure_eq_ok.mp h)
      exact ⟨condition, rest', rfl, htest, hrest⟩
  · rintro ⟨condition, rest, rfl, htest, hrest⟩
    refine ⟨_, htest, ?_⟩
    dsimp only
    rw [hrest]
    rfl

/-- The conditions of a filter are those for its properties, in order. -/
theorem forall₂_renderTests {conditions : List Condition} (h : t.renderTests quote tests = .ok (some conditions)) :
    List.Forall₂ (fun test condition => TestRendered t quote test.1 test.2 condition) tests conditions := by
  induction tests generalizing conditions with
  | nil =>
    cases h
    exact .nil
  | cons test tests ih =>
    obtain ⟨condition, rest, rfl, htest, hrest⟩ := renderTests_cons.mp h
    exact .cons (testRendered_of_renderTest htest) (ih hrest)

/-- No conditions are given for a filter with a property that is to have one of no values. -/
theorem renderTests_ne_some {test : Value × Value} (hm : test ∈ tests) (hi : test.2.items? = some [])
    (conditions : List Condition) : t.renderTests quote tests ≠ .ok (some conditions) := by
  induction tests generalizing conditions with
  | nil => exact absurd hm List.not_mem_nil
  | cons first tests ih =>
    intro h
    obtain ⟨condition, rest, -, hfirst, hrest⟩ := renderTests_cons.mp h
    rcases List.mem_cons.mp hm with rfl | hm
    · cases (renderTest_eq_none hfirst).mpr hi
    · exact ih hm rest hrest

/-- A filter that is a map gives the conditions for what is in it. -/
theorem renderFilter_map (t : Table) (quote : String) (tests : Keyed Value) :
    t.renderFilter quote (.map tests) = t.renderTests quote tests := by cases tests <;> rfl

/-- A filter that is not nothing is a map. -/
theorem renderFilter_eq_ok {filter : Value} (htruthy : filter.isTruthy = true) {conditions : Option (List Condition)} :
    t.renderFilter quote filter = .ok conditions ↔
      ∃ tests, filter = .map tests ∧ tests ≠ [] ∧ t.renderTests quote tests = .ok conditions := by
  unfold Table.renderFilter
  cases filter with
  | map tests =>
    have hne : tests ≠ [] := by
      rintro rfl
      cases htruthy
    simp [htruthy, hne]
  | _ => simp [htruthy]

end RelationMapper
