import RelationMapper.Proofs.Client.Row
import RelationMapper.Proofs.Lexing.Structure
import RelationMapper.Proofs.Naming

/-!
# Statements for tables with plain names

Plain names leave the values of a statement in their places. Whatever a statement says beside its values is fixed text
(`isFixedText_select`), a condition or an assignment is a block (`isBlock_condition`, `isBlock_assignments`), and so every value
of a statement stands where a literal may stand (`ByConditions.placed`, `placed_update`, `placed_insert`).
-/

namespace RelationMapper

open Lexing

variable {d : Dialect} {tables : List Table} {t : Table} {conditions : List Condition}

/-! ## Fixed texts -/

/-- A plain name is a fixed text. -/
theorem isFixedText_of_isPlain {name : String} (h : IsPlain name) : IsFixedText name := fun c hc => by
  rw [isFixed, (isAlphanum_iff c).mpr (h.2 c hc), Bool.true_or]

/-- A property that can be named is plainly named. -/
theorem Table.PlainlyNamed.named (h : t.PlainlyNamed) {name : String} {spec : TypeSpec} (hs : t.spec name = .ok spec) :
    IsPlain name := by
  rcases Table.spec_eq_ok.mp hs with ⟨p, hp, -⟩ | ⟨-, rfl, -⟩
  · unfold Table.property? at hp
    have hname : (p.name == name) = true := List.find?_some (p := fun q : Property => q.name == name) hp
    exact beq_iff_eq.mp hname ▸ h.properties p (List.mem_of_find?_eq_some hp)
  · exact h.key

/-- The columns of a table that are selected, in writing. -/
theorem isFixedText_columns (h : t.PlainlyNamed) {source start : String} (hsource : IsFixedText source)
    (hstart : IsFixedText start) {others : List ColumnPlan} (ho : t.planColumns source start = .ok others) :
    ∀ c ∈ t.planKey source start :: others, IsFixedText c.text := by
  intro c hc
  obtain ⟨hlabel, hplain⟩ := Table.mem_columns ho h hc
  have hname := isFixedText_of_isPlain hplain
  have hc : c.source = source := by
    rcases List.mem_cons.mp hc with rfl | hc
    · rfl
    · exact Table.source_planColumns ho hc
  simp only [ColumnPlan.text, hc, hlabel, isFixedText_append, hsource, hstart, hname, true_and, and_true]
  decide

/-- A selection without conditions is fixed. -/
theorem isFixedText_select (hn : ∀ u ∈ tables, u.PlainlyNamed) (ht : t ∈ tables) {plan : JoinPlan}
    (h : t.plan tables = .ok plan) : IsFixedText (Wording.select plan [] none) := by
  have hname := isFixedText_of_isPlain (hn t ht).name
  have hkey := isFixedText_of_isPlain (hn t ht).key
  obtain ⟨hothers, hown, -, -⟩ := plan_eq_ok h
  have relation : ∀ r ∈ plan.relations, ∃ q ∈ t.properties, ∃ related ∈ tables, ∃ others,
      related.planColumns q.name (q.name ++ "_") = .ok others ∧
      r = ⟨q.name, related.name, related.key, t.key, related.planKey q.name (q.name ++ "_"), others⟩ := by
    intro r hr
    obtain ⟨q, hq, hqr⟩ := planRelation_of_mem h hr
    obtain ⟨type, related, others, -, -, hf, ho, hr⟩ := Table.planRelation_inv hqr
    exact ⟨q, hq, related, List.mem_of_find?_eq_some hf, others, ho, hr⟩
  have hselected : ∀ s ∈ plan.selected, IsFixedText s := by
    intro s hs
    obtain ⟨c, hc, rfl⟩ := List.mem_map.mp hs
    rcases List.mem_append.mp hc with hc | hc
    · rw [JoinPlan.columns, hown] at hc
      exact isFixedText_columns (hn t ht) hname (by decide) hothers c hc
    · obtain ⟨r, hr, hc⟩ := List.mem_flatMap.mp hc
      obtain ⟨q, hq, related, hrel, others, ho, rfl⟩ := relation r hr
      have hproperty := isFixedText_of_isPlain ((hn t ht).properties q hq)
      exact isFixedText_columns (hn related hrel) hproperty (isFixedText_append.mpr ⟨hproperty, by decide⟩) ho c hc
  have hjoins : ∀ s ∈ plan.joins.map ("\n" ++ ·), IsFixedText s := by
    intro s hs
    obtain ⟨_, hjoin, rfl⟩ := List.mem_map.mp hs
    obtain ⟨r, hr, rfl⟩ := List.mem_map.mp hjoin
    obtain ⟨q, hq, related, hrel, others, ho, rfl⟩ := relation r hr
    have hproperty := isFixedText_of_isPlain ((hn t ht).properties q hq)
    have hrelated := isFixedText_of_isPlain (hn related hrel).name
    rw [plan_table h, plan_key h]
    simp only [RelationPlan.label, isFixedText_append, hname, hkey, hproperty, hrelated, and_true]
    decide
  unfold Wording.select
  rw [plan_table h]
  have hcolumns : IsFixedText (", \n    ".intercalate plan.selected) := isFixedText_intercalate (by decide) hselected
  simp only [isFixedText_append, hcolumns, hname, isFixedText_join hjoins, and_true]
  decide

/-! ## Conditions and assignments -/

/-- A value that was checked is written as one literal. -/
theorem literal_of_checkedLiteral {name literal : String} {type : ColumnType} {v : Value}
    (h : checkedLiteral d.quote name type v = .ok literal) : IsLiteralText d literal.toList := by
  obtain ⟨_, -, h⟩ := bind_eq_ok.mp h
  exact isLiteralText_of_literal h

/-- Literals in brackets. -/
theorem isBlock_literals {literals : List String} (h : ∀ literal ∈ literals, IsLiteralText d literal.toList) :
    IsBlock d (separated ", " (literals.map valueOf)) := by
  refine .separated (by decide) ⟨' ', rfl, rfl⟩ ⟨',', rfl, by decide⟩ fun block hb => ?_
  obtain ⟨literal, hl, rfl⟩ := List.mem_map.mp hb
  exact .value (h literal hl)

/-- The values of a condition are placed. -/
theorem isBlock_condition (hn : t.PlainlyNamed) {key v : Value} {condition : Condition}
    (h : TestRendered t d.quote key v condition) : IsBlock d condition.pieces := by
  have column {name : String} {spec : TypeSpec} (hnamed : t.named key = .ok (name, spec)) :
      IsFixedText (t.name ++ "." ++ name) := by
    have hname := isFixedText_of_isPlain (hn.named (Table.named_eq_ok.mp hnamed).2)
    exact isFixedText_append.mpr ⟨isFixedText_append.mpr ⟨isFixedText_of_isPlain hn.name, by decide⟩, hname⟩
  cases h with
  | equals hnamed _ _ hl =>
    exact (IsBlock.value (literal_of_checkedLiteral hl)).after (column hnamed) (by decide) ⟨' ', rfl, rfl⟩
  | among hnamed _ _ _ hl =>
    have hliterals : IsBlock d _ := isBlock_literals fun literal hm => by
      obtain ⟨item, -, hitem⟩ := exists_of_mem_mapM hl hm
      exact literal_of_checkedLiteral hitem
    exact (hliterals.before (by decide) ⟨')', rfl, by decide⟩).after (column hnamed) (by decide) ⟨'(', rfl, rfl⟩

/-- The values of all conditions for a filter are placed. -/
theorem isBlock_conditions (hn : t.PlainlyNamed) {tests : Keyed Value}
    (h : List.Forall₂ (fun test condition => TestRendered t d.quote test.1 test.2 condition) tests conditions) :
    ∀ condition ∈ conditions, IsBlock d condition.pieces := by
  induction h with
  | nil => exact List.forall_mem_nil _
  | cons h _ ih => exact List.forall_mem_cons.mpr ⟨isBlock_condition hn h, ih⟩

/-- The values of assignments are placed. -/
theorem isBlock_assignments (hn : t.PlainlyNamed) {entry : Keyed Value} {assignments : List Assignment}
    (h : t.renderAssignments d.quote entry = .ok assignments) :
    IsBlock d (separated ", " (assignments.map (·.pieces))) := by
  refine .separated (by decide) ⟨' ', rfl, rfl⟩ ⟨',', rfl, by decide⟩ fun block hb => ?_
  obtain ⟨a, ha, rfl⟩ := List.mem_map.mp hb
  obtain ⟨⟨key, v⟩, -, hstep⟩ := exists_of_mem_filterMapM h ha
  obtain ⟨⟨name, spec⟩, hnamed, hstep⟩ := bind_eq_ok.mp hstep
  dsimp only at hstep
  cases hcol : spec.columnType? with
  | none =>
    rw [hcol] at hstep
    cases pure_eq_ok.mp hstep
  | some type =>
    rw [hcol] at hstep
    obtain ⟨literal, hl, hstep⟩ := bind_eq_ok.mp (refuse_eq_ok.mp hstep).2
    cases pure_eq_ok.mp hstep
    have hname := isFixedText_of_isPlain (hn.named (Table.named_eq_ok.mp hnamed).2)
    exact (IsBlock.value (literal_of_checkedLiteral hl)).after hname (by decide) ⟨' ', rfl, rfl⟩

section

variable (h : ∀ condition ∈ conditions, IsBlock d condition.pieces)

include h

/-- Conditions joined with one another are a block. -/
theorem isBlock_conjunction : IsBlock d (conjunctionPieces conditions) := by
  refine .separated (by decide) ⟨' ', rfl, rfl⟩ ⟨' ', rfl, by decide⟩ fun block hb => ?_
  obtain ⟨condition, hc, rfl⟩ := List.mem_map.mp hb
  exact h condition hc

/-- What restricts a statement may stand right after a value, and its values are placed. -/
theorem placed_restriction : Closes (restrictionPieces conditions) ∧ Placed d false (restrictionPieces conditions) := by
  cases conditions with
  | nil => exact ⟨nofun, .nil⟩
  | cons condition conditions =>
    have hblock := isBlock_conjunction h
    exact ⟨closes_fixed ⟨'\n', rfl, by decide⟩, .afterOpening (by decide) ⟨' ', rfl, rfl⟩ hblock.placed⟩

/-- The values of a statement that ends with a restriction are placed. -/
theorem placed_restricted {s : String} (hs : IsFixedText s) : Placed d false (fixed s ++ restrictionPieces conditions) :=
  .after hs (placed_restriction h).2

end

/-! ## Statements -/

/-- The statements about a table whose only values are in their conditions, and which no text of a caller ends: what is
selected, updated or deleted is selected by them, and a deletion goes on to a related table. -/
inductive ByConditions (d : Dialect) (tables : List Table) (t : Table) : (List Condition → Statement) → Prop where
  | select {plan : JoinPlan} : t.plan tables = .ok plan → ByConditions d tables t (.select plan · none)
  | selectKeys : ByConditions d tables t (.selectKeys t.name t.key)
  | selectMax {column : String} {spec : TypeSpec} : t.spec column = .ok spec →
      ByConditions d tables t (.selectMax t.name column)
  | delete : ByConditions d tables t (.delete t.name)
  | cascade {related : Table} : related ∈ tables → ByConditions d tables t (.cascade d related.name t.name t.key)

/-- The values of such a statement are placed. -/
theorem ByConditions.placed (hn : ∀ u ∈ tables, u.PlainlyNamed) (ht : t ∈ tables) {statement : List Condition → Statement}
    (h : ByConditions d tables t statement) (hc : ∀ condition ∈ conditions, IsBlock d condition.pieces) :
    Placed d false (statement conditions).pieces := by
  have hname := isFixedText_of_isPlain (hn t ht).name
  have hkey := isFixedText_of_isPlain (hn t ht).key
  cases h with
  | select hp =>
    change Placed d false (fixed _ ++ (restrictionPieces conditions ++ []))
    rw [List.append_nil]
    exact placed_restricted hc (isFixedText_select hn ht hp)
  | selectKeys =>
    refine placed_restricted hc ?_
    unfold Wording.selectKeys
    simp only [isFixedText_append, hname, hkey, and_true]
    decide
  | selectMax hs =>
    have hcolumn := isFixedText_of_isPlain ((hn t ht).named hs)
    refine placed_restricted hc ?_
    unfold Wording.selectMax
    simp only [isFixedText_append, hname, hcolumn, and_true]
    decide
  | delete =>
    refine placed_restricted hc ?_
    unfold Wording.delete
    simp only [isFixedText_append, hname, and_true]
    decide
  | @cascade related hr =>
    have hrelated := isFixedText_of_isPlain (hn related hr).name
    have hblock := isBlock_conjunction hc
    cases d with
    | mysql =>
      refine .after ?_ (.afterOpening (by decide) ⟨' ', rfl, rfl⟩ hblock.placed)
      simp only [isFixedText_append, hname, hkey, hrelated, and_true]
      decide
    | sqlite =>
      have hclosed := hblock.before (s := ")") (by decide) ⟨')', rfl, by decide⟩
      refine .after ?_ (.afterOpening (by decide) ⟨' ', rfl, rfl⟩ hclosed.placed)
      simp only [isFixedText_append, hname, hkey, hrelated, and_true]
      decide

/-- The values of a statement that updates rows are placed. -/
theorem placed_update (hn : t.PlainlyNamed) {entry : Keyed Value} {assignments : List Assignment}
    (ha : t.renderAssignments d.quote entry = .ok assignments) (hc : ∀ condition ∈ conditions, IsBlock d condition.pieces) :
    Placed d false (Statement.update t.name assignments conditions).pieces := by
  have hname := isFixedText_of_isPlain hn.name
  obtain ⟨hcloses, hrest⟩ := placed_restriction hc
  exact .after (isFixedText_append.mpr ⟨by decide, hname⟩)
    (.afterOpening (by decide) ⟨' ', rfl, rfl⟩ (isBlock_assignments hn ha _ hcloses hrest))

namespace Client

/-- A key that is a number, and neither infinite nor undefined. -/
def IsFiniteNumber : Value → Prop
  | .int _ => True
  | .real x => x.isFinite = true
  | _ => False

/-- Such a key in writing is a literal. -/
theorem isLiteralText_keyText {key : Value} (hk : IsFiniteNumber key) {text : String} (h : key.keyText = .ok text) :
    IsLiteralText d text.toList := by
  cases key with
  | int n => exact isLiteralText_of_literal (show (Value.int n).literal d.quote none = .ok text from h)
  | real x =>
    cases h
    exact isLiteralText_real hk
  | _ => exact hk.elim

/-- The values of a statement that inserts a row are placed. -/
theorem placed_insert (hn : t.PlainlyNamed) {key : Value} (hk : IsFiniteNumber key) {keyText : String}
    (hkey : key.keyText = .ok keyText) {entry : Keyed Value} {row : List (String × String)}
    (hrow : renderRow d.quote tables t entry = .ok row) :
    Placed d false (Statement.insert t.name (t.key :: row.map (·.1)) (keyText :: row.map (·.2))).pieces := by
  have hname := isFixedText_of_isPlain hn.name
  have hcolumns : IsFixedText (", ".intercalate (t.key :: row.map (·.1))) := by
    refine isFixedText_intercalate (by decide) (List.forall_mem_cons.mpr ⟨isFixedText_of_isPlain hn.key, ?_⟩)
    intro column hc
    obtain ⟨v, type, -, spec, hs, -⟩ := (mem_names_renderRow hrow).mp hc
    exact isFixedText_of_isPlain (hn.named hs)
  have hliterals : ∀ literal ∈ keyText :: row.map (·.2), IsLiteralText d literal.toList := by
    refine List.forall_mem_cons.mpr ⟨isLiteralText_keyText hk hkey, fun literal hl => ?_⟩
    obtain ⟨⟨column, _⟩, hcell, rfl⟩ := List.mem_map.mp hl
    obtain ⟨v, type, -, -, hl⟩ := (mem_renderRow hrow).mp hcell
    exact isLiteralText_of_literal hl
  have hclosed := (isBlock_literals hliterals).before (s := ")") (by decide) ⟨')', rfl, by decide⟩
  refine .after ?_ (.afterOpening (by decide) ⟨'(', rfl, rfl⟩ hclosed.placed)
  simp only [isFixedText_append, hname, hcolumns, and_true]
  decide

end Client

end RelationMapper
