import RelationMapper.Proofs.Client.RowWork
import RelationMapper.Proofs.Client.SentOnly
import RelationMapper.Proofs.Client.StoredPlans
import RelationMapper.Proofs.Filter

/-!
# No write without a restriction

A statement that is written without conditions has no clause that restricts it, and would change all rows of a table. No work on
rows ever sends one (`writes_restricted`): wherever a deletion or an update comes from, its conditions were made from a filter
that is not nothing, and such a filter leaves a condition at least, on the table that it is about, with a value at least
(`restrictedTo_of_filtered`). Where there is no filter, or one that no row can pass, nothing is written at all.

Nothing is assumed of the client here: the registry may be valid or not, and the database may answer whatever it likes.
-/

namespace RelationMapper

open Client Act

/-! ## Restricted statements -/

/-- The rows that a statement changes are restricted by conditions on a table: there is one at least, each is on the table and
names a literal at least, and they are what the statement says in writing after the word `WHERE`. -/
structure RestrictedTo (table : String) (conditions : List Condition) (text : String) : Prop where
  some : conditions ≠ []
  onTable : ∀ condition ∈ conditions, condition.table = table
  literals : ∀ condition ∈ conditions, condition.literals ≠ []
  clause : ∃ before after, text = before ++ "WHERE " ++ Wording.conjunction (conditions.map (·.text)) ++ after

namespace Statement

/-- A statement that restricts what it changes, if it changes or deletes rows. An update assigns something. -/
def Restricted (s : Statement) : Prop :=
  match s with
  | .update table assignments conditions => assignments ≠ [] ∧ RestrictedTo table conditions s.text
  | .delete table conditions => RestrictedTo table conditions s.text
  | .cascade _ _ owner _ conditions => RestrictedTo owner conditions s.text
  | _ => True

/-- A statement that changes the database. What a caller says may do so. -/
def Writes : Statement → Prop
  | .createTable _ _ | .insert _ _ _ | .update _ _ _ | .delete _ _ | .cascade _ _ _ _ _ | .given _ => True
  | .columnsOf _ _ | .select _ _ _ | .selectKeys _ _ _ | .selectMax _ _ _ | .nextKey _ _ => False

end Statement

namespace Wording

/-- With conditions there is a clause. -/
theorem restriction_of_ne_nil {conditions : List String} (h : conditions ≠ []) :
    restriction conditions = "\n" ++ ("WHERE " ++ conjunction conditions) := by
  rw [restriction, if_neg (by simpa using h), ← String.append_assoc]
  rfl

/-- A deletion of related rows says its conditions in either dialect. -/
theorem exists_clause_cascade (dialect : Dialect) (child owner key condition : String) :
    ∃ before after, cascade dialect child owner key condition = before ++ "WHERE " ++ condition ++ after := by
  have clause (head after : String) :
      ∃ before after', head ++ " WHERE " ++ condition ++ after = before ++ "WHERE " ++ condition ++ after' := by
    refine ⟨head ++ " ", after, ?_⟩
    rw [show head ++ " " ++ "WHERE " = head ++ " WHERE " from String.append_assoc]
  cases dialect with
  | mysql =>
    obtain ⟨before, after, h⟩ := clause _ ""
    exact ⟨before, after, String.append_empty.symm.trans h⟩
  | sqlite => exact clause _ ")"

end Wording

variable {t : Table} {quote : String} {conditions : List Condition}

/-- A condition for a property is on the table, and names a literal. -/
theorem TestRendered.restricts {key value : Value} {condition : Condition} (h : TestRendered t quote key value condition) :
    condition.table = t.name ∧ condition.literals ≠ [] := by
  cases h with
  | equals => exact ⟨rfl, List.cons_ne_nil _ _⟩
  | among _ _ _ hne hl =>
    refine ⟨rfl, fun hnil => hne ?_⟩
    cases hnil
    exact List.forall₂_nil_right_iff.mp (forall₂_mapM hl)

/-- A statement is restricted by conditions that come from a filter, if it says them. -/
theorem restrictedTo_of_filtered (h : Filtered quote t conditions) {text : String}
    (hclause : conditions ≠ [] →
      ∃ before after, text = before ++ "WHERE " ++ Wording.conjunction (conditions.map (·.text)) ++ after) :
    RestrictedTo t.name conditions text := by
  obtain ⟨filter, htruthy, hfilter⟩ := h
  obtain ⟨tests, -, hne, htests⟩ := (renderFilter_eq_ok htruthy).mp hfilter
  have hall := forall₂_renderTests htests
  have restricts : ∀ condition ∈ conditions, condition.table = t.name ∧ condition.literals ≠ [] := by
    clear hfilter htests hclause htruthy hne
    induction hall with
    | nil => exact List.forall_mem_nil _
    | cons h _ ih => exact List.forall_mem_cons.mpr ⟨h.restricts, ih⟩
  have hsome : conditions ≠ [] := by
    rintro rfl
    exact hne (List.forall₂_nil_right_iff.mp hall)
  exact ⟨hsome, fun c hc => (restricts c hc).1, fun c hc => (restricts c hc).2, hclause hsome⟩

/-- A statement that ends in its restriction says its conditions. -/
theorem exists_clause_restriction (head : String) (h : conditions ≠ []) :
    ∃ before after, head ++ Wording.restriction (conditions.map (·.text)) =
      before ++ "WHERE " ++ Wording.conjunction (conditions.map (·.text)) ++ after := by
  refine ⟨head ++ "\n", "", ?_⟩
  rw [Wording.restriction_of_ne_nil (by simpa using h), String.append_empty, ← String.append_assoc, ← String.append_assoc]

/-- A deletion by conditions from a filter is restricted. -/
theorem restricted_delete (h : Filtered quote t conditions) : (Statement.delete t.name conditions).Restricted :=
  restrictedTo_of_filtered h fun hne => exists_clause_restriction _ hne

theorem restricted_update (h : Filtered quote t conditions) {assignments : List Assignment} (ha : assignments ≠ []) :
    (Statement.update t.name assignments conditions).Restricted :=
  ⟨ha, restrictedTo_of_filtered h fun hne => exists_clause_restriction _ hne⟩

theorem restricted_cascade (h : Filtered quote t conditions) (dialect : Dialect) (child key : String) :
    (Statement.cascade dialect child t.name key conditions).Restricted :=
  restrictedTo_of_filtered h fun _ => Wording.exists_clause_cascade dialect child t.name key _

namespace Client

variable {o : Options} {s₀ : Session} {I : Session → Prop}

/-- Work on rows sends restricted statements only. -/
theorem keptByRowWork_restricted (o : Options) (s₀ : Session) :
    KeptByRowWork o (fun _ _ _ => True) (SentOnly Statement.Restricted s₀) where
  gate := keeps_sentOnly_ensureValid fun _ => trivial
  nextKey _ := keeps_sentOnly trivial
  insert _ _ _ _ _ _ _ _ := keeps_sentOnly trivial
  below _ _ _ _ _ _ _ _ _ _ _ := trivial
  keys _ _ _ := keeps_sentOnly trivial
  delete _ _ h := keeps_sentOnly (restricted_delete h)
  cascade _ _ h _ := keeps_sentOnly (restricted_cascade h _ _ _)
  update _ _ h _ ha := keeps_sentOnly (restricted_update h ha)
  select _ _ _ := keeps_sentOnly trivial
  selectMax _ _ _ := keeps_sentOnly trivial

/-! ## Calls that write nothing -/

/-- There is no filter, or no row can pass it: it is nothing, or has a property that is to have one of no values. -/
def LeavesAll (filter : Value) : Prop :=
  filter.isTruthy = false ∨ ∃ tests test, filter = .map tests ∧ test ∈ tests ∧ test.2.items? = some []

/-- No conditions come of such a filter, unless it is nothing. -/
theorem LeavesAll.not_filtered {filter : Value} (h : LeavesAll filter) (htruthy : filter.isTruthy = true)
    (conditions : List Condition) : t.renderFilter quote filter ≠ .ok (some conditions) := by
  intro hfilter
  obtain ⟨tests, rfl, -, htests⟩ := (renderFilter_eq_ok htruthy).mp hfilter
  rcases h with h | ⟨tests', test, heq, hm, hi⟩
  · exact Bool.false_ne_true (h.symm.trans htruthy)
  · cases heq
    exact renderTests_ne_some hm hi _ htests

/-- The filter of a call. -/
def RowCall.filter? : RowCall → Option Value
  | .select filter _ | .selectMax _ filter | .update filter _ | .delete filter => some filter
  | .insert _ => none

/-- An update by a filter that leaves all rows keeps whatever is kept at the gate. -/
theorem keeps_updateRows_unwritten (gate : Keeps I (ensureValid o)) {filter : Value} (h : LeavesAll filter) (entry : Value) :
    Keeps I (updateRows o t filter entry) := by
  unfold updateRows
  split
  · exact Keeps.throw _
  · exact Keeps.throw _
  · dsimp only
    split
    · exact Keeps.throw _
    · case isFalse htruthy =>
      refine Keeps.ite (Keeps.pure _) (gate.bind fun _ => Keeps.lift_bind fun conditions hc => ?_)
      refine keeps_tables_bind fun _ _ => (Keeps.lift _).bind fun _ => ?_
      cases conditions with
      | none => exact Keeps.pure _
      | some conditions => exact absurd hc (h.not_filtered (by simpa using htruthy) conditions)

theorem keeps_deleteRows_unwritten (gate : Keeps I (ensureValid o)) {filter : Value} (h : LeavesAll filter) :
    Keeps I (deleteRows o t filter) := by
  unfold deleteRows
  split
  · exact Keeps.throw _
  · dsimp only
    split
    · exact Keeps.throw _
    · case isFalse htruthy =>
      refine gate.bind fun _ => Keeps.lift_bind fun conditions hc => ?_
      cases conditions with
      | none => exact Keeps.pure _
      | some conditions => exact absurd hc (h.not_filtered (by simpa using htruthy) conditions)

/-- A call whose filter lets no row pass writes nothing: if it writes at all, it ends at the gate. -/
theorem keeps_unwritten [MomentReader] (t : Table) {call : RowCall} {filter : Value} (hf : call.filter? = some filter)
    (h : LeavesAll filter) : Keeps (SentOnly (¬Statement.Writes ·) s₀) (call.run o t) := by
  have gate : Keeps (SentOnly (¬Statement.Writes ·) s₀) (ensureValid o) := keeps_sentOnly_ensureValid fun _ => not_false
  have reads : KeptBySelection o (SentOnly (¬Statement.Writes ·) s₀) :=
    ⟨gate, fun _ _ _ => keeps_sentOnly not_false, fun _ _ _ => keeps_sentOnly not_false⟩
  cases call with
  | select => exact (keeps_selectRows reads t _ _).discard
  | selectMax => exact (keeps_selectMax reads t _ _).discard
  | insert => cases hf
  | update =>
    cases hf
    exact keeps_updateRows_unwritten gate h _
  | delete =>
    cases hf
    exact (keeps_deleteRows_unwritten gate h).discard

end Client

/-! ## Sessions -/

/-- A turn whose call is on the rows of a table. -/
structure RowTurn where
  script : Script
  table : Table
  call : RowCall

namespace RowTurn

/-- A client when a turn begins: a new script begins, and what was sent before is forgotten. -/
def begin (turn : RowTurn) (s : Session) : Session :=
  { s with rest := { s.rest with connection := s.rest.connection.withScript turn.script } }

/-- A client after a turn. -/
def after [MomentReader] (o : Options) (turn : RowTurn) (s : Session) : Session :=
  (s.take o ⟨turn.script, .rows turn.table turn.call⟩).2

end RowTurn

namespace Session

/-- The statements that are sent in each of some turns. -/
def sentIn (o : Options) (s : Session) : List RowTurn → List (List Statement)
  | [] => []
  | turn :: turns => sentSince (turn.begin s) (turn.after o s) :: sentIn o (turn.after o s) turns

/-- No write is sent without a restriction: in whatever turns, on whatever client, and whatever the database answers, every
statement that changes or deletes rows says at least one condition on the table that it filters, no condition asks for one of no
values, and every update assigns something. Without a filter, or with one that no row can pass, a call writes nothing. -/
theorem writes_restricted (o : Options) (s : Session) (turns : List RowTurn) :
    List.Forall₂ (fun turn sent =>
      (∀ statement ∈ sent, statement.Restricted) ∧
      ((∃ filter, turn.call.filter? = some filter ∧ LeavesAll filter) → ∀ statement ∈ sent, ¬statement.Writes))
      turns (s.sentIn o turns) := by
  induction turns generalizing s with
  | nil => exact .nil
  | cons turn turns ih =>
    refine .cons ⟨?_, ?_⟩ (ih _)
    · exact SentOnly.sentSince (keeps_rowCall (keptByRowWork_restricted o (turn.begin s)) turn.table
        (fun _ _ _ _ _ => trivial) _ SentOnly.refl)
    · rintro ⟨filter, hf, h⟩
      exact SentOnly.sentSince (keeps_unwritten turn.table hf h _ SentOnly.refl)

/-- Two posts get another title; those of nobody are not touched. -/
example :
    let posts : Table := ⟨"Post", "postId", [⟨"title", "varchar(256)"⟩, ⟨"userId", "int"⟩], 1⟩
    let titled (ids : List Value) : RowTurn :=
      ⟨silence, posts, .update (.map [(.text "userId", .list ids)]) (.map [(.text "title", .text "Draft")])⟩
    blogReady.sentIn blogOptions [titled [.int 1, .int 2], titled []] =
      [[.update "Post" [⟨"title", "'Draft'"⟩] [.among "Post" "userId" ["1", "2"]]], []] := by
  decide +kernel

end Session

end RelationMapper
