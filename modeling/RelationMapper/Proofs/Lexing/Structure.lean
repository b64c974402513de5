import RelationMapper.Proofs.Filter
import RelationMapper.Proofs.Lexing.Placement
import RelationMapper.Statement

/-!
# The structure of statements

A statement in pieces: what its text consists of beside the literals of its values, and where these stand
(`Statement.written_pieces`, `Statement.values_pieces`). Two statements of one structure differ in their values only, and so do
their tokens (`exists_readsAs`).
-/

namespace RelationMapper

open Lexing

variable {d : Dialect} {s s' : Statement}

/-! ## Statements in parts -/

namespace Wording

variable {conditions : List String}

/-- Without conditions there is no clause that restricts a statement. -/
theorem restriction_nil : restriction [] = "" := rfl

/-- The end of a selection. -/
def ending : Option String → String
  | some s => if s.isEmpty then "" else "\n" ++ s
  | none => ""

/-- A selection is that of all rows, and behind it what restricts and ends it. -/
theorem select_eq (plan : JoinPlan) (end? : Option String) :
    select plan conditions end? = select plan [] none ++ (restriction conditions ++ ending end?) := by
  unfold select
  rw [restriction_nil, String.append_empty, String.append_empty, String.append_assoc]
  cases end? <;> rfl

theorem selectKeys_eq (table key : String) :
    selectKeys table key conditions = selectKeys table key [] ++ restriction conditions := by
  unfold selectKeys
  rw [restriction_nil, String.append_empty]

theorem selectMax_eq (table column : String) :
    selectMax table column conditions = selectMax table column [] ++ restriction conditions := by
  unfold selectMax
  rw [restriction_nil, String.append_empty]

theorem delete_eq (table : String) : delete table conditions = delete table [] ++ restriction conditions := by
  unfold delete
  rw [restriction_nil, String.append_empty]

/-- An insertion in parts, up to its columns and from there on. -/
theorem insert_eq (table : String) (columns literals : List String) :
    insert table columns literals = "INSERT INTO " ++ table ++ " (" ++ ", ".intercalate columns ++
      (") VALUES (" ++ (", ".intercalate literals ++ ")")) := by
  unfold insert
  rw [String.append_assoc, String.append_assoc]

/-- An update in parts, up to its assignments and from there on. -/
theorem update_eq (table : String) (assignments : List String) :
    update table assignments conditions =
      "UPDATE " ++ table ++ (" SET " ++ (", ".intercalate assignments ++ restriction conditions)) := by
  unfold update
  rw [String.append_assoc, String.append_assoc]

/-- A cascade on a server, with its condition at the end. -/
theorem cascade_mysql (child owner key condition : String) :
    cascade .mysql child owner key condition =
      "DELETE " ++ child ++ " FROM " ++ child ++ " INNER JOIN " ++ owner ++ " ON " ++ owner ++ "." ++ key ++ " = " ++
        child ++ "." ++ key ++ (" WHERE " ++ condition) := by
  unfold cascade
  exact String.append_assoc ..

/-- A cascade in a file, with its condition in the brackets at the end. -/
theorem cascade_sqlite (child owner key condition : String) :
    cascade .sqlite child owner key condition =
      "DELETE FROM " ++ child ++ " WHERE " ++ child ++ "." ++ key ++ " IN (SELECT " ++ owner ++ "." ++ key ++ " FROM " ++
        owner ++ (" WHERE " ++ (condition ++ ")")) := by
  unfold cascade
  dsimp only
  rw [String.append_assoc, String.append_assoc]

end Wording

/-- A condition in pieces. -/
def Condition.pieces : Condition → List Piece
  | .equals table column literal => fixed (table ++ "." ++ column) ++ (fixed " = " ++ valueOf literal)
  | .among table column literals =>
    fixed (table ++ "." ++ column) ++
      (fixed " IN (" ++ (separated ", " (literals.map valueOf) ++ fixed ")"))

/-- An assignment in pieces. -/
def Assignment.pieces (a : Assignment) : List Piece := fixed a.column ++ (fixed " = " ++ valueOf a.literal)

/-- Conditions that all have to hold, in pieces. -/
def conjunctionPieces (conditions : List Condition) : List Piece := separated " AND " (conditions.map (·.pieces))

/-- The clause that restricts a statement, in pieces. -/
def restrictionPieces (conditions : List Condition) : List Piece :=
  if conditions.isEmpty then [] else fixed "\nWHERE " ++ conjunctionPieces conditions

namespace Statement

/-- A statement in pieces. -/
def pieces : Statement → List Piece
  | .select plan conditions ending =>
    fixed (Wording.select plan [] none) ++ (restrictionPieces conditions ++ fixed (Wording.ending ending))
  | .selectKeys table key conditions => fixed (Wording.selectKeys table key []) ++ restrictionPieces conditions
  | .selectMax table column conditions => fixed (Wording.selectMax table column []) ++ restrictionPieces conditions
  | .insert table columns literals =>
    fixed ("INSERT INTO " ++ table ++ " (" ++ ", ".intercalate columns) ++
      (fixed ") VALUES (" ++ (separated ", " (literals.map valueOf) ++ fixed ")"))
  | .update table assignments conditions =>
    fixed ("UPDATE " ++ table) ++
      (fixed " SET " ++ (separated ", " (assignments.map (·.pieces)) ++ restrictionPieces conditions))
  | .delete table conditions => fixed (Wording.delete table []) ++ restrictionPieces conditions
  | .cascade .mysql child owner key conditions =>
    fixed ("DELETE " ++ child ++ " FROM " ++ child ++ " INNER JOIN " ++ owner ++ " ON " ++ owner ++ "." ++ key ++ " = " ++
      child ++ "." ++ key) ++ (fixed " WHERE " ++ conjunctionPieces conditions)
  | .cascade .sqlite child owner key conditions =>
    fixed ("DELETE FROM " ++ child ++ " WHERE " ++ child ++ "." ++ key ++ " IN (SELECT " ++ owner ++ "." ++ key ++
      " FROM " ++ owner) ++ (fixed " WHERE " ++ (conjunctionPieces conditions ++ fixed ")"))
  | .columnsOf dialect table => fixed (Wording.columnsOf dialect table)
  | .createTable table columns => fixed (Wording.createTable table columns)
  | .nextKey table key => fixed (Wording.nextKey table key)
  | .given text => fixed text

/-- The literals of a statement, in the order in which they stand in it. -/
def literals : Statement → List String
  | .select _ conditions _ | .selectKeys _ _ conditions | .selectMax _ _ conditions | .delete _ conditions
  | .cascade _ _ _ _ conditions => conditions.flatMap (·.literals)
  | .insert _ _ literals => literals
  | .update _ assignments conditions => assignments.map (·.literal) ++ conditions.flatMap (·.literals)
  | _ => []

end Statement

/-! ## Texts and literals -/

theorem written_literals (literals : List String) :
    written (separated ", " (literals.map valueOf)) = (", ".intercalate literals).toList := by
  rw [written_separated, String.toList_intercalate, List.map_map]
  exact congrArg _ (List.map_congr_left fun literal _ => written_valueOf literal)

theorem values_literals (literals : List String) :
    values (separated ", " (literals.map valueOf)) = literals.map String.toList := by
  rw [values_separated, List.flatMap_map]
  exact List.map_eq_flatMap.symm

namespace Condition

/-- A condition is written as its text. -/
theorem written_pieces (c : Condition) : written c.pieces = c.text.toList := by
  cases c with
  | equals table column literal => simp [pieces, text]
  | among table column literals => simp [pieces, text, written_literals]

/-- The values in a condition are its literals. -/
theorem values_pieces (c : Condition) : values c.pieces = c.literals.map String.toList := by
  cases c with
  | equals table column literal => simp [pieces, literals]
  | among table column literals => simp [pieces, Condition.literals, values_literals]

end Condition

theorem Assignment.written_pieces (a : Assignment) : written a.pieces = a.text.toList := by simp [pieces, text]

theorem Assignment.values_pieces (a : Assignment) : values a.pieces = [a.literal.toList] := by simp [pieces]

theorem written_conjunctionPieces (conditions : List Condition) :
    written (conjunctionPieces conditions) = (Wording.conjunction (conditions.map (·.text))).toList := by
  rw [conjunctionPieces, written_separated, Wording.conjunction, String.toList_intercalate, List.map_map, List.map_map]
  exact congrArg _ (List.map_congr_left fun c _ => c.written_pieces)

theorem values_conjunctionPieces (conditions : List Condition) :
    values (conjunctionPieces conditions) = (conditions.flatMap (·.literals)).map String.toList := by
  rw [conjunctionPieces, values_separated, List.flatMap_map, List.map_flatMap]
  exact congrArg (conditions.flatMap ·) (funext fun c => c.values_pieces)

theorem written_restrictionPieces (conditions : List Condition) :
    written (restrictionPieces conditions) = (Wording.restriction (conditions.map (·.text))).toList := by
  cases conditions with
  | nil => rfl
  | cons c conditions => simp [restrictionPieces, Wording.restriction, written_conjunctionPieces]

theorem values_restrictionPieces (conditions : List Condition) :
    values (restrictionPieces conditions) = (conditions.flatMap (·.literals)).map String.toList := by
  cases conditions with
  | nil => rfl
  | cons c conditions => simp [restrictionPieces, values_conjunctionPieces]

theorem written_assignments (assignments : List Assignment) :
    written (separated ", " (assignments.map (·.pieces))) = (", ".intercalate (assignments.map (·.text))).toList := by
  rw [written_separated, String.toList_intercalate, List.map_map, List.map_map]
  exact congrArg _ (List.map_congr_left fun a _ => a.written_pieces)

theorem values_assignments (assignments : List Assignment) :
    values (separated ", " (assignments.map (·.pieces))) = (assignments.map (·.literal)).map String.toList := by
  rw [values_separated, List.flatMap_map, List.map_map, List.map_eq_flatMap]
  exact congrArg (assignments.flatMap ·) (funext fun a => a.values_pieces)

namespace Statement

/-- The pieces of a statement make up its text. -/
theorem written_pieces (s : Statement) : written s.pieces = s.text.toList := by
  cases s with
  | select plan conditions ending =>
    rw [text, Wording.select_eq]
    simp only [pieces, written_append, written_fixed, written_restrictionPieces, String.toList_append]
  | selectKeys table key conditions =>
    rw [text, Wording.selectKeys_eq]
    simp only [pieces, written_append, written_fixed, written_restrictionPieces, String.toList_append]
  | selectMax table column conditions =>
    rw [text, Wording.selectMax_eq]
    simp only [pieces, written_append, written_fixed, written_restrictionPieces, String.toList_append]
  | delete table conditions =>
    rw [text, Wording.delete_eq]
    simp only [pieces, written_append, written_fixed, written_restrictionPieces, String.toList_append]
  | insert table columns literals =>
    rw [text, Wording.insert_eq]
    simp only [pieces, written_append, written_fixed, written_literals, String.toList_append]
  | update table assignments conditions =>
    rw [text, Wording.update_eq]
    simp only [pieces, written_append, written_fixed, written_assignments, written_restrictionPieces, String.toList_append]
  | cascade dialect child owner key conditions =>
    cases dialect with
    | mysql =>
      rw [text, Wording.cascade_mysql]
      simp only [pieces, written_append, written_fixed, written_conjunctionPieces, String.toList_append]
    | sqlite =>
      rw [text, Wording.cascade_sqlite]
      simp only [pieces, written_append, written_fixed, written_conjunctionPieces, String.toList_append]
  | columnsOf | createTable | nextKey | given => exact written_fixed _

/-- The values among the pieces of a statement are its literals. -/
theorem values_pieces (s : Statement) : values s.pieces = s.literals.map String.toList := by
  cases s with
  | select | selectKeys | selectMax | delete => simp [pieces, literals, values_restrictionPieces]
  | insert table columns literals => simp [pieces, Statement.literals, values_literals]
  | update table assignments conditions =>
    simp [pieces, literals, values_assignments, values_restrictionPieces]
  | cascade dialect child owner key conditions =>
    cases dialect <;> simp [pieces, literals, values_conjunctionPieces]
  | columnsOf | createTable | nextKey | given => exact values_fixed _

/-! ## Statements of one structure -/

/-- The tokens of a statement are those of a pattern, with a literal token for each of its literals in the places. -/
def ReadsAs (d : Dialect) (s : Statement) (pattern : List (Option Token)) : Prop :=
  ∃ filling, Fills pattern filling (tokens d s.text) ∧
    List.Forall₂ (fun token literal => token.IsLiteral ∧ token.text = literal.toList) filling s.literals

/-- The tokens of two statements are those of one pattern: they differ in the literals only. -/
def Alike (d : Dialect) (s s' : Statement) : Prop := ∃ pattern, s.ReadsAs d pattern ∧ s'.ReadsAs d pattern

/-- A statement whose values are placed is read as its places tell. -/
theorem readsAs_of_placed (h : Placed d false s.pieces) : s.ReadsAs d (pattern d .between (places s.pieces)) := by
  obtain ⟨filling, hfills, hvalues⟩ := reads_placed h .between trivial nofun
  rw [written_pieces] at hfills
  rw [values_pieces, List.forall₂_map_right_iff] at hvalues
  exact ⟨filling, hfills, hvalues⟩

/-- Two statements are alike if their values are placed, and in the same places. -/
theorem alike_of_placed (h : Placed d false s.pieces) (h' : Placed d false s'.pieces)
    (hplaces : places s.pieces = places s'.pieces) : s.Alike d s' :=
  ⟨_, readsAs_of_placed h, hplaces ▸ readsAs_of_placed h'⟩

/-- Where the tokens of two such statements differ, both are literals. -/
theorem Alike.forall₂_tokens (h : s.Alike d s') :
    List.Forall₂ (fun token token' => token = token' ∨ (token.IsLiteral ∧ token'.IsLiteral)) (tokens d s.text)
      (tokens d s'.text) := by
  obtain ⟨pattern, ⟨filling, hfills, hliterals⟩, filling', hfills', hliterals'⟩ := h
  have literal {filling : List Token} {literals : List String}
      (h : List.Forall₂ (fun token literal => token.IsLiteral ∧ token.text = literal.toList) filling literals) :
      ∀ token ∈ filling, token.IsLiteral := by
    induction h with
    | nil => exact List.forall_mem_nil _
    | cons h _ ih => exact List.forall_mem_cons.mpr ⟨h.1, ih⟩
  refine (hfills.differ_in_places hfills').imp fun token token' hor => ?_
  exact hor.imp_right fun ⟨hm, hm'⟩ => ⟨literal hliterals token hm, literal hliterals' token' hm'⟩

/-- So a token that is no literal is one of both. -/
theorem Alike.mem_of_mem (h : s.Alike d s') {token : Token} (hmem : token ∈ tokens d s.text) (hl : ¬token.IsLiteral) :
    token ∈ tokens d s'.text := by
  have htokens := h.forall₂_tokens
  generalize tokens d s.text = read, tokens d s'.text = read' at htokens hmem ⊢
  induction htokens with
  | nil => exact absurd hmem List.not_mem_nil
  | cons hor _ ih =>
    rcases List.mem_cons.mp hmem with rfl | hmem
    · rcases hor with rfl | ⟨hliteral, -⟩
      · exact List.mem_cons_self
      · exact absurd hliteral hl
    · exact List.mem_cons_of_mem _ (ih hmem)

end Statement

end RelationMapper
