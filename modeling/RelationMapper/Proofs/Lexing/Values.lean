import RelationMapper.Proofs.Client.Insert
import RelationMapper.Proofs.Lexing.PlainNames
import RelationMapper.Proofs.Schema.Structure

/-!
# Values do not change the structure of a statement

Two filters that name the same properties, with a single value each or equally many, give statements of one structure, and so do
two entries that name the same properties (`values_keep_structure`). Whatever the values are, the tokens of two such statements
differ only where values stand, and each value is one token. Keys of new rows have to be finite numbers for that, and the numbers
among the values are integers and floating point numbers themselves, which are written as numerals (`infinite_key_no_literal`).
-/

namespace RelationMapper

open Lexing

variable {d : Dialect} {tables : List Table} {t : Table} {quote : String} {conditions conditions' : List Condition}

/-! ## Filters -/

/-- Two filters name the same properties in the same order, with a single value each or equally many. -/
def SameShape (tests tests' : Keyed Value) : Prop :=
  List.Forall₂ (fun test test' => test.1 = test'.1 ∧ test.2.items?.map List.length = test'.2.items?.map List.length)
    tests tests'

/-- Two entries name the same properties in the same order. -/
def SameNames (entry entry' : Keyed Value) : Prop := List.Forall₂ (fun field field' => field.1 = field'.1) entry entry'

/-- Two lists of conditions have their values in the same places. -/
def SamePlaces (conditions conditions' : List Condition) : Prop :=
  conditions.map (fun condition => places condition.pieces) = conditions'.map fun condition => places condition.pieces

/-- The places in a list of literals depend on their number alone. -/
theorem places_literals (literals : List String) :
    places (separated ", " (literals.map valueOf)) =
      (places (fixed ", ")).intercalate (List.replicate literals.length [none]) := by
  have hplaces : literals.map (fun _ => [none]) = List.replicate literals.length ([none] : List (Option Char)) :=
    List.map_const'
  rw [places_separated, List.map_map]
  exact congrArg _ hplaces

/-- Conditions on a property with a single value each, or equally many, have their values in the same places. -/
theorem places_condition {key v v' : Value} {condition condition' : Condition} (h : TestRendered t quote key v condition)
    (h' : TestRendered t quote key v' condition') (hv : v.items?.map List.length = v'.items?.map List.length) :
    places condition.pieces = places condition'.pieces := by
  cases h with
  | equals hn _ hi _ =>
    cases h' with
    | equals hn' _ _ _ =>
      cases hn.symm.trans hn'
      simp only [Condition.pieces, places_append, places_valueOf]
    | among _ _ hi' _ _ =>
      rw [hi, hi'] at hv
      cases hv
  | among hn _ hi _ hl =>
    cases h' with
    | equals _ _ hi' _ =>
      rw [hi, hi'] at hv
      cases hv
    | among hn' _ hi' _ hl' =>
      cases hn.symm.trans hn'
      rw [hi, hi', Option.map_some, Option.map_some, Option.some.injEq, (forall₂_mapM hl).length_eq,
        (forall₂_mapM hl').length_eq] at hv
      simp only [Condition.pieces, places_append, places_literals, hv]

/-- The conditions of two filters of the same shape do. -/
theorem samePlaces_of_sameShape {tests tests' : Keyed Value} (h : SameShape tests tests')
    (hr : List.Forall₂ (fun test condition => TestRendered t quote test.1 test.2 condition) tests conditions)
    (hr' : List.Forall₂ (fun test condition => TestRendered t quote test.1 test.2 condition) tests' conditions') :
    SamePlaces conditions conditions' := by
  induction h generalizing conditions conditions' with
  | nil =>
    cases hr
    cases hr'
    rfl
  | @cons test test' tests tests' hsame _ ih =>
    cases hr with
    | cons hrendered hr =>
      cases hr' with
      | cons hrendered' hr' =>
        rw [SamePlaces, List.map_cons, List.map_cons, places_condition (hsame.1 ▸ hrendered) hrendered' hsame.2, ih hr hr']

/-- Of two filters of the same shape both can be met by no row, or neither is known to be so. -/
theorem none_of_sameShape {tests tests' : Keyed Value} (h : SameShape tests tests') {found found' : Option (List Condition)}
    (hr : t.renderTests quote tests = .ok found) (hr' : t.renderTests quote tests' = .ok found') :
    found = none ↔ found' = none := by
  induction h generalizing found found' with
  | nil =>
    cases hr
    cases hr'
    exact Iff.rfl
  | @cons test test' tests tests' hsame _ ih =>
    obtain ⟨key, v⟩ := test
    obtain ⟨key', v'⟩ := test'
    obtain ⟨condition, htest, hr⟩ := bind_eq_ok.mp hr
    obtain ⟨condition', htest', hr'⟩ := bind_eq_ok.mp hr'
    have hempty : ∀ w : Value, w.items? = some [] ↔ w.items?.map List.length = some 0 := by
      intro w
      simp only [Option.map_eq_some_iff, List.length_eq_zero_iff, exists_eq_right]
    have hnone : condition = none ↔ condition' = none := by
      rw [renderTest_eq_none htest, renderTest_eq_none htest', hempty, hempty, hsame.2]
    cases condition with
    | none =>
      cases hnone.mp rfl
      cases pure_eq_ok.mp hr
      cases pure_eq_ok.mp hr'
      exact Iff.rfl
    | some condition =>
      cases condition' with
      | none => cases hnone.mpr rfl
      | some condition' =>
        obtain ⟨rest, hrest, hr⟩ := bind_eq_ok.mp hr
        obtain ⟨rest', hrest', hr'⟩ := bind_eq_ok.mp hr'
        rw [← pure_eq_ok.mp hr, ← pure_eq_ok.mp hr', Option.map_eq_none_iff, Option.map_eq_none_iff]
        exact ih hrest hrest'

theorem places_conjunction (h : SamePlaces conditions conditions') :
    places (conjunctionPieces conditions) = places (conjunctionPieces conditions') := by
  rw [conjunctionPieces, conjunctionPieces, places_separated, places_separated, List.map_map, List.map_map]
  exact congrArg _ h

theorem places_restriction (h : SamePlaces conditions conditions') :
    places (restrictionPieces conditions) = places (restrictionPieces conditions') := by
  have hconjunction := places_conjunction h
  cases conditions with
  | nil =>
    cases List.map_eq_nil_iff.mp h.symm
    rfl
  | cons condition conditions =>
    cases conditions' with
    | nil => cases h
    | cons condition' conditions' =>
      change places (fixed _ ++ conjunctionPieces _) = places (fixed _ ++ conjunctionPieces _)
      rw [places_append, places_append, hconjunction]

/-- Statements with like conditions have values in the same places. -/
theorem ByConditions.places {statement : List Condition → Statement} (hs : ByConditions d tables t statement)
    (h : SamePlaces conditions conditions') :
    Lexing.places (statement conditions).pieces = Lexing.places (statement conditions').pieces := by
  cases hs with
  | select | selectKeys | selectMax | delete => simp only [Statement.pieces, places_append, places_restriction h]
  | cascade => cases d <;> simp only [Statement.pieces, places_append, places_conjunction h]

/-! ## Entries -/

/-- Assignments for two entries with the same names are to the same columns. -/
theorem forall₂_renderAssignments {entry entry' : Keyed Value} (h : SameNames entry entry')
    {assignments assignments' : List Assignment} (ha : t.renderAssignments quote entry = .ok assignments)
    (ha' : t.renderAssignments quote entry' = .ok assignments') :
    List.Forall₂ (fun a a' : Assignment => a.column = a'.column) assignments assignments' := by
  refine forall₂_filterMapM (fun field field' o o' hfield ho ho' => ?_) h ha ha'
  obtain ⟨⟨name, spec⟩, hn, ho⟩ := bind_eq_ok.mp ho
  obtain ⟨⟨name', spec'⟩, hn', ho'⟩ := bind_eq_ok.mp ho'
  cases hn.symm.trans (hfield ▸ hn')
  dsimp only at ho ho'
  cases hcol : spec.columnType? with
  | none =>
    rw [hcol] at ho ho'
    cases pure_eq_ok.mp ho
    cases pure_eq_ok.mp ho'
    exact .none
  | some type =>
    rw [hcol] at ho ho'
    obtain ⟨literal, -, ho⟩ := bind_eq_ok.mp (refuse_eq_ok.mp ho).2
    obtain ⟨literal', -, ho'⟩ := bind_eq_ok.mp (refuse_eq_ok.mp ho').2
    cases pure_eq_ok.mp ho
    cases pure_eq_ok.mp ho'
    exact .some rfl

/-- They have values in the same places. -/
theorem places_assignments {assignments assignments' : List Assignment}
    (h : List.Forall₂ (fun a a' : Assignment => a.column = a'.column) assignments assignments') :
    places (separated ", " (assignments.map (·.pieces))) = places (separated ", " (assignments'.map (·.pieces))) := by
  rw [places_separated, places_separated, List.map_map, List.map_map]
  refine congrArg _ ?_
  induction h with
  | nil => rfl
  | @cons a a' _ _ hcolumn _ ih =>
    rw [List.map_cons, List.map_cons, ih, Function.comp_apply, Function.comp_apply, Assignment.pieces, Assignment.pieces,
      hcolumn]
    simp only [places_append, places_valueOf]

namespace Client

/-- Entries with the same names still have them when a name was set. -/
theorem sameNames_rowFields {entry entry' : Keyed Value} (h : SameNames entry entry') (owner : Option String)
    (above above' : Value) : SameNames (rowFields (owner.map (·, above)) entry) (rowFields (owner.map (·, above')) entry') := by
  cases owner with
  | none => exact h
  | some name =>
    change SameNames (Keyed.set entry (.text name) above) (Keyed.set entry' (.text name) above')
    induction h with
    | nil => exact .cons rfl .nil
    | @cons field field' entry entry' hfield hrest ih =>
      obtain ⟨key, v⟩ := field
      obtain ⟨key', v'⟩ := field'
      cases hfield
      cases hsame : key.sameKey (.text name) with
      | true =>
        rw [Keyed.set_here hsame, Keyed.set_here hsame]
        exact .cons rfl hrest
      | false =>
        rw [Keyed.set_there hsame, Keyed.set_there hsame]
        exact .cons rfl ih

/-- Rows of two entries with the same names have the same columns. -/
theorem forall₂_renderRow {entry entry' : Keyed Value} (h : SameNames entry entry') {row row' : List (String × String)}
    (hrow : renderRow quote tables t entry = .ok row) (hrow' : renderRow quote tables t entry' = .ok row') :
    List.Forall₂ (fun cell cell' => cell.1 = cell'.1) row row' := by
  refine forall₂_filterMapM (fun field field' o o' hfield ho ho' => ?_) h hrow hrow'
  obtain ⟨⟨name, spec⟩, hn, ho⟩ := bind_eq_ok.mp ho
  obtain ⟨⟨name', spec'⟩, hn', ho'⟩ := bind_eq_ok.mp ho'
  cases hn.symm.trans (hfield ▸ hn')
  dsimp only at ho ho'
  cases hcol : spec.columnType? with
  | none =>
    rw [hcol] at ho ho'
    obtain ⟨_, -, ho⟩ := bind_eq_ok.mp ho
    obtain ⟨_, -, ho'⟩ := bind_eq_ok.mp ho'
    cases pure_eq_ok.mp ho
    cases pure_eq_ok.mp ho'
    exact .none
  | some type =>
    rw [hcol] at ho ho'
    obtain ⟨literal, -, ho⟩ := bind_eq_ok.mp ho
    obtain ⟨literal', -, ho'⟩ := bind_eq_ok.mp ho'
    cases pure_eq_ok.mp ho
    cases pure_eq_ok.mp ho'
    exact .some rfl

end Client

/-! ## All statements -/

section

variable (hn : ∀ u ∈ tables, u.PlainlyNamed) (ht : t ∈ tables)

include hn ht

/-- Two statements with conditions for filters of the same shape are alike. -/
theorem alike_byConditions {tests tests' : Keyed Value} (hshape : SameShape tests tests')
    (h : t.renderTests d.quote tests = .ok (some conditions)) (h' : t.renderTests d.quote tests' = .ok (some conditions'))
    {statement : List Condition → Statement} (hs : ByConditions d tables t statement) :
    (statement conditions).Alike d (statement conditions') := by
  have hr := forall₂_renderTests h
  have hr' := forall₂_renderTests h'
  exact Statement.alike_of_placed (hs.placed hn ht (isBlock_conditions (hn t ht) hr))
    (hs.placed hn ht (isBlock_conditions (hn t ht) hr')) (hs.places (samePlaces_of_sameShape hshape hr hr'))

/-- So are two updates, if the entries name the same properties. -/
theorem alike_update {tests tests' : Keyed Value} (hshape : SameShape tests tests')
    (h : t.renderTests d.quote tests = .ok (some conditions)) (h' : t.renderTests d.quote tests' = .ok (some conditions'))
    {entry entry' : Keyed Value} (hnames : SameNames entry entry') {assignments assignments' : List Assignment}
    (ha : t.renderAssignments d.quote entry = .ok assignments) (ha' : t.renderAssignments d.quote entry' = .ok assignments') :
    (Statement.update t.name assignments conditions).Alike d (.update t.name assignments' conditions') := by
  have hr := forall₂_renderTests h
  have hr' := forall₂_renderTests h'
  refine Statement.alike_of_placed (placed_update (hn t ht) ha (isBlock_conditions (hn t ht) hr))
    (placed_update (hn t ht) ha' (isBlock_conditions (hn t ht) hr')) ?_
  simp only [Statement.pieces, places_append, places_assignments (forall₂_renderAssignments hnames ha ha'),
    places_restriction (samePlaces_of_sameShape hshape hr hr')]

/-- And two insertions. -/
theorem alike_insert {entry entry' : Keyed Value} (hnames : SameNames entry entry') {key key' : Value}
    (hk : Client.IsFiniteNumber key) (hk' : Client.IsFiniteNumber key') {keyText keyText' : String}
    (hkey : key.keyText = .ok keyText) (hkey' : key'.keyText = .ok keyText') {row row' : List (String × String)}
    (hrow : Client.renderRow d.quote tables t entry = .ok row)
    (hrow' : Client.renderRow d.quote tables t entry' = .ok row') :
    (Statement.insert t.name (t.key :: row.map (·.1)) (keyText :: row.map (·.2))).Alike d
      (.insert t.name (t.key :: row'.map (·.1)) (keyText' :: row'.map (·.2))) := by
  refine Statement.alike_of_placed (Client.placed_insert (hn t ht) hk hkey hrow)
    (Client.placed_insert (hn t ht) hk' hkey' hrow') ?_
  have hcells := Client.forall₂_renderRow hnames hrow hrow'
  have hcolumns : row.map (·.1) = row'.map (·.1) := by
    rw [← List.forall₂_eq_eq_eq, List.forall₂_map_left_iff, List.forall₂_map_right_iff]
    exact hcells
  simp only [Statement.pieces, places_append, places_literals, List.length_cons, List.length_map, hcells.length_eq, hcolumns]

end

/-- Values do not change the structure of a statement for a table whose names passed the check. Take two filters that name the
same properties in the same order, with a single value each or equally many. If both are accepted, then neither gives conditions
or both do, and any two statements with these conditions that no caller ends are alike: their tokens differ only where values
stand, and each value is one token, which is a keyword for a value, a number or a quoted string. So are two updates that assign
the values of two entries with the same properties, and two rows that are inserted for such entries, under keys that are
finite numbers, on their own or below rows with any keys. -/
theorem values_keep_structure (d : Dialect) {tables : List Table} (hn : ∀ u ∈ tables, u.checkNames = .ok ()) {t : Table}
    (ht : t ∈ tables) :
    (∀ tests tests' : Keyed Value, SameShape tests tests' → ∀ found found',
      t.renderFilter d.quote (.map tests) = .ok found → t.renderFilter d.quote (.map tests') = .ok found' →
      (found = none ↔ found' = none) ∧ ∀ conditions ∈ found, ∀ conditions' ∈ found',
        (∀ statement, ByConditions d tables t statement → (statement conditions).Alike d (statement conditions')) ∧
        ∀ entry entry' : Keyed Value, SameNames entry entry' → ∀ assignments assignments',
          t.renderAssignments d.quote entry = .ok assignments → t.renderAssignments d.quote entry' = .ok assignments' →
          (Statement.update t.name assignments conditions).Alike d (.update t.name assignments' conditions')) ∧
    ∀ (owner : Option String) (above above' key key' : Value) (entry entry' : Keyed Value), SameNames entry entry' →
      Client.IsFiniteNumber key → Client.IsFiniteNumber key' → ∀ keyText keyText' row row',
        key.keyText = .ok keyText → key'.keyText = .ok keyText' →
        Client.renderRow d.quote tables t (Client.rowFields (owner.map (·, above)) entry) = .ok row →
        Client.renderRow d.quote tables t (Client.rowFields (owner.map (·, above')) entry') = .ok row' →
        (Statement.insert t.name (t.key :: row.map (·.1)) (keyText :: row.map (·.2))).Alike d
          (.insert t.name (t.key :: row'.map (·.1)) (keyText' :: row'.map (·.2))) := by
  have hplain : ∀ u ∈ tables, u.PlainlyNamed := fun u hu => (Table.checkNames_eq_ok u).mp (hn u hu)
  constructor
  · intro tests tests' hshape found found' hf hf'
    rw [renderFilter_map] at hf hf'
    refine ⟨none_of_sameShape hshape hf hf', ?_⟩
    rintro conditions ⟨⟩ conditions' ⟨⟩
    exact ⟨fun statement hs => alike_byConditions hplain ht hshape hf hf' hs,
      fun entry entry' hnames assignments assignments' ha ha' => alike_update hplain ht hshape hf hf' hnames ha ha'⟩
  · intro owner above above' key key' entry entry' hnames hk hk' keyText keyText' row row' hkey hkey' hrow hrow'
    exact alike_insert hplain ht (Client.sameNames_rowFields hnames owner above above') hk hk' hkey hkey' hrow hrow'

/-- Two deletions of posts: by a number and two titles, one of them missing, and by texts that try to end the string. -/
theorem values_keep_structure_posts :
    let tests : Keyed Value := [(.text "userId", .int (-3)), (.text "title", .list [.text "it's", .null])]
    let tests' : Keyed Value := [(.text "userId", .text "1e5"), (.text "title", .tuple [.text "", .text "' OR 1=1 --"])]
    (∀ u ∈ blog, u.checkNames = .ok ()) ∧ posts ∈ blog ∧ SameShape tests tests' ∧ ∃ conditions conditions',
      posts.renderFilter Dialect.sqlite.quote (.map tests) = .ok (some conditions) ∧
      posts.renderFilter Dialect.sqlite.quote (.map tests') = .ok (some conditions') ∧
      (Statement.delete "Post" conditions).text =
        "DELETE FROM Post\nWHERE Post.userId = -3 AND Post.title IN ('it''s', NULL)" ∧
      (Statement.delete "Post" conditions').text =
        "DELETE FROM Post\nWHERE Post.userId = '1e5' AND Post.title IN ('', '''%20OR%201=1%20--')" ∧
      (Statement.delete "Post" conditions).Alike .sqlite (.delete "Post" conditions') := by
  intro tests tests'
  have hn : ∀ u ∈ blog, u.checkNames = .ok () :=
    List.forall_mem_cons.mpr ⟨rfl, List.forall_mem_cons.mpr ⟨rfl, List.forall_mem_nil _⟩⟩
  have hshape : SameShape tests tests' := .cons ⟨rfl, rfl⟩ (.cons ⟨rfl, rfl⟩ .nil)
  obtain ⟨-, h⟩ := (values_keep_structure .sqlite hn posts_mem_blog).1 tests tests' hshape _ _ rfl rfl
  exact ⟨hn, posts_mem_blog, hshape, _, _, rfl, rfl, rfl, rfl, (h _ rfl _ rfl).1 _ .delete⟩

/-- The number that is greater than all others. -/
def infinity : Value := .real ⟨0x7ff0000000000000⟩

/-- Keys that are no finite numbers change the structure: the row of a user is inserted under an infinite key as under the key one,
but in writing the key is a word and no literal. So would be a number that is written by a name, as one of a type of its own may
be. -/
theorem infinite_key_no_literal :
    ∃ row, Client.renderRow Dialect.sqlite.quote blog users [(.text "name", .text "Ada")] = .ok row ∧
      infinity.keyText = .ok "inf" ∧ (Value.int 1).keyText = .ok "1" ∧
      (Statement.insert users.name (users.key :: row.map (·.1)) ("inf" :: row.map (·.2))).text =
        "INSERT INTO User (userId, name) VALUES (inf, 'Ada')" ∧
      ¬(Statement.insert users.name (users.key :: row.map (·.1)) ("inf" :: row.map (·.2))).Alike .sqlite
        (.insert users.name (users.key :: row.map (·.1)) ("1" :: row.map (·.2))) ∧
      ¬(Statement.delete "User" [.equals "User" "role" "Role.OWNER"]).Alike .sqlite
        (.delete "User" [.equals "User" "role" "1"]) := by
  have hinf : ¬(Token.word "inf".toList).IsLiteral := by simp [Token.IsLiteral]
  have hrole : ¬(Token.word "Role".toList).IsLiteral := by simp [Token.IsLiteral]
  refine ⟨[("name", "'Ada'")], rfl, rfl, rfl, rfl, fun h => ?_, fun h => ?_⟩
  · have hword := h.mem_of_mem (by decide) hinf
    revert hword
    decide
  · have hword := h.mem_of_mem (by decide) hrole
    revert hword
    decide

end RelationMapper
