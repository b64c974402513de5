import RelationMapper.Proofs.Client.Ways
import RelationMapper.Proofs.Number.Numeral

/-!
# The rows of children

A child is inserted with the key of its owner, whatever it says itself (`mem_childRow`). The rows that an insertion inserts into
a table are those of the children it was given for the table, in turn, unless a way through the relations leads back to the table
(`rowsInto_insertions`).
-/

namespace RelationMapper

open Relation Number

/-! ## Rows in statements -/

namespace Statement

/-- The row that a statement inserts into a table: its columns with their literals, apart from the key. -/
def rowInto? (table : String) : Statement → Option (List (String × String))
  | .insert table' (_ :: columns) (_ :: literals) => if table' = table then some (columns.zip literals) else none
  | _ => none

/-- Whether a statement inserts a row into a table that holds a literal in a column. -/
def InsertsUnder (table column literal : String) (s : Statement) : Prop :=
  ∃ row, s.rowInto? table = some row ∧ (column, literal) ∈ row

end Statement

/-- The rows that statements insert into a table. -/
def rowsInto (table : String) (statements : List Statement) : List (List (String × String)) :=
  statements.filterMap (·.rowInto? table)

/-- The rows that statements insert into a table with a literal in a column. -/
def rowsUnder (table column literal : String) (statements : List Statement) : List (List (String × String)) :=
  (rowsInto table statements).filter ((column, literal) ∈ ·)

section

variable {table column literal : String} {statements more : List Statement}

/-- The rows inserted under an owner in two stretches are those of the one, then those of the other. -/
theorem rowsUnder_append :
    rowsUnder table column literal (statements ++ more) =
      rowsUnder table column literal statements ++ rowsUnder table column literal more := by
  rw [rowsUnder, rowsInto, List.filterMap_append, List.filter_append]
  rfl

/-- Statements that insert no such row have none. -/
theorem rowsUnder_eq_nil (h : ∀ s ∈ statements, ¬s.InsertsUnder table column literal) :
    rowsUnder table column literal statements = [] := by
  refine List.filter_eq_nil_iff.mpr fun row hrow hmem => ?_
  obtain ⟨s, hs, hsome⟩ := List.mem_filterMap.mp hrow
  exact h s hs ⟨row, hsome, of_decide_eq_true hmem⟩

/-- A statement inserts a row only if it is one of the rows. -/
theorem mem_rowsInto {s : Statement} (hs : s ∈ statements) {row : List (String × String)} (h : s.rowInto? table = some row) :
    row ∈ rowsInto table statements :=
  List.mem_filterMap.mpr ⟨s, hs, h⟩

end

namespace Client

variable {tables : List Table} {t u : Table} {quote : String} {dialect : Dialect} {whole : Bool} {xs : List Exchange}

/-! ## What is inserted -/

/-- The row of a child under the key of its owner. -/
def childRow (quote : String) (tables : List Table) (u : Table) (owner : String × Value) :
    Value → Except Fault (List (String × String))
  | .map fields => renderRow quote tables u (rowFields (some owner) fields)
  | _ => .error .wrongType

/-- The row of a child holds the key of its owner, and nothing else in this column. -/
theorem mem_childRow (hd : u.Distinct) {column : String} (hc : u.DeclaresInt column) {n : Int} {child : Value}
    (hk : child.KeysDiffer) {row : List (String × String)} (h : childRow quote tables u (column, .int n) child = .ok row)
    {literal : String} : (column, literal) ∈ row ↔ literal = intText n := by
  cases child with
  | map fields =>
    have hcol := hc.hasColumn hd
    have hm : (Value.text column, Value.int n) ∈ Keyed.set fields (.text column) (.int n) :=
      (mem_set_text_iff hk.1).mpr (.inl rfl)
    have holds {literal : String} : (column, literal) ∈ row ↔ writeInt n = .ok literal := by
      rw [mem_renderRow h]
      constructor
      · rintro ⟨v, type, hv, -, hl⟩
        rcases mem_set_text hk.1 hv with he | ⟨-, hne⟩
        · cases he
          exact hl
        · exact absurd (isText_eq_true.mpr rfl) (Bool.eq_false_iff.mp hne)
      · exact fun hl => ⟨_, .int, hm, hcol, hl⟩
    -- the key is written, because the row is
    obtain ⟨written, hwritten⟩ := literal_of_renderRow h hm hcol
    rw [holds, writeInt_eq_ok, and_iff_right (writeInt_eq_ok.mp hwritten).1]
  | _ => cases h

/-- Rows are those of children under the key of their owner, in turn: of the first ones, or of the whole. -/
def RowsOf (quote : String) (tables : List Table) (u : Table) (owner : String × Value) (whole : Prop) (children : List Value)
    (rows : List (List (String × String))) : Prop :=
  ∃ done, done <+: children ∧ done.mapM (childRow quote tables u owner) = .ok rows ∧ (whole → done = children)

/-- The entries for a table among those that are to be inserted. -/
def entriesFor (u : Table) (todo : List Pending) : List Value :=
  todo.filterMap fun p => if p.table = u then some p.entry else none

/-- An entry that is to be inserted: a child of an owner, or an entry for a table from which no way leads to that of the
children. -/
inductive Sorted (tables : List Table) (u : Table) (owner : String × Value) : Pending → Prop
  | child {entry : Value} : Sorted tables u owner ⟨u, some owner, entry⟩
  | apart {p : Pending} : p.table ∈ tables → Apart tables u p.table → Sorted tables u owner p

/-- What is to be inserted apart from a table is no entry for it. -/
theorem entriesFor_apart {todo : List Pending} (h : ∀ p ∈ todo, Apart tables u p.table) : entriesFor u todo = [] := by
  refine List.filterMap_eq_nil_iff.mpr fun p hp => if_neg fun he => ?_
  exact h p hp (he ▸ .refl)

/-- The rows of a table that are inserted are those of the children, unless a way leads back to the table. -/
theorem rowsInto_insertions (hn : (tables.map (·.name)).Nodup) (hu : u ∈ tables) (hback : ¬TransGen (Relates tables) u u)
    {owner : String × Value} {todo : List Pending} (h : Insertions quote tables whole todo xs)
    (hs : ∀ p ∈ todo, Sorted tables u owner p) :
    RowsOf quote tables u owner (whole = true) (entriesFor u todo) (rowsInto u.name (xs.map (·.statement))) := by
  induction h with
  | done => exact ⟨[], List.nil_prefix, rfl, fun _ => rfl⟩
  | cut hw | asked _ hw => exact ⟨[], List.nil_prefix, rfl, fun h => absurd (h.symm.trans hw) (by decide)⟩
  | @node v owner' fields todo asked inserted n row xs key rendered _ ih =>
    rw [List.forall_mem_cons] at hs
    obtain ⟨hfirst, hs⟩ := hs
    have hbelow : ∀ p ∈ pendingBelow tables v (.int n) (owner'.map (·.1)) fields, p.table ∈ tables ∧ Apart tables u p.table := by
      intro p hp
      have hr := relates_of_pendingBelow hn hp
      refine ⟨hr.2, ?_⟩
      cases hfirst with
      | child => exact apart_of_way hback (.single hr)
      | apart _ ha => exact ha.of_relates hr
    obtain ⟨done, hstart, hrows, hwhole⟩ := ih fun p hp => by
      rcases List.mem_append.mp hp with hp | hp
      · exact .apart (hbelow p hp).1 (hbelow p hp).2
      · exact hs p hp
    have hrest : entriesFor u (pendingBelow tables v (.int n) (owner'.map (·.1)) fields ++ todo) = entriesFor u todo := by
      rw [entriesFor, List.filterMap_append]
      exact congrArg (· ++ _) (entriesFor_apart fun p hp => (hbelow p hp).2)
    rw [hrest] at hstart hwhole
    cases hfirst with
    | child =>
      have hfor : entriesFor u (⟨u, some owner, .map fields⟩ :: todo) = .map fields :: entriesFor u todo :=
        List.filterMap_cons_some (if_pos rfl)
      refine ⟨.map fields :: done, ?_, ?_, fun h => ?_⟩
      · rw [hfor]
        exact (List.prefix_cons_inj _).mpr hstart
      · rw [List.mapM_cons, show childRow quote tables u owner (.map fields) = .ok row from rendered, hrows]
        have hrow : row = (row.map (·.1)).zip (row.map (·.2)) := List.zip_of_prod rfl rfl
        simp [rowsInto, Statement.rowInto?, ← hrow]
      · rw [hfor, hwhole h]
    | apart hv ha =>
      have hfor : entriesFor u (⟨v, owner', .map fields⟩ :: todo) = entriesFor u todo :=
        List.filterMap_cons_none (if_neg fun he : v = u => ha (he ▸ .refl))
      refine ⟨done, hfor ▸ hstart, ?_, fun h => hfor ▸ hwhole h⟩
      rw [hrows]
      simp [rowsInto, Statement.rowInto?, ha.name_ne hn hu hv]

end Client

end RelationMapper
