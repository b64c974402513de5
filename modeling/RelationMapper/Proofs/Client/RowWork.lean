import RelationMapper.Proofs.Client.Keeping
import RelationMapper.Proofs.Client.Refusal

/-!
# What work on rows keeps

Work on rows is made of a gate, checks and statements of few forms, one after the other. What the gate and each of these
statements keep (`KeptByRowWork`), a call on rows keeps, however long it is and whatever is answered (`keeps_rowCall`). More is
known of a statement than its form: the conditions of deletions come from filters (`Filtered`), an update assigns something, and
the rows that are inserted are those of entries of a kind, if the entry of the call is of this kind and the kind is handed down
from entry to entry.

What the gate keeps of the registry is a special case (`KeptByGate.rowWork`).
-/

namespace RelationMapper.Client

open Act

variable {α : Type} {o : Options} {t : Table} {I : Session → Prop} {fits : Table → Option String → Value → Prop}

/-! ## Insertions -/

/-- An entry stands a level below a field: the field is under a relation of the table, and the entry is one of those given for
it. -/
structure StandsBelow (tables : List Table) (t : Table) (field : Value × Value) (related : Table) (entry : Value) : Prop where
  relation : ∃ name spec, t.named field.1 = .ok (name, spec) ∧ spec.isPrimitive = false ∧ t.related tables spec = .ok related
  item : ∃ items, field.2.items? = some items ∧ entry ∈ items

/-- All entries below a field are of a kind, in any of some states. -/
def FitsBelow (I : Session → Prop) (fits : Table → Option String → Value → Prop) (t : Table) (field : Value × Value) : Prop :=
  ∀ s, I s → ∀ related entry, StandsBelow s.registry.tables t field related entry → fits related (some t.key) entry

/-- What an insertion keeps, of the registry or of anything else, if the entry is of a kind: it is kept at the gate and by the
statements for next keys and for the rows of such entries, and the kind of an entry is that of the entries below. -/
structure KeptByInsertion (o : Options) (fits : Table → Option String → Value → Prop) (I : Session → Prop) : Prop where
  gate : Keeps I (ensureValid o)
  nextKey : ∀ t : Table, Keeps I (onConnection (Connection.run o (.nextKey t.name t.key)))
  insert : ∀ tables t owner fields key row, fits t (owner.map (·.1)) (.map fields) →
    renderRow o.dialect.quote tables t (rowFields owner fields) = .ok row →
      Keeps I (onConnection (Connection.run o (.insert t.name (t.key :: row.map (·.1)) (key :: row.map (·.2)))))
  below : ∀ t owner fields, fits t owner (.map fields) → ∀ field ∈ fields, FitsBelow I fits t field

theorem keeps_passOwnerKey (t : Table) (owner : Option String) : Keeps I (owner.forM (passOwnerKey t)) := by
  cases owner with
  | none => exact Keeps.pure _
  | some name => exact (Keeps.lift _).bind fun spec => Keeps.ite (Keeps.throw _) (Keeps.pure _)

mutual

/-- Inserting an entry of a kind keeps what insertions keep. -/
theorem keeps_insertEntry (hI : KeptByInsertion o fits I) (t : Table) (owner : Option (String × Value)) :
    ∀ entry : Value, fits t (owner.map (·.1)) entry → Keeps I (insertEntry o t owner entry)
  | .map fields => by
    intro hfits
    unfold insertEntry
    refine (keeps_nextKey hI.gate (hI.nextKey t)).bind fun key => (Keeps.lift _).bind fun keyText => ?_
    refine keeps_tables_bind fun s hs => Keeps.lift_bind fun row hrow => ?_
    refine (keeps_ask hI.gate (hI.insert _ t owner fields keyText row hfits hrow)).discard.bind fun _ => ?_
    exact (keeps_insertRelations hI t key (owner.map (·.1)) fields (hI.below t _ fields hfits)).bind fun _ => Keeps.pure _
  | .null | .bool _ | .int _ | .real _ | .text _ | .bytes _ | .buffer _ | .moment _ | .date _ | .now | .list _ | .tuple _
  | .set _ | .object => by
    intro _
    rw [insertEntry]
    · exact Keeps.throw _
    · simp

theorem keeps_insertRelations (hI : KeptByInsertion o fits I) (t : Table) (key : Value) (owner : Option String) :
    ∀ fields : List (Value × Value), (∀ field ∈ fields, FitsBelow I fits t field) →
      Keeps I (insertRelations o t key owner fields)
  | [] => by
    intro _
    rw [insertRelations]
    exact keeps_passOwnerKey t owner
  | (name, value) :: rest => by
    intro hfits
    rw [List.forall_mem_cons] at hfits
    rw [insertRelations]
    refine Keeps.ite ((keeps_passOwnerKey t owner).bind fun _ => ?_) ?_
    · exact keeps_insertRelations hI t key none rest hfits.2
    · refine (keeps_insertRelation hI t key name value hfits.1).bind fun _ => ?_
      exact keeps_insertRelations hI t key owner rest hfits.2

theorem keeps_insertRelation (hI : KeptByInsertion o fits I) (t : Table) (key name : Value) :
    ∀ value : Value, FitsBelow I fits t (name, value) → Keeps I (insertRelation o t key name value)
  | .list items | .tuple items | .set items => by
    intro hfits
    unfold insertRelation
    refine Keeps.lift_bind fun (name', spec) hnamed => ?_
    dsimp only
    split
    · exact Keeps.pure _
    · case isFalse hrelation =>
      refine keeps_tables_bind fun s hs => Keeps.lift_bind fun related hrelated => ?_
      refine keeps_insertEntries hI related (t.key, key) items fun entry he => hfits s hs related entry ⟨?_, items, rfl, he⟩
      exact ⟨name', spec, hnamed, Bool.eq_false_iff.mpr hrelation, hrelated⟩
  | .null | .bool _ | .int _ | .real _ | .text _ | .bytes _ | .buffer _ | .moment _ | .date _ | .now | .map _ | .object => by
    intro _
    unfold insertRelation
    refine (Keeps.lift _).bind fun (_, spec) => Keeps.ite (Keeps.pure _) ?_
    exact keeps_tables_bind fun s hs => (Keeps.lift _).bind fun _ => Keeps.lift _

theorem keeps_insertEntries (hI : KeptByInsertion o fits I) (t : Table) (owner : String × Value) :
    ∀ items : List Value, (∀ entry ∈ items, fits t (some owner.1) entry) → Keeps I (insertEntries o t owner items)
  | [] => by
    intro _
    rw [insertEntries]
    exact Keeps.pure _
  | entry :: rest => by
    intro hfits
    rw [List.forall_mem_cons] at hfits
    rw [insertEntries]
    exact (keeps_insertEntry hI t (some owner) entry hfits.1).discard.bind fun _ =>
      keeps_insertEntries hI t owner rest hfits.2

end

/-- An entry is of a kind as soon as it passes the check. -/
def FitsChecked (I : Session → Prop) (fits : Table → Option String → Value → Prop) (t : Table) (entry : Value) : Prop :=
  ∀ s, I s → Table.checkEntry s.registry.tables t none entry = .ok () → fits t none entry

/-- An insertion as a whole keeps what insertions keep. -/
theorem keeps_insertRow (hI : KeptByInsertion o fits I) {entry : Value} (hfits : FitsChecked I fits t entry) :
    Keeps I (insertRow o t entry) := by
  unfold insertRow
  split
  · exact Keeps.throw _
  · refine hI.gate.bind fun _ => keeps_tables_bind fun s hs => Keeps.lift_bind fun _ hc => ?_
    exact keeps_insertEntry hI t none entry (hfits s hs hc)

/-! ## Deletions -/

/-- Conditions that say what a filter says, one that is not nothing. -/
def Filtered (quote : String) (t : Table) (conditions : List Condition) : Prop :=
  ∃ filter : Value, filter.isTruthy = true ∧ t.renderFilter quote filter = .ok (some conditions)

/-- What a deletion keeps: it is kept at the gate, and by the statements that read keys and delete rows, whose conditions come
from a filter. -/
structure KeptByDeletion (o : Options) (I : Session → Prop) : Prop where
  gate : Keeps I (ensureValid o)
  keys : ∀ t conditions, Filtered o.dialect.quote t conditions →
    Keeps I (onConnection (Connection.run o (.selectKeys t.name t.key conditions)))
  delete : ∀ t conditions, Filtered o.dialect.quote t conditions →
    Keeps I (onConnection (Connection.run o (.delete t.name conditions)))
  cascade : ∀ t conditions, Filtered o.dialect.quote t conditions → ∀ child,
    Keeps I (onConnection (Connection.run o (.cascade o.dialect child t.name t.key conditions)))

theorem keeps_matchingKeys (hI : KeptByDeletion o I) {conditions : List Condition}
    (hc : Filtered o.dialect.quote t conditions) : Keeps I (matchingKeys o t conditions) :=
  (keeps_ask hI.gate (hI.keys t conditions hc)).bind fun _ => Keeps.lift _

/-- Looking whether a related table has relations itself. -/
theorem keeps_nested {related : Table} {unvisited : List String} {next : Bool → Work Unit}
    (hnext : ∀ nested, Keeps I (next nested)) :
    Keeps I (do
      let nested ← if related.name ∈ unvisited then hasRelations related else pure false
      next nested) := by
  dsimp only
  exact Keeps.ite (((keeps_planFor related.name).bind fun _ => Keeps.pure _).bind hnext) (Keeps.bind (Keeps.pure _) hnext)

/-- The filter for related rows is not nothing. -/
theorem filtered_ownedBy {quote : String} {related : Table} {keys : List Value} {conditions : List Condition}
    (h : related.renderFilter quote (ownedBy t keys) = .ok (some conditions)) : Filtered quote related conditions :=
  ⟨ownedBy t keys, rfl, h⟩

mutual

/-- Deleting the rows of a table with their related rows keeps what deletions keep. -/
theorem keeps_clearTable (hI : KeptByDeletion o I) (t : Table) (conditions : List Condition) (unvisited : List String)
    (hc : Filtered o.dialect.quote t conditions) : Keeps I (clearTable o t conditions unvisited) := by
  rw [clearTable]
  refine (keeps_planFor t.name).bind fun plan => ?_
  refine (keeps_clearRelations hI t conditions unvisited none plan.relations hc).bind fun _ => ?_
  exact keeps_ask hI.gate (hI.delete t conditions hc)
termination_by (unvisited.length, 1, 0)

theorem keeps_clearRelations (hI : KeptByDeletion o I) (t : Table) (conditions : List Condition) (unvisited : List String)
    (keys : Option (List Value)) (relations : List RelationPlan) (hc : Filtered o.dialect.quote t conditions) :
    Keeps I (clearRelations o t conditions unvisited keys relations) := by
  match relations with
  | [] =>
    rw [clearRelations]
    exact Keeps.pure _
  | relation :: rest =>
    rw [clearRelations]
    refine keeps_getRegistry.bind fun registry => ?_
    cases registry.find? relation.table with
    | none => exact Keeps.throw _
    | some related =>
      refine keeps_nested fun nested => ?_
      split
      · case isTrue hdeep =>
        have hfewer : (unvisited.filter (· ≠ related.name)).length < unvisited.length :=
          List.length_filter_lt_length_iff_exists.mpr ⟨related.name, hdeep.2, by simp⟩
        have cleared (read : List Value) : Keeps I (do
            match ← Act.lift (related.renderFilter o.dialect.quote (ownedBy t read)) with
            | none => pure ()
            | some owned => discard (clearTable o related owned (unvisited.filter (· ≠ related.name)))
            clearRelations o t conditions unvisited (some read) rest) := by
          refine Keeps.lift_bind fun owned howned => ?_
          cases owned with
          | none => exact keeps_clearRelations hI t conditions unvisited (some read) rest hc
          | some owned =>
            refine (keeps_clearTable hI related owned _ (filtered_ownedBy howned)).discard.bind fun _ => ?_
            exact keeps_clearRelations hI t conditions unvisited (some read) rest hc
        cases keys with
        | some read => exact cleared read
        | none => exact (keeps_matchingKeys hI hc).bind cleared
      · refine (keeps_ask hI.gate (hI.cascade t conditions hc relation.table)).discard.bind fun _ => ?_
        exact keeps_clearRelations hI t conditions unvisited keys rest hc
termination_by (unvisited.length, 0, relations.length)
decreasing_by
  all_goals first
    | exact Prod.Lex.left _ _ hfewer
    | exact Prod.Lex.right _ (Prod.Lex.right _ (by simp))

end

/-- A deletion as a whole keeps what deletions keep. -/
theorem keeps_deleteRows (hI : KeptByDeletion o I) (t : Table) (filter : Value) : Keeps I (deleteRows o t filter) := by
  unfold deleteRows
  split
  · exact Keeps.throw _
  · dsimp only
    split
    · exact Keeps.throw _
    · case isFalse htruthy =>
      refine hI.gate.bind fun _ => Keeps.lift_bind fun conditions hc => ?_
      cases conditions with
      | none => exact Keeps.pure _
      | some conditions =>
        exact keeps_tables_bind fun _ _ => keeps_clearTable hI t conditions _ ⟨filter, by simpa using htruthy, hc⟩

/-! ## Updates -/

/-- What an update keeps: what an insertion and a deletion keep, and what is kept by a statement that assigns something. -/
structure KeptByUpdate (o : Options) (fits : Table → Option String → Value → Prop) (I : Session → Prop) : Prop
    extends KeptByInsertion o fits I, KeptByDeletion o I where
  update : ∀ t conditions, Filtered o.dialect.quote t conditions → ∀ assignments, assignments ≠ [] →
    Keeps I (onConnection (Connection.run o (.update t.name assignments conditions)))

/-- A relation of an entry whose entries are of a kind. -/
def FitsReplaced (fits : Table → Option String → Value → Prop) (t : Table) (relation : Table × Value) : Prop :=
  ∀ items, relation.2.items? = some items → ∀ entry ∈ items, fits relation.1 (some t.key) entry

theorem keeps_replaceRelations (hI : KeptByUpdate o fits I) {relations : List (Table × Value)}
    (hfits : ∀ relation ∈ relations, FitsReplaced fits t relation) (key : Value) :
    Keeps I (replaceRelations o t relations key) := by
  unfold replaceRelations
  induction relations with
  | nil => exact Keeps.pure _
  | cons relation relations ih =>
    rw [List.forall_mem_cons] at hfits
    obtain ⟨related, entries⟩ := relation
    refine Keeps.bind ?_ fun _ => ih hfits.2
    refine (keeps_deleteRows hI.toKeptByDeletion related _).discard.bind fun _ => ?_
    cases hitems : entries.items? with
    | some items => exact keeps_insertEntries hI.toKeptByInsertion related (t.key, key) items (hfits.1 items hitems)
    | none => exact Keeps.lift _

/-- The relations of an entry of a kind have entries of this kind. -/
theorem fitsReplaced_of_mem {s : Session} (hs : I s) {fields : Keyed Value} (hfits : ∀ field ∈ fields, FitsBelow I fits t field)
    {relations : List (Table × Value)} (hr : relationsOf s.registry.tables t fields = .ok relations)
    {relation : Table × Value} (hmem : relation ∈ relations) : FitsReplaced fits t relation := by
  obtain ⟨field, hfield, hstep⟩ := exists_of_mem_filterMapM hr hmem
  obtain ⟨⟨name, spec⟩, hn, hstep⟩ := bind_eq_ok.mp hstep
  dsimp only at hstep
  split at hstep
  · cases pure_eq_ok.mp hstep
  · case isFalse hrelation =>
    obtain ⟨related, hrelated, hstep⟩ := bind_eq_ok.mp hstep
    cases pure_eq_ok.mp hstep
    intro items hitems entry he
    exact hfits field hfield s hs related entry ⟨⟨name, spec, hn, Bool.eq_false_iff.mpr hrelation, hrelated⟩, items, hitems, he⟩

theorem keeps_updateFields (hI : KeptByUpdate o fits I) {conditions : List Condition}
    (hc : Filtered o.dialect.quote t conditions) {fields : Keyed Value} (hfits : ∀ field ∈ fields, FitsBelow I fits t field) :
    Keeps I (updateFields o t conditions fields) := by
  refine (Keeps.lift _).bind fun assignments => keeps_tables_bind fun s hs => Keeps.lift_bind fun relations hr => ?_
  have assigned (keys : List Value) : Keeps I (do
      if !assignments.isEmpty then discard (ask o (.update t.name assignments conditions))
      keys.forM (replaceRelations o t relations)) := by
    have replaced : Keeps I (keys.forM (replaceRelations o t relations)) :=
      Keeps.forM fun key => keeps_replaceRelations hI (fun _ => fitsReplaced_of_mem hs hfits hr) key
    dsimp only
    split
    · case isTrue hsome =>
      refine (keeps_ask hI.gate (hI.update t conditions hc assignments ?_)).discard.bind fun _ => replaced
      rintro rfl
      cases hsome
    · exact replaced
  dsimp only
  exact Keeps.ite (Keeps.bind (Keeps.pure _) assigned) ((keeps_matchingKeys hI.toKeptByDeletion hc).bind assigned)

/-- An update as a whole keeps what updates keep. -/
theorem keeps_updateRows (hI : KeptByUpdate o fits I) (filter : Value) {entry : Value} (hfits : FitsChecked I fits t entry) :
    Keeps I (updateRows o t filter entry) := by
  unfold updateRows
  split
  · exact Keeps.throw _
  · exact Keeps.throw _
  · dsimp only
    split
    · exact Keeps.throw _
    · case isFalse htruthy =>
      refine Keeps.ite (Keeps.pure _) (hI.gate.bind fun _ => Keeps.lift_bind fun conditions hc => ?_)
      refine keeps_tables_bind fun s hs => Keeps.lift_bind fun _ hchecked => ?_
      cases conditions with
      | none => exact Keeps.pure _
      | some conditions =>
        cases entry with
        | map fields =>
          refine keeps_updateFields hI ⟨filter, by simpa using htruthy, hc⟩ ?_
          exact hI.below t none fields (hfits s hs hchecked)
        | _ => exact Keeps.pure _

/-! ## Selections -/

/-- What a selection keeps: it is kept at the gate and by the statements that read rows and the greatest value of a column. -/
structure KeptBySelection (o : Options) (I : Session → Prop) : Prop where
  gate : Keeps I (ensureValid o)
  select : ∀ plan conditions ending, Keeps I (onConnection (Connection.run o (.select plan conditions ending)))
  selectMax : ∀ table column conditions, Keeps I (onConnection (Connection.run o (.selectMax table column conditions)))

/-- A selection keeps what selections keep. -/
theorem keeps_selectRows [MomentReader] (hI : KeptBySelection o I) (t : Table) (filter ending : Value) :
    Keeps I (selectRows o t filter ending) := by
  refine hI.gate.bind fun _ => (Keeps.lift _).bind fun conditions => ?_
  cases conditions with
  | none => exact Keeps.pure _
  | some conditions =>
    refine (keeps_planFor _).bind fun plan => (Keeps.lift _).bind fun ending => ?_
    exact (keeps_ask hI.gate (hI.select _ _ _)).bind fun _ => Keeps.lift _

theorem keeps_selectMax [MomentReader] (hI : KeptBySelection o I) (t : Table) (column : String) (filter : Value) :
    Keeps I (selectMax o t column filter) := by
  refine hI.gate.bind fun _ => (Keeps.lift _).bind fun spec => ?_
  cases spec.columnType? with
  | none => exact Keeps.throw _
  | some type =>
    refine (Keeps.lift _).bind fun conditions => ?_
    cases conditions with
    | none => exact Keeps.pure _
    | some conditions => exact (keeps_ask hI.gate (hI.selectMax _ _ _)).bind fun _ => Keeps.lift _

/-! ## Calls -/

/-- What work on rows keeps, whichever it is. -/
structure KeptByRowWork (o : Options) (fits : Table → Option String → Value → Prop) (I : Session → Prop) : Prop
    extends KeptByUpdate o fits I, KeptBySelection o I

/-- A call on rows keeps this, if the entry that it writes is of the kind in question. -/
theorem keeps_rowCall [MomentReader] (hI : KeptByRowWork o fits I) (t : Table) {call : RowCall}
    (hfits : ∀ entry, call.entry? = some entry → FitsChecked I fits t entry) : Keeps I (call.run o t) := by
  cases call with
  | select filter ending => exact (keeps_selectRows hI.toKeptBySelection t filter ending).discard
  | selectMax column filter => exact (keeps_selectMax hI.toKeptBySelection t column filter).discard
  | insert entry => exact (keeps_insertRow hI.toKeptByInsertion (hfits entry rfl)).discard
  | update filter entry => exact keeps_updateRows hI.toKeptByUpdate filter (hfits entry rfl)
  | delete filter => exact (keeps_deleteRows hI.toKeptByDeletion t filter).discard

/-- What the gate keeps of the registry is kept by all work on rows. -/
theorem KeptByGate.rowWork {I : Registry JoinPlan → Prop} (hI : KeptByGate I) :
    KeptByRowWork o (fun _ _ _ => True) fun s => I s.registry where
  gate := hI o
  nextKey _ := keeps_onConnection _
  insert _ _ _ _ _ _ _ _ := keeps_onConnection _
  below _ _ _ _ _ _ _ _ _ _ _ := trivial
  keys _ _ _ := keeps_onConnection _
  delete _ _ _ := keeps_onConnection _
  cascade _ _ _ _ := keeps_onConnection _
  update _ _ _ _ _ := keeps_onConnection _
  select _ _ _ := keeps_onConnection _
  selectMax _ _ _ := keeps_onConnection _

end RelationMapper.Client
