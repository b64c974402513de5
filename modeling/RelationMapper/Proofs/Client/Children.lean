import RelationMapper.Proofs.Client.ChildRows
import RelationMapper.Proofs.Client.Refusal
import RelationMapper.Proofs.Client.Replacement

/-!
# The children of an owner

An update replaces the related rows of an owner in one relation after the other. Where a relation stands alone among those of the
entry (`StandsAlone`), each of its children is inserted once, under the owner's key, and nothing that is sent later deletes the
rows of its table under this key (`update_replaces_children`).
-/

namespace RelationMapper.Client

open Act Relation Number

variable {r : Registry JoinPlan} {t u : Table} {o : Options} {quote : String} {dialect : Dialect} {whole : Bool}
  {xs : List Exchange} {n : Int}

/-! ## What a replacement sends -/

namespace Replacement

variable {job : Replacement}

/-- The entries were checked. -/
def Checked (r : Registry JoinPlan) (t : Table) (job : Replacement) : Prop :=
  AllInsertable r job.related (t.key, .int job.owner) job.items

/-- The replacement is not for the given table and owner: the table is apart from that of the replacement, or is the same for
another owner. -/
def Other (tables : List Table) (u : Table) (n : Int) (job : Replacement) : Prop :=
  Apart tables u job.related ∨ (job.related = u ∧ job.owner ≠ n)

theorem clearing (hr : r.Validated) (h : Clears dialect r.tables whole (job.clearance r.tables t) xs) :
    ∀ e ∈ xs, Clearing r.tables (job.clearance r.tables t) e.statement :=
  clearing_of_clears hr.wellFormed.names h trivial

/-- What is deleted first inserts nothing. -/
theorem not_insertsUnder_clears (hr : r.Validated) (h : Clears dialect r.tables whole (job.clearance r.tables t) xs)
    (table column literal : String) : ∀ e ∈ xs, ¬e.statement.InsertsUnder table column literal := by
  rintro e he ⟨row, hrow, -⟩
  have := clearing hr h e he
  generalize e.statement = s at this hrow
  cases this <;> cases hrow

/-- What is deleted first spares the rows that the replacement is not for. -/
theorem spares_clears (hr : r.Validated) (hu : u ∈ r.tables) (hback : ¬TransGen (Relates r.tables) u u)
    (hc : job.Checked r t) (ho : job.Other r.tables u n) (h : Clears dialect r.tables whole (job.clearance r.tables t) xs) :
    ∀ e ∈ xs, e.statement.Spares u.name t.key (intText n) := by
  intro e he
  rcases ho with ha | ⟨rfl, hne⟩
  · exact (clearing hr h e he).spares hr.wellFormed.names hc.mem hu ha _ _
  · exact Clearing.spares_others hr.wellFormed.names (clearing hr h e he) hu hback fun h => hne (intText_injective h)

/-- The entries are children, unless their table is another one. -/
theorem sorted (hc : job.Checked r t) (h : Apart r.tables u job.related ∨ job.related = u) :
    ∀ p ∈ job.pending t, Sorted r.tables u (t.key, .int job.owner) p := by
  intro p hp
  obtain ⟨item, -, rfl⟩ := List.mem_map.mp hp
  rcases h with ha | rfl
  · exact .apart hc.mem ha
  · exact .child

/-- The rows that are inserted into the table of a replacement are those of its entries. -/
theorem rowsOf_insertions (hr : r.Validated) (hback : ¬TransGen (Relates r.tables) job.related job.related)
    (hc : job.Checked r t) (h : Insertions quote r.tables whole (job.pending t) xs) :
    RowsOf quote r.tables job.related (t.key, .int job.owner) (whole = true) job.items
      (rowsInto job.related.name (xs.map (·.statement))) := by
  have hentries : entriesFor job.related (job.pending t) = job.items := by
    simp [entriesFor, pending, List.filterMap_map]
  exact hentries ▸ rowsInto_insertions hr.wellFormed.names hc.mem hback h (sorted hc (.inr rfl))

/-- All of these rows hold the owner's key, and no other. -/
theorem mem_row (hr : r.Validated) (hc : job.Checked r t) {whole : Prop} {rows : List (List (String × String))}
    (h : RowsOf quote r.tables job.related (t.key, .int job.owner) whole job.items rows) {row : List (String × String)}
    (hrow : row ∈ rows) {literal : String} : (t.key, literal) ∈ row ↔ literal = intText job.owner := by
  obtain ⟨done, hstart, hrows, -⟩ := h
  obtain ⟨item, hitem, hchild⟩ := exists_of_mem_mapM hrows hrow
  exact mem_childRow (hr.distinct _ hc.mem) hc.above.1 (hc.of_mem (hstart.subset hitem)).keysDiffer hchild

/-- What is inserted holds no key of an owner that the replacement is not for. -/
theorem not_insertsUnder_insertions (hr : r.Validated) (hu : u ∈ r.tables) (hback : ¬TransGen (Relates r.tables) u u)
    (hc : job.Checked r t) (ho : job.Other r.tables u n) (h : Insertions quote r.tables whole (job.pending t) xs) :
    ∀ e ∈ xs, ¬e.statement.InsertsUnder u.name t.key (intText n) := by
  rintro e he ⟨row, hrow, hmem⟩
  have hrow : row ∈ rowsInto u.name (xs.map (·.statement)) := mem_rowsInto (List.mem_map_of_mem he) hrow
  rcases ho with ha | ⟨rfl, hne⟩
  · -- nothing is inserted there at all
    obtain ⟨done, hstart, hrows, -⟩ := rowsInto_insertions hr.wellFormed.names hu hback h (sorted hc (.inl ha))
    have hapart : ∀ p ∈ job.pending t, Apart r.tables u p.table := List.forall_mem_map.mpr fun _ _ => ha
    rw [entriesFor_apart hapart, List.prefix_nil] at hstart
    obtain ⟨item, hitem, -⟩ := exists_of_mem_mapM hrows hrow
    exact absurd (hstart ▸ hitem) List.not_mem_nil
  · have hsame := (mem_row hr hc (rowsOf_insertions hr hback hc h) hrow).mp hmem
    exact hne (intText_injective hsame.symm)

end Replacement

/-- Other replacements insert no row for an owner, and spare those that are there. -/
theorem alone_replacements (hr : r.Validated) (hu : u ∈ r.tables) (hback : ¬TransGen (Relates r.tables) u u)
    {jobs : List Replacement} (h : Replacements dialect r.tables t whole jobs xs)
    (hjobs : ∀ job ∈ jobs, job.Checked r t ∧ job.Other r.tables u n) :
    ∀ e ∈ xs, ¬e.statement.InsertsUnder u.name t.key (intText n) ∧ e.statement.Spares u.name t.key (intText n) := by
  have clears {job : Replacement} {whole : Bool} {xs : List Exchange} (hjob : job.Checked r t ∧ job.Other r.tables u n)
      (h : Clears dialect r.tables whole (job.clearance r.tables t) xs) (e : Exchange) (he : e ∈ xs) :=
    And.intro (Replacement.not_insertsUnder_clears hr h u.name t.key (intText n) e he)
      (Replacement.spares_clears hr hu hback hjob.1 hjob.2 h e he)
  have inserts {job : Replacement} {whole : Bool} {xs : List Exchange} (hjob : job.Checked r t ∧ job.Other r.tables u n)
      (h : Insertions dialect.quote r.tables whole (job.pending t) xs) (e : Exchange) (he : e ∈ xs) :=
    And.intro (Replacement.not_insertsUnder_insertions hr hu hback hjob.1 hjob.2 h e he)
      (spares_of_insertions h u.name t.key (intText n) e he)
  induction h with
  | done | cut => exact List.forall_mem_nil _
  | clearing cleared => exact clears (hjobs _ List.mem_cons_self) cleared
  | inserting cleared inserted =>
    have hjob := hjobs _ List.mem_cons_self
    exact List.forall_mem_append.mpr ⟨clears hjob cleared, inserts hjob inserted⟩
  | next cleared inserted _ ih =>
    rw [List.forall_mem_cons] at hjobs
    obtain ⟨hjob, hjobs⟩ := hjobs
    exact List.forall_mem_append.mpr ⟨clears hjob cleared, List.forall_mem_append.mpr ⟨inserts hjob inserted, ih hjobs⟩⟩

/-! ## Children that stay -/

/-- The children of an owner are inserted, the first ones or the whole, and stay: before the first of their rows there is none
under the owner's key, and from then on all are spared. -/
def Stay (quote : String) (tables : List Table) (u : Table) (column : String) (n : Int) (whole : Prop)
    (children : List Value) (statements : List Statement) : Prop :=
  ∃ before after, statements = before ++ after ∧ (∀ s ∈ before, ¬s.InsertsUnder u.name column (intText n)) ∧
    (∀ s ∈ after, s.Spares u.name column (intText n)) ∧
    RowsOf quote tables u (column, .int n) whole children (rowsUnder u.name column (intText n) after)

namespace Stay

variable {tables : List Table} {column : String} {whole : Prop} {children : List Value} {statements : List Statement}

/-- Nothing has been inserted. -/
theorem nothing (hw : ¬whole) (h : ∀ s ∈ statements, ¬s.InsertsUnder u.name column (intText n)) :
    Stay quote tables u column n whole children statements :=
  ⟨statements, [], (List.append_nil _).symm, h, List.forall_mem_nil _, [], List.nil_prefix, rfl, fun h => absurd h hw⟩

/-- What inserts no children may come first. -/
theorem prepend {first : List Statement} (h : ∀ s ∈ first, ¬s.InsertsUnder u.name column (intText n))
    (hs : Stay quote tables u column n whole children statements) :
    Stay quote tables u column n whole children (first ++ statements) := by
  obtain ⟨before, after, rfl, hbefore, rest⟩ := hs
  exact ⟨first ++ before, after, (List.append_assoc _ _ _).symm, List.forall_mem_append.mpr ⟨h, hbefore⟩, rest⟩

/-- The rows that are inserted are those of the children. -/
theorem rows (h : Stay quote tables u column n whole children statements) :
    RowsOf quote tables u (column, .int n) whole children (rowsUnder u.name column (intText n) statements) := by
  obtain ⟨before, after, rfl, hbefore, -, hrows⟩ := h
  rwa [rowsUnder_append, rowsUnder_eq_nil hbefore, List.nil_append]

/-- No row is deleted after one was inserted. -/
theorem pairwise (h : Stay quote tables u column n whole children statements) :
    statements.Pairwise fun s later =>
      s.InsertsUnder u.name column (intText n) → later.Spares u.name column (intText n) := by
  obtain ⟨before, after, rfl, hbefore, hafter, -⟩ := h
  refine List.pairwise_append.mpr ⟨?_, ?_, fun _ _ later hlater _ => hafter later hlater⟩
  · exact List.pairwise_of_forall_mem_list fun s hs _ _ h => absurd h (hbefore s hs)
  · exact List.pairwise_of_forall_mem_list fun _ _ later hlater _ => hafter later hlater

end Stay

/-- The children of an owner are inserted after those that were there have been deleted, and other replacements that follow leave
them alone. -/
theorem stay_of_replacements (hr : r.Validated) (hback : ¬TransGen (Relates r.tables) u u) {items : List Value}
    {jobs : List Replacement} (hc : Replacement.Checked r t ⟨n, u, items⟩)
    (hjobs : ∀ job ∈ jobs, job.Checked r t ∧ job.Other r.tables u n)
    (h : Replacements dialect r.tables t whole (⟨n, u, items⟩ :: jobs) xs) :
    Stay dialect.quote r.tables u t.key n (whole = true) items (xs.map (·.statement)) := by
  have clears {whole : Bool} {xs : List Exchange}
      (h : Clears dialect r.tables whole (Replacement.clearance r.tables t ⟨n, u, items⟩) xs) :
      ∀ s ∈ xs.map (·.statement), ¬s.InsertsUnder u.name t.key (intText n) :=
    List.forall_mem_map.mpr (Replacement.not_insertsUnder_clears hr h u.name t.key (intText n))
  have inserts {whole : Bool} {xs : List Exchange}
      (h : Insertions dialect.quote r.tables whole (Replacement.pending t ⟨n, u, items⟩) xs) :
      RowsOf dialect.quote r.tables u (t.key, .int n) (whole = true) items
        (rowsUnder u.name t.key (intText n) (xs.map (·.statement))) := by
    have hrows := Replacement.rowsOf_insertions hr hback hc h
    have hall : rowsUnder u.name t.key (intText n) (xs.map (·.statement)) = rowsInto u.name (xs.map (·.statement)) :=
      List.filter_eq_self.mpr fun row hrow => decide_eq_true ((Replacement.mem_row hr hc hrows hrow).mpr rfl)
    rw [hall]
    exact hrows
  cases h with
  | cut => exact .nothing (by decide) (List.forall_mem_nil _)
  | clearing cleared => exact .nothing (by decide) (clears cleared)
  | inserting cleared inserted =>
    rw [List.map_append]
    exact ⟨_, _, rfl, clears cleared, List.forall_mem_map.mpr (spares_of_insertions inserted _ _ _), inserts inserted⟩
  | next cleared inserted others =>
    have alone := alone_replacements hr hc.mem hback others hjobs
    rw [List.map_append]
    refine ⟨_, _, rfl, clears cleared, ?_, ?_⟩
    · exact List.forall_mem_map.mpr
        (List.forall_mem_append.mpr ⟨spares_of_insertions inserted _ _ _, fun e he => (alone e he).2⟩)
    · rw [List.map_append, rowsUnder_append, rowsUnder_eq_nil (List.forall_mem_map.mpr fun e he => (alone e he).1),
        List.append_nil]
      obtain ⟨done, hstart, hrows, hall⟩ := inserts inserted
      exact ⟨done, hstart, hrows, fun _ => hall rfl⟩

/-- A relation stands alone among those of an entry: no way through the relations leads to its table from the table itself, or from
the table of another one. In particular no other relation of the entry is to the same table. -/
structure StandsAlone (tables : List Table) (relations : List (Table × Value)) (u : Table) (value : Value) : Prop where
  others : ∃ before after, relations = before ++ (u, value) :: after ∧ ∀ other ∈ before ++ after, Apart tables u other.1
  back : ¬TransGen (Relates tables) u u

/-- The replacement for a relation of an entry was checked with the entry. -/
theorem Replaceable.replacement {relation : Table × Value} (h : Replaceable r t relation) (owner : Int) :
    Replacement.Checked r t ⟨owner, relation.1, relation.2.items?.getD []⟩ := by
  obtain ⟨hm, hd, items, hi, hc, hk⟩ := h
  rw [hi]
  exact ⟨hm, ⟨hd, owner, rfl⟩, hc, hk⟩

/-- The replacements in relations to tables that are apart are other ones. -/
theorem other_of_apart {relations : List (Table × Value)} (hrel : ∀ relation ∈ relations, Replaceable r t relation)
    (ha : ∀ relation ∈ relations, Apart r.tables u relation.1) (owner : Int) :
    ∀ job ∈ Replacement.ofRelations relations owner, job.Checked r t ∧ job.Other r.tables u n :=
  List.forall_mem_map.mpr fun relation hm => ⟨(hrel relation hm).replacement owner, .inl (ha relation hm)⟩

/-- So are those for other owners, in a relation that stands alone too. -/
theorem other_of_owners {before after : List (Table × Value)} {value : Value}
    (hrel : ∀ relation ∈ before ++ (u, value) :: after, Replaceable r t relation)
    (ha : ∀ relation ∈ before ++ after, Apart r.tables u relation.1) {ns : List Int} (hn : n ∉ ns) :
    ∀ job ∈ ns.flatMap (Replacement.ofRelations (before ++ (u, value) :: after)),
      job.Checked r t ∧ job.Other r.tables u n := by
  intro job hjob
  obtain ⟨owner, howner, hjob⟩ := List.mem_flatMap.mp hjob
  obtain ⟨relation, hm, rfl⟩ := List.mem_map.mp hjob
  refine ⟨(hrel relation hm).replacement owner, ?_⟩
  rw [List.mem_append, List.mem_cons] at hm
  rcases hm with hm | rfl | hm
  · exact .inl (ha relation (List.mem_append_left _ hm))
  · exact .inr ⟨rfl, fun he => hn (he ▸ howner)⟩
  · exact .inl (ha relation (List.mem_append_right _ hm))

/-- The children of one of the owners in a relation that stands alone stay. -/
theorem stay_of_owners (hr : r.Validated) {relations : List (Table × Value)}
    (hrel : ∀ relation ∈ relations, Replaceable r t relation) {value : Value} (ha : StandsAlone r.tables relations u value)
    {items : List Value} (hi : value.items? = some items) {ns : List Int} (hn : ns.count n = 1)
    (h : Replacements dialect r.tables t whole (ns.flatMap (Replacement.ofRelations relations)) xs) :
    Stay dialect.quote r.tables u t.key n (whole = true) items (xs.map (·.statement)) := by
  obtain ⟨⟨before, after, rfl, hothers⟩, hback⟩ := ha
  obtain ⟨earlier, later, rfl⟩ := List.append_of_mem (List.count_pos_iff.mp (hn ▸ Nat.one_pos))
  rw [List.count_append, List.count_cons_self] at hn
  have hearlier := other_of_owners hrel hothers (List.count_eq_zero.mp (show earlier.count n = 0 by omega))
  have hlater := other_of_owners hrel hothers (List.count_eq_zero.mp (show later.count n = 0 by omega))
  rw [List.forall_mem_append, List.forall_mem_cons] at hrel
  obtain ⟨hbefore, hown, hafter⟩ := hrel
  rw [List.forall_mem_append] at hothers
  have hchecked : Replacement.Checked r t ⟨n, u, items⟩ := by
    have := hown.replacement n
    rwa [hi] at this
  have hfirst := List.forall_mem_append.mpr ⟨hearlier, other_of_apart hbefore hothers.1 n⟩
  have hrest := List.forall_mem_append.mpr ⟨other_of_apart hafter hothers.2 n, hlater⟩
  simp only [Replacement.flatMap_ofRelations, hi, Option.getD_some] at h
  rcases h.split with ⟨rfl, hcut⟩ | ⟨ys, zs, rfl, hys, hzs⟩
  · have alone := alone_replacements hr hown.mem hback hcut hfirst
    exact .nothing (by decide) (List.forall_mem_map.mpr fun e he => (alone e he).1)
  · have alone := alone_replacements hr hown.mem hback hys hfirst
    rw [List.map_append]
    exact .prepend (List.forall_mem_map.mpr fun e he => (alone e he).1)
      (stay_of_replacements hr hback hchecked hrest hzs)

/-- The children of one of the owners that an update finds stay. -/
theorem stay_of_updates (hr : r.Validated) {conditions : List Condition} {relations : List (Table × Value)}
    (hrel : ∀ relation ∈ relations, Replaceable r t relation) {value : Value} (ha : StandsAlone r.tables relations u value)
    {items : List Value} (hi : value.items? = some items) {ns : List Int} (hn : ns.count n = 1)
    (h : Updates dialect r.tables t conditions relations whole xs)
    (hkeys : ∀ reply rest, xs = ⟨.selectKeys t.name t.key conditions, reply⟩ :: rest →
      reply.result >>= Result.keys t.key = .ok (ns.map .int)) :
    Stay dialect.quote r.tables u t.key n (whole = true) items (xs.map (·.statement)) := by
  have reading {table key : String} {cs : List Condition} :
      ¬(Statement.selectKeys table key cs).InsertsUnder u.name t.key (intText n) := fun ⟨_, hrow, _⟩ => by cases hrow
  cases h with
  | cut hw => exact .nothing (by simp [hw]) (List.forall_mem_nil _)
  | asked reply hw => exact .nothing (by simp [hw]) (List.forall_mem_singleton.mpr reading)
  | @replaced _ ns' assigned xs told assignments replaced =>
    have hsame : ns' = ns := List.map_injective_iff.mpr (fun _ _ he => Value.int.inj he)
      (Except.ok.inj (told.symm.trans (hkeys _ _ rfl)))
    subst hsame
    have first : ∀ s ∈ (assigned.map (·.statement)), ¬s.InsertsUnder u.name t.key (intText n) := by
      refine List.forall_mem_map.mpr fun e he => ?_
      obtain ⟨a, hassign⟩ := assignments e he
      rintro ⟨row, hrow, -⟩
      rw [hassign] at hrow
      cases hrow
    rw [List.map_cons, List.map_append]
    exact (stay_of_owners hr hrel ha hi hn replaced).prepend first |>.prepend (List.forall_mem_singleton.mpr reading)

/-! ## Updates of a client -/

/-- What was sent from one state to another, if it was as it may be expected. -/
theorem sends_since [MomentReader] {α : Type} {smooth P : Prop} {act : Work α} {Q : α → List Exchange → Prop}
    {F : List Exchange → Prop} (h : Sends (settled r) o smooth P act Q F) {s s' : Session} (hs : s.registry = r)
    {result : Except Fault α} (hrun : act.runFrom s = (result, s')) (hP : P) (hready : smooth → s.rest.connection.Ready o)
    (ha : Admissible r.tables (sentSince s s') s.rest.connection.script.replies)
    (hsuits : smooth → ∀ e ∈ exchanged (sentSince s s') s.rest.connection.script.replies, ∀ answer,
      e.reply.result = .ok answer → e.statement.Suits answer) :
    (∀ a, result = .ok a → Q a (exchanged (sentSince s s') s.rest.connection.script.replies)) ∧
      ∀ e, result = .error e → ¬smooth ∧ F (exchanged (sentSince s s') s.rest.connection.script.replies) := by
  obtain ⟨-, events, ht, hq⟩ := h s hs
  rw [hrun] at ht hq
  have hsent : sentSince s s' = statementsIn events := by
    change statementsIn (s'.rest.connection.trace.drop s.rest.connection.trace.length) = _
    rw [show s'.rest.connection.trace = s.rest.connection.trace ++ events from ht, List.drop_left]
  rw [hsent] at ha hsuits ⊢
  have hq := hq _ rfl hP hready fun e he =>
    ⟨fun _ hr => ha.exchanged he hr, fun hsmooth => hsuits hsmooth e he⟩
  cases result with
  | ok a => exact ⟨fun _ he => Except.ok.inj he ▸ hq.1, fun _ he => by cases he⟩
  | error e => exact ⟨fun _ he => (by cases he), fun _ _ => hq⟩

/-- What an update has sent, with the replies to it. -/
theorem updates_since [MomentReader] (hr : r.Validated) (ht : t ∈ r.tables) {filter : Value} (htruthy : filter.isTruthy = true)
    {conditions : List Condition} (hfilter : t.renderFilter o.dialect.quote filter = .ok (some conditions))
    {fields : Keyed Value} (hc : Table.checkEntry r.tables t none (.map fields) = .ok ()) (hk : (Value.map fields).KeysDiffer)
    {relations : List (Table × Value)} (hrel : relationsOf r.tables t fields = .ok relations) (hne : relations ≠ [])
    {s s' : Session} (hs : s.registry = r) {result : Except Fault Unit}
    (hrun : (updateRows o t filter (.map fields)).runFrom s = (result, s'))
    (ha : Admissible r.tables (sentSince s s') s.rest.connection.script.replies) :
    ∃ whole : Bool, (whole = true ↔ result = .ok ()) ∧ Updates o.dialect r.tables t conditions relations whole
      (exchanged (sentSince s s') s.rest.connection.script.replies) := by
  have sends : Sends (settled r) o False _ _ _ _ := sends_updateRows hr ht htruthy hfilter hc hk hrel hne
  obtain ⟨hok, herror⟩ := sends_since sends hs hrun False.elim False.elim ha False.elim
  cases result with
  | ok _ => exact ⟨true, by simp, hok _ rfl⟩
  | error e => exact ⟨false, by simp, (herror e rfl).2⟩

/-- An update replaces the children of every owner that it finds, in each relation of the entry that stands alone. The rows that
are inserted under the owner's key are those of the given children, each once and in turn: of all children if the update comes to
its end, otherwise of the first ones. No statement after the first of them deletes rows of their table that hold this key. And if
nothing fails on the connection, the keys that are told are integers, and the integers of the entry can be written, then the
update does come to its end. -/
theorem update_replaces_children [MomentReader] {o o' : Options} {s₀ s₁ s s' : Session} {report : Report}
    (hv : (Setting.runValidation (validation o')).runFrom s₀ = (.ok report, s₁)) (hs : s.registry = s₁.registry)
    (hd : ∀ t ∈ s.registry.tables, t.Distinct) {t u : Table} (ht : t ∈ s.registry.tables) {filter : Value}
    (htruthy : filter.isTruthy = true) {conditions : List Condition}
    (hfilter : t.renderFilter o.dialect.quote filter = .ok (some conditions)) {fields : Keyed Value}
    (hc : Table.checkEntry s.registry.tables t none (.map fields) = .ok ()) (hk : (Value.map fields).KeysDiffer)
    {relations : List (Table × Value)} (hrel : relationsOf s.registry.tables t fields = .ok relations) {value : Value}
    (ha : StandsAlone s.registry.tables relations u value) {children : List Value} (hi : value.items? = some children)
    {owners : List Int} {owner : Int}
    (hkeys : (s.rest.connection.waiting (.selectKeys t.name t.key conditions)).result >>= Result.keys t.key =
      .ok (owners.map .int)) (ho : owners.count owner = 1) {result : Except Fault Unit}
    (hrun : (updateRows o t filter (.map fields)).runFrom s = (result, s'))
    (hadmissible : Admissible s.registry.tables (sentSince s s') s.rest.connection.script.replies) :
    RowsOf o.dialect.quote s.registry.tables u (t.key, .int owner) (result = .ok ()) children
      (rowsUnder u.name t.key (intText owner) (sentSince s s')) ∧
    (sentSince s s').Pairwise (fun statement later =>
      statement.InsertsUnder u.name t.key (intText owner) → later.Spares u.name t.key (intText owner)) ∧
    (s.rest.connection.Ready o → (Value.map fields).checkWritable = .ok () →
      (∀ e ∈ exchanged (sentSince s s') s.rest.connection.script.replies, ∀ answer, e.reply.result = .ok answer →
        e.statement.Suits answer) → result = .ok ()) := by
  have hr : s.registry.Validated := hs ▸ validated_of_run (hs ▸ hd) hv
  have hne : relations ≠ [] := by
    obtain ⟨⟨before, after, rfl, -⟩, -⟩ := ha
    simp
  refine and_assoc.mp ⟨?_, fun hready hwritable hsuits => ?_⟩
  · obtain ⟨whole, hwhole, hupdates⟩ := updates_since hr ht htruthy hfilter hc hk hrel hne rfl hrun hadmissible
    have replaceable : ∀ relation ∈ relations, Replaceable s.registry t relation := fun _ =>
      replaceable_of_mem (fun e he => fieldsChecked hr ht hc e he rfl) hk.2 hrel
    have hstay := stay_of_updates hr replaceable ha hi ho hupdates fun reply rest h => first_exchanged h ▸ hkeys
    rw [map_statement_exchanged] at hstay
    exact ⟨propext hwhole ▸ hstay.rows, hstay.pairwise⟩
  · have sends : Sends (settled s.registry) o True _ _ _ _ := sends_updateRows hr ht htruthy hfilter hc hk hrel hne
    obtain ⟨-, herror⟩ := sends_since sends rfl hrun (fun _ => hwritable) (fun _ => hready) hadmissible fun _ => hsuits
    cases result with
    | ok _ => rfl
    | error e => exact absurd trivial (herror e rfl).1

/-! ## A client -/

/-- A plan that is stored is the one that is used. -/
theorem runFrom_planFor {s : Session} {plan : JoinPlan} (hp : s.registry.planFor? t.name = some plan) :
    (planFor t.name).runFrom s = (.ok plan, s) := by
  rw [planFor, runFrom_bind, Setting.runFrom_getRegistry]
  dsimp only
  rw [hp]
  rfl

/-- What a filter says is deleted. -/
theorem runFrom_deleteRows {s : Session} (hv : s.registry.phase = .valid) {filter : Value} (htruthy : filter.isTruthy = true)
    {conditions : List Condition} (hf : t.renderFilter o.dialect.quote filter = .ok (some conditions)) :
    (deleteRows o t filter).runFrom s =
      (clearTable o t conditions ((s.registry.tables.map (·.name)).filter (· ≠ t.name))).runFrom s := by
  unfold deleteRows
  split
  · cases htruthy
  · rw [htruthy]
    change (ensureValid o >>= fun _ => _).runFrom s = _
    rw [runFrom_bind, ensureValid, Setting.runFrom_ensureValid _ hv]
    dsimp only
    rw [hf]
    rfl

/-- The relations of a table are those of its plan. -/
theorem runFrom_clearTable {s : Session} {plan : JoinPlan} (hp : s.registry.planFor? t.name = some plan)
    (conditions : List Condition) (unvisited : List String) :
    (clearTable o t conditions unvisited).runFrom s =
      (clearRelations o t conditions unvisited none plan.relations >>= fun _ => ask o (.delete t.name conditions)).runFrom s := by
  rw [clearTable, runFrom_bind, runFrom_planFor hp]

/-- The rows of a table without relations are deleted by one statement. -/
theorem runFrom_clearTable_flat {s : Session} {plan : JoinPlan} (hp : s.registry.planFor? t.name = some plan)
    (hr : plan.relations = []) (conditions : List Condition) (unvisited : List String) :
    (clearTable o t conditions unvisited).runFrom s = (ask o (.delete t.name conditions)).runFrom s := by
  rw [runFrom_clearTable hp, hr, clearRelations]
  rfl

/-- Users whose posts and drafts both stand in the table of texts. -/
def writers : Table := ⟨"User", "userId", [⟨"name", "varchar(64)"⟩, ⟨"posts", "Post[]"⟩, ⟨"drafts", "Post[]"⟩], 0⟩

/-- Their texts. -/
def texts : Table := ⟨"Post", "postId", [⟨"title", "varchar(256)"⟩, ⟨"userId", "int"⟩], 1⟩

/-- Texts have no relations. -/
theorem not_relates_texts {tables : List Table} : ¬Relates tables texts u := by
  rintro ⟨⟨p, hp, spec, hs, hb, -⟩, -⟩
  simp only [texts, List.mem_cons, List.not_mem_nil, or_false] at hp
  rcases hp with rfl | rfl
  · cases hs
    cases hb
  · cases hs
    cases hb

/-- A client that has declared them. -/
def writersClient : Session := { blogClient with registry := { Registry.empty with tables := [writers, texts] } }

/-- The client after a validation; a user is waiting to be found. -/
def writersReady : Session :=
  let s := ((Setting.runValidation (validation blogOptions)).runFrom writersClient).2
  let found : Reply := { answer := .ok (.rows ["userId"] [[.int 1]]) }
  { s with rest := { s.rest with connection := s.rest.connection.withScript ⟨[found], [], none⟩ } }

theorem runFrom_validationWriters :
    (Setting.runValidation (validation blogOptions)).runFrom writersClient =
      (.ok ⟨[.missingTable "User", .missingTable "Post"], []⟩,
        ((Setting.runValidation (validation blogOptions)).runFrom writersClient).2) := rfl

theorem writers_distinct : ∀ t ∈ writersReady.registry.tables, t.Distinct := by
  change ∀ t ∈ [writers, texts], t.Distinct
  unfold Table.Distinct
  decide

/-- The waiting reply is admissible where the user is looked for first. -/
theorem admissible_writers [MomentReader] (conditions : List Condition) (statements : List Statement) :
    Admissible writersReady.registry.tables (.selectKeys "User" "userId" conditions :: statements)
      writersReady.rest.connection.script.replies := by
  intro e he answer hanswer
  rcases List.mem_cons.mp he with rfl | he
  · cases hanswer
    refine List.forall_mem_singleton.mpr fun v hv => ?_
    cases hv
    exact ⟨1, rfl⟩
  · rw [List.zipWith_nil_right] at he
    exact absurd he List.not_mem_nil

/-- The stored plan of the texts. -/
def textsPlan : JoinPlan := (writersReady.registry.planFor? "Post").get rfl

/-- The user. -/
def firstWriter : Value := .record [("userId", .int 1)]

/-- A text by its title. -/
def titled (title : String) : Value := .map [(.text "title", .text title)]

/-- The texts of the user are replaced by one. -/
def replaceText (title : String) : Work Unit := do
  discard (ask blogOptions (.delete "Post" [.equals "Post" "userId" "1"]))
  insertEntries blogOptions texts ("userId", .int 1) [titled title]

/-- One text in place of the old ones: they are deleted and it is inserted, and then the rest is replaced. -/
theorem runFrom_replaceText {s : Session} (hv : s.registry.phase = .valid) (hp : s.registry.planFor? "Post" = some textsPlan)
    (title : String) (others : List (Table × Value)) :
    (replaceRelations blogOptions writers ((texts, .list [titled title]) :: others) (.int 1)).runFrom s =
      (replaceText title >>= fun _ => replaceRelations blogOptions writers others (.int 1)).runFrom s := by
  have hdelete : (deleteRows blogOptions texts firstWriter).runFrom s =
      (ask blogOptions (.delete "Post" [.equals "Post" "userId" "1"])).runFrom s :=
    (runFrom_deleteRows hv rfl rfl).trans (runFrom_clearTable_flat (t := texts) hp rfl _ _)
  change (((deleteRows blogOptions texts firstWriter >>= fun _ => pure ()) >>= fun _ => _) >>= fun _ => _).runFrom s =
    (((ask _ _ >>= fun _ => pure ()) >>= fun _ => _) >>= fun _ => _).runFrom s
  simp only [runFrom_bind, hdelete]
  rfl

/-- The client once the user was found. -/
def writerFound : Session :=
  ((ask blogOptions (.selectKeys "User" "userId" [.equals "User" "userId" "1"])).runFrom writersReady).2

/-- An entry with a post. -/
def withPost : Keyed Value := [(.text "posts", .list [titled "First"])]

theorem titled_keysDiffer (title : String) : (titled title).KeysDiffer := ⟨List.pairwise_singleton _ _, trivial, trivial⟩

theorem withPost_keysDiffer : (Value.map withPost).KeysDiffer :=
  ⟨List.pairwise_singleton _ _, ⟨titled_keysDiffer _, trivial⟩, trivial⟩

/-- The client once the post was replaced. -/
def postReplaced : Session := ((replaceText "First").runFrom writerFound).2

theorem runFrom_updatePosts :
    (updateRows blogOptions writers firstWriter (.map withPost)).runFrom writersReady = (.ok (), postReplaced) := by
  have hfound : (updateRows blogOptions writers firstWriter (.map withPost)).runFrom writersReady =
      (replaceRelations blogOptions writers [(texts, .list [titled "First"])] (.int 1) >>= fun _ =>
        pure ()).runFrom writerFound := rfl
  have hlast : (replaceText "First" >>= fun _ => replaceRelations blogOptions writers [] (.int 1)).runFrom writerFound =
      (.ok (), postReplaced) := rfl
  rw [hfound, bind_pure_unit, runFrom_replaceText (by decide) (by decide +kernel), hlast]

theorem sentSince_updatePosts :
    sentSince writersReady postReplaced =
      [.selectKeys "User" "userId" [.equals "User" "userId" "1"], .delete "Post" [.equals "Post" "userId" "1"],
        .nextKey "Post" "postId", .insert "Post" ["postId", "title", "userId"] ["1", "'First'", "1"]] := by
  decide +kernel

/-- The one post of the user is inserted once, and not deleted again. -/
theorem update_replaces_children_posts :
    (updateRows blogOptions writers firstWriter (.map withPost)).runFrom writersReady = (.ok (), postReplaced) ∧
      rowsUnder "Post" "userId" "1" (sentSince writersReady postReplaced) = [[("title", "'First'"), ("userId", "1")]] ∧
      (sentSince writersReady postReplaced).Pairwise fun statement later =>
        statement.InsertsUnder "Post" "userId" "1" → later.Spares "Post" "userId" "1" := by
  have halone : StandsAlone writersReady.registry.tables [(texts, .list [titled "First"])] texts (.list [titled "First"]) := by
    refine ⟨⟨[], [], rfl, List.forall_mem_nil _⟩, fun hway => ?_⟩
    obtain ⟨u, hr, -⟩ := TransGen.head'_iff.mp hway
    exact not_relates_texts hr
  have hadmissible : Admissible writersReady.registry.tables (sentSince writersReady postReplaced)
      writersReady.rest.connection.script.replies := sentSince_updatePosts ▸ admissible_writers _ _
  obtain ⟨⟨done, -, hrows, hall⟩, hpairwise, -⟩ := @update_replaces_children _ blogOptions blogOptions _ _ writersReady _ _
    runFrom_validationWriters rfl writers_distinct writers texts List.mem_cons_self firstWriter rfl
    [.equals "User" "userId" "1"] rfl withPost rfl withPost_keysDiffer _ rfl _ halone [titled "First"] rfl [1] 1 rfl rfl
    (.ok ()) runFrom_updatePosts hadmissible
  refine ⟨runFrom_updatePosts, ?_, hpairwise⟩
  rw [hall rfl] at hrows
  exact (Except.ok.inj hrows).symm

end RelationMapper.Client
