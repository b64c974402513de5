import RelationMapper.Proofs.Client.Refusal
import RelationMapper.Proofs.Exchange
import RelationMapper.Proofs.Schema.Created

/-!
# Created tables pass their own check

SQLite answers the question for the columns of a table that was created with the names and type texts of its declaration
(`Table.createdReply`). Read through the catalog and compared with the declaration, such an answer leaves nothing to report, for
all tables of a schema that its own checks let pass, whether the validation is strict or not (`created_tables_consistent`).
-/

namespace RelationMapper

open Act Client

/-- What SQLite answers to the question for the columns of a table that was created with the given columns. -/
def createdReply (columns : List (String × String)) : Reply := { answer := .ok (.rows catalogColumns (columns.map createdRow)) }

namespace Connection

variable {α : Type} {o : Options} {c : Connection}

/-- A reply without a fault that waits on a connection that can be opened is read, and the connection stays open. -/
theorem runFrom_perform_answered (s : Statement) (read : Reply → Except Fault α)
    (hopens : ∃ c', (ensureOpen o).runFrom c = (.ok (), c')) {reply : Reply}
    {more : List Reply} (hreplies : c.script.replies = reply :: more) (hfaultless : reply.Faultless) {a : α}
    (hread : read reply = .ok a) :
    ∃ c' events, (perform o s read).runFrom c = (.ok a, c') ∧ c'.isOpen = true ∧ c'.script.replies = more ∧
      c'.trace = c.trace ++ events ∧ statementsIn events = [s] := by
  obtain ⟨c₁, hopen⟩ := hopens
  obtain ⟨opening, ht, hquiet, hr, -⟩ := quiet_ensureOpen o c
  rw [hopen] at ht hr
  have hr : c₁.script.replies = reply :: more := hr.trans hreplies
  have hwaiting : c₁.waiting s = reply := by rw [waiting, hr]; rfl
  have hopened : c₁.isOpen = true := isOpen_of_ensureOpen hopen
  refine ⟨c₁.taken.after [.sent s, .commit], opening ++ [.sent s, .commit], ?_, hopened, ?_, ?_, ?_⟩
  · rw [perform_eq, runFrom_bind, hopen]
    dsimp only
    rw [runFrom_exchange, hwaiting, hfaultless.cursor, hread, hfaultless.commit]
  · rw [after, taken, hr]
    rfl
  · rw [after, taken, ← List.append_assoc, ← ht]
  · rw [statementsIn_append, hquiet]
    rfl

end Connection

/-- A table that passes the check of its properties has readable types. -/
theorem Table.readable_of_checked {tables : List Table} (hd : ∀ t ∈ tables, t.Distinct)
    (hduplicates : checkDuplicates [] [] tables = .ok ()) {t : Table}
    (hproperties : ∀ p ∈ t.properties, t.checkProperty tables p = .ok ()) : t.Readable := by
  intro p hp
  obtain ⟨spec, hs, hsupported⟩ := (Table.checkProperty_eq_ok (checkDuplicates_eq_ok.mp hduplicates).1 hd t p).mp
    (hproperties p hp)
  exact ⟨spec, hs, hsupported.ofColumn⟩

namespace Client

variable {o : Options} {t : Table} {s : Session}

/-- The columns of a table that was created are read as they were declared. -/
theorem runFrom_readColumns_created (ho : o.dialect = .sqlite) (h : t.Readable) {columns : List (String × String)}
    (hc : t.columnDeclarations = .ok columns) (hopens : ∃ c, (Connection.ensureOpen o).runFrom s.rest.connection = (.ok (), c))
    {more : List Reply} (hreplies : s.rest.connection.script.replies = createdReply columns :: more) :
    ∃ s' events, (readColumns o t.name).runFrom s = (.ok t.created, s') ∧ s'.rest.connection.isOpen = true ∧
      s'.rest.connection.script.replies = more ∧ s'.rest.connection.trace = s.rest.connection.trace ++ events ∧
      statementsIn events = [.columnsOf .sqlite t.name] := by
  obtain ⟨c, events, hrun, hopen, hmore, ht, hsent⟩ :=
    Connection.runFrom_perform_answered (.columnsOf o.dialect t.name) (·.result.map (·.recordsOrNone)) hopens hreplies
      ⟨⟨_, rfl⟩, rfl, rfl, rfl⟩ rfl
  refine ⟨{ s with rest := { s.rest with connection := c } }, events, ?_, hopen, hmore, ht, ho ▸ hsent⟩
  have hselect : (onConnection (Connection.select o (.columnsOf o.dialect t.name))).runFrom s =
      (.ok ((columns.map createdRow).map (Fields.ofRow catalogColumns)), { s with rest := { s.rest with connection := c } }) :=
    congrArg (fun run => (run.1, { s with rest := { s.rest with connection := run.2 } })) hrun
  rw [readColumns, runFrom_bind, hselect]
  dsimp only
  rw [runFrom_lift, ho, Table.mapM_ofRow_created h hc]

/-- A comparison of tables with what they were created with adds nothing to a report, and asks for the columns of each. -/
theorem runFrom_compareTables_created (ho : o.dialect = .sqlite) {tables : List Table} (hd : ∀ t ∈ tables, t.Distinct)
    (hkey : ∀ t ∈ tables, ¬t.Declares t.key) (hr : ∀ t ∈ tables, t.Readable) (strict : Bool) (report : Report)
    {columns : List (List (String × String))} (hc : tables.mapM (·.columnDeclarations) = .ok columns)
    (hopens : ∃ c, (Connection.ensureOpen o).runFrom s.rest.connection = (.ok (), c)) {more : List Reply}
    (hreplies : s.rest.connection.script.replies = columns.map createdReply ++ more) :
    ∃ s', (compareTables strict (readColumns o) report tables).runFrom s = (.ok report, s') ∧
      sentSince s s' = tables.map fun t => .columnsOf .sqlite t.name := by
  suffices hsuffices : ∃ s' events, (compareTables strict (readColumns o) report tables).runFrom s = (.ok report, s') ∧
      s'.rest.connection.trace = s.rest.connection.trace ++ events ∧
        statementsIn events = tables.map fun t => .columnsOf .sqlite t.name by
    obtain ⟨s', events, hrun, ht, hsent⟩ := hsuffices
    exact ⟨s', hrun, by rw [sentSince, ht, List.drop_left, hsent]⟩
  induction tables generalizing s columns with
  | nil => exact ⟨s, [], rfl, (List.append_nil _).symm, rfl⟩
  | cons t tables ih =>
    rw [List.forall_mem_cons] at hd hkey hr
    rw [List.mapM_cons] at hc
    obtain ⟨own, hown, hc⟩ := bind_eq_ok.mp hc
    obtain ⟨others, hothers, hc⟩ := bind_eq_ok.mp hc
    cases pure_eq_ok.mp hc
    obtain ⟨s₁, asking, hread, hopen, hmore, ht, hasked⟩ := runFrom_readColumns_created ho hr.1 hown hopens hreplies
    obtain ⟨s', events, hrun, ht', hsent⟩ :=
      ih hd.2 hkey.2 hr.2 hothers ⟨_, Connection.runFrom_ensureOpen hopen⟩ hmore
    refine ⟨s', asking ++ events, ?_, by rw [ht', ht, List.append_assoc], ?_⟩
    · rw [compareTables, runFrom_bind, hread]
      dsimp only
      rw [runFrom_bind, runFrom_lift, Table.findings_created hd.1 hkey.1 hr.1]
      exact hrun
    · rw [statementsIn_append, hasked, hsent]
      rfl

end Client

/-- Created tables pass their own check. Of every text that declares a column, the catalog reads the type and the precision that
the declaration says; and if SQLite answers for each table of a schema the names and type texts of the columns that it is created
with, in their order, then the comparison with the database adds neither a warning nor a flaw to a report and ends without a fault,
whether it is strict or not. -/
theorem created_tables_consistent :
    (∀ (text : String) (spec : TypeSpec), TypeSpec.parse text = .ok spec → spec.isPrimitive = true → spec.isArray = false →
      readDeclaredType text = .ok (spec.base, spec.precision)) ∧
    ∀ (o : Options) (tables : List Table), o.dialect = .sqlite → (∀ t ∈ tables, t.Distinct) →
      checkDuplicates [] [] tables = .ok () → (∀ t ∈ tables, ∀ p ∈ t.properties, t.checkProperty tables p = .ok ()) →
      (∀ t ∈ tables, ¬t.Declares t.key) →
      ∃ columns, tables.mapM (·.columnDeclarations) = .ok columns ∧
        ∀ (s : Session) (more : List Reply), (∃ c, (Connection.ensureOpen o).runFrom s.rest.connection = (.ok (), c)) →
          s.rest.connection.script.replies = columns.map createdReply ++ more →
          ∀ (strict : Bool) (report : Report),
            ∃ s', (compareTables strict (readColumns o) report tables).runFrom s = (.ok report, s') ∧
              sentSince s s' = tables.map fun t => .columnsOf .sqlite t.name := by
  refine ⟨fun text spec => readDeclaredType_of_parse, fun o tables ho hd hduplicates hproperties hkey => ?_⟩
  have hr : ∀ t ∈ tables, t.Readable := fun t ht => Table.readable_of_checked hd hduplicates (hproperties t ht)
  have hcolumns := mapM_eq_ok_map fun t ht => Table.columnDeclarations_eq (hr t ht)
  exact ⟨_, hcolumns, fun s more hopens hreplies strict report =>
    runFrom_compareTables_created ho hd hkey hr strict report hcolumns hopens hreplies⟩

/-- A client whose tables for users and posts have been created. -/
def blogCreated : Session :=
  let users := createdReply [("userId", "int"), ("name", "varchar(64)")]
  let posts := createdReply [("postId", "int"), ("title", "varchar(256)"), ("userId", "int")]
  { blogClient with rest := { blogClient.rest with connection := blogClient.rest.connection.withScript ⟨[users, posts], [], none⟩ } }

/-- Users and posts: a strict comparison with the tables that were created for them has nothing to report. -/
theorem created_tables_consistent_blog :
    ∃ s', (compareTables true (readColumns blogOptions) .empty blog).runFrom blogCreated = (.ok .empty, s') ∧
      sentSince blogCreated s' = [.columnsOf .sqlite "User", .columnsOf .sqlite "Post"] := by
  have hproperties : ∀ t ∈ blog, ∀ p ∈ t.properties, t.checkProperty blog p = .ok () := by
    intro t ht p hp
    exact (Table.checkProperty_eq_ok blog_wellFormed.names blog_distinct t p).mpr (blog_wellFormed.types t ht p hp)
  obtain ⟨columns, hcolumns, hcompared⟩ :=
    created_tables_consistent.2 blogOptions blog rfl blog_distinct rfl hproperties blog_keys_undeclared
  have hdeclared : blog.mapM (·.columnDeclarations) =
      .ok [[("userId", "int"), ("name", "varchar(64)")], [("postId", "int"), ("title", "varchar(256)"), ("userId", "int")]] := rfl
  obtain rfl := Except.ok.inj (hcolumns.symm.trans hdeclared)
  exact hcompared blogCreated [] ⟨_, Connection.runFrom_ensureOpen rfl⟩ rfl true .empty

end RelationMapper
