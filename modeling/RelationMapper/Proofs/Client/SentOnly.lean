import RelationMapper.Proofs.Client.Keeping
import RelationMapper.Proofs.Client.Refusal

/-!
# Statements of one kind

Whether everything that was sent since a state is of a kind (`SentOnly`). A further statement of the kind may be sent
(`keeps_sentOnly`), and the gate may be passed if questions for columns are of the kind: a validation asks nothing else
(`keeps_sentOnly_ensureValid`).
-/

namespace RelationMapper.Client

open Act

variable {o : Options} {kind : Statement → Prop} {s₀ s : Session}

/-- Everything that was sent since a state is of a kind. -/
def SentOnly (kind : Statement → Prop) (s₀ s : Session) : Prop :=
  ∃ events, s.rest.connection.trace = s₀.rest.connection.trace ++ events ∧
    ∀ statement ∈ statementsIn events, kind statement

theorem SentOnly.refl : SentOnly kind s s := ⟨[], (List.append_nil _).symm, List.forall_mem_nil _⟩

/-- Each statement sent since a state is of the kind. -/
theorem SentOnly.sentSince (h : SentOnly kind s₀ s) : ∀ statement ∈ Client.sentSince s₀ s, kind statement := by
  obtain ⟨events, ht, hkind⟩ := h
  rwa [Client.sentSince, ht, List.drop_left]

/-- A further statement of the kind may be performed, however its reply is read. -/
theorem keeps_sentOnly_perform {α : Type} {statement : Statement} (hkind : kind statement) (read : Reply → Except Fault α) :
    Keeps (SentOnly kind s₀) (onConnection (Connection.perform o statement read)) := by
  rintro s ⟨events, ht, hsent⟩
  obtain ⟨more, ht', honly⟩ := Connection.statementsIn_perform o statement read s.rest.connection
  refine ⟨events ++ more, ?_, ?_⟩
  · rw [← List.append_assoc, ← ht]
    exact ht'
  · rw [statementsIn_append]
    exact List.forall_mem_append.mpr ⟨hsent, fun sent hm => honly sent hm ▸ hkind⟩

/-- A further statement of the kind may be sent. -/
theorem keeps_sentOnly {statement : Statement} (hkind : kind statement) :
    Keeps (SentOnly kind s₀) (onConnection (Connection.run o statement)) :=
  keeps_sentOnly_perform hkind _

/-- A comparison with the database asks for columns only. -/
theorem keeps_sentOnly_compareTables (hkind : ∀ table, kind (.columnsOf o.dialect table)) (strict : Bool) (report : Report)
    (tables : List Table) : Keeps (SentOnly kind s₀) (compareTables strict (readColumns o) report tables) := by
  induction tables generalizing report with
  | nil => exact Keeps.pure _
  | cons t tables ih =>
    refine ((keeps_sentOnly_perform (hkind t.name) _).bind fun _ => Keeps.lift _).bind fun _ => ?_
    exact (Keeps.lift _).bind fun report => ih report

/-- So does a validation, whatever comes of it. -/
theorem keeps_sentOnly_runValidation (hkind : ∀ table, kind (.columnsOf o.dialect table)) :
    Keeps (SentOnly kind s₀) (Setting.runValidation (validation o)) := by
  have change (f : Registry JoinPlan → Registry JoinPlan) : Keeps (SentOnly kind s₀) (Setting.changeRegistry f) :=
    fun _ hs => hs
  have validated : Keeps (SentOnly kind s₀) (validation o) := by
    refine keeps_tables_bind fun s _ => ?_
    have compared : Keeps (SentOnly kind s₀) (validate o.strict.isTruthy (readColumns o) s.registry.tables) :=
      (keeps_sentOnly_compareTables hkind _ _ _).bind fun _ => (Keeps.lift _).bind fun _ => Keeps.pure _
    refine compared.bind fun report => keeps_tables_bind fun _ _ => (Keeps.lift _).bind fun plans => ?_
    exact (change _).bind fun _ => Keeps.bind (fun _ hs => hs) fun _ => Keeps.pure _
  refine keeps_getRegistry.bind fun registry => (change _).bind fun _ => validated.outcome.bind fun verdict => ?_
  cases verdict with
  | ok report => exact (change _).bind fun _ => Keeps.pure _
  | error e => exact (change _).bind fun _ => Keeps.throw e

/-- So does the gate, whether the registry is valid or not. -/
theorem keeps_sentOnly_ensureValid (hkind : ∀ table, kind (.columnsOf o.dialect table)) :
    Keeps (SentOnly kind s₀) (ensureValid o) := by
  refine Keeps.discard (keeps_getRegistry.bind fun registry => ?_)
  cases registry.gate false false with
  | wait => exact Keeps.throw _
  | pass => exact Keeps.pure _
  | fail e => exact Keeps.throw e
  | validate => exact (keeps_sentOnly_runValidation hkind).bind fun _ => Keeps.pure _

end RelationMapper.Client
