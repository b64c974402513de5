import RelationMapper.Proofs.Client.History
import RelationMapper.Proofs.Client.SentOnly

/-!
# The gate over whole histories

Statements of callers and work on rows pass the gate: they are sent while the registry is valid, and a validation is run before
where one is due. This holds whatever has happened to the client before (`sent_while_valid`). Such a call is the validation, and
then, if that succeeds, the same call on a valid registry (`PassesFirst`); from there on the gate is open however often the call
comes to it, because nothing that is sent changes the registry (`keeps_gated`). A validation that fails ends the call with its
error, and the next call that comes to the gate validates again.
-/

namespace RelationMapper

/-- Whether a validation is due: the registry is not valid, and none is under way. -/
def Registry.Due (r : Registry JoinPlan) : Prop := r.phase ≠ .valid ∧ r.phase ≠ .validating

namespace Client

open Act

variable {α β : Type} {o : Options} {s s' s₀ : Session}

/-! ## Which calls come to the gate -/

/-- Whether a call on rows is turned away before it comes to the gate: there is nothing to insert, nothing to assign, or nothing
that says which rows are meant. -/
def RowCall.turnedAway : RowCall → Bool
  | .insert .null => true
  | .update filter entry => !filter.isTruthy || !entry.isTruthy
  | .delete filter => !filter.isTruthy
  | _ => false

/-- Whether a call comes to the gate. -/
def Call.comesToGate : Call → Bool
  | .ensureValid | .query _ _ | .nextKey _ => true
  | .rows _ call => !call.turnedAway
  | _ => false

/-- Whether a call neither comes to the gate nor forces a validation. -/
def Call.passesBy : Call → Bool
  | .validateAll => false
  | call => !call.comesToGate

/-- A call that is turned away does nothing. -/
theorem RowCall.runFrom_of_turnedAway [MomentReader] {call : RowCall} (h : call.turnedAway = true) (t : Table) (s : Session) :
    ((call.run o t).runFrom s).2 = s := by
  cases call with
  | select => cases h
  | selectMax => cases h
  | insert entry => cases entry <;> first | rfl | cases h
  | update filter entry =>
    change ((updateRows o t filter entry).runFrom s).2 = s
    unfold updateRows
    split
    · rfl
    · rfl
    · cases hf : filter.isTruthy with
      | false => rfl
      | true =>
        have he : entry.isTruthy = false := by simpa [RowCall.turnedAway, hf] using h
        rw [he]
        rfl
  | delete filter =>
    change ((Functor.discard (deleteRows o t filter)).runFrom s).2 = s
    have hf : filter.isTruthy = false := by simpa [RowCall.turnedAway] using h
    unfold deleteRows
    split
    · rfl
    · rw [hf]
      rfl

/-! ## Passing the gate first -/

/-- Whoever comes to the gate in the middle of a validation would wait for itself. -/
theorem runFrom_ensureValid_validating (o : Options) (h : s.registry.phase = .validating) :
    (ensureValid o).runFrom s = (.error .waitsForItself, s) := by
  change (Setting.supervise false false (validation o) >>= fun _ => pure ()).runFrom s = _
  rw [runFrom_bind, Setting.supervise, runFrom_bind, Setting.runFrom_getRegistry]
  dsimp only
  rw [Registry.gate, h]
  rfl

/-- Whoever has passed the gate finds a valid registry. -/
theorem phase_of_ensureValid (h : (ensureValid o).runFrom s = (.ok (), s')) : s'.registry.phase = .valid := by
  by_cases hv : s.registry.phase = .valid
  · rw [ensureValid, Setting.runFrom_ensureValid _ hv] at h
    cases h
    exact hv
  · by_cases hr : s.registry.phase = .validating
    · rw [runFrom_ensureValid_validating o hr] at h
      cases h
    · rw [runFrom_ensureValid_due o hv hr] at h
      have hleft := registry_runValidation o s
      cases hrun : (Setting.runValidation (validation o)).runFrom s with
      | mk verdict s₁ =>
        rw [hrun] at h hleft
        cases verdict with
        | error e => cases h
        | ok report =>
          cases h
          obtain ⟨plans, -, hr⟩ := hleft
          rw [hr]
          rfl

/-- Work that passes the gate, and then does what it would do if it began with the registry that it finds there. -/
def PassesFirst (o : Options) (act : Work α) : Prop :=
  ∀ s, act.runFrom s =
    match (ensureValid o).runFrom s with
    | (.ok _, s') => act.runFrom s'
    | (.error e, s') => (.error e, s')

theorem PassesFirst.gate (o : Options) : PassesFirst o (ensureValid o) := by
  intro s
  cases hgate : (ensureValid o).runFrom s with
  | mk verdict s' =>
    cases verdict with
    | error e => rfl
    | ok _ => exact (Setting.runFrom_ensureValid _ (phase_of_ensureValid hgate)).symm

/-- What passes the gate first does so whatever follows it. -/
theorem PassesFirst.bind {act : Work α} (h : PassesFirst o act) (f : α → Work β) : PassesFirst o (act >>= f) := by
  intro s
  rw [runFrom_bind, h s]
  cases hgate : (ensureValid o).runFrom s with
  | mk verdict s' =>
    cases verdict with
    | error e => rfl
    | ok _ => exact (runFrom_bind act f s').symm

theorem PassesFirst.ask (o : Options) (statement : Statement) : PassesFirst o (ask o statement) := (PassesFirst.gate o).bind _

/-- A call on rows passes the gate first, unless it is turned away. -/
theorem passesFirst_rowCall [MomentReader] (o : Options) (t : Table) {call : RowCall} (h : call.turnedAway = false) :
    PassesFirst o (call.run o t) := by
  cases call with
  | select filter ending => exact ((PassesFirst.gate o).bind _).bind _
  | selectMax column filter => exact ((PassesFirst.gate o).bind _).bind _
  | insert entry =>
    refine PassesFirst.bind ?_ _
    unfold insertRow
    split
    · cases h
    · exact (PassesFirst.gate o).bind _
  | update filter entry =>
    obtain ⟨hf, he⟩ : filter.isTruthy = true ∧ entry.isTruthy = true := by simpa [RowCall.turnedAway] using h
    change PassesFirst o (updateRows o t filter entry)
    unfold updateRows
    split
    · cases hf
    · cases he
    · rw [hf, he]
      exact (PassesFirst.gate o).bind _
  | delete filter =>
    have hf : filter.isTruthy = true := by simpa [RowCall.turnedAway] using h
    refine PassesFirst.bind ?_ _
    unfold deleteRows
    split
    · cases hf
    · rw [hf]
      exact (PassesFirst.gate o).bind _

/-- Every call that comes to the gate passes it first. -/
theorem passesFirst_call [MomentReader] (o : Options) {call : Call} (h : call.comesToGate = true) : PassesFirst o (call.run o) := by
  cases call with
  | ensureValid => exact PassesFirst.gate o
  | query statement quiet => exact ((PassesFirst.gate o).bind _).bind _
  | nextKey t => exact ((PassesFirst.ask o _).bind _).bind _
  | rows t call => exact passesFirst_rowCall o t (by simpa [Call.comesToGate] using h)
  | _ => cases h

/-! ## Sending while the registry is valid -/

/-- A client after it has sent a statement. -/
def sending (o : Options) (s : Session) (statement : Statement) : Session :=
  ((onConnection (Connection.run o statement)).runFrom s).2

/-- Statements are sent one after the other, each while the registry is valid. -/
inductive SentWhileValid (o : Options) (s : Session) : List Statement → Session → Prop where
  | start : SentWhileValid o s [] s
  | send {sent : List Statement} {s' : Session} (before : SentWhileValid o s sent s') (valid : s'.registry.phase = .valid)
      (statement : Statement) :
      SentWhileValid o s (sent ++ sentSince s' (sending o s' statement)) (sending o s' statement)

/-- What was sent is what the connection recorded. -/
theorem SentWhileValid.recorded {sent : List Statement} (h : SentWhileValid o s sent s') :
    ∃ events, s'.rest.connection.trace = s.rest.connection.trace ++ events ∧ statementsIn events = sent := by
  induction h with
  | start => exact ⟨[], (List.append_nil _).symm, rfl⟩
  | @send sent s' before valid statement ih =>
    obtain ⟨events, ht, hsent⟩ := ih
    obtain ⟨more, ht', -⟩ := Connection.statementsIn_perform o statement (·.result) s'.rest.connection
    change (sending o s' statement).rest.connection.trace = _ at ht'
    refine ⟨events ++ more, by rw [ht', ht, List.append_assoc], ?_⟩
    rw [statementsIn_append, hsent, sentSince, ht', List.drop_left]

/-- A valid registry, and statements that were sent while it was valid. -/
def Gated (o : Options) (s₀ s : Session) : Prop := s.registry.phase = .valid ∧ ∃ sent, SentWhileValid o s₀ sent s

/-- A statement that is sent while the registry is valid is one more of those. -/
theorem keeps_gated_sending (statement : Statement) :
    Keeps (Gated o s₀) (onConnection (Connection.run o statement)) := by
  rintro s ⟨hv, sent, h⟩
  exact ⟨hv, _, h.send hv statement⟩

/-- A valid registry lets pass. -/
theorem keeps_gated_gate : Keeps (Gated o s₀) (ensureValid o) := by
  intro s hs
  rw [ensureValid, Setting.runFrom_ensureValid _ hs.1]
  exact hs

/-- All that work on rows sends is sent while the registry is valid. -/
theorem keptByRowWork_gated (o : Options) (s₀ : Session) : KeptByRowWork o (fun _ _ _ => True) (Gated o s₀) where
  gate := keeps_gated_gate
  nextKey _ := keeps_gated_sending _
  insert _ _ _ _ _ _ _ _ := keeps_gated_sending _
  below _ _ _ _ _ _ _ _ _ _ _ := trivial
  keys _ _ _ := keeps_gated_sending _
  delete _ _ _ := keeps_gated_sending _
  cascade _ _ _ _ := keeps_gated_sending _
  update _ _ _ _ _ := keeps_gated_sending _
  select _ _ _ := keeps_gated_sending _
  selectMax _ _ _ := keeps_gated_sending _

/-- On a valid registry, a call that comes to the gate sends while the registry is valid, and leaves it valid. -/
theorem keeps_gated [MomentReader] {call : Call} (h : call.comesToGate = true) : Keeps (Gated o s₀) (call.run o) := by
  cases call with
  | ensureValid => exact keeps_gated_gate
  | query statement quiet => exact (keeps_query keeps_gated_gate (keeps_gated_sending _) quiet).discard
  | nextKey t => exact (keeps_nextKey keeps_gated_gate (keeps_gated_sending _)).discard
  | rows t call => exact keeps_rowCall (keptByRowWork_gated o s₀) t fun _ _ _ _ _ => trivial
  | _ => cases h

/-! ## Passing by the gate -/

/-- Where a validation is due, a change of the tables leaves it due. -/
theorem due_invalidate {r : Registry JoinPlan} (h : r.phase ≠ .validating) : r.invalidate.Due :=
  ⟨r.phase_invalidate_ne_valid, mt r.phase_invalidate_eq_validating.mp h⟩

/-- Where a validation is due, it still is after a call that passes by the gate. -/
theorem keeps_due [MomentReader] {call : Call} (h : call.passesBy = true) : KeepsRegistry Registry.Due (call.run o) := by
  cases call with
  | declare name key properties => exact (Session.keeps_declareTable (fun _ _ hs => due_invalidate hs.2) name key properties).discard
  | drop t => exact fun s hs => Registry.of_unregister hs (fun _ => due_invalidate hs.2) t.name
  | adminQuery statement quiet => exact (keeps_adminQuery statement quiet).discard
  | createTable t => exact keeps_createTable t
  | close => exact keeps_close
  | rows t call =>
    have haway : call.turnedAway = true := by simpa [Call.passesBy, Call.comesToGate] using h
    intro s hs
    change ((call.run o t).runFrom s).2.registry.Due
    rw [RowCall.runFrom_of_turnedAway haway]
    exact hs
  | _ => cases h

end Client

/-- Whether nothing is validated when something happens, and the registry is not declared valid. -/
def Incident.passesBy : Incident → Bool
  | .setValid valid => !valid
  | .turn ⟨_, call⟩ => call.passesBy

namespace Session

open Client Act

variable {o : Options} {s s' : Session} {call : Call}

/-- A client for which a new script begins; what was done before is forgotten. -/
def withScript (s : Session) (script : Script) : Session :=
  { s with rest := { s.rest with connection := s.rest.connection.withScript script } }

/-- A client that has come to the gate, and has validated there if that was due. -/
def pastGate (o : Options) (s : Session) : Session := ((ensureValid o).runFrom s).2

/-- A question for the columns of a table. -/
def AsksForColumns (o : Options) (statement : Statement) : Prop := ∃ table, statement = .columnsOf o.dialect table

/-- A call is a validation and, if that succeeds, the same call from there. -/
def ValidatesFirst [MomentReader] (o : Options) (call : Call) (s : Session) : Prop :=
  (call.run o).runFrom s =
    match (Setting.runValidation (validation o)).runFrom s with
    | (.ok _, s') => (call.run o).runFrom s'
    | (.error e, s') => (.error e, s')

/-- A call that comes to the gate validates first, if the registry is not valid. -/
theorem validatesFirst_of_due [MomentReader] (h : call.comesToGate = true) (hdue : s.registry.Due) : ValidatesFirst o call s := by
  rw [ValidatesFirst, passesFirst_call o h s, runFrom_ensureValid_due o hdue.1 hdue.2]
  cases (Setting.runValidation (validation o)).runFrom s with
  | mk verdict s' => cases verdict <;> rfl

/-- All that is sent at the gate are questions for columns; what is sent after it is sent while the registry is valid. -/
theorem sent_past_gate [MomentReader] (h : call.comesToGate = true) (s : Session) :
    (∀ statement ∈ sentSince s (s.pastGate o), AsksForColumns o statement) ∧
      ∃ sent, sentSince s ((call.run o).runFrom s).2 = sentSince s (s.pastGate o) ++ sent ∧
        SentWhileValid o (s.pastGate o) sent ((call.run o).runFrom s).2 := by
  have hmetadata : SentOnly (AsksForColumns o) s (s.pastGate o) := keeps_sentOnly_ensureValid (fun _ => ⟨_, rfl⟩) s .refl
  refine ⟨hmetadata.sentSince, ?_⟩
  obtain ⟨sent, hsent⟩ : ∃ sent, SentWhileValid o (s.pastGate o) sent ((call.run o).runFrom s).2 := by
    rw [passesFirst_call o h s, pastGate]
    cases hgate : (ensureValid o).runFrom s with
    | mk verdict s₁ =>
      cases verdict with
      | error e => exact ⟨[], .start⟩
      | ok _ => exact (keeps_gated h s₁ ⟨phase_of_ensureValid hgate, [], .start⟩).2
  refine ⟨sent, ?_, hsent⟩
  obtain ⟨events, ht, -⟩ := hmetadata
  obtain ⟨more, ht', rfl⟩ := hsent.recorded
  rw [sentSince, sentSince, ht', ht, List.append_assoc, List.drop_left, List.drop_left, statementsIn_append]

/-! ## Failures -/

/-- Whether a call validates: it forces a validation, or comes to the gate of a registry that is not valid. -/
def Validates (call : Call) (r : Registry JoinPlan) : Prop :=
  call = .validateAll ∨ (call.comesToGate = true ∧ r.phase ≠ .valid)

/-- A call that validates ends with the error of the validation if that fails. -/
theorem runFrom_of_failure [MomentReader] (h : Validates call s.registry) (hr : s.registry.phase ≠ .validating) {e : Fault}
    (hrun : (Setting.runValidation (validation o)).runFrom s = (.error e, s')) :
    (call.run o).runFrom s = (.error e, s') := by
  obtain rfl | ⟨hgate, hv⟩ := h
  · change (Client.validateAll o >>= fun _ => pure ()).runFrom s = _
    rw [runFrom_bind, runFrom_validateAll o hr, hrun]
  · rw [validatesFirst_of_due hgate ⟨hv, hr⟩, hrun]

/-- Where a validation is due, it still is after what passes by the gate. -/
theorem due_meet [MomentReader] {incident : Incident} (h : incident.passesBy = true) (hs : s.registry.Due) :
    (s.meet o incident).registry.Due := by
  cases incident with
  | setValid valid =>
    cases valid with
    | true => cases h
    | false => exact ⟨by simp [meet, Registry.setValid], Registry.phase_setValid_ne_validating _ _⟩
  | turn turn => exact keeps_due h _ hs

/-- A validation stays due through incidents that pass it by. -/
theorem due_foldl_meet [MomentReader] {between : List Incident} (h : ∀ incident ∈ between, incident.passesBy = true)
    (hs : s.registry.Due) : (between.foldl (meet o) s).registry.Due := by
  induction between generalizing s with
  | nil => exact hs
  | cons incident between ih =>
    rw [List.forall_mem_cons] at h
    exact ih h.2 (due_meet h.1 hs)

/-- The gate holds over whole histories. Whatever has happened to a client and whatever the database answers:

* a call that comes to the gate validates first, if the registry is not valid, and all that is sent by this are questions for
  columns; everything else that is sent on its behalf is sent while the registry is valid;
* a call on rows that does not come to the gate does nothing;
* a call whose validation fails sends nothing after the questions for columns, ends with the error of the validation, and leaves
  the registry invalid with this error; and whatever passes by the gate then, the next call that comes to it validates again. -/
theorem sent_while_valid [MomentReader] (o : Options) (history : List Incident) (script : Script) :
    (∀ call : Call, call.comesToGate = true →
      let s := (afterAll o history).withScript script
      let s' := ((afterAll o history).take o ⟨script, call⟩).2
      (s.registry.phase = .valid → s.pastGate o = s) ∧ (s.registry.phase ≠ .valid → ValidatesFirst o call s) ∧
        (∀ statement ∈ sentSince s (s.pastGate o), AsksForColumns o statement) ∧
        ∃ sent, sentSince s s' = sentSince s (s.pastGate o) ++ sent ∧ SentWhileValid o (s.pastGate o) sent s') ∧
    (∀ (t : Table) (call : RowCall), call.turnedAway = true →
      ((afterAll o history).take o ⟨script, .rows t call⟩).2 = (afterAll o history).withScript script) ∧
    (∀ (call : Call) (e : Fault) (s' : Session),
      let s := (afterAll o history).withScript script
      Validates call s.registry → (Setting.runValidation (validation o)).runFrom s = (.error e, s') →
      (afterAll o history).take o ⟨script, call⟩ = (.error e, s') ∧
        (∀ statement ∈ sentSince s s', AsksForColumns o statement) ∧
        s'.registry.phase = .invalid ∧ s'.registry.error = some e ∧
        ∀ between : List Incident, (∀ incident ∈ between, incident.passesBy = true) →
          ∀ (later : Script) (next : Call), next.comesToGate = true →
            ValidatesFirst o next ((between.foldl (meet o) s').withScript later)) := by
  have hrest : (afterAll o history).registry.phase ≠ .validating :=
    keptByHistory_notValidating.holds (by simp [Registry.empty]) o history
  refine ⟨fun call h => ⟨fun hv => ?_, fun hv => validatesFirst_of_due h ⟨hv, hrest⟩, sent_past_gate h _⟩, ?_, ?_⟩
  · rw [pastGate, ensureValid, Setting.runFrom_ensureValid _ hv]
  · exact fun t call haway => RowCall.runFrom_of_turnedAway haway t _
  · intro call e s' s h hrun
    have hregistry := registry_runValidation o s
    rw [hrun] at hregistry
    have hregistry : s'.registry = failed s.registry e := hregistry
    have hmetadata : SentOnly (AsksForColumns o) s s' := by
      have := keeps_sentOnly_runValidation (fun _ => ⟨_, rfl⟩) s (.refl : SentOnly (AsksForColumns o) s s)
      rwa [hrun] at this
    refine ⟨runFrom_of_failure h hrest hrun, hmetadata.sentSince, by rw [hregistry]; rfl, by rw [hregistry]; rfl, ?_⟩
    intro between hbetween later next hnext
    refine validatesFirst_of_due hnext ?_
    have hdue : s'.registry.Due := by
      rw [hregistry]
      exact ⟨by simp [failed], by simp [failed]⟩
    exact due_foldl_meet hbetween hdue

/-- The fault of a database that another connection holds. -/
def locked : Fault := .foreign ⟨.sqliteOperational, "database is locked"⟩

/-- A table is declared, and its columns cannot be read when a caller sends a statement: the fault is raised although the caller
asks for quiet, and the next statement validates again. -/
theorem sent_while_valid_locked :
    let declared : List Incident := [.turn ⟨silence, .declare "User" "userId" []⟩]
    let script : Script := ⟨[{ answer := .error locked }], [], none⟩
    let count : Call := .query (.given "SELECT COUNT(*) FROM User") true
    let s' := ((afterAll blogOptions declared).take blogOptions ⟨script, count⟩).2
    (afterAll blogOptions declared).take blogOptions ⟨script, count⟩ = (.error locked, s') ∧
      sentSince ((afterAll blogOptions declared).withScript script) s' = [.columnsOf .sqlite "User"] ∧
      s'.registry.phase = .invalid ∧ s'.registry.error = some locked ∧
      ValidatesFirst blogOptions count (s'.withScript silence) := by
  intro declared script count s'
  have hrun : (Setting.runValidation (validation blogOptions)).runFrom ((afterAll blogOptions declared).withScript script) =
      (.error locked, s') := rfl
  obtain ⟨-, -, hfailure⟩ := sent_while_valid blogOptions declared script
  obtain ⟨htake, -, hphase, herror, hnext⟩ := hfailure count locked s' (.inr ⟨rfl, by decide +kernel⟩) hrun
  exact ⟨htake, by decide +kernel, hphase, herror, hnext [] (List.forall_mem_nil _) silence count rfl⟩

end Session

end RelationMapper
