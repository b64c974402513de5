import RelationMapper.Proofs.Traffic

/-!
# Statements on a connection

Sending a statement behaves: it adds to what has been done, and what it brings is admissible for the statement, unless a driver
fails (`behaves_run`). Opening the connection before that is quiet: it sends nothing and uses no reply, however often it is
tried (`quiet_ensureOpen`).
-/

namespace RelationMapper.Connection

open Act

variable {α β : Type} {tables : List Table} {P : Prop}

/-- The connection alone, of which nothing has to stay. -/
def alone (tables : List Table) : Frame Connection := ⟨id, fun _ => True, tables⟩

/-! ## Opening -/

/-- Work that sends nothing and uses no reply. If `P` holds and all that goes wrong are faults of the driver, its faults are no
refusals. -/
def Quiet (P : Prop) (act : Act Connection α) : Prop :=
  ∀ c, ∃ events, (act.runFrom c).2.trace = c.trace ++ events ∧ statementsIn events = [] ∧
    (act.runFrom c).2.script.replies = c.script.replies ∧
    (P → c.script.Driven → (act.runFrom c).2.script.Driven ∧ ∀ e, (act.runFrom c).1 = .error e → e.isRefusal = false)

theorem Quiet.lift {r : Except Fault α} (h : P → Unrefused r) : Quiet P (Act.lift r) :=
  fun _ => ⟨[], (List.append_nil _).symm, rfl, rfl, fun hP hd => ⟨hd, h hP⟩⟩

theorem Quiet.pure (a : α) : Quiet P (pure a) := Quiet.lift fun _ => Only.ok a

theorem Quiet.throw {e : Fault} (h : P → e.isRefusal = false) : Quiet P (throw e : Act Connection α) :=
  Quiet.lift fun hP => Only.error (h hP)

theorem Quiet.weaken {act : Act Connection α} {P' : Prop} (h : Quiet P' act) (hp : P → P') : Quiet P act := by
  intro c
  obtain ⟨events, ht, hs, hr, hd⟩ := h c
  exact ⟨events, ht, hs, hr, fun hP => hd (hp hP)⟩

theorem Quiet.bind {act : Act Connection α} {f : α → Act Connection β} (h : Quiet P act) (hf : ∀ a, Quiet P (f a)) :
    Quiet P (act >>= f) := by
  intro c
  obtain ⟨events, ht, hs, hr, hd⟩ := h c
  rw [runFrom_bind]
  cases hrun : act.runFrom c with
  | mk r c₁ =>
    rw [hrun] at ht hr hd
    cases r with
    | error e =>
      refine ⟨events, ht, hs, hr, fun hP hc => ⟨(hd hP hc).1, fun e' he => ?_⟩⟩
      exact (hd hP hc).2 e' (congrArg _ (Except.error.inj he))
    | ok a =>
      obtain ⟨more, ht', hs', hr', hd'⟩ := hf a c₁
      refine ⟨events ++ more, by rw [ht', ht, List.append_assoc], ?_, hr'.trans hr, fun hP hc => hd' hP (hd hP hc).1⟩
      rw [statementsIn_append, hs, hs', List.append_nil]

/-- Work whose fault is looked at: what follows may count on the fault being no refusal. -/
theorem Quiet.outcome_bind {act : Act Connection α} {f : Except Fault α → Act Connection β} (h : Quiet P act)
    (hf : ∀ r, Quiet (P ∧ ∀ e, r = .error e → e.isRefusal = false) (f r)) : Quiet P (act.outcome >>= f) := by
  intro c
  obtain ⟨events, ht, hs, hr, hd⟩ := h c
  obtain ⟨more, ht', hs', hr', hd'⟩ := hf (act.runFrom c).1 (act.runFrom c).2
  rw [runFrom_bind, runFrom_outcome]
  refine ⟨events ++ more, by rw [ht', ht, List.append_assoc], ?_, hr'.trans hr, fun hP hc => ?_⟩
  · rw [statementsIn_append, hs, hs', List.append_nil]
  · exact hd' ⟨hP, (hd hP hc).2⟩ (hd hP hc).1

theorem quiet_emit {e : Event} (h : statementsIn [e] = []) : Quiet P (emit e) :=
  fun _ => ⟨[e], rfl, h, rfl, fun _ hd => ⟨hd, fun _ he => by cases he⟩⟩

/-- The outcome of an opening is a success or a fault of the driver. -/
theorem quiet_opening : Quiet P (nextOpening >>= raise) := by
  intro c
  rw [runFrom_bind, nextOpening, runFrom_bind, runFrom_get]
  dsimp only
  cases ho : c.script.openings with
  | nil => exact ⟨[], (List.append_nil _).symm, rfl, rfl, fun _ hd => ⟨hd, fun _ he => by cases he⟩⟩
  | cons opening rest =>
    have hrest : c.script.Driven → (Script.mk c.script.replies rest c.script.closing).Driven := fun hd =>
      ⟨hd.replies, fun e he => hd.openings e (ho ▸ List.mem_cons_of_mem _ he)⟩
    rw [runFrom_bind, runFrom_set]
    dsimp only
    rw [runFrom_pure]
    cases opening with
    | none => exact ⟨[], (List.append_nil _).symm, rfl, rfl, fun _ hd => ⟨hrest hd, fun _ he => by cases he⟩⟩
    | some e =>
      refine ⟨[], (List.append_nil _).symm, rfl, rfl, fun _ hd => ⟨hrest hd, fun e' he => ?_⟩⟩
      cases he
      exact Fault.isRefusal_of_isDriver (hd.openings e (ho ▸ List.mem_cons_self))

/-- Options that give no address have the wrong type. -/
theorem only_wrongType_ofOptions (o : Options) : Only (· = .wrongType) (Url.ofOptions o) := by
  have part : ∀ v, Only (· = .wrongType) (Url.textPart v) := by
    intro v e h
    cases v <;> cases h <;> rfl
  unfold Url.ofOptions
  split
  · exact (part _).bind fun _ _ => (part _).bind fun _ _ => (part _).bind fun _ _ => Only.ok _
  · exact (part _).bind fun _ _ => Only.ok _

/-- Making an address from options refuses nothing. -/
theorem unrefused_ofOptions (o : Options) : Unrefused (Url.ofOptions o) := by
  intro e h
  rw [only_wrongType_ofOptions o e h]
  rfl

/-- An attempt to connect is quiet. -/
theorem quiet_attempt (o : Options) : Quiet P (attempt o) :=
  (Quiet.lift fun _ => unrefused_ofOptions o).bind fun _ => (quiet_emit rfl).bind fun _ => quiet_opening

/-- A pause that cannot be computed is of the wrong type or too long. -/
theorem unrefused_times (a b : Value) : Unrefused (a.times b) := by
  have real : ∀ v : Value, Unrefused v.toReal := by
    intro v
    unfold Value.toReal
    repeat' split
    all_goals first | exact Only.ok _ | exact Only.error rfl
  have repeated : ∀ (n : Int) (v : Value), Unrefused (v.repeated n) := by
    have copied : ∀ {γ : Type} (n : Int) (parts : List γ), Unrefused (copies n parts) := by
      intro γ n parts
      unfold copies
      split
      · exact Only.error rfl
      · exact Only.ok _
    intro n v
    unfold Value.repeated
    split
    all_goals first | exact (copied _ _).bind fun _ _ => Only.ok _ | exact Only.error rfl
  unfold Value.times
  split
  · exact (real _).bind fun _ _ => (real _).bind fun _ _ => Only.ok _
  · exact (real _).bind fun _ _ => (real _).bind fun _ _ => Only.ok _
  · split
    · exact Only.ok _
    · exact repeated _ _
    · exact repeated _ _
    · exact Only.error rfl

/-- Attempts are quiet if each is and the pauses are. -/
theorem quiet_attempts {mayPass : Fault → Bool} {pause : Value → Act Connection Unit} {factor : Value}
    {call : Act Connection α} (hp : ∀ delay, Quiet True (pause delay)) (hc : Quiet True call) (calls : Nat) (delay : Value) :
    Quiet True (RetryPolicy.attempts mayPass pause factor call calls delay) := by
  induction calls generalizing delay with
  | zero => exact Quiet.pure none
  | succ calls ih =>
    refine hc.outcome_bind fun r => ?_
    cases r with
    | ok a => exact Quiet.pure (some a)
    | error e =>
      have again : Quiet True (pause delay >>= fun _ => Act.lift (delay.times factor) >>= fun delay =>
          RetryPolicy.attempts mayPass pause factor call calls delay) :=
        (hp delay).bind fun _ => (Quiet.lift fun _ => unrefused_times _ _).bind fun delay => ih delay
      dsimp only
      split
      · exact (Quiet.throw fun h => h.2 e rfl).bind fun _ => again.weaken fun _ => trivial
      · exact again.weaken fun _ => trivial

/-- Opening the connection, if it is not open, sends nothing. -/
theorem quiet_ensureOpen (o : Options) : Quiet True (ensureOpen o) := by
  have openUp : Quiet True (do
      let _ ← RetryPolicy.standard.run Fault.isConnection (fun pause => emit (.sleep pause)) (attempt o)
      modify fun c => { c with isOpen := true }) :=
    (quiet_attempts (fun _ => quiet_emit rfl) (quiet_attempt o) _ _).bind fun _ c =>
      ⟨[], (List.append_nil _).symm, rfl, rfl, fun _ hd => ⟨hd, fun _ he => by cases he⟩⟩
  intro c
  unfold ensureOpen
  rw [runFrom_bind, runFrom_get]
  dsimp only
  split
  · exact Quiet.pure () c
  · exact openUp c

/-- Quiet work behaves. -/
theorem Quiet.behaves [MomentReader] {act : Act Connection α} (h : Quiet P act) : Behaves (alone tables) P act fun _ => True := by
  intro c _
  obtain ⟨events, ht, hs, hr, hd⟩ := h c
  refine ⟨trivial, events, ht, fun hP hc _ => ?_⟩
  obtain ⟨hd', he⟩ := hd hP hc
  cases hrun : (act.runFrom c).1 with
  | ok a => exact ⟨trivial, hd', by rw [hs]; exact hr⟩
  | error e => exact he e hrun

/-! ## Sending -/

/-- Sends a statement on an open connection, reads its reply and ends the transaction. -/
def exchange (s : Statement) (read : Reply → Except Fault α) : Act Connection α := do
  let reply ← nextReply s
  raise reply.cursorFault
  emit (.sent s)
  match read reply with
  | .error e => rollBack e
  | .ok a =>
    emit .commit
    match reply.commitFault with
    | some e => rollBack e
    | none =>
      countCall
      return a

theorem perform_eq (o : Options) (s : Statement) (read : Reply → Except Fault α) :
    perform o s read = ensureOpen o >>= fun _ => exchange s read := rfl

/-- The reply that is waiting for a statement. -/
def waiting (c : Connection) (s : Statement) : Reply := c.script.replies.headD (Reply.default s)

/-- The connection once the waiting reply has been taken. -/
def taken (c : Connection) : Connection := { c with script := { c.script with replies := c.script.replies.tail } }

/-- The next reply is the one that is waiting for the statement, and it is taken. -/
theorem runFrom_nextReply (s : Statement) (c : Connection) : (nextReply s).runFrom c = (.ok (c.waiting s), c.taken) := by
  rw [nextReply, runFrom_bind, runFrom_get]
  dsimp only
  obtain ⟨isOpen, calls, ⟨replies, openings, closing⟩, trace⟩ := c
  cases replies <;> rfl

/-- A reply that no script gives has no faults but the driver's. -/
theorem driven_default (s : Statement) : (Reply.default s).Driven := by
  constructor
  all_goals
    intro e he
    cases he

/-- A reply of a script whose faults are faults of the driver has such faults only. -/
theorem driven_waiting {c : Connection} (h : c.script.Driven) (s : Statement) : (c.waiting s).Driven := by
  unfold waiting
  cases hr : c.script.replies with
  | nil => exact driven_default s
  | cons r rest => exact h.replies r (hr ▸ List.mem_cons_self)

theorem driven_taken {c : Connection} (h : c.script.Driven) : c.taken.script.Driven :=
  ⟨fun r hr => h.replies r (List.mem_of_mem_tail hr), h.openings⟩

/-- The waiting reply is admissible for the statement that is sent. -/
theorem admits_waiting [MomentReader] {c : Connection} {s : Statement} (h : Admissible tables [s] c.script.replies)
    {result : Result} (hr : (c.waiting s).result = .ok result) : s.Admits tables result := by
  unfold waiting at hr
  cases hc : c.script.replies with
  | nil =>
    rw [hc] at hr
    exact admits_default hr
  | cons r rest =>
    rw [hc] at h hr
    exact h (s, r) (by simp) result hr

/-- Reading the rows of a reply fails as the driver does. -/
theorem unrefused_result {r : Reply} (h : r.Driven) : Unrefused r.result := by
  unfold Reply.result
  refine Only.bind (fun e he => Fault.isRefusal_of_isDriver (h.answer e he)) fun answer _ => ?_
  cases answer with
  | count n => exact Only.ok _
  | rows columns cells =>
    dsimp only
    cases hf : r.readFault with
    | none => exact Only.ok _
    | some e => exact Only.error (Fault.isRefusal_of_isDriver (h.read e hf))

/-- The connection after a further call in which something was done. -/
def after (c : Connection) (events : List Event) : Connection :=
  { c with calls := c.calls + 1, trace := c.trace ++ events }

/-- The three ways in which an exchange ends once a cursor is there: reading fails, the commit fails, or neither. -/
theorem runFrom_exchange (s : Statement) (read : Reply → Except Fault α) (c : Connection) :
    (exchange s read).runFrom c =
      match (c.waiting s).cursorFault with
      | some e => (.error e, c.taken)
      | none =>
        match read (c.waiting s) with
        | .error e => (.error e, c.taken.after [.sent s, .rollback])
        | .ok a =>
          match (c.waiting s).commitFault with
          | some e => (.error e, c.taken.after [.sent s, .commit, .rollback])
          | none => (.ok a, c.taken.after [.sent s, .commit]) := by
  rw [exchange, runFrom_bind, runFrom_nextReply]
  dsimp only
  cases (c.waiting s).cursorFault with
  | some e => rfl
  | none =>
    cases read (c.waiting s) with
    | error e => simp [after, rollBack, emit, countCall, runFrom_bind, raise]
    | ok a =>
      cases (c.waiting s).commitFault with
      | some e => simp [after, rollBack, emit, countCall, runFrom_bind, raise]
      | none =>
        simp only [after, emit, countCall, raise, runFrom_bind, runFrom_pure, runFrom_modify, List.append_assoc]
        rfl

/-- An exchange brings what its reading makes of an admissible reply. -/
theorem behaves_exchange [MomentReader] {s : Statement} {read : Reply → Except Fault α} {Q : α → Prop}
    (hok : P → ∀ reply : Reply, (∀ result, reply.result = .ok result → s.Admits tables result) →
      ∀ a, read reply = .ok a → Q a)
    (herror : P → ∀ reply : Reply, reply.Driven → Unrefused (read reply)) :
    Behaves (alone tables) P (exchange s read) Q := by
  intro c _
  refine ⟨trivial, ?_⟩
  rw [runFrom_exchange]
  cases hcursor : (c.waiting s).cursorFault with
  | some e =>
    exact ⟨[], (List.append_nil _).symm, fun _ hd _ =>
      Fault.isRefusal_of_isDriver ((driven_waiting hd s).cursor e hcursor)⟩
  | none =>
    cases hread : read (c.waiting s) with
    | error e => exact ⟨[.sent s, .rollback], rfl, fun hP hd _ => herror hP _ (driven_waiting hd s) e hread⟩
    | ok a =>
      cases hcommit : (c.waiting s).commitFault with
      | some e =>
        exact ⟨[.sent s, .commit, .rollback], rfl, fun _ hd _ =>
          Fault.isRefusal_of_isDriver ((driven_waiting hd s).commit e hcommit)⟩
      | none =>
        exact ⟨[.sent s, .commit], rfl, fun hP hd ha =>
          ⟨hok hP _ (fun _ => admits_waiting ha) a hread, driven_taken hd, List.drop_one.symm⟩⟩

/-- Performing a statement behaves, if reading does so on every reply that the statement admits. -/
theorem behaves_perform [MomentReader] {s : Statement} {read : Reply → Except Fault α} {Q : α → Prop} (o : Options)
    (hok : P → ∀ reply : Reply, (∀ result, reply.result = .ok result → s.Admits tables result) →
      ∀ a, read reply = .ok a → Q a)
    (herror : P → ∀ reply : Reply, reply.Driven → Unrefused (read reply)) :
    Behaves (alone tables) P (perform o s read) Q := by
  rw [perform_eq]
  refine ((quiet_ensureOpen o).behaves.weaken fun _ => trivial).bind fun _ => ?_
  exact behaves_exchange (fun h => hok h.1) fun h => herror h.1

/-- Sending a statement brings what is admissible for the statement. -/
theorem behaves_run [MomentReader] (o : Options) (s : Statement) :
    Behaves (alone tables) P (run o s) fun result => s.Admits tables result :=
  behaves_perform o (fun _ _ hadmits => hadmits) fun _ _ => unrefused_result

/-- Sending a statement sends nothing else. -/
theorem statementsIn_perform (o : Options) (s : Statement) (read : Reply → Except Fault α) (c : Connection) :
    ∃ events, ((perform o s read).runFrom c).2.trace = c.trace ++ events ∧ ∀ sent ∈ statementsIn events, sent = s := by
  obtain ⟨opening, ht, hquiet, -⟩ := quiet_ensureOpen o c
  rw [perform_eq, runFrom_bind]
  cases hopen : (ensureOpen o).runFrom c with
  | mk verdict c₁ =>
    rw [hopen] at ht
    cases verdict with
    | error e => exact ⟨opening, ht, hquiet ▸ List.forall_mem_nil _⟩
    | ok _ =>
      obtain ⟨events, ht', hsent⟩ : ∃ events, ((exchange s read).runFrom c₁).2.trace = c₁.trace ++ events ∧
          ∀ sent ∈ statementsIn events, sent = s := by
        rw [runFrom_exchange]
        have once : ∀ sent ∈ [s], sent = s := List.forall_mem_singleton.mpr rfl
        cases (c₁.waiting s).cursorFault with
        | some e => exact ⟨[], (List.append_nil _).symm, List.forall_mem_nil _⟩
        | none =>
          cases read (c₁.waiting s) with
          | error e => exact ⟨[.sent s, .rollback], rfl, once⟩
          | ok a =>
            cases (c₁.waiting s).commitFault with
            | some e => exact ⟨[.sent s, .commit, .rollback], rfl, once⟩
            | none => exact ⟨[.sent s, .commit], rfl, once⟩
      refine ⟨opening ++ events, ht'.trans ?_, ?_⟩
      · rw [show c₁.trace = c.trace ++ opening from ht, List.append_assoc]
      · rwa [statementsIn_append, hquiet, List.nil_append]

end RelationMapper.Connection
