import RelationMapper.Proofs.Client.Keys
import RelationMapper.Proofs.Connection

/-!
# Exchanges

What a computation sends, statement by statement, and what is answered. `Act.Sends` says that the exchanges of a computation
that ends with a result are of one kind, and those of one that breaks off of another. Kinds of exchanges are put together as the
computation is (`Sends.bind`).

Where everything goes well, nothing breaks off. What has to go well is up to the database (`Connection.Ready`,
`Statement.Suits`); a proposition, `smooth`, says whether it is counted on. It is left open here, so that one walk through a
computation tells what is sent in any case and that it comes to its end in the best one.
-/

namespace RelationMapper

/-- A statement that was sent, and the reply that was waiting for it. -/
structure Exchange where
  statement : Statement
  reply : Reply

/-- Statements with the replies that wait for them, in turn. -/
def exchanged : List Statement → List Reply → List Exchange
  | [], _ => []
  | s :: statements, replies => ⟨s, replies.headD (.default s)⟩ :: exchanged statements replies.tail

@[simp] theorem exchanged_nil (replies : List Reply) : exchanged [] replies = [] := rfl

@[simp] theorem exchanged_cons (s : Statement) (statements : List Statement) (replies : List Reply) :
    exchanged (s :: statements) replies = ⟨s, replies.headD (.default s)⟩ :: exchanged statements replies.tail := rfl

/-- The statements of exchanges are those that were sent. -/
@[simp] theorem map_statement_exchanged (statements : List Statement) (replies : List Reply) :
    (exchanged statements replies).map (·.statement) = statements := by
  induction statements generalizing replies with
  | nil => rfl
  | cons s statements ih => simp [ih]

@[simp] theorem length_exchanged (statements : List Statement) (replies : List Reply) :
    (exchanged statements replies).length = statements.length := by
  rw [← List.length_map (·.statement), map_statement_exchanged]

/-- What holds of all statements holds of those that were exchanged. -/
theorem forall_exchanged {kind : Statement → Prop} {statements : List Statement} {replies : List Reply}
    (h : ∀ s ∈ statements, kind s) : ∀ e ∈ exchanged statements replies, kind e.statement := by
  rw [← map_statement_exchanged statements replies] at h
  exact List.forall_mem_map.mp h

/-- The first statement meets the reply that is waiting. -/
theorem first_exchanged {statements : List Statement} {replies : List Reply} {s : Statement} {reply : Reply}
    {rest : List Exchange} (h : exchanged statements replies = ⟨s, reply⟩ :: rest) : replies.headD (.default s) = reply := by
  cases statements with
  | nil => cases h
  | cons _ statements =>
    cases h
    rfl

/-- Further statements meet the replies that are left. -/
theorem exchanged_append (statements more : List Statement) (replies : List Reply) :
    exchanged (statements ++ more) replies =
      exchanged statements replies ++ exchanged more (replies.drop statements.length) := by
  induction statements generalizing replies with
  | nil => rfl
  | cons s statements ih =>
    rw [List.cons_append, exchanged_cons, ih, exchanged_cons, List.cons_append, List.length_cons, ← List.drop_one,
      List.drop_drop, Nat.add_comm]

/-- Replies that are admissible are admissible in each exchange. -/
theorem Admissible.exchanged [MomentReader] {tables : List Table} {statements : List Statement} {replies : List Reply}
    (h : Admissible tables statements replies) {e : Exchange} (he : e ∈ exchanged statements replies) {result : Result}
    (hr : e.reply.result = .ok result) : e.statement.Admits tables result := by
  induction statements generalizing replies with
  | nil => exact absurd he List.not_mem_nil
  | cons s statements ih =>
    cases replies with
    | nil =>
      rcases List.mem_cons.mp he with rfl | he
      · exact admits_default hr
      · exact @ih [] (fun _ hm => absurd hm (by simp)) he
    | cons r replies =>
      rw [Admissible, List.zip_cons_cons, List.forall_mem_cons] at h
      rcases List.mem_cons.mp he with rfl | he
      · exact h.1 result hr
      · exact ih h.2 he

/-- Replies that are admissible in each exchange are admissible. -/
theorem admissible_of_exchanged [MomentReader] {tables : List Table} {statements : List Statement} {replies : List Reply}
    (h : ∀ e ∈ exchanged statements replies, ∀ result, e.reply.result = .ok result → e.statement.Admits tables result) :
    Admissible tables statements replies := by
  induction statements generalizing replies with
  | nil => exact fun e he => absurd he List.not_mem_nil
  | cons s statements ih =>
    cases replies with
    | nil => exact fun e he => absurd he List.not_mem_nil
    | cons r replies =>
      rw [exchanged_cons, List.forall_mem_cons] at h
      rw [Admissible, List.zip_cons_cons, List.forall_mem_cons]
      exact ⟨h.1, ih h.2⟩

/-! ## Where everything goes well -/

/-- A reply to which no fault belongs. -/
structure Reply.Faultless (r : Reply) : Prop where
  answer : ∃ a, r.answer = .ok a
  cursor : r.cursorFault = none
  read : r.readFault = none
  commit : r.commitFault = none

/-- Such a reply can be read. -/
theorem Reply.Faultless.result {r : Reply} (h : r.Faultless) : ∃ result, r.result = .ok result := by
  obtain ⟨a, ha⟩ := h.answer
  unfold Reply.result
  cases a with
  | count n => exact ⟨.count n, by rw [ha]; rfl⟩
  | rows columns cells => exact ⟨.records columns (cells.map (Fields.ofRow columns)), by rw [ha, h.read]; rfl⟩

/-- A connection on which nothing fails: it is open or can be opened, and no fault belongs to any reply. -/
structure Connection.Ready (o : Options) (c : Connection) : Prop where
  opens : ∃ c', (Connection.ensureOpen o).runFrom c = (.ok (), c')
  replies : ∀ r ∈ c.script.replies, r.Faultless

/-- What has to be answered to a statement so that its sender can go on: keys are integers that can be written. -/
def Statement.Suits : Statement → Result → Prop
  | .nextKey _ _, result => ∃ n, result.keyAfter = .ok (.int n) ∧ Number.isTooLong n = false
  | .selectKeys _ key _, result => ∃ ns : List Int, result.keys key = .ok (ns.map .int) ∧ ∀ n ∈ ns, Number.isTooLong n = false
  | _, _ => True

/-- An exchange as it may be expected: the reply is admissible, and it suits if everything goes well. -/
structure Exchange.Expected [MomentReader] (tables : List Table) (smooth : Prop) (e : Exchange) : Prop where
  admits : ∀ result, e.reply.result = .ok result → e.statement.Admits tables result
  suits : smooth → ∀ result, e.reply.result = .ok result → e.statement.Suits result

/-! ## What computations send -/

namespace Act

variable {σ α β : Type} {frame : Frame σ} {o : Options} {smooth P P' : Prop} {Q Q' : α → List Exchange → Prop}
  {F F' : List Exchange → Prop} {R : β → List Exchange → Prop}

/-- A computation sends what `Q` says of its result and of its exchanges, if it ends with a result, and otherwise what `F` says;
and if everything goes well, it ends with a result. This holds under the condition `P`, for exchanges as they may be expected. In
any case the computation keeps what has to stay and only adds to what has been done. -/
def Sends [MomentReader] (frame : Frame σ) (o : Options) (smooth P : Prop) (act : Act σ α) (Q : α → List Exchange → Prop)
    (F : List Exchange → Prop) : Prop :=
  ∀ s, frame.stays s → frame.stays (act.runFrom s).2 ∧
    ∃ events, (frame.connection (act.runFrom s).2).trace = (frame.connection s).trace ++ events ∧
      ∀ sent, exchanged (statementsIn events) (frame.connection s).script.replies = sent →
        P → (smooth → (frame.connection s).Ready o) → (∀ e ∈ sent, e.Expected frame.tables smooth) →
        match (act.runFrom s).1 with
        | .ok a => Q a sent ∧ (smooth → (frame.connection (act.runFrom s).2).Ready o) ∧
            (frame.connection (act.runFrom s).2).script.replies =
              (frame.connection s).script.replies.drop (statementsIn events).length
        | .error _ => ¬smooth ∧ F sent

namespace Sends

theorem weaken [MomentReader] {act : Act σ α} (h : Sends frame o smooth P' act Q F) (hp : P → P') :
    Sends frame o smooth P act Q F := by
  intro s hs
  obtain ⟨hstays, events, ht, hq⟩ := h s hs
  exact ⟨hstays, events, ht, fun sent he hP => hq sent he (hp hP)⟩

/-- The exchanges may be said to be less than they are. -/
theorem mono [MomentReader] {act : Act σ α} (h : Sends frame o smooth P act Q' F') (hq : P → ∀ a xs, Q' a xs → Q a xs)
    (hf : P → ∀ xs, F' xs → F xs) : Sends frame o smooth P act Q F := by
  intro s hs
  obtain ⟨hstays, events, ht, hr⟩ := h s hs
  refine ⟨hstays, events, ht, fun sent he hP hready hexpected => ?_⟩
  have := hr sent he hP hready hexpected
  cases hrun : (act.runFrom s).1 with
  | ok a =>
    rw [hrun] at this
    exact ⟨hq hP a sent this.1, this.2⟩
  | error e =>
    rw [hrun] at this
    exact ⟨this.1, hf hP sent this.2⟩

/-- A result or fault that does not concern the state. -/
theorem lift [MomentReader] {r : Except Fault α} (h : P → Only (fun _ => ¬smooth) r) (hq : P → ∀ a, r = .ok a → Q a [])
    (hf : P → F []) : Sends frame o smooth P (Act.lift r) Q F := by
  intro s hs
  refine ⟨hs, [], (List.append_nil _).symm, ?_⟩
  rintro sent rfl hP hready -
  cases r with
  | ok a => exact ⟨hq hP a rfl, hready, rfl⟩
  | error e => exact ⟨h hP e rfl, hf hP⟩

theorem pure [MomentReader] {a : α} (h : P → Q a []) : Sends frame o smooth P (pure a : Act σ α) Q F := by
  intro s hs
  refine ⟨hs, [], (List.append_nil _).symm, ?_⟩
  rintro sent rfl hP hready -
  exact ⟨h hP, hready, rfl⟩

theorem throw [MomentReader] {e : Fault} (h : P → ¬smooth ∧ F []) : Sends frame o smooth P (throw e : Act σ α) Q F := by
  intro s hs
  refine ⟨hs, [], (List.append_nil _).symm, ?_⟩
  rintro sent rfl hP - -
  exact h hP

/-- A chain sends what its first part sends, and then what the rest does; the rest may count on what is known of the first. -/
theorem bind [MomentReader] {act : Act σ α} {f : α → Act σ β} (h : Sends frame o smooth P act Q F') (hF : P → ∀ xs, F' xs → F xs)
    (hf : ∀ a xs, Sends frame o smooth (P ∧ Q a xs) (f a) (fun b ys => R b (xs ++ ys)) fun ys => F (xs ++ ys)) :
    Sends frame o smooth P (act >>= f) R F := by
  intro s hs
  obtain ⟨hstays, events, ht, hq⟩ := h s hs
  rw [runFrom_bind]
  cases hrun : act.runFrom s with
  | mk r s₁ =>
    rw [hrun] at hstays ht hq
    cases r with
    | error e => exact ⟨hstays, events, ht, fun sent he hP hready hexpected =>
        (hq sent he hP hready hexpected).imp_right (hF hP sent)⟩
    | ok a =>
      obtain ⟨hstays', more, ht', hq'⟩ := hf a (exchanged (statementsIn events) (frame.connection s).script.replies) s₁ hstays
      refine ⟨hstays', events ++ more, by rw [ht', ht, List.append_assoc], ?_⟩
      rintro sent rfl hP hready hexpected
      rw [statementsIn_append, exchanged_append] at hexpected ⊢
      obtain ⟨hQ, hready', hreplies⟩ :=
        hq _ rfl hP hready fun e he => hexpected e (List.mem_append_left _ he)
      have hrest := hq' _ rfl ⟨hP, hQ⟩ hready' fun e he =>
        hexpected e (List.mem_append_right _ (hreplies ▸ he))
      rw [hreplies] at hrest
      cases hrun' : ((f a).runFrom s₁).1 with
      | error e =>
        rw [hrun'] at hrest
        exact hrest
      | ok b =>
        rw [hrun'] at hrest
        refine ⟨hrest.1, hrest.2.1, ?_⟩
        rw [hrest.2.2, List.drop_drop, List.length_append]

/-- A chain whose first part has a fixed outcome and does nothing else, in any state that matters. -/
theorem fixed_bind [MomentReader] {act : Act σ α} {r : Except Fault α} {f : α → Act σ β}
    (h : ∀ s, frame.stays s → act.runFrom s = (r, s)) (hr : P → Only (fun _ => ¬smooth) r) (hF : P → F [])
    (hf : ∀ a, r = .ok a → Sends frame o smooth P (f a) R F) : Sends frame o smooth P (act >>= f) R F := by
  intro s hs
  rw [runFrom_bind, h s hs]
  cases r with
  | ok a => exact hf a rfl s hs
  | error e =>
    refine ⟨hs, [], (List.append_nil _).symm, ?_⟩
    rintro sent rfl hP - -
    exact ⟨hr hP e rfl, hF hP⟩

/-- A chain that begins with what does not concern the state. -/
theorem lift_bind [MomentReader] {r : Except Fault α} {f : α → Act σ β} (h : P → Only (fun _ => ¬smooth) r) (hF : P → F [])
    (hf : ∀ a, r = .ok a → Sends frame o smooth P (f a) R F) : Sends frame o smooth P (Act.lift r >>= f) R F :=
  fixed_bind (fun _ _ => rfl) h hF hf

/-- A chain whose first part has a known result and does nothing else. -/
theorem known_bind [MomentReader] {act : Act σ α} {a : α} {f : α → Act σ β} (h : ∀ s, frame.stays s → act.runFrom s = (.ok a, s))
    (hf : Sends frame o smooth P (f a) R F) : Sends frame o smooth P (act >>= f) R F := by
  intro s hs
  rw [runFrom_bind, h s hs]
  exact hf s hs

/-- A computation whose result does not matter. -/
theorem discard [MomentReader] {act : Act σ α} (h : Sends frame o smooth P act Q F) :
    Sends frame o smooth P (discard act) (fun _ xs => ∃ a, Q a xs) F :=
  h.bind (fun _ _ hf => hf) fun a xs => Sends.pure fun hP => ⟨a, (List.append_nil xs).symm ▸ hP.2⟩

end Sends

end Act

/-! ## Statements on a connection -/

namespace Connection

open Act

variable {tables : List Table} {o : Options} {smooth P : Prop} {c c' : Connection}

/-- An open connection need not be opened. -/
theorem runFrom_ensureOpen (h : c.isOpen = true) : (ensureOpen o).runFrom c = (.ok (), c) := by
  rw [ensureOpen, runFrom_bind, runFrom_get]
  dsimp only
  rw [if_pos h]
  rfl

/-- A connection is open once it has been opened. -/
theorem isOpen_of_ensureOpen (h : (ensureOpen o).runFrom c = (.ok (), c')) : c'.isOpen = true := by
  rw [ensureOpen, runFrom_bind, runFrom_get] at h
  dsimp only at h
  split at h
  · case isTrue hc =>
    cases h
    exact hc
  · rw [runFrom_bind] at h
    cases hrun : (RetryPolicy.standard.run Fault.isConnection (fun pause => emit (.sleep pause)) (attempt o)).runFrom c with
    | mk r c₁ =>
      rw [hrun] at h
      cases r with
      | error e => cases h
      | ok a =>
        cases h
        rfl

/-- A reply that no script gives is faultless. -/
theorem faultless_default (s : Statement) : (Reply.default s).Faultless := ⟨⟨_, rfl⟩, rfl, rfl, rfl⟩

/-- The reply that is waiting on a connection that is ready is faultless. -/
theorem Ready.waiting (h : c.Ready o) (s : Statement) : (c.waiting s).Faultless := by
  unfold Connection.waiting
  cases hr : c.script.replies with
  | nil => exact faultless_default s
  | cons r rest => exact h.replies r (hr ▸ List.mem_cons_self)

/-- The connection alone, which has to stay open. -/
def opened (tables : List Table) : Frame Connection := ⟨id, fun c => c.isOpen = true, tables⟩

/-- On an open connection a statement is sent unless there is no cursor, and its reply read. -/
theorem sends_exchange [MomentReader] (s : Statement) :
    Sends (opened tables) o smooth P (exchange s Reply.result)
      (fun result xs => ∃ reply, xs = [⟨s, reply⟩] ∧ reply.result = .ok result ∧ Exchange.Expected tables smooth ⟨s, reply⟩)
      fun xs => xs = [] ∨ ∃ reply, xs = [⟨s, reply⟩] := by
  intro c hc
  rw [runFrom_exchange]
  have faultless (hready : smooth → c.Ready o) (hsmooth : smooth) : (c.waiting s).Faultless := (hready hsmooth).waiting s
  cases hcursor : (c.waiting s).cursorFault with
  | some e =>
    refine ⟨hc, [], (List.append_nil _).symm, ?_⟩
    rintro sent rfl - hready -
    refine ⟨fun hsmooth => ?_, .inl rfl⟩
    cases hcursor.symm.trans (faultless hready hsmooth).cursor
  | none =>
    cases hread : (c.waiting s).result with
    | error e =>
      refine ⟨hc, [.sent s, .rollback], rfl, ?_⟩
      rintro sent rfl - hready -
      refine ⟨fun hsmooth => ?_, .inr ⟨_, rfl⟩⟩
      obtain ⟨result, hresult⟩ := (faultless hready hsmooth).result
      cases hread.symm.trans hresult
    | ok result =>
      cases hcommit : (c.waiting s).commitFault with
      | some e =>
        refine ⟨hc, [.sent s, .commit, .rollback], rfl, ?_⟩
        rintro sent rfl - hready -
        refine ⟨fun hsmooth => ?_, .inr ⟨_, rfl⟩⟩
        cases hcommit.symm.trans (faultless hready hsmooth).commit
      | none =>
        refine ⟨hc, [.sent s, .commit], rfl, ?_⟩
        rintro sent rfl - hready hexpected
        refine ⟨⟨_, rfl, hread, hexpected _ List.mem_cons_self⟩, fun hsmooth => ?_, List.drop_one.symm⟩
        exact ⟨⟨_, runFrom_ensureOpen hc⟩, fun r hr => (hready hsmooth).replies r (List.mem_of_mem_tail hr)⟩

/-- Sending a statement is one exchange, unless the connection cannot be opened or there is no cursor. -/
theorem sends_run [MomentReader] (o : Options) (s : Statement) :
    Sends (alone tables) o smooth P (run o s)
      (fun result xs => ∃ reply, xs = [⟨s, reply⟩] ∧ reply.result = .ok result ∧ Exchange.Expected tables smooth ⟨s, reply⟩)
      fun xs => xs = [] ∨ ∃ reply, xs = [⟨s, reply⟩] := by
  intro c _
  refine ⟨trivial, ?_⟩
  obtain ⟨opening, ht, hsent, hreplies, -⟩ := quiet_ensureOpen o c
  rw [run, perform_eq, runFrom_bind]
  cases hopen : (ensureOpen o).runFrom c with
  | mk verdict c₁ =>
    rw [hopen] at ht hreplies
    cases verdict with
    | error e =>
      refine ⟨opening, ht, ?_⟩
      rintro sent rfl - hready -
      refine ⟨fun hsmooth => ?_, .inl (by rw [hsent]; rfl)⟩
      obtain ⟨_, hopens⟩ := (hready hsmooth).opens
      cases hopen.symm.trans hopens
    | ok u =>
      have hopened : c₁.isOpen = true := isOpen_of_ensureOpen (c := c) (o := o) hopen
      have hsends : Sends (opened tables) o smooth P (exchange s Reply.result) _ _ := sends_exchange s
      obtain ⟨-, events, ht', hq⟩ := hsends c₁ hopened
      refine ⟨opening ++ events, ht'.trans (by rw [← List.append_assoc]; exact congrArg (· ++ events) ht), ?_⟩
      rw [statementsIn_append, hsent, List.nil_append]
      rintro sent rfl hP hready hexpected
      have hq := hq _ (congrArg _ hreplies) hP (fun hsmooth => ?_) hexpected
      · rwa [show ((opened tables).connection c₁).script.replies = _ from hreplies] at hq
      · exact ⟨⟨_, runFrom_ensureOpen hopened⟩, fun r hr => (hready hsmooth).replies r (hreplies ▸ hr)⟩

end Connection

end RelationMapper
