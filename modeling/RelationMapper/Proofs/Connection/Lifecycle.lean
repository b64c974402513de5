import RelationMapper.Proofs.Connection.Opening

/-!
# The life of a statement

What a connection does for each call of a history, whatever the database does (`statement_lifecycle`). If no connection is open,
a statement opens one first. Once there is a cursor for it, it is sent and counted; it ends in one commit if it could be executed
and its answer read, and in one rollback if any of this, or the commit, failed. The caller sees that failure. The connection stays
open for the next statement, unless it could not be opened.
-/

namespace RelationMapper

open Act

/-! ## What is done -/

namespace Event

/-- A statement that is sent, for which there is a cursor. -/
def isSent : Event → Bool
  | .sent _ => true
  | _ => false

def isCommit : Event → Bool
  | .commit => true
  | _ => false

def isRollback : Event → Bool
  | .rollback => true
  | _ => false

theorem isSent_of_isOpening (e : Event) (h : e.isOpening = true) : e.isSent = false := by
  cases e <;> first | rfl | cases h

theorem isCommit_of_isOpening (e : Event) (h : e.isOpening = true) : e.isCommit = false := by
  cases e <;> first | rfl | cases h

theorem isRollback_of_isOpening (e : Event) (h : e.isOpening = true) : e.isRollback = false := by
  cases e <;> first | rfl | cases h

end Event

namespace Connection

/-! ## Calls -/

/-- The ways to execute a statement: for its records, for the number of rows that it changes, or for whatever it answers. -/
inductive Way where
  | select
  | execute
  | run

/-- What is asked of a connection. -/
inductive Call where
  | statement (way : Way) (s : Statement)
  | close

/-- What a call does, apart from what it answers. -/
def Call.act (o : Options) : Call → Act Connection Unit
  | .statement .select s => discard (select o s)
  | .statement .execute s => discard (execute o s)
  | .statement .run s => discard (run o s)
  | .close => Connection.close

/-- What goes wrong when a statement is executed. -/
def executing (r : Reply) : Option Fault :=
  match r.answer with
  | .error e => some e
  | .ok _ => none

/-- What goes wrong when its answer is read. There is nothing to read but rows, and these are not read for their number. -/
def Way.reading (way : Way) (r : Reply) : Option Fault :=
  match way, r.answer with
  | .select, .ok (.rows _ _) | .run, .ok (.rows _ _) => r.readFault
  | _, _ => none

/-- What goes wrong before a statement is committed. -/
def Way.working (way : Way) (r : Reply) : Option Fault := (executing r).or (way.reading r)

/-- What goes wrong with a statement for which there is a cursor. -/
def Way.failing (way : Way) (r : Reply) : Option Fault := (way.working r).or r.commitFault

/-! ## Steps -/

/-- A call, the connection before it, what comes of it, and the connection after it. -/
structure Step where
  call : Call
  before : Connection
  outcome : Except Fault Unit
  after : Connection

/-- The step that a call makes from a connection. -/
def Step.from (o : Options) (c : Connection) (call : Call) : Step :=
  ⟨call, c, ((call.act o).runFrom c).1, ((call.act o).runFrom c).2⟩

/-- The steps of calls that are made one after the other, whatever comes of each. -/
def history (o : Options) : Connection → List Call → List Step
  | _, [] => []
  | c, call :: calls => .from o c call :: history o (Step.from o c call).after calls

/-- The connection after all of the calls. -/
def afterAll (o : Options) (c : Connection) (calls : List Call) : Connection :=
  calls.foldl (fun c call => (Step.from o c call).after) c

namespace Step

/-- What was done in a step. -/
def events (t : Step) : List Event := t.after.trace.drop t.before.trace.length

/-- The number of attempts to open a connection. -/
def attempts (t : Step) : Nat := t.events.countP Event.isConnect

/-- The number of cursors that were opened: with each one a statement is sent. -/
def cursors (t : Step) : Nat := t.events.countP Event.isSent

def commits (t : Step) : Nat := t.events.countP Event.isCommit

def rollbacks (t : Step) : Nat := t.events.countP Event.isRollback

/-- What a step does for a statement. -/
structure StatementLaw (o : Options) (way : Way) (s : Statement) (t : Step) : Prop where
  /-- Nothing that was done before is forgotten. -/
  recorded : t.after.trace = t.before.trace ++ t.events
  /-- An open connection is used as it is, and stays open. -/
  reuses : t.before.isOpen = true → t.attempts = 0 ∧ t.after.isOpen = true
  /-- Without one, a connection is opened in a few attempts, if there is an address for it. It is open if the last of them
  succeeds, and otherwise it stays closed. -/
  opens : t.before.isOpen = false → t.attempts ≤ 3 ∧ ((∃ url, Url.ofOptions o = .ok url) → 0 < t.attempts) ∧
    (t.after.isOpen = true ↔ 0 < t.attempts ∧ t.before.lastFault t.attempts = none)
  /-- If it cannot be opened, this is a failure. -/
  unopened : t.after.isOpen = false → ∃ e, t.outcome = .error e
  /-- Once the connection is open, a cursor is opened, unless there is none to be had. -/
  cursor : t.cursors = if t.after.isOpen = true ∧ (t.before.waiting s).cursorFault = none then 1 else 0
  /-- With a cursor, a statement that was executed and whose answer was read is committed. -/
  commit : t.commits = if 0 < t.cursors ∧ way.working (t.before.waiting s) = none then 1 else 0
  /-- If anything fails, the commit included, it is rolled back. -/
  rollback : t.rollbacks = if 0 < t.cursors ∧ way.failing (t.before.waiting s) ≠ none then 1 else 0
  /-- The caller sees what failed, whatever comes of the rollback. -/
  seen : t.after.isOpen = true →
    t.outcome = verdict ((t.before.waiting s).cursorFault.or (way.failing (t.before.waiting s)))
  /-- Each cursor counts as a call. -/
  counted : t.after.calls = t.before.calls + t.cursors

/-- What a step does to close a connection: no more than that, and it is closed in any case. -/
structure ClosingLaw (t : Step) : Prop where
  recorded : t.after.trace = t.before.trace ++ t.events
  events : t.events = if t.before.isOpen = true then [.close] else []
  closed : t.after.isOpen = false
  counted : t.after.calls = t.before.calls

/-- What a step does. -/
def Lawful (o : Options) (t : Step) : Prop :=
  match t.call with
  | .statement way s => StatementLaw o way s t
  | .close => ClosingLaw t

end Step

/-! ## A statement -/

variable {α : Type} {events : List Event} {s : Statement}

/-- What is done to end a transaction in which a statement was sent. -/
def Way.ending (way : Way) (r : Reply) : List Event :=
  (if way.working r = none then [.commit] else []) ++ if way.failing r = none then [] else [.rollback]

theorem runFrom_discard (act : Act Connection α) (c : Connection) :
    (discard act).runFrom c = ((act.runFrom c).1.map fun _ => (), (act.runFrom c).2) := by
  change (act >>= fun _ => pure ()).runFrom c = _
  rw [runFrom_bind]
  cases act.runFrom c with
  | mk r c₁ => cases r <;> rfl

/-- An open connection after a statement: unless there was no cursor, the statement was sent and its transaction ended. -/
def concluded (way : Way) (s : Statement) (c : Connection) : Connection :=
  if (c.waiting s).cursorFault = none then c.taken.after (.sent s :: way.ending (c.waiting s)) else c.taken

/-- A concluded statement leaves its events behind, or none if there was no cursor for it. -/
theorem concluded_trace (way : Way) (s : Statement) (c : Connection) :
    (concluded way s c).trace =
      c.trace ++ if (c.waiting s).cursorFault = none then .sent s :: way.ending (c.waiting s) else [] := by
  unfold concluded
  split
  · rfl
  · exact (List.append_nil _).symm

/-- A concluded statement counts as one call, or as none if there was no cursor for it. -/
theorem concluded_calls (way : Way) (s : Statement) (c : Connection) :
    (concluded way s c).calls = c.calls + if (c.waiting s).cursorFault = none then 1 else 0 := by
  unfold concluded
  split <;> rfl

theorem concluded_isOpen (way : Way) (s : Statement) (c : Connection) : (concluded way s c).isOpen = c.isOpen := by
  unfold concluded
  split <;> rfl

/-- What reading a reply fails with, in each of the ways. -/
theorem act_statement (o : Options) (way : Way) (s : Statement) :
    ∃ (α : Type) (read : Reply → Except Fault α), (Call.statement way s).act o = discard (perform o s read) ∧
      ∀ r, ((read r).map fun _ => ()) = verdict (way.working r) := by
  have result (r : Reply) : (r.result.map fun _ => ()) = verdict (Way.run.working r) := by
    obtain ⟨answer, _, readFault, _, _⟩ := r
    rcases answer with e | ⟨columns, cells⟩ | n
    · rfl
    · cases readFault <;> rfl
    · rfl
  cases way with
  | select =>
    refine ⟨_, _, rfl, fun r => ?_⟩
    rw [show verdict (Way.select.working r) = verdict (Way.run.working r) by
      obtain ⟨answer, _, readFault, _, _⟩ := r
      rcases answer with e | ⟨columns, cells⟩ | n <;> rfl, ← result r]
    cases r.result <;> rfl
  | execute =>
    refine ⟨_, _, rfl, fun r => ?_⟩
    obtain ⟨answer, _, readFault, _, _⟩ := r
    rcases answer with e | ⟨columns, cells⟩ | n <;> rfl
  | run => exact ⟨_, _, rfl, result⟩

/-- On an open connection a statement meets the waiting reply. -/
theorem runFrom_discard_exchange {way : Way} {read : Reply → Except Fault α}
    (hread : ∀ r, ((read r).map fun _ => ()) = verdict (way.working r)) (s : Statement) (c : Connection) :
    (discard (exchange s read)).runFrom c =
      (verdict ((c.waiting s).cursorFault.or (way.failing (c.waiting s))), concluded way s c) := by
  have hread := hread (c.waiting s)
  rw [runFrom_discard, runFrom_exchange, concluded, Way.ending, Way.failing]
  cases (c.waiting s).cursorFault with
  | some e => rfl
  | none =>
    cases hr : read (c.waiting s) with
    | error e =>
      rw [hr] at hread
      cases hw : way.working (c.waiting s) with
      | none => exact nomatch hread.trans (congrArg verdict hw)
      | some e' =>
        cases hread.trans (congrArg verdict hw)
        rfl
    | ok a =>
      rw [hr] at hread
      cases hw : way.working (c.waiting s) with
      | some e => exact nomatch hread.trans (congrArg verdict hw)
      | none => cases (c.waiting s).commitFault <;> rfl

/-- A statement finds the connection open, or opens it. -/
theorem runFrom_statement (o : Options) (way : Way) (s : Statement) (c : Connection) :
    ((Call.statement way s).act o).runFrom c =
      match (ensureOpen o).runFrom c with
      | (.error e, c₁) => (.error e, c₁)
      | (.ok _, c₁) =>
        (verdict ((c₁.waiting s).cursorFault.or (way.failing (c₁.waiting s))), concluded way s c₁) := by
  obtain ⟨α, read, hact, hread⟩ := act_statement o way s
  rw [hact, runFrom_discard, perform_eq, runFrom_bind]
  cases (ensureOpen o).runFrom c with
  | mk r c₁ =>
    cases r with
    | error e => rfl
    | ok a =>
      dsimp only
      rw [← runFrom_discard_exchange hread s c₁, runFrom_discard]

/-! ## Numbers -/

/-- What is done to open a connection is nothing else. -/
theorem countP_opening {p : Event → Bool} (h : ∀ e ∈ events, e.isOpening = true)
    (hp : ∀ e, e.isOpening = true → p e = false) : events.countP p = 0 :=
  List.countP_eq_zero.mpr fun e he => ne_true_of_eq_false (hp e (h e he))

/-- A statement ends with a commit if nothing fails before it, and with a rollback if anything fails. -/
theorem countP_ending (p : Event → Bool) (way : Way) (r : Reply) :
    (way.ending r).countP p =
      (if p .commit = true ∧ way.working r = none then 1 else 0) +
        if p .rollback = true ∧ way.failing r ≠ none then 1 else 0 := by
  by_cases hw : way.working r = none <;> by_cases hf : way.failing r = none <;>
    simp [Way.ending, hw, hf, List.countP_cons, Nat.add_comm]

/-- What was done in a step that opened a connection and sent a statement, or only the former, in numbers. -/
structure Step.Counts (t : Step) (opening : List Event) (sent : Prop) [Decidable sent] (way : Way) (r : Reply) : Prop where
  recorded : t.after.trace = t.before.trace ++ t.events
  attempts : t.attempts = opening.countP Event.isConnect
  cursors : t.cursors = if sent then 1 else 0
  commits : t.commits = if 0 < t.cursors ∧ way.working r = none then 1 else 0
  rollbacks : t.rollbacks = if 0 < t.cursors ∧ way.failing r ≠ none then 1 else 0

theorem Step.events_eq {t : Step} (h : t.after.trace = t.before.trace ++ events) : t.events = events := by
  rw [Step.events, h, List.drop_left]

theorem Step.recorded_of {t : Step} (h : t.after.trace = t.before.trace ++ events) :
    t.after.trace = t.before.trace ++ t.events := by
  rw [Step.events_eq h]
  exact h

/-- What was done in a step counts as the opening events and, if a statement was sent, as that and its end. -/
theorem Step.counts {t : Step} (s : Statement) {sent : Prop} [Decidable sent] {way : Way} {r : Reply}
    (hopening : ∀ e ∈ events, e.isOpening = true)
    (ht : t.after.trace = t.before.trace ++ (events ++ if sent then .sent s :: way.ending r else [])) :
    t.Counts events sent way r := by
  have hevents := Step.events_eq ht
  have hsent := countP_opening hopening Event.isSent_of_isOpening
  have hcommit := countP_opening hopening Event.isCommit_of_isOpening
  have hrollback := countP_opening hopening Event.isRollback_of_isOpening
  refine ⟨Step.recorded_of ht, ?_, ?_, ?_, ?_⟩
  all_goals
    simp only [Step.attempts, Step.cursors, Step.commits, Step.rollbacks, hevents, List.countP_append, hsent, hcommit, hrollback]
    by_cases hs : sent <;>
      simp [hs, List.countP_cons, countP_ending, Event.isConnect, Event.isSent, Event.isCommit, Event.isRollback]

/-! ## Laws -/

/-- What every step for a statement does. -/
theorem statementLaw (o : Options) (c : Connection) (way : Way) (s : Statement) :
    Step.StatementLaw o way s (.from o c (.statement way s)) := by
  obtain ⟨opening, hopening⟩ := openingEnds o c
  have hrun := runFrom_statement o way s c
  cases hopen : (ensureOpen o).runFrom c with
  | mk r c₁ =>
    rw [hopen] at hopening hrun
    cases r with
    | error e =>
      have hclosed : c₁.isOpen = false := Bool.eq_false_iff.mpr fun h => nomatch hopening.ok_iff.mpr h
      rw [Step.from, hrun]
      have hcounts : Step.Counts ⟨.statement way s, c, .error e, c₁⟩ opening
          (c₁.isOpen = true ∧ (c.waiting s).cursorFault = none) way (c.waiting s) :=
        Step.counts s hopening.opening (by simpa [hclosed] using hopening.trace)
      exact {
        recorded := hcounts.recorded
        reuses := hcounts.attempts ▸ hopening.reuses
        opens := hcounts.attempts ▸ hopening.opens
        unopened := fun _ => ⟨e, rfl⟩
        cursor := hcounts.cursors
        commit := hcounts.commits
        rollback := hcounts.rollbacks
        seen := fun h => nomatch hclosed.symm.trans h
        counted := by simpa [hcounts.cursors, hclosed] using hopening.calls }
    | ok a =>
      have hopened : c₁.isOpen = true := hopening.ok_iff.mp rfl
      have hwaiting : c₁.waiting s = c.waiting s := by rw [waiting, hopening.replies, waiting]
      have hstays : (concluded way s c₁).isOpen = true := (concluded_isOpen way s c₁).trans hopened
      rw [Step.from, hrun]
      dsimp only
      rw [hwaiting]
      have hcounts : Step.Counts ⟨.statement way s, c, verdict ((c.waiting s).cursorFault.or (way.failing (c.waiting s))),
          concluded way s c₁⟩ opening ((concluded way s c₁).isOpen = true ∧ (c.waiting s).cursorFault = none) way
            (c.waiting s) :=
        Step.counts s hopening.opening (by
          dsimp only
          rw [concluded_trace, hwaiting, hopening.trace, List.append_assoc]
          simp only [hstays, true_and])
      have hisOpen : (concluded way s c₁).isOpen = c₁.isOpen := concluded_isOpen way s c₁
      exact {
        recorded := hcounts.recorded
        reuses := hcounts.attempts ▸ hisOpen ▸ hopening.reuses
        opens := hcounts.attempts ▸ hisOpen ▸ hopening.opens
        unopened := fun h => nomatch hstays.symm.trans h
        cursor := hcounts.cursors
        commit := hcounts.commits
        rollback := hcounts.rollbacks
        seen := fun _ => rfl
        counted := by
          rw [hcounts.cursors]
          exact (concluded_calls way s c₁).trans (by rw [hwaiting, hopening.calls]; simp only [hstays, true_and]) }

/-- Closing closes an open connection, even if this fails. -/
theorem runFrom_close (c : Connection) :
    close.runFrom c =
      match c.isOpen with
      | true => (verdict c.script.closing, { c with isOpen := false, trace := c.trace ++ [.close] })
      | false => (.ok (), c) := by
  rw [close, runFrom_bind, runFrom_get]
  dsimp only
  cases c.isOpen with
  | false => rfl
  | true => cases c.script.closing <;> simp [emit, raise, verdict, runFrom_bind]

/-- What every step that closes a connection does. -/
theorem closingLaw (o : Options) (c : Connection) : Step.ClosingLaw (.from o c .close) := by
  rw [Step.from, Call.act, runFrom_close]
  cases hopen : c.isOpen with
  | false =>
    have hrecorded : c.trace = c.trace ++ [] := (List.append_nil _).symm
    exact ⟨Step.recorded_of hrecorded, (Step.events_eq hrecorded).trans (by simp [hopen]), hopen, rfl⟩
  | true => exact ⟨Step.recorded_of rfl, (Step.events_eq rfl).trans (by simp [hopen]), rfl, rfl⟩

/-- What every step does. -/
theorem lawful (o : Options) (c : Connection) (call : Call) : (Step.from o c call).Lawful o := by
  cases call with
  | statement way s => exact statementLaw o c way s
  | close => exact closingLaw o c

/-! ## Histories -/

/-- The number of cursors that were opened in a history. -/
def cursorsIn (steps : List Step) : Nat := (steps.map Step.cursors).sum

/-- Closing a connection opens no cursor. -/
theorem Step.cursors_close {t : Step} (h : t.ClosingLaw) : t.cursors = 0 := by
  rw [Step.cursors, h.events]
  split <;> rfl

/-- A step adds to what was done, and to the number of calls one for each cursor. -/
theorem step_adds (o : Options) (c : Connection) (call : Call) :
    (Step.from o c call).after.trace = c.trace ++ (Step.from o c call).events ∧
      (Step.from o c call).after.calls = c.calls + (Step.from o c call).cursors := by
  cases call with
  | statement way s => exact ⟨(statementLaw o c way s).recorded, (statementLaw o c way s).counted⟩
  | close =>
    have h := closingLaw o c
    exact ⟨h.recorded, h.counted.trans (by rw [Step.cursors_close h]; rfl)⟩

/-- Whatever is asked of a connection, and whatever the database does, every step does what it should. A statement opens the
connection if it is not open; with a cursor it is sent, committed, rolled back and counted as `Step.StatementLaw` says. Closing
does no more than that. What was done in the steps is all that was done, and the calls are as many as the cursors. -/
theorem statement_lifecycle (o : Options) (c : Connection) (calls : List Call) :
    (∀ t ∈ history o c calls, t.Lawful o) ∧
      (history o c calls).map Step.call = calls ∧
      (afterAll o c calls).trace = c.trace ++ (history o c calls).flatMap Step.events ∧
      (afterAll o c calls).calls = c.calls + cursorsIn (history o c calls) := by
  induction calls generalizing c with
  | nil => exact ⟨List.forall_mem_nil _, rfl, (List.append_nil _).symm, rfl⟩
  | cons call calls ih =>
    obtain ⟨hlawful, hcalls, htrace, hcount⟩ := ih (Step.from o c call).after
    obtain ⟨hrecorded, hcounted⟩ := step_adds o c call
    refine ⟨List.forall_mem_cons.mpr ⟨lawful o c call, hlawful⟩, congrArg (call :: ·) hcalls, ?_, ?_⟩
    · rw [history, List.flatMap_cons, ← List.append_assoc, ← hrecorded]
      exact htrace
    · rw [history, cursorsIn, List.map_cons, List.sum_cons, ← Nat.add_assoc, ← hcounted]
      exact hcount

/-- Options for a database in a file. -/
def shopOptions : Options := ⟨.sqlite, .null, .null, .null, .text "shop.db", none, .int 0, .bool true, .records⟩

def notADatabase : Fault := .foreign ⟨.sqliteAny, "file is not a database"⟩

def noSuchTable : Fault := .foreign ⟨.sqliteOperational, "no such table: stok"⟩

def diskError : Fault := .foreign ⟨.sqliteOperational, "disk I/O error"⟩

def locked : Fault := .foreign ⟨.sqliteOperational, "database is locked"⟩

/-- A connection that fails at first. Then executing fails, and rolling back as well; reading fails; a commit fails; and the
fourth statement changes two rows. -/
def troubled : Connection where
  isOpen := false
  calls := 0
  script :=
    { replies :=
        [{ answer := .error noSuchTable, rollbackFault := some diskError },
          { answer := .ok (.rows ["n"] [[.int 1]]), readFault := some diskError },
          { answer := .ok (.rows ["n"] [[.int 1]]), commitFault := some locked },
          { answer := .ok (.count 2) }]
      openings := [some notADatabase]
      closing := none }
  trace := []

/-- What is asked of it: the statements, and to close it. -/
def errands : List Call :=
  [.statement .run (.given "SELECT n FROM stok"), .statement .run (.given "SELECT n FROM stok"),
    .statement .select (.given "SELECT n FROM stock"), .statement .execute (.given "SELECT n FROM stock"),
    .statement .execute (.given "UPDATE stock SET n = 2"), .close]

/-- The first statement is not sent, as the connection stays closed. The second one opens it; it is used for the others. -/
theorem statement_lifecycle_troubled :
    let steps := history shopOptions troubled errands
    (∀ t ∈ steps, t.Lawful shopOptions) ∧
      (afterAll shopOptions troubled errands).calls = 4 ∧
      steps.map Step.outcome =
        [.error notADatabase, .error noSuchTable, .error diskError, .error locked, .ok (), .ok ()] ∧
      steps.map (fun t => (t.attempts, t.cursors, t.commits, t.rollbacks, t.after.isOpen)) =
        [(1, 0, 0, 0, false), (1, 1, 0, 1, true), (0, 1, 0, 1, true), (0, 1, 1, 1, true), (0, 1, 1, 0, true),
          (0, 0, 0, 0, false)] := by
  obtain ⟨hlawful, -, -, hcalls⟩ := statement_lifecycle shopOptions troubled errands
  refine ⟨hlawful, hcalls.trans ?_, ?_, ?_⟩
  · rfl
  · rfl
  · rfl

end Connection

end RelationMapper
