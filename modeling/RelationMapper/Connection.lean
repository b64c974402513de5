import RelationMapper.Retry
import RelationMapper.Statement
import RelationMapper.Url

/-!
# The connection

One connection to a database, opened by the first statement and used until it is closed. What the database will answer
is given as a `Script`; what is done with the connection is recorded as a list of `Event`s.

A statement is executed, its answer read, and the transaction committed; if any of this fails, the transaction is rolled
back and the failure is raised, whatever comes of the rollback. Either way it counts as one call and the connection
stays open.
-/

namespace RelationMapper

/-- What is done with a connection. -/
inductive Event where
  | connect
  | sleep (pause : Value)
  | sent (s : Statement)
  | commit
  | rollback
  | close

/-- What the database answers to a statement: rows under columns, or the number of rows that were changed. -/
inductive Answer where
  | rows (columns : List String) (cells : List (List Value))
  | count (n : Int)

/-- The answer to a statement, and the faults of the steps around it: getting a cursor, reading the rows, and ending the
transaction. -/
structure Reply where
  answer : Except Fault Answer
  cursorFault : Option Fault := none
  readFault : Option Fault := none
  commitFault : Option Fault := none
  rollbackFault : Option Fault := none

/-- What the database will do: its replies to statements, the outcomes of opening a connection, and that of closing it.
When the openings are used up, opening succeeds. -/
structure Script where
  replies : List Reply
  openings : List (Option Fault)
  closing : Option Fault

/-- A connection: whether it is open, the number of calls so far, what the database will do, and what has been done. -/
structure Connection where
  isOpen : Bool
  calls : Nat
  script : Script
  trace : List Event

/-- What a statement brings in: records under columns, or the number of rows that were changed. -/
inductive Result where
  | records (columns : List String) (rows : List Fields)
  | count (n : Int)

/-- The letter with which the upper-case form of a character begins, as far as ASCII letters go: beyond ASCII there are a
long s, whose upper-case form is an S, and a t with a mark above, whose upper-case form is a T and the mark. -/
def upperInitial (c : Char) : Char :=
  if c = '\u017f' then 'S' else if c = '\u1e97' then 'T' else c.toUpper

/-- Whether a statement asks for rows: it begins with the word for it, in letters of either case. -/
def asksForRows (text : String) : Bool :=
  ((text.toList.dropWhile Text.isBlank).take 6).map upperInitial == "SELECT".toList

/-- The reply to a statement for which the script has none: no rows, or no row changed. -/
def Reply.default (s : Statement) : Reply :=
  { answer := .ok (if asksForRows s.text then .rows [] [] else .count 0) }

namespace Result

/-- The records of a result; a count stands for none. -/
def recordsOrNone : Result → List Fields
  | .records _ rows => rows
  | .count _ => []

end Result

namespace Reply

/-- What the rows of a reply hold, or what goes wrong while they are read. -/
def result (r : Reply) : Except Fault Result := do
  match ← r.answer with
  | .count n => return .count n
  | .rows columns cells =>
    match r.readFault with
    | some e => throw e
    | none => return .records columns (cells.map (Fields.ofRow columns))

/-- The number of rows that a reply says were changed; rows that are answered count as minus one. -/
def changed (r : Reply) : Except Fault Int := do
  match ← r.answer with
  | .count n => return n
  | .rows _ _ => return -1

end Reply

namespace Connection

variable {α : Type}

/-- A connection that has not been opened. -/
def closed : Connection := ⟨false, 0, ⟨[], [], none⟩, []⟩

/-- A connection for which a new script begins; what was done before is forgotten. -/
def withScript (c : Connection) (script : Script) : Connection := { c with script, trace := [] }

/-- Records that something is done. -/
def emit (e : Event) : Act Connection Unit := modify fun c => { c with trace := c.trace ++ [e] }

/-- The reply to the next statement. -/
def nextReply (s : Statement) : Act Connection Reply := do
  let c ← get
  match c.script.replies with
  | [] => return Reply.default s
  | r :: rest =>
    set { c with script := { c.script with replies := rest } }
    return r

/-- The outcome of the next attempt to open a connection. -/
def nextOpening : Act Connection (Option Fault) := do
  let c ← get
  match c.script.openings with
  | [] => return none
  | o :: rest =>
    set { c with script := { c.script with openings := rest } }
    return o

/-- Raises a fault, if there is one. -/
def raise : Option Fault → Act Connection Unit
  | some e => throw e
  | none => return ()

/-- Attempts to open a connection. -/
def attempt (o : Options) : Act Connection Unit := do
  let _ ← Act.lift (Url.ofOptions o)
  emit .connect
  raise (← nextOpening)

/-- Opens the connection if it is not open. -/
def ensureOpen (o : Options) : Act Connection Unit := do
  if (← get).isOpen then return ()
  let _ ← RetryPolicy.standard.run Fault.isConnection (fun pause => emit (.sleep pause)) (attempt o)
  modify fun c => { c with isOpen := true }

/-- Counts a call. -/
def countCall : Act Connection Unit := modify fun c => { c with calls := c.calls + 1 }

/-- Rolls back after a failure, and raises it. A failure of the rollback itself is passed over. -/
def rollBack (e : Fault) : Act Connection α := do
  emit .rollback
  countCall
  throw e

/-- Executes a statement, reads its reply and ends the transaction. -/
def perform (o : Options) (s : Statement) (read : Reply → Except Fault α) : Act Connection α := do
  ensureOpen o
  let reply ← nextReply s
  raise reply.cursorFault
  emit (.sent s)
  match read reply with
  | .error e => rollBack e
  | .ok a =>
    emit .commit
    match reply.commitFault with
    | some e => rollBack e
    | none =>
      countCall
      return a

/-- Executes a statement for its records. -/
def select (o : Options) (s : Statement) : Act Connection (List Fields) := perform o s (·.result.map (·.recordsOrNone))

/-- Executes a statement for the number of rows that it changes. -/
def execute (o : Options) (s : Statement) : Act Connection Int := perform o s (·.changed)

/-- Executes a statement for whatever it answers. -/
def run (o : Options) (s : Statement) : Act Connection Result := perform o s (·.result)

/-- Closes the connection. It counts as closed even if closing fails. -/
def close : Act Connection Unit := do
  let c ← get
  if !c.isOpen then return ()
  emit .close
  modify fun c => { c with isOpen := false }
  raise c.script.closing

/-- Does some work and closes the connection, whatever comes of the work. -/
def closingAfter (work : Act Connection α) : Act Connection α := do
  let outcome ← work.outcome
  close
  Act.lift outcome

end Connection

end RelationMapper
