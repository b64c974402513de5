import RelationMapper.Proofs.Exchange
import RelationMapper.Proofs.Retry

/-!
# Opening a connection

An open connection is used as it is. Otherwise there are a few attempts to open one, and what comes of the last of them decides
whether it is open (`openingEnds`). Nothing but attempts and pauses is done for this.
-/

namespace RelationMapper

open Act

namespace Event

/-- An attempt to open a connection. -/
def isConnect : Event → Bool
  | .connect => true
  | _ => false

/-- What is done to open a connection: attempts, and pauses between them. -/
def isOpening : Event → Bool
  | .connect | .sleep _ => true
  | _ => false

end Event

/-- The outcome of what may have gone wrong. -/
def verdict : Option Fault → Except Fault Unit
  | none => .ok ()
  | some e => .error e

namespace Connection

variable {o : Options} {c c' : Connection} {events : List Event}

/-- What goes wrong in the last of a number of attempts to open a connection. -/
def lastFault (c : Connection) (attempts : Nat) : Option Fault := c.script.openings[attempts - 1]?.join

/-- The connection after one attempt to open it. -/
def attempted (c : Connection) : Connection :=
  { c with script := { c.script with openings := c.script.openings.tail }, trace := c.trace ++ [.connect] }

/-- An attempt has the next outcome of the script; if there are none left, it succeeds. -/
theorem runFrom_attempt {url : Url} (h : Url.ofOptions o = .ok url) (c : Connection) :
    (attempt o).runFrom c = (verdict c.script.openings.head?.join, c.attempted) := by
  rw [attempt, h, runFrom_bind, runFrom_lift]
  obtain ⟨isOpen, calls, ⟨replies, openings, closing⟩, trace⟩ := c
  cases openings with
  | nil => rfl
  | cons opening rest => cases opening <;> rfl

/-- Without an address there is no attempt. -/
theorem runFrom_attempt_error {e : Fault} (h : Url.ofOptions o = .error e) (c : Connection) :
    (attempt o).runFrom c = (.error e, c) := by
  rw [attempt, h]
  rfl

/-- Attempts to open a connection: they change nothing else. -/
structure Attempted (c c' : Connection) (events : List Event) : Prop where
  trace : c'.trace = c.trace ++ events
  opening : ∀ e ∈ events, e.isOpening = true
  isOpen : c'.isOpen = c.isOpen
  calls : c'.calls = c.calls
  replies : c'.script.replies = c.script.replies

/-- The connection after a pause. -/
def paused (c : Connection) (pause : Value) : Connection := { c with trace := c.trace ++ [.sleep pause] }

theorem Attempted.once (c : Connection) : Attempted c c.attempted [.connect] :=
  ⟨rfl, List.forall_mem_singleton.mpr rfl, rfl, rfl, rfl⟩

theorem Attempted.pause (h : Attempted c c' events) (pause : Value) :
    Attempted c (c'.paused pause) (events ++ [.sleep pause]) where
  trace := by rw [← List.append_assoc, ← h.trace]; rfl
  opening := List.forall_mem_append.mpr ⟨h.opening, List.forall_mem_singleton.mpr rfl⟩
  isOpen := h.isOpen
  calls := h.calls
  replies := h.replies

theorem Attempted.trans {c'' : Connection} {more : List Event} (h : Attempted c c' events) (h' : Attempted c' c'' more) :
    Attempted c c'' (events ++ more) where
  trace := by rw [h'.trace, h.trace, List.append_assoc]
  opening := List.forall_mem_append.mpr ⟨h.opening, h'.opening⟩
  isOpen := h'.isOpen.trans h.isOpen
  calls := h'.calls.trans h.calls
  replies := h'.replies.trans h.replies

/-- Attempts to open a connection, with pauses between them. -/
def attempts (o : Options) (factor : Value) (n : Nat) (delay : Value) : Act Connection (Option Unit) :=
  RetryPolicy.attempts Fault.isConnection (fun pause => emit (.sleep pause)) factor (attempt o) n delay

/-- The first attempt settles it, or there are others after a pause. -/
theorem runFrom_attempts_succ {url : Url} (h : Url.ofOptions o = .ok url) (factor : Value) (n : Nat) (delay : Value)
    (c : Connection) :
    (attempts o factor (n + 1) delay).runFrom c =
      match c.lastFault 1 with
      | none => (.ok (some ()), c.attempted)
      | some e =>
        if !e.isConnection || n = 0 then (.error e, c.attempted)
        else (Act.lift (delay.times factor) >>= attempts o factor n).runFrom (c.attempted.paused delay) := by
  rw [attempts, RetryPolicy.runFrom_attempts_succ, runFrom_attempt h, lastFault, List.head?_eq_getElem?]
  cases c.script.openings[0]?.join with
  | none => rfl
  | some e => rfl

/-- The openings that are left after an attempt are those behind the first one. -/
theorem lastFault_attempted {n : Nat} (h : 0 < n) (c : Connection) (pause : Value) :
    (c.attempted.paused pause).lastFault n = c.lastFault (n + 1) := by
  change c.script.openings.tail[n - 1]?.join = c.script.openings[n + 1 - 1]?.join
  rw [List.getElem?_tail, Nat.sub_add_cancel h, Nat.add_sub_cancel]

/-- A number of attempts on a connection: they end with the last one, and with a result if that succeeds. -/
structure AttemptsEnd (c : Connection) (run : Except Fault (Option Unit) × Connection) (greatest : Nat)
    (events : List Event) : Prop where
  attempted : Attempted c run.2 events
  pos : 0 < events.countP Event.isConnect
  le : events.countP Event.isConnect ≤ greatest
  ok_iff : (∃ a, run.1 = .ok a) ↔ c.lastFault (events.countP Event.isConnect) = none

/-- A single attempt. -/
theorem AttemptsEnd.once {r : Except Fault (Option Unit)} {greatest : Nat} (h : 1 ≤ greatest)
    (hr : (∃ a, r = .ok a) ↔ c.lastFault 1 = none) : AttemptsEnd c (r, c.attempted) greatest [.connect] :=
  ⟨.once c, Nat.zero_lt_one, h, hr⟩

/-- Attempts come to an end, after no more of them than are allowed. -/
theorem attemptsEnd {url : Url} (h : Url.ofOptions o = .ok url) (factor : Value) (n : Nat) (delay : Value)
    (c : Connection) : ∃ events, AttemptsEnd c ((attempts o factor (n + 1) delay).runFrom c) (n + 1) events := by
  induction n generalizing c delay with
  | zero =>
    rw [runFrom_attempts_succ h]
    cases hfault : c.lastFault 1 with
    | none => exact ⟨_, .once (Nat.le_refl 1) ⟨fun _ => hfault, fun _ => ⟨_, rfl⟩⟩⟩
    | some e =>
      simp only [decide_true, Bool.or_true, if_true]
      exact ⟨_, .once (Nat.le_refl 1) (by rw [hfault]; exact ⟨nofun, nofun⟩)⟩
  | succ n ih =>
    rw [runFrom_attempts_succ h]
    cases hfault : c.lastFault 1 with
    | none => exact ⟨_, .once (Nat.le_add_left 1 _) ⟨fun _ => hfault, fun _ => ⟨_, rfl⟩⟩⟩
    | some e =>
      dsimp only
      split
      · exact ⟨_, .once (Nat.le_add_left 1 _) (by rw [hfault]; exact ⟨nofun, nofun⟩)⟩
      · have paused : Attempted c (c.attempted.paused delay) ([.connect] ++ [.sleep delay]) := (Attempted.once c).pause delay
        rw [runFrom_bind, runFrom_lift]
        cases delay.times factor with
        | error e' =>
          refine ⟨_, paused, Nat.zero_lt_one, Nat.le_add_left 1 _, ?_⟩
          change _ ↔ c.lastFault 1 = none
          rw [hfault]
          exact ⟨nofun, nofun⟩
        | ok next =>
          obtain ⟨events, hend⟩ := ih next (c.attempted.paused delay)
          have hcount : ([Event.connect] ++ [Event.sleep delay] ++ events).countP Event.isConnect =
              events.countP Event.isConnect + 1 := by
            rw [List.countP_append, Nat.add_comm]
            rfl
          refine ⟨_, paused.trans hend.attempted, ?_, ?_, ?_⟩
          · exact hcount ▸ Nat.succ_pos _
          · exact hcount ▸ Nat.succ_le_succ hend.le
          · rw [hcount, ← lastFault_attempted hend.pos c delay]
            exact hend.ok_iff

/-- What comes of opening a connection: nothing if it is open, and otherwise what comes of a few attempts. -/
structure OpeningEnds (o : Options) (c : Connection) (run : Except Fault Unit × Connection) (events : List Event) : Prop where
  trace : run.2.trace = c.trace ++ events
  opening : ∀ e ∈ events, e.isOpening = true
  calls : run.2.calls = c.calls
  replies : run.2.script.replies = c.script.replies
  reuses : c.isOpen = true → events.countP Event.isConnect = 0 ∧ run.2.isOpen = true
  opens : c.isOpen = false → events.countP Event.isConnect ≤ 3 ∧
    ((∃ url, Url.ofOptions o = .ok url) → 0 < events.countP Event.isConnect) ∧
    (run.2.isOpen = true ↔ 0 < events.countP Event.isConnect ∧ c.lastFault (events.countP Event.isConnect) = none)
  ok_iff : run.1 = .ok () ↔ run.2.isOpen = true

/-- A closed connection is opened by attempts. -/
theorem ensureOpen_eq (hc : c.isOpen = false) :
    (ensureOpen o).runFrom c =
      (attempts o RetryPolicy.standard.factor 3 RetryPolicy.standard.delay >>= fun _ =>
        modify fun c => { c with isOpen := true }).runFrom c := by
  rw [ensureOpen, runFrom_bind, runFrom_get]
  dsimp only
  rw [if_neg (by rw [hc]; exact Bool.false_ne_true)]
  rfl

/-- If attempts are of no use, the connection stays closed. -/
theorem OpeningEnds.failed {c₁ : Connection} {e : Fault} (hc : c.isOpen = false) (h : Attempted c c₁ events)
    (hle : events.countP Event.isConnect ≤ 3)
    (hpos : (∃ url, Url.ofOptions o = .ok url) → 0 < events.countP Event.isConnect)
    (hlast : 0 < events.countP Event.isConnect → c.lastFault (events.countP Event.isConnect) ≠ none) :
    OpeningEnds o c (.error e, c₁) events where
  trace := h.trace
  opening := h.opening
  calls := h.calls
  replies := h.replies
  reuses hopen := nomatch hc.symm.trans hopen
  opens _ := ⟨hle, hpos, fun hopen => (nomatch (h.isOpen.trans hc).symm.trans hopen),
    fun hlast' => absurd hlast'.2 (hlast hlast'.1)⟩
  ok_iff := ⟨nofun, fun hopen => nomatch (h.isOpen.trans hc).symm.trans hopen⟩

/-- Opening a connection comes to an end, whether it is open already or has to be attempted. -/
theorem openingEnds (o : Options) (c : Connection) : ∃ events, OpeningEnds o c ((ensureOpen o).runFrom c) events := by
  cases hc : c.isOpen with
  | true =>
    rw [runFrom_ensureOpen hc]
    exact ⟨[], (List.append_nil _).symm, List.forall_mem_nil _, rfl, rfl, fun _ => ⟨rfl, hc⟩,
      fun h => (nomatch hc.symm.trans h), fun _ => hc, fun _ => rfl⟩
  | false =>
    rw [ensureOpen_eq hc, runFrom_bind]
    cases hurl : Url.ofOptions o with
    | error e =>
      cases only_wrongType_ofOptions o e hurl
      -- a wrong type does not pass, so that there is no other attempt
      rw [attempts, RetryPolicy.runFrom_attempts_succ, runFrom_attempt_error hurl]
      simp only [Fault.isConnection, Bool.not_false, Bool.true_or, if_true]
      refine ⟨[], .failed hc ⟨(List.append_nil _).symm, List.forall_mem_nil _, rfl, rfl, rfl⟩ (Nat.zero_le 3) ?_ nofun⟩
      rintro ⟨url, h⟩
      cases hurl.symm.trans h
    | ok url =>
      obtain ⟨events, hend⟩ := attemptsEnd hurl RetryPolicy.standard.factor 2 RetryPolicy.standard.delay c
      refine ⟨events, ?_⟩
      cases hrun : (attempts o RetryPolicy.standard.factor (2 + 1) RetryPolicy.standard.delay).runFrom c with
      | mk r c₁ =>
        rw [hrun] at hend
        obtain ⟨hattempted, hpos, hle, hok⟩ := hend
        cases r with
        | error e =>
          refine .failed hc hattempted hle (fun _ => hpos) fun _ hnone => ?_
          obtain ⟨_, h⟩ := hok.mpr hnone
          cases h
        | ok a =>
          exact ⟨hattempted.trace, hattempted.opening, hattempted.calls, hattempted.replies,
            fun hopen => (nomatch hc.symm.trans hopen),
            fun _ => ⟨hle, fun _ => hpos, fun _ => ⟨hpos, hok.mp ⟨a, rfl⟩⟩, fun _ => rfl⟩, fun _ => rfl, fun _ => rfl⟩

end Connection

end RelationMapper
