import RelationMapper.Connection
import RelationMapper.Proofs.Act
import RelationMapper.Proofs.Except

/-!
# What is sent and what is answered

How a computation deals with the connection. `Act.Behaves` says that it only adds to what has been done, keeps what has to
stay, and, as long as the database gives sensible answers, ends with a result of a given kind or with a fault that is no
refusal. The rules for chains (`Behaves.bind`) and for their parts make this a matter of the single steps.

Which answers are sensible depends on the statement (`Statement.Admits`): keys are integers, and every other value is one that
its column accepts. `Admissible` says so of the statements that were sent and the replies that were waiting for them.
-/

namespace RelationMapper

/-! ## Refusals -/

/-- Whether a fault refuses what a caller asks for: it is used wrongly, a value does not fit, or the schema is at fault. -/
def Fault.isRefusal : Fault → Bool
  | .misuse _ | .mismatch _ | .schema _ => true
  | .foreign e => e.kind = .usage || e.kind = .schema
  | _ => false

/-- A fault of a driver is no refusal. -/
theorem Fault.isRefusal_of_isDriver {e : Fault} (h : e.isDriver = true) : e.isRefusal = false := by
  cases e with
  | «foreign» e =>
    obtain ⟨kind, message⟩ := e
    cases kind <;> first | rfl | cases h
  | _ => cases h

/-- A computation whose faults are among those that are allowed. -/
def Only {α : Type} (allowed : Fault → Prop) (r : Except Fault α) : Prop := ∀ e, r = .error e → allowed e

/-- A computation whose faults are no refusals. -/
abbrev Unrefused {α : Type} (r : Except Fault α) : Prop := Only (fun e => e.isRefusal = false) r

namespace Only

variable {α β : Type} {allowed : Fault → Prop} {r : Except Fault α}

theorem ok (a : α) : Only allowed (.ok a) := fun _ he => by cases he

theorem error {e : Fault} (h : allowed e) : Only allowed (.error e : Except Fault α) :=
  fun _ he => Except.error.inj he ▸ h

theorem bind {f : α → Except Fault β} (h : Only allowed r) (hf : ∀ a, r = .ok a → Only allowed (f a)) :
    Only allowed (r >>= f) := by
  intro e he
  rcases bind_eq_error.mp he with he | ⟨a, ha, he⟩
  · exact h e he
  · exact hf a ha e he

theorem bind_ok {a : α} {f : α → Except Fault β} (h : r = .ok a) (hf : Only allowed (f a)) : Only allowed (r >>= f) := by
  rw [h]
  exact hf

theorem mapError {ε : Type} {r : Except ε α} {f : ε → Fault} (h : ∀ e, allowed (f e)) : Only allowed (r.mapError f) := by
  intro e he
  obtain ⟨e', -, rfl⟩ := mapError_eq_error.mp he
  exact h e'

theorem mapM {xs : List α} {f : α → Except Fault β} (h : ∀ x ∈ xs, Only allowed (f x)) : Only allowed (xs.mapM f) := by
  induction xs with
  | nil => exact ok []
  | cons x xs ih =>
    rw [List.forall_mem_cons] at h
    rw [List.mapM_cons]
    exact h.1.bind fun _ _ => (ih h.2).bind fun _ _ => ok _

theorem foldlM {xs : List α} {f : β → α → Except Fault β} (h : ∀ b, ∀ x ∈ xs, Only allowed (f b x)) (b : β) :
    Only allowed (xs.foldlM f b) := by
  induction xs generalizing b with
  | nil => exact ok b
  | cons x xs ih =>
    rw [List.foldlM_cons]
    exact (h b x List.mem_cons_self).bind fun b _ => ih (fun b y hy => h b y (List.mem_cons_of_mem _ hy)) b

theorem filterMapM {xs : List α} {f : α → Except Fault (Option β)} (h : ∀ x ∈ xs, Only allowed (f x)) :
    Only allowed (xs.filterMapM f) := by
  induction xs with
  | nil => exact ok []
  | cons x xs ih =>
    rw [List.forall_mem_cons] at h
    rw [List.filterMapM_cons]
    refine h.1.bind fun o _ => ?_
    cases o with
    | none => exact ih h.2
    | some y => exact (ih h.2).bind fun _ _ => ok _

end Only

/-! ## Replies -/

/-- A reply whose faults are faults of the driver. -/
structure Reply.Driven (r : Reply) : Prop where
  answer : ∀ e, r.answer = .error e → e.isDriver = true
  cursor : ∀ e, r.cursorFault = some e → e.isDriver = true
  read : ∀ e, r.readFault = some e → e.isDriver = true
  commit : ∀ e, r.commitFault = some e → e.isDriver = true

/-- A script in which all that goes wrong are faults of the driver. -/
structure Script.Driven (s : Script) : Prop where
  replies : ∀ r ∈ s.replies, r.Driven
  openings : ∀ e, some e ∈ s.openings → e.isDriver = true

/-- What a database may answer to a statement. Keys that are read are integers, or null for the greatest of none; the columns
of a selection, and the greatest value of a column, hold what their types accept. -/
def Statement.Admits [MomentReader] (tables : List Table) : Statement → Result → Prop
  | .nextKey _ _, .records _ rows =>
    ∀ row ∈ rows, ∀ v, row.get? "id_max" = some v → v = .null ∨ ∃ n, v = .int n
  | .selectKeys _ key _, .records _ rows => ∀ row ∈ rows, ∀ v, row.get? key = some v → ∃ n, v = .int n
  | .select plan _ _, .records _ rows => ∀ row ∈ rows, ∀ c ∈ plan.allColumns, ∃ v, c.read row = .ok v
  | .selectMax table column _, .records _ rows =>
    ∀ t ∈ tables, t.name = table → ∀ spec type, t.spec column = .ok spec → spec.columnType? = some type →
      ∀ row ∈ rows, ∀ v, row.get? column = some v → ∃ w, v.decode type = .ok w
  | _, _ => True

/-- Statements in the order in which they were sent and the replies that were waiting: each reply is one that its statement
admits. -/
def Admissible [MomentReader] (tables : List Table) (statements : List Statement) (replies : List Reply) : Prop :=
  ∀ e ∈ statements.zip replies, ∀ result, e.2.result = .ok result → e.1.Admits tables result

/-- The statements that were sent. -/
def statementsIn (events : List Event) : List Statement :=
  events.filterMap fun
    | .sent s => some s
    | _ => none

/-- The statements sent in two stretches are those of the one, then those of the other. -/
theorem statementsIn_append (events more : List Event) :
    statementsIn (events ++ more) = statementsIn events ++ statementsIn more :=
  List.filterMap_append

/-- Replies that are admissible for some statements are for the first of them. -/
theorem Admissible.left [MomentReader] {tables : List Table} {statements more : List Statement} {replies : List Reply}
    (h : Admissible tables (statements ++ more) replies) : Admissible tables statements replies := by
  induction statements generalizing replies with
  | nil => exact fun e he => absurd he List.not_mem_nil
  | cons s statements ih =>
    cases replies with
    | nil => exact fun e he => absurd he List.not_mem_nil
    | cons r replies =>
      rw [Admissible, List.cons_append, List.zip_cons_cons, List.forall_mem_cons] at h
      rw [Admissible, List.zip_cons_cons, List.forall_mem_cons]
      exact ⟨h.1, ih h.2⟩

/-- The replies that are left are admissible for the further ones. -/
theorem Admissible.right [MomentReader] {tables : List Table} {statements more : List Statement} {replies : List Reply}
    (h : Admissible tables (statements ++ more) replies) : Admissible tables more (replies.drop statements.length) := by
  induction statements generalizing replies with
  | nil => exact h
  | cons s statements ih =>
    cases replies with
    | nil =>
      rw [List.drop_nil]
      exact fun e he => absurd he (by simp)
    | cons r replies =>
      rw [Admissible, List.cons_append, List.zip_cons_cons, List.forall_mem_cons] at h
      exact ih h.2

/-- The reply to a statement for which the script has none is admissible. -/
theorem admits_default [MomentReader] {tables : List Table} {s : Statement} {result : Result}
    (h : (Reply.default s).result = .ok result) : s.Admits tables result := by
  have hr : result = .records [] [] ∨ result = .count 0 := by
    rw [Reply.default, Reply.result] at h
    split at h
    all_goals
      cases h
    all_goals simp
  rcases hr with rfl | rfl
  · cases s <;> simp [Statement.Admits]
  · cases s <;> trivial

/-! ## Computations that behave -/

/-- Where the connection stands in a state, what of the state has to stay, and the tables of the schema. -/
structure Frame (σ : Type) where
  connection : σ → Connection
  stays : σ → Prop
  tables : List Table

namespace Act

variable {σ α β : Type} {frame : Frame σ} {P P' : Prop} {Q : α → Prop} {Q' : β → Prop}

/-- A computation behaves if it keeps what has to stay and only adds to what has been done. If `P` holds, all faults of the
script are faults of the driver and the replies to what is sent are admissible, then moreover it ends with a result for which
`Q` holds, having used as many replies as it sent statements, or with a fault that is no refusal. -/
def Behaves [MomentReader] (frame : Frame σ) (P : Prop) (act : Act σ α) (Q : α → Prop) : Prop :=
  ∀ s, frame.stays s → frame.stays (act.runFrom s).2 ∧
    ∃ events, (frame.connection (act.runFrom s).2).trace = (frame.connection s).trace ++ events ∧
      (P → (frame.connection s).script.Driven →
        Admissible frame.tables (statementsIn events) (frame.connection s).script.replies →
        match (act.runFrom s).1 with
        | .ok a => Q a ∧ (frame.connection (act.runFrom s).2).script.Driven ∧
            (frame.connection (act.runFrom s).2).script.replies =
              (frame.connection s).script.replies.drop (statementsIn events).length
        | .error e => e.isRefusal = false)

/-- What behaves under a condition behaves under a stronger one. -/
theorem Behaves.weaken [MomentReader] {act : Act σ α} (h : Behaves frame P' act Q) (hp : P → P') : Behaves frame P act Q := by
  intro s hs
  obtain ⟨hstays, events, ht, hq⟩ := h s hs
  exact ⟨hstays, events, ht, fun hP => hq (hp hP)⟩

/-- The result may be said to be less than it is. -/
theorem Behaves.mono [MomentReader] {act : Act σ α} {R : α → Prop} (h : Behaves frame P act R) (hq : P → ∀ a, R a → Q a) :
    Behaves frame P act Q := by
  intro s hs
  obtain ⟨hstays, events, ht, hr⟩ := h s hs
  refine ⟨hstays, events, ht, fun hP hd ha => ?_⟩
  have := hr hP hd ha
  cases hrun : (act.runFrom s).1 with
  | ok a =>
    rw [hrun] at this
    exact ⟨hq hP a this.1, this.2⟩
  | error e =>
    rw [hrun] at this
    exact this

/-- A result or fault that does not concern the state. -/
theorem Behaves.lift [MomentReader] {r : Except Fault α} (h : P → Unrefused r) :
    Behaves frame P (Act.lift r) fun a => r = .ok a := by
  intro s hs
  refine ⟨hs, [], (List.append_nil _).symm, fun hP hd _ => ?_⟩
  cases r with
  | ok a => exact ⟨rfl, hd, rfl⟩
  | error e => exact h hP e rfl

theorem Behaves.pure [MomentReader] {a : α} (h : P → Q a) : Behaves frame P (pure a : Act σ α) Q :=
  (Behaves.lift fun _ => Only.ok a).mono fun hP _ ha => Except.ok.inj ha ▸ h hP

theorem Behaves.throw [MomentReader] {e : Fault} (h : P → e.isRefusal = false) : Behaves frame P (throw e : Act σ α) Q :=
  (Behaves.lift fun hP => Only.error (h hP)).mono fun _ _ ha => by cases ha

/-- A chain behaves if its parts do; the rest may count on what is known of the result of the first part. -/
theorem Behaves.bind [MomentReader] {act : Act σ α} {f : α → Act σ β} (h : Behaves frame P act Q)
    (hf : ∀ a, Behaves frame (P ∧ Q a) (f a) Q') : Behaves frame P (act >>= f) Q' := by
  intro s hs
  obtain ⟨hstays, events, ht, hq⟩ := h s hs
  rw [runFrom_bind]
  cases hrun : act.runFrom s with
  | mk r s₁ =>
    rw [hrun] at hstays ht hq
    cases r with
    | error e => exact ⟨hstays, events, ht, hq⟩
    | ok a =>
      obtain ⟨hstays', more, ht', hq'⟩ := hf a s₁ hstays
      refine ⟨hstays', events ++ more, by rw [ht', ht, List.append_assoc], fun hP hd ha => ?_⟩
      rw [statementsIn_append] at ha
      obtain ⟨hQ, hd', hr⟩ := hq hP hd ha.left
      have hrest := hq' ⟨hP, hQ⟩ hd' (hr ▸ ha.right)
      rw [statementsIn_append, List.length_append]
      cases hrun' : ((f a).runFrom s₁).1 with
      | error e =>
        rw [hrun'] at hrest
        exact hrest
      | ok b =>
        rw [hrun'] at hrest
        refine ⟨hrest.1, hrest.2.1, ?_⟩
        rw [hrest.2.2, hr, List.drop_drop]

/-- A computation whose result does not matter. -/
theorem Behaves.discard [MomentReader] {act : Act σ α} (h : Behaves frame P act Q) : Behaves frame P (discard act) fun _ => True :=
  h.bind fun _ => Behaves.pure fun _ => trivial

/-- A walk behaves if every step does. -/
theorem Behaves.forM [MomentReader] {xs : List α} {f : α → Act σ Unit} (h : ∀ x ∈ xs, Behaves frame P (f x) fun _ => True) :
    Behaves frame P (xs.forM f) fun _ => True := by
  induction xs with
  | nil => exact Behaves.pure fun _ => trivial
  | cons x xs ih =>
    rw [List.forall_mem_cons] at h
    exact h.1.bind fun _ => (ih h.2).weaken fun hP => hP.1

end Act

end RelationMapper
