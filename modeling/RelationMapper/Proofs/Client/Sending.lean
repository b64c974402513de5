import RelationMapper.Proofs.Client
import RelationMapper.Proofs.Exchange

/-!
# What a client sends

While the registry is valid, a client reads tables and plans without sending anything, and each statement of the library is one
exchange. The rules here are for chains that begin with one of these (`Sends.ask_bind`, `Sends.planFor_bind` and so on); the
readers of keys follow from them.
-/

namespace RelationMapper

namespace Act.Sends

open Client

variable {α : Type} {r : Registry JoinPlan} {o : Options} {smooth P : Prop} {R : α → List Exchange → Prop}
  {F : List Exchange → Prop}

/-- Work on the connection sends for the client what it sends on the connection. -/
theorem onConnection [MomentReader] {act : Act Connection α} (h : Sends (Connection.alone r.tables) o smooth P act R F) :
    Sends (settled r) o smooth P (Client.onConnection act) R F := by
  intro s hs
  obtain ⟨-, events, ht, hq⟩ := h s.rest.connection trivial
  exact ⟨hs, events, ht, hq⟩

/-- Waiting for a registry that is validated already sends nothing. -/
theorem ensureValid_bind [MomentReader] (hr : r.Validated) {f : Unit → Work α} (h : Sends (settled r) o smooth P (f ()) R F) :
    Sends (settled r) o smooth P (ensureValid o >>= f) R F :=
  known_bind (fun _ hs => Setting.runFrom_ensureValid _ (hs ▸ hr.valid)) h

theorem getRegistry_bind [MomentReader] {f : Registry JoinPlan → Work α} (h : Sends (settled r) o smooth P (f r) R F) :
    Sends (settled r) o smooth P (Setting.getRegistry >>= f) R F :=
  known_bind (fun s hs => by rw [Setting.runFrom_getRegistry, show s.registry = r from hs]) h

theorem tables_bind [MomentReader] {f : List Table → Work α} (h : Sends (settled r) o smooth P (f r.tables) R F) :
    Sends (settled r) o smooth P (tables >>= f) R F :=
  known_bind (fun s hs => by
    change (Except.ok s.registry.tables, s) = _
    rw [show s.registry = r from hs]) h

/-- The plan of a table of the schema is the stored one. -/
theorem planFor_bind [MomentReader] (hr : r.Validated) {t : Table} (ht : t ∈ r.tables) {f : JoinPlan → Work α}
    (h : ∀ plan, t.plan r.tables = .ok plan → Sends (settled r) o smooth P (f plan) R F) :
    Sends (settled r) o smooth P (planFor t.name >>= f) R F := by
  obtain ⟨plan, hl, hp⟩ := lookup_plans hr.plans hr.wellFormed.names ht
  refine known_bind (fun s hs => ?_) (h plan hp)
  rw [planFor, runFrom_bind, Setting.runFrom_getRegistry, show s.registry = r from hs]
  dsimp only
  rw [show r.planFor? t.name = some plan from hl]
  rfl

/-- A statement of the library is one exchange. -/
theorem ask [MomentReader] (hr : r.Validated) (s : Statement) :
    Sends (settled r) o smooth P (Client.ask o s)
      (fun result xs => ∃ reply, xs = [⟨s, reply⟩] ∧ reply.result = .ok result ∧
        Exchange.Expected r.tables smooth ⟨s, reply⟩)
      fun xs => xs = [] ∨ ∃ reply, xs = [⟨s, reply⟩] :=
  ensureValid_bind hr (onConnection (Connection.sends_run o s))

/-- What follows a statement of the library may count on a result that may be expected. -/
theorem ask_bind [MomentReader] (hr : r.Validated) {s : Statement} {f : Result → Work α} (hF : P → F [])
    (hF' : P → ∀ reply, F [⟨s, reply⟩])
    (hf : ∀ result reply, Sends (settled r) o smooth
      (P ∧ reply.result = .ok result ∧ Exchange.Expected r.tables smooth ⟨s, reply⟩) (f result)
      (fun b ys => R b (⟨s, reply⟩ :: ys)) fun ys => F (⟨s, reply⟩ :: ys)) :
    Sends (settled r) o smooth P (Client.ask o s >>= f) R F := by
  refine (ask hr s).bind ?_ fun result xs => ?_
  · rintro hP xs (rfl | ⟨reply, rfl⟩)
    · exact hF hP
    · exact hF' hP reply
  · -- which reply it was is known only if there was one
    intro state hs
    by_cases hx : ∃ reply, xs = [⟨s, reply⟩]
    · obtain ⟨reply, rfl⟩ := hx
      refine (hf result reply).weaken ?_ state hs
      rintro ⟨hP, reply', heq, hresult, hexpected⟩
      cases heq
      exact ⟨hP, hresult, hexpected⟩
    · obtain ⟨hstays, events, ht, -⟩ := hf result (.default s) state hs
      refine ⟨hstays, events, ht, ?_⟩
      rintro sent - ⟨-, reply, rfl, -⟩
      exact absurd ⟨reply, rfl⟩ hx

/-- What follows a statement whose result does not matter. -/
theorem discard_ask_bind [MomentReader] (hr : r.Validated) {s : Statement} {f : Unit → Work α} (hF : P → F [])
    (hF' : P → ∀ reply, F [⟨s, reply⟩])
    (hf : ∀ reply, Sends (settled r) o smooth P (f ()) (fun b ys => R b (⟨s, reply⟩ :: ys))
      fun ys => F (⟨s, reply⟩ :: ys)) :
    Sends (settled r) o smooth P (Functor.discard (Client.ask o s) >>= f) R F := by
  have assoc : Functor.discard (Client.ask o s) >>= f = Client.ask o s >>= fun _ => f () := by
    change (Client.ask o s >>= fun _ => Pure.pure ()) >>= f = _
    simp
  rw [assoc]
  exact ask_bind hr hF hF' fun _ reply => (hf reply).weaken fun h => h.1

end Act.Sends

/-! ## Keys -/

/-- The reply to a statement for the next key tells an integer, one that can be written if everything goes well. -/
structure Reply.TellsNext (smooth : Prop) (reply : Reply) (key : Value) : Prop where
  read : reply.result >>= Result.keyAfter = .ok key
  int : ∃ n, key = .int n ∧ (smooth → Number.isTooLong n = false)

/-- The reply to a statement for keys tells integers, ones that can be written if everything goes well. -/
structure Reply.TellsKeys (smooth : Prop) (column : String) (reply : Reply) (keys : List Value) : Prop where
  read : reply.result >>= Result.keys column = .ok keys
  ints : ∃ ns : List Int, keys = ns.map .int ∧ (smooth → ∀ n ∈ ns, Number.isTooLong n = false)

/-- Values that are integers are a list of integers. -/
theorem exists_map_int {keys : List Value} (h : ∀ k ∈ keys, ∃ n, k = .int n) : ∃ ns : List Int, keys = ns.map .int := by
  induction keys with
  | nil => exact ⟨[], rfl⟩
  | cons k keys ih =>
    rw [List.forall_mem_cons] at h
    obtain ⟨n, rfl⟩ := h.1
    obtain ⟨ns, rfl⟩ := ih h.2
    exact ⟨n :: ns, rfl⟩

section

variable {tables : List Table} {smooth : Prop} {reply : Reply} {result : Result}

/-- A reply as it may be expected tells the next key, if one is read from it. -/
theorem Reply.tellsNext [MomentReader] {table column : String} (hr : reply.result = .ok result)
    (h : Exchange.Expected tables smooth ⟨.nextKey table column, reply⟩) {key : Value} (hk : result.keyAfter = .ok key) :
    reply.TellsNext smooth key := by
  obtain ⟨n, rfl⟩ := Client.int_of_keyAfter (h.admits result hr) hk
  refine ⟨by rw [hr]; exact hk, n, rfl, fun hsmooth => ?_⟩
  obtain ⟨m, hm, hshort⟩ := h.suits hsmooth result hr
  cases hk.symm.trans hm
  exact hshort

/-- A reply as it may be expected tells keys, if they are read from it. -/
theorem Reply.tellsKeys [MomentReader] {table key : String} {conditions : List Condition} (hr : reply.result = .ok result)
    (h : Exchange.Expected tables smooth ⟨.selectKeys table key conditions, reply⟩) {keys : List Value}
    (hk : result.keys key = .ok keys) : reply.TellsKeys smooth key keys := by
  obtain ⟨ns, rfl⟩ := exists_map_int fun k hm => Client.int_of_mem_keys (h.admits result hr) hk hm
  refine ⟨by rw [hr]; exact hk, ns, rfl, fun hsmooth => ?_⟩
  obtain ⟨ms, hms, hshort⟩ := h.suits hsmooth result hr
  have hsame : ns = ms := List.map_injective_iff.mpr (fun _ _ he => Value.int.inj he) (Except.ok.inj (hk.symm.trans hms))
  exact hsame ▸ hshort

end

namespace Act.Sends

open Client

variable {α : Type} {r : Registry JoinPlan} {o : Options} {smooth P : Prop} {R : α → List Exchange → Prop}
  {F : List Exchange → Prop}

/-- What follows the next key. -/
theorem nextKey_bind [MomentReader] (hr : r.Validated) (t : Table) {f : Value → Work α} (hF : P → F [])
    (hF' : P → ∀ reply, F [⟨.nextKey t.name t.key, reply⟩])
    (hf : ∀ key reply, Sends (settled r) o smooth (P ∧ reply.TellsNext smooth key) (f key)
      (fun b ys => R b (⟨.nextKey t.name t.key, reply⟩ :: ys)) fun ys => F (⟨.nextKey t.name t.key, reply⟩ :: ys)) :
    Sends (settled r) o smooth P (nextKey o t >>= f) R F := by
  rw [nextKey_eq, bind_assoc]
  refine ask_bind hr hF hF' fun result reply => lift_bind ?_ (fun h => hF' h.1 reply) fun key hkey => ?_
  · rintro ⟨-, hresult, hexpected⟩ e he hsmooth
    obtain ⟨n, hn, -⟩ := hexpected.suits hsmooth result hresult
    cases he.symm.trans hn
  · exact (hf key reply).weaken fun ⟨hP, hresult, hexpected⟩ => ⟨hP, Reply.tellsNext hresult hexpected hkey⟩

/-- What follows the keys of matching rows. -/
theorem matchingKeys_bind [MomentReader] (hr : r.Validated) (t : Table) (conditions : List Condition) {f : List Value → Work α}
    (hF : P → F []) (hF' : P → ∀ reply, F [⟨.selectKeys t.name t.key conditions, reply⟩])
    (hf : ∀ keys reply, Sends (settled r) o smooth (P ∧ reply.TellsKeys smooth t.key keys) (f keys)
      (fun b ys => R b (⟨.selectKeys t.name t.key conditions, reply⟩ :: ys))
      fun ys => F (⟨.selectKeys t.name t.key conditions, reply⟩ :: ys)) :
    Sends (settled r) o smooth P (matchingKeys o t conditions >>= f) R F := by
  rw [matchingKeys_eq, bind_assoc]
  refine ask_bind hr hF hF' fun result reply => lift_bind ?_ (fun h => hF' h.1 reply) fun keys hkeys => ?_
  · rintro ⟨-, hresult, hexpected⟩ e he hsmooth
    obtain ⟨ns, hns, -⟩ := hexpected.suits hsmooth result hresult
    cases he.symm.trans hns
  · exact (hf keys reply).weaken fun ⟨hP, hresult, hexpected⟩ => ⟨hP, Reply.tellsKeys hresult hexpected hkeys⟩

end Act.Sends

end RelationMapper
