import Mathlib.Data.List.Nodup
import RelationMapper.Engine
import RelationMapper.Proofs.Url

/-!
# Engines are shared by what is written

Two calls get one engine exactly if the addresses of their options are written alike, as long as the engines are not given up
in between: the registry finds engines by the text of an address and numbers them apart (`EngineRegistry.Sound`). What that
says about the addresses themselves is `EngineRegistry.shared_iff`: connections that share an engine have driver, user and
password in common, and where their hosts can be told the addresses are the same, or one has the timeout of the other in the
name of its database. The latter do share an engine (`EngineRegistry.shared_with_timeout`).
-/

namespace RelationMapper

/-- A call for an engine, or to give all engines up. -/
inductive EngineCall where
  | get (o : Options) (arguments : Fields)
  | dispose

namespace EngineRegistry

/-- The registry after a call. A call that fails leaves it as it is. -/
def after (r : EngineRegistry) : EngineCall → EngineRegistry
  | .get o arguments =>
    match r.get o arguments with
    | .ok (_, r') => r'
    | .error _ => r
  | .dispose => r.dispose

/-- The registry after calls in turn. -/
def afterAll (r : EngineRegistry) (calls : List EngineCall) : EngineRegistry := calls.foldl after r

/-- Engines are numbered apart, and below the number of the next one. -/
structure Sound (r : EngineRegistry) : Prop where
  created : ∀ entry ∈ r.engines, entry.2.number < r.created
  apart : (r.engines.map (·.2.number)).Nodup

variable {r r' : EngineRegistry} {o : Options} {u : Url} {arguments : Fields} {address : String} {e e' : Engine}

/-! ## One call -/

/-- The registry with a new engine. -/
def add (r : EngineRegistry) (address : String) (e : Engine) : EngineRegistry :=
  ⟨r.engines ++ [(address, e)], r.created + 1⟩

/-- What a call for an engine does: it finds the engine of the address, or adds one with the next number. -/
theorem get_cases (hu : Url.ofOptions o = .ok u) (arguments : Fields) :
    (∃ e, r.engines.lookup u.text = some e ∧ r.get o arguments = .ok (e, r)) ∨
      ∃ e, r.engines.lookup u.text = none ∧ e.number = r.created ∧ r.get o arguments = .ok (e, r.add u.text e) := by
  unfold get
  rw [hu, ok_bind]
  dsimp only
  cases h : r.engines.lookup u.text with
  | some e => exact Or.inl ⟨e, rfl, rfl⟩
  | none => exact Or.inr ⟨_, rfl, rfl, rfl⟩

/-- A call for an engine that succeeds had an address. -/
theorem exists_address_of_get (h : r.get o arguments = .ok (e, r')) : ∃ u, Url.ofOptions o = .ok u :=
  let ⟨u, hu, _⟩ := bind_eq_ok.mp h
  ⟨u, hu⟩

/-- An engine that was added is found under its address, unless another one was there. -/
theorem lookup_add (r : EngineRegistry) (address other : String) (e : Engine) :
    (r.add address e).engines.lookup other = (r.engines.lookup other).or (if other = address then some e else none) := by
  rw [add, List.lookup_append]
  by_cases h : other = address
  · simp [h]
  · simp [List.lookup_cons, beq_false_of_ne h, h]

theorem Sound.add (hr : r.Sound) (he : e.number = r.created) (address : String) : (r.add address e).Sound where
  created := by
    intro entry h
    rcases List.mem_append.mp h with h | h
    · exact Nat.lt_succ_of_lt (hr.created entry h)
    · cases List.mem_singleton.mp h
      exact he ▸ Nat.lt_succ_self _
  apart := by
    rw [EngineRegistry.add, List.map_append]
    refine hr.apart.append (List.nodup_singleton _) (List.disjoint_singleton.mpr fun hm => ?_)
    obtain ⟨entry, hentry, hnumber⟩ := List.mem_map.mp hm
    exact Nat.ne_of_lt (hr.created entry hentry) (hnumber.trans he)

/-- Whatever is called, engines stay numbered apart. -/
theorem Sound.after (hr : r.Sound) (call : EngineCall) : (r.after call).Sound := by
  cases call with
  | dispose => exact ⟨nofun, List.nodup_nil⟩
  | get o arguments =>
    unfold EngineRegistry.after
    dsimp only
    split
    next e r' h =>
      obtain ⟨u, hu⟩ := exists_address_of_get h
      rcases get_cases hu arguments with ⟨e, -, hget⟩ | ⟨e, -, he, hget⟩
      · cases h.symm.trans hget
        exact hr
      · cases h.symm.trans hget
        exact hr.add he u.text
    next => exact hr

/-- An engine that can be found is found after every call but the one that gives it up. -/
theorem lookup_after (h : r.engines.lookup address = some e) {call : EngineCall} (hcall : call ≠ .dispose) :
    (r.after call).engines.lookup address = some e := by
  cases call with
  | dispose => exact absurd rfl hcall
  | get o arguments =>
    unfold after
    dsimp only
    split
    next hget =>
      obtain ⟨u, hu⟩ := exists_address_of_get hget
      rcases get_cases hu arguments with ⟨e', -, hfound⟩ | ⟨e', -, -, hnew⟩
      · cases hget.symm.trans hfound
        exact h
      · cases hget.symm.trans hnew
        rw [lookup_add, h, Option.some_or]
    next => exact h

/-! ## Many calls -/

/-- Engines stay numbered apart through any calls. -/
theorem Sound.afterAll (hr : r.Sound) (calls : List EngineCall) : (r.afterAll calls).Sound := by
  induction calls generalizing r with
  | nil => exact hr
  | cons call calls ih => exact ih (hr.after call)

theorem sound_empty : empty.Sound := ⟨nofun, List.nodup_nil⟩

/-- An engine is found under its address through all calls that do not give the engines up. -/
theorem lookup_afterAll (h : r.engines.lookup address = some e) {calls : List EngineCall} (hcalls : .dispose ∉ calls) :
    (r.afterAll calls).engines.lookup address = some e := by
  induction calls generalizing r with
  | nil => exact h
  | cons call calls ih =>
    rw [List.mem_cons, not_or] at hcalls
    exact ih (lookup_after h (Ne.symm hcalls.1)) hcalls.2

/-! ## Two calls for an engine -/

/-- Whoever asks for an engine gets one, and it can be found from then on. -/
theorem get_found (hu : Url.ofOptions o = .ok u) (arguments : Fields) :
    ∃ e r', r.get o arguments = .ok (e, r') ∧ r'.engines.lookup u.text = some e := by
  rcases get_cases hu arguments with ⟨e, hfound, hget⟩ | ⟨e, hnone, -, hget⟩
  · exact ⟨e, r, hget, hfound⟩
  · exact ⟨e, _, hget, by rw [lookup_add, hnone, if_pos rfl, Option.none_or]⟩

/-- Engines of different addresses have different numbers. -/
theorem Sound.number_ne (hr : r.Sound) {other : String} (h : r.engines.lookup address = some e)
    (h' : r.engines.lookup other = some e') (hne : address ≠ other) : e.number ≠ e'.number := by
  have mem {address : String} {e : Engine} (h : r.engines.lookup address = some e) : (address, e) ∈ r.engines := by
    obtain ⟨before, after, hsplit, -⟩ := List.lookup_eq_some_iff.mp h
    rw [hsplit]
    exact List.mem_append_right _ List.mem_cons_self
  intro hnumber
  exact hne (congrArg Prod.fst (List.inj_on_of_nodup_map hr.apart (mem h) (mem h') hnumber))

theorem after_get (h : r.get o arguments = .ok (e, r')) : r.after (.get o arguments) = r' := by
  simp only [after, h]

/-- Two calls get one engine exactly if the addresses are written alike. -/
theorem number_eq_iff_text_eq {o₁ o₂ : Options} {u₁ u₂ : Url} (hr : r.Sound) (hu₁ : Url.ofOptions o₁ = .ok u₁)
    (hu₂ : Url.ofOptions o₂ = .ok u₂) {between : List EngineCall} (hkept : .dispose ∉ between) (arguments₁ arguments₂ : Fields) :
    ∃ e₁ r₁ e₂ r₂, r.get o₁ arguments₁ = .ok (e₁, r₁) ∧ (r₁.afterAll between).get o₂ arguments₂ = .ok (e₂, r₂) ∧
      (e₁ = e₂ ↔ u₁.text = u₂.text) ∧ (e₁.number = e₂.number ↔ u₁.text = u₂.text) := by
  obtain ⟨e₁, r₁, hget₁, hfound₁⟩ := get_found (r := r) hu₁ arguments₁
  obtain ⟨e₂, r₂, hget₂, hfound₂⟩ := get_found (r := r₁.afterAll between) hu₂ arguments₂
  have hkept₁ : r₂.engines.lookup u₁.text = some e₁ := by
    rw [← after_get hget₂]
    exact lookup_after (lookup_afterAll hfound₁ hkept) nofun
  have hsound : r₂.Sound := by
    rw [← after_get hget₂, ← after_get hget₁]
    exact ((hr.after _).afterAll between).after _
  refine ⟨e₁, r₁, e₂, r₂, hget₁, hget₂, ?_⟩
  by_cases htext : u₁.text = u₂.text
  · rw [htext, hfound₂] at hkept₁
    cases hkept₁
    exact ⟨iff_of_true rfl htext, iff_of_true rfl htext⟩
  · have hne := hsound.number_ne hkept₁ hfound₂ htext
    exact ⟨iff_of_false (fun he => hne (congrArg Engine.number he)) htext, iff_of_false hne htext⟩

/-- Connections share an engine exactly if they have driver, user and password in common, and what follows the user in writing; if they
have one host, or no host has a slash, they have the whole address in common, apart from a timeout that is part of the name of a
database. This is so after any calls, with any calls in between that do not give the engines up. -/
theorem shared_iff {fields₁ fields₂ : Fields} {o₁ o₂ : Options} (h₁ : Options.ofFields fields₁ = .ok o₁)
    (h₂ : Options.ofFields fields₂ = .ok o₂) (ht₁ : o₁.Typed) (ht₂ : o₂.Typed) (before between : List EngineCall)
    (hkept : .dispose ∉ between) (arguments₁ arguments₂ : Fields) :
    ∃ u₁ u₂ e₁ r₁ e₂ r₂, Url.ofOptions o₁ = .ok u₁ ∧ Url.ofOptions o₂ = .ok u₂ ∧
      (empty.afterAll before).get o₁ arguments₁ = .ok (e₁, r₁) ∧ (r₁.afterAll between).get o₂ arguments₂ = .ok (e₂, r₂) ∧
      (e₁ = e₂ ↔ e₁.number = e₂.number) ∧
      (e₁ = e₂ ↔ u₁.driver = u₂.driver ∧ u₁.username = u₂.username ∧ u₁.password = u₂.password ∧ u₁.place = u₂.place) ∧
      (u₁.HostsTold u₂ → (e₁ = e₂ ↔ u₁ = u₂ ∨ u₁.MovesTimeout u₂ ∨ u₂.MovesTimeout u₁)) := by
  obtain ⟨u₁, hu₁, hp₁⟩ := Url.ofOptions_proper h₁ ht₁
  obtain ⟨u₂, hu₂, hp₂⟩ := Url.ofOptions_proper h₂ ht₂
  obtain ⟨e₁, r₁, e₂, r₂, hget₁, hget₂, hsame, hnumber⟩ :=
    number_eq_iff_text_eq (sound_empty.afterAll before) hu₁ hu₂ hkept arguments₁ arguments₂
  refine ⟨u₁, u₂, e₁, r₁, e₂, r₂, hu₁, hu₂, hget₁, hget₂, hsame.trans hnumber.symm, ?_, fun hhosts => ?_⟩
  · exact hsame.trans (Url.text_eq_text_iff hp₁ hp₂)
  · exact hsame.trans (Url.text_eq_text_iff_of_hostsTold hp₁ hp₂ hhosts)

/-- Options with a password. -/
def serverFields (password : String) : Fields :=
  [("hostname", .text "h"), ("username", .text "u"), ("password", .text password), ("database", .text "d")]

def serverOptions (password : String) : Options :=
  ⟨.mysql, .text "h", .text "u", .text password, .text "d", some 3306, .int 0, .bool true, .records⟩

theorem ofFields_serverFields (password : String) : Options.ofFields (serverFields password) = .ok (serverOptions password) := rfl

theorem serverOptions_typed (password : String) : (serverOptions password).Typed :=
  ⟨Or.inr ⟨_, rfl⟩, Or.inr ⟨_, rfl⟩, Or.inr ⟨_, rfl⟩, Or.inr ⟨_, rfl⟩⟩

/-- A new password brings a new engine, also where the old one was used in between. -/
theorem shared_iff_new_password :
    ∃ e₁ r₁ e₂ r₂, empty.get (serverOptions "old") [] = .ok (e₁, r₁) ∧
      (r₁.afterAll [.get (serverOptions "old") []]).get (serverOptions "new") [] = .ok (e₂, r₂) ∧ e₁.number ≠ e₂.number := by
  obtain ⟨u₁, u₂, e₁, r₁, e₂, r₂, hu₁, hu₂, hget₁, hget₂, hnumber, hshared, -⟩ :=
    shared_iff (ofFields_serverFields "old") (ofFields_serverFields "new") (serverOptions_typed "old")
      (serverOptions_typed "new") [] [.get (serverOptions "old") []] (by simp) [] []
  refine ⟨e₁, r₁, e₂, r₂, hget₁, hget₂, fun hsame => ?_⟩
  obtain ⟨-, -, hpassword, -⟩ := hshared.mp (hnumber.mpr hsame)
  cases hu₁
  cases hu₂
  exact absurd (Value.text.inj hpassword) (by decide)

/-- Options of a database with a timeout in its name. -/
def namedTimeout : Options :=
  ⟨.mysql, .text "db.local", .text "orm", .null, .text "app?connect_timeout=5", some 3306, .int 0, .bool true, .records⟩

/-- Options of another database, with this timeout. -/
def givenTimeout : Options :=
  ⟨.mysql, .text "db.local", .text "orm", .null, .text "app", some 3306, .int 5, .bool true, .records⟩

/-- Connections to different databases, with different parameters, may share an engine. -/
theorem shared_with_timeout :
    Options.ofFields [("hostname", .text "db.local"), ("username", .text "orm"),
      ("database", .text "app?connect_timeout=5")] = .ok namedTimeout ∧
    Options.ofFields [("hostname", .text "db.local"), ("username", .text "orm"), ("database", .text "app"),
      ("timeout", .int 5)] = .ok givenTimeout ∧
    (∃ u₁ u₂, Url.ofOptions namedTimeout = .ok u₁ ∧ Url.ofOptions givenTimeout = .ok u₂ ∧ u₁.database ≠ u₂.database ∧
      u₁.query ≠ u₂.query) ∧
    ∃ e r, empty.get namedTimeout [] = .ok (e, r) ∧ r.get givenTimeout [] = .ok (e, r) :=
  ⟨rfl, rfl, ⟨_, _, rfl, rfl, by decide, by decide⟩, _, _, rfl, rfl⟩

end EngineRegistry

end RelationMapper
