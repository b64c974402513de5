import RelationMapper.Proofs.Act
import RelationMapper.Proofs.Options

/-!
# Options as objects

Options are objects that are settled once their attributes are set: a port becomes an integer in its place, and a loader is set if
none is given. Loading makes a new object, unless there is nothing to change (`Options.loadObject`). The objects that were there
stay as they are, and the one that is loaded holds the options of `Options.load` (`Options.brings_loadObject`). So it does not
matter whether options are replaced before an object is made or after that (`Options.overrides_agree`).
-/

namespace RelationMapper.Options

open Act

variable {values : Fields}

/-- Options as an object. Before it is settled, attributes are as they are given. -/
structure Object where
  drivername : Value
  hostname : Value
  username : Value
  password : Value
  database : Value
  port : Value
  timeout : Value
  strict : Value
  loader : Option Loader

namespace Object

/-- The object with attributes as they are given, or else by default. -/
def given (values : Fields) : Object where
  drivername := Options.given values "drivername"
  hostname := Options.given values "hostname"
  username := Options.given values "username"
  password := Options.given values "password"
  database := Options.given values "database"
  port := Options.given values "port"
  timeout := Options.given values "timeout"
  strict := Options.given values "strict_consistency"
  loader :=
    match Options.given values "data_loader" with
    | .null => none
    | v => some (.ofValue v)

/-- The attributes by name. -/
def attributes (x : Object) : Fields :=
  [("drivername", x.drivername), ("hostname", x.hostname), ("username", x.username), ("password", x.password),
    ("database", x.database), ("port", x.port), ("timeout", x.timeout), ("strict_consistency", x.strict),
    ("data_loader", (x.loader.map (.text ·.name)).getD .null)]

/-- The object that holds options. -/
def holding (o : Options) : Object where
  drivername := .text o.dialect.name
  hostname := o.hostname
  username := o.username
  password := o.password
  database := o.database
  port := (o.port.map .int).getD .null
  timeout := o.timeout
  strict := o.strict
  loader := some o.loader

end Object

/-- Objects, by their places. -/
abbrev Heap := List Object

/-- The object at a place. -/
def object (place : Nat) : Act Heap Object := do
  match (← get)[place]? with
  | some x => return x
  | none => throw .noSuchPart

/-- Changes the object at a place. -/
def assign (place : Nat) (change : Object → Object) : Act Heap Unit := modify (·.modify place change)

/-- Sets a port to the integer that it stands for; no port stays none. -/
def settlePort (place : Nat) : Act Heap Unit := do
  match (← object place).port with
  | .null => return ()
  | v =>
    let port ← Act.lift v.toInt
    assign place ({ · with port := .int port })

/-- Refuses an object without something for each option that its database requires. -/
def checkRequired (dialect : Dialect) (place : Nat) : Act Heap Unit := do
  let attributes := (← object place).attributes
  let missing := dialect.required.filter fun name => !((attributes.get? name).getD .null).isTruthy
  if !missing.isEmpty then throw (.badValue (.missingOptions dialect.name missing))

/-- Sets a loader, if there is none. -/
def settleLoader (place : Nat) : Act Heap Unit := do
  if (← object place).loader.isNone then assign place ({ · with loader := some .records })

/-- Settles the object at a place, unless its attributes are refused. -/
def settle (place : Nat) : Act Heap Unit := do
  let dialect ← Act.lift (readDialect (← object place).drivername)
  settlePort place
  checkRequired dialect place
  settleLoader place

/-- Makes a new object, and settles it. -/
def construct (values : Fields) : Act Heap Nat := do
  if givesUnknown values then throw .wrongType
  let place := (← get).length
  modify (· ++ [Object.given values])
  settle place
  return place

/-- Where an object is loaded from: another one, named values, or the environment. -/
inductive Origin where
  | held (place : Nat)
  | fields (named : Fields)
  | environment

/-- The named values of an origin. -/
def Origin.named : Origin → Fields
  | .fields named => named
  | .held _ | .environment => []

/-- Loads an object from an origin, with some of its options replaced. -/
def loadObject (s : Surroundings) (origin : Origin) (changes : Fields) : Act Heap Nat := do
  let unknown := unknownNames (changes ++ origin.named)
  if !unknown.isEmpty then throw (.badValue (.unknownOptions unknown))
  match origin with
  | .held place => if changes.isEmpty then return place else construct ((← object place).attributes.setAll changes)
  | .fields named => construct (named.setAll changes)
  | .environment => construct ((s.optionFields s.defaultFile).setAll changes)

/-! ## A new object -/

theorem runFrom_object (heap : Heap) (x : Object) : (object heap.length).runFrom (heap ++ [x]) = (.ok x, heap ++ [x]) := by
  rw [object, runFrom_bind, runFrom_get]
  simp

theorem runFrom_assign (heap : Heap) (x : Object) (change : Object → Object) :
    (assign heap.length change).runFrom (heap ++ [x]) = (.ok (), heap ++ [change x]) := by
  have hchange : (heap ++ [x]).modify heap.length change = heap ++ [change x] := by
    induction heap with
    | nil => rfl
    | cons y heap ih => exact congrArg (y :: ·) ih
  rw [assign, runFrom_modify, hchange]

theorem eq_of_readDialect {v : Value} {dialect : Dialect} (h : readDialect v = .ok dialect) : v = .text dialect.name := by
  cases v with
  | text t =>
    rw [readDialect] at h
    cases hname : Dialect.ofName? t with
    | none => rw [hname] at h; cases h
    | some d =>
      rw [hname] at h
      cases h
      have hbeq : (dialect.name == t) = true := List.find?_some (p := fun d : Dialect => d.name == t) hname
      rw [beq_iff_eq.mp hbeq]
  | _ => cases h

theorem readPort_of_ne_null {v : Value} (h : v ≠ .null) : readPort v = v.toInt.map some := by
  cases v with
  | null => exact absurd rfl h
  | _ => rfl

/-- The port of the newest object is settled in its place, and all others stay. -/
theorem runFrom_settlePort (heap : Heap) (x : Object) :
    (settlePort heap.length).runFrom (heap ++ [x]) =
      match readPort x.port with
      | .ok port => (.ok (), heap ++ [{ x with port := (port.map .int).getD .null }])
      | .error e => (.error e, heap ++ [x]) := by
  rw [settlePort, runFrom_bind, runFrom_object]
  obtain ⟨_, _, _, _, _, port, _, _, _⟩ := x
  dsimp only
  split
  · rfl
  · case h_2 hsome =>
    rw [runFrom_bind, runFrom_lift, readPort_of_ne_null hsome]
    cases port.toInt with
    | error e => rfl
    | ok n => exact runFrom_assign heap _ _

theorem runFrom_checkRequired (dialect : Dialect) (heap : Heap) (x : Object) :
    (checkRequired dialect heap.length).runFrom (heap ++ [x]) =
      (if (dialect.required.filter fun name => !((x.attributes.get? name).getD .null).isTruthy).isEmpty then .ok ()
        else .error (.badValue (.missingOptions dialect.name
          (dialect.required.filter fun name => !((x.attributes.get? name).getD .null).isTruthy))), heap ++ [x]) := by
  rw [checkRequired, runFrom_bind, runFrom_object]
  dsimp only
  cases (dialect.required.filter fun name => !((x.attributes.get? name).getD .null).isTruthy).isEmpty <;> rfl

theorem runFrom_settleLoader (heap : Heap) (x : Object) :
    (settleLoader heap.length).runFrom (heap ++ [x]) =
      (.ok (), heap ++ [{ x with loader := some (x.loader.getD .records) }]) := by
  rw [settleLoader, runFrom_bind, runFrom_object]
  obtain ⟨_, _, _, _, _, _, _, _, loader⟩ := x
  cases loader with
  | none => exact runFrom_assign heap _ _
  | some loader => rfl

theorem loader_given (values : Fields) :
    (Object.given values).loader.getD .records = .ofValue (Options.given values "data_loader") := by
  change (match Options.given values "data_loader" with | .null => none | v => some (Loader.ofValue v)).getD .records = _
  cases Options.given values "data_loader" <;> rfl

/-- What an object requires is read as what it was given. -/
theorem get?_attributes (values : Fields) (port : Value) (dialect : Dialect) :
    (dialect.required.filter fun name =>
      !((({ Object.given values with port } : Object).attributes.get? name).getD .null).isTruthy) =
      dialect.required.filter fun name => !(given values name).isTruthy :=
  List.filter_congr (forall_required dialect rfl rfl rfl)

/-- A new object is settled as options are read from what it was given. -/
theorem runFrom_settle (hu : givesUnknown values = false) (heap : Heap) :
    match ofFields values with
    | .ok o => (settle heap.length).runFrom (heap ++ [.given values]) = (.ok (), heap ++ [.holding o])
    | .error e => ∃ x, (settle heap.length).runFrom (heap ++ [.given values]) = (.error e, heap ++ [x]) := by
  have hread : ofFields values = (do
      let dialect ← readDialect (given values "drivername")
      let port ← readPort (given values "port")
      let missing := dialect.required.filter fun name => !(given values name).isTruthy
      if !missing.isEmpty then throw (.badValue (.missingOptions dialect.name missing))
      return ⟨dialect, given values "hostname", given values "username", given values "password", given values "database", port,
        given values "timeout", given values "strict_consistency", .ofValue (given values "data_loader")⟩) := by
    unfold givesUnknown at hu
    unfold ofFields
    rw [if_neg (Bool.eq_false_iff.mp hu)]
  rw [hread, settle, runFrom_bind, runFrom_object]
  dsimp only
  rw [runFrom_bind, runFrom_lift, show (Object.given values).drivername = given values "drivername" from rfl]
  cases hdialect : readDialect (given values "drivername") with
  | error e => exact ⟨_, rfl⟩
  | ok dialect =>
    simp only [ok_bind]
    rw [runFrom_bind, runFrom_settlePort, show (Object.given values).port = given values "port" from rfl]
    cases readPort (given values "port") with
    | error e => exact ⟨_, rfl⟩
    | ok port =>
      simp only [ok_bind]
      rw [runFrom_bind, runFrom_checkRequired, get?_attributes]
      cases hmissing : (dialect.required.filter fun name => !(given values name).isTruthy).isEmpty with
      | false => exact ⟨_, rfl⟩
      | true =>
        simp only [Bool.not_true, Bool.false_eq_true, if_false, if_true]
        rw [runFrom_settleLoader]
        have hsettled : ({ Object.given values with
            port := (port.map Value.int).getD .null
            loader := some ((Object.given values).loader.getD .records) } : Object) =
            .holding ⟨dialect, given values "hostname", given values "username", given values "password",
              given values "database", port, given values "timeout", given values "strict_consistency",
              .ofValue (given values "data_loader")⟩ := by
          rw [Object.holding, ← eq_of_readDialect hdialect, ← loader_given]
          rfl
        exact congrArg (fun x => (Except.ok (), heap ++ [x])) hsettled

/-- Work brings an outcome: an object that holds the options, at the place that is answered, or the fault. The objects that were
there are as they were, at their places. -/
def Brings (act : Act Heap Nat) (heap : Heap) (outcome : Except Fault Options) : Prop :=
  ∃ more, (act.runFrom heap).2 = heap ++ more ∧
    match outcome with
    | .ok o => ∃ place, (act.runFrom heap).1 = .ok place ∧ (heap ++ more)[place]? = some (.holding o)
    | .error e => (act.runFrom heap).1 = .error e

/-- What is refused is refused on both sides. -/
theorem Brings.refuse {heap : Heap} {c : Prop} [Decidable c] {e : Fault} {f act : Act Heap Nat} {g outcome : Except Fault Options}
    (h : Brings act heap outcome) :
    Brings (if c then (throw e : Act Heap Unit) >>= fun _ => f else act) heap
      (if c then (throw e : Except Fault Unit) >>= fun _ => g else outcome) := by
  split
  · exact ⟨[], (List.append_nil _).symm, rfl⟩
  · exact h

/-- Making an object brings the options that are read from what is given. -/
theorem brings_construct (values : Fields) (heap : Heap) : Brings (construct values) heap (ofFields values) := by
  unfold construct
  cases hu : givesUnknown values with
  | true =>
    have hrefused : ofFields values = .error .wrongType := by
      unfold givesUnknown at hu
      unfold ofFields
      rw [if_pos hu]
      rfl
    rw [hrefused]
    exact ⟨[], (List.append_nil _).symm, rfl⟩
  | false =>
    have hsettle := runFrom_settle hu heap
    simp only [Bool.false_eq_true, if_false]
    unfold Brings
    rw [runFrom_bind, runFrom_get]
    dsimp only
    rw [runFrom_bind, runFrom_modify]
    dsimp only
    rw [runFrom_bind]
    cases hread : ofFields values with
    | ok o =>
      rw [hread] at hsettle
      dsimp only at hsettle ⊢
      rw [hsettle]
      exact ⟨[.holding o], rfl, heap.length, rfl, List.getElem?_concat_length⟩
    | error e =>
      rw [hread] at hsettle
      obtain ⟨x, hsettle⟩ := hsettle
      rw [hsettle]
      exact ⟨[x], rfl, rfl⟩

/-! ## Loading -/

/-- An origin and what it stands for: an object stands for the options that it holds. -/
inductive StandsFor (heap : Heap) : Origin → Source → Prop where
  | held {place : Nat} {o : Options} (h : heap[place]? = some (.holding o)) : StandsFor heap (.held place) (.existing o)
  | fields (named : Fields) : StandsFor heap (.fields named) (.fields named)
  | environment : StandsFor heap .environment .environment

/-- Loading an object brings the options that are loaded. -/
theorem brings_loadObject (s : Surroundings) {heap : Heap} {origin : Origin} {source : Source}
    (h : StandsFor heap origin source) (changes : Fields) :
    Brings (loadObject s origin changes) heap (load s source changes) := by
  have hnamed : origin.named = source.named := by cases h <;> rfl
  unfold loadObject load
  rw [hnamed]
  refine Brings.refuse ?_
  cases h with
  | fields named => exact brings_construct _ heap
  | environment => exact brings_construct _ heap
  | held hplace =>
    cases changes with
    | nil => exact ⟨[], (List.append_nil _).symm, _, rfl, by rw [List.append_nil]; exact hplace⟩
    | cons c changes =>
      dsimp only
      simp only [List.isEmpty_cons, Bool.false_eq_true, if_false]
      unfold Brings
      rw [runFrom_bind, object, runFrom_bind, runFrom_get]
      dsimp only
      rw [hplace]
      exact brings_construct _ heap

/-- Two ways to replace options agree: in the named values, before an object is made of them, and in the object that was made of
them. Both bring the same options or fail alike, and the object stays as it is. And whatever options are loaded from, they are of a
supported database, have an integer for a port or none, a loader, and something for each option that the database requires. -/
theorem overrides_agree (s : Surroundings) {fields : Fields} {o : Options} (h : ofFields fields = .ok o) (changes : Fields) :
    load s (.fields fields) changes = load s (.existing o) changes ∧
      (∀ heap : Heap, ∀ place, heap[place]? = some (.holding o) →
        Brings (loadObject s (.fields fields) changes) heap (load s (.fields fields) changes) ∧
          Brings (loadObject s (.held place) changes) heap (load s (.fields fields) changes)) ∧
      ∀ source changes o', (∀ o, source = .existing o → ∃ fields, ofFields fields = .ok o) →
        load s source changes = .ok o' → Sound o' := by
  have hagree := load_fields s h changes
  refine ⟨hagree, fun heap place hplace => ?_, fun source changes o' hsource hload => ?_⟩
  · exact ⟨brings_loadObject s (.fields fields) changes, hagree ▸ brings_loadObject s (.held hplace) changes⟩
  · obtain ⟨_, hread⟩ := exists_ofFields_of_load hsource hload
    exact sound_of_ofFields hread

/-- Named values for a database in a file, with a port in writing. -/
def fileFields : Fields := [("drivername", .text "sqlite"), ("database", .text "shop.db"), ("port", .text "12")]

def fileOptions : Options := ⟨.sqlite, .null, .null, .null, .text "shop.db", some 12, .int 0, .bool true, .records⟩

/-- No variables and no files. -/
def bare : Surroundings := ⟨"TABLEORM", [], [], fun _ => readVariables⟩

/-- What is replaced to have the database on a server. -/
def serverChanges : Fields := [("username", .text "orm"), ("drivername", .text "mysql"), ("hostname", .text "db.local")]

/-- The driver can be replaced, with all that the new one requires; the port has been read before. If something is missing for the
new driver, both ways say so. -/
theorem overrides_agree_new_driver :
    ofFields fileFields = .ok fileOptions ∧
      (∃ o, load bare (.fields fileFields) serverChanges = .ok o ∧ load bare (.existing fileOptions) serverChanges = .ok o ∧
        o = ⟨.mysql, .text "db.local", .text "orm", .null, .text "shop.db", some 12, .int 0, .bool true, .records⟩ ∧ Sound o ∧
        Brings (loadObject bare (.held 0) serverChanges) [.holding fileOptions] (.ok o)) ∧
      ∃ e, load bare (.fields fileFields) [("drivername", .text "mysql")] = .error e ∧
        load bare (.existing fileOptions) [("drivername", .text "mysql")] = .error e ∧
        e = .badValue (.missingOptions "mysql" ["hostname", "username"]) := by
  have hread : ofFields fileFields = .ok fileOptions := rfl
  obtain ⟨hserver, hobjects, hsound⟩ := overrides_agree bare hread serverChanges
  have hok : load bare (.fields fileFields) serverChanges =
      .ok ⟨.mysql, .text "db.local", .text "orm", .null, .text "shop.db", some 12, .int 0, .bool true, .records⟩ :=
    load_fields_of_known bare rfl rfl
  have hmissing : load bare (.fields fileFields) [("drivername", .text "mysql")] =
      .error (.badValue (.missingOptions "mysql" ["hostname", "username"])) := load_fields_of_known bare rfl rfl
  have hsound := hsound (.fields fileFields) serverChanges _ (by rintro _ ⟨⟩) hok
  refine ⟨hread, ⟨_, hok, hserver ▸ hok, rfl, hsound, hok ▸ (hobjects [.holding fileOptions] 0 rfl).2⟩, _, hmissing, ?_, rfl⟩
  rw [← (overrides_agree bare hread [("drivername", .text "mysql")]).1]
  exact hmissing

end RelationMapper.Options
