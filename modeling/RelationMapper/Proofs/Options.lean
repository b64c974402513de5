import RelationMapper.Options.Environment
import RelationMapper.Proofs.Value.Keyed

/-!
# Options that are read

Options are read from named values, one by one, and what is not given has a default. `Options.Reads` says what is read, and
`Options.ofFields_eq_ok` that this is all there is to `Options.ofFields`. Options that are written as named values again are read
as they are (`Options.Reads.toFields`); so to change some of the values comes to the same before they are read and after that
(`Options.load_fields`). Whatever options are loaded from, they can be read, and so they have all that their database requires
(`Options.exists_ofFields_of_load`, `Options.sound_of_ofFields`).
-/

namespace RelationMapper

/-! ## Names that are set -/

namespace Fields

theorem get?_cons (first : String) (w : Value) (fields : Fields) (name : String) :
    Fields.get? ((first, w) :: fields) name = if name = first then some w else fields.get? name := by
  rw [Fields.get?, List.lookup_cons]
  by_cases h : name = first
  · rw [if_pos h, beq_iff_eq.mpr h]
  · rw [if_neg h, beq_false_of_ne h]
    rfl

/-- A name that is set has its new value, and the others keep theirs. -/
theorem get?_set (fields : Fields) (name other : String) (v : Value) :
    (fields.set name v).get? other = if other = name then some v else fields.get? other := by
  induction fields with
  | nil => exact get?_cons name v [] other
  | cons f fields ih =>
    obtain ⟨first, w⟩ := f
    rw [Fields.set, get?_cons]
    by_cases hf : first = name
    · subst hf
      rw [if_pos rfl, get?_cons]
      split <;> rfl
    · rw [if_neg hf, get?_cons, ih]
      by_cases h : other = name
      · rw [if_neg (fun hother => hf (hother.symm.trans h)), if_pos h, if_pos h]
      · rw [if_neg h, if_neg h]

/-- Among the names that are there once a name is set, there is one of a kind if there was one before or this is one. -/
theorem any_set (kind : String → Bool) (fields : Fields) (name : String) (v : Value) :
    ((fields.set name v).any fun f => kind f.1) = ((fields.any fun f => kind f.1) || kind name) := by
  induction fields with
  | nil => simp [Fields.set]
  | cons f fields ih =>
    rw [Fields.set]
    by_cases hf : f.1 = name
    · cases hk : kind name <;> simp [hf, hk]
    · rw [if_neg hf, List.any_cons, List.any_cons, ih, Bool.or_assoc]

/-- A name of a kind is among fields with changes exactly if it is among the fields or among the changes. -/
theorem any_setAll (kind : String → Bool) (fields changes : Fields) :
    ((fields.setAll changes).any fun f => kind f.1) =
      ((fields.any fun f => kind f.1) || changes.any fun f => kind f.1) := by
  induction changes generalizing fields with
  | nil => exact (Bool.or_false _).symm
  | cons c changes ih =>
    rw [List.any_cons, ← Bool.or_assoc, ← any_set kind fields c.1 c.2]
    exact ih _

end Fields

namespace Options

variable {fields others changes : Fields} {o : Options} {name : String}

/-! ## What is read -/

/-- Whether names are given that are no options. -/
def givesUnknown (fields : Fields) : Bool := fields.any fun f => !optionDefaults.has f.1

/-- What is read from named values. -/
structure Reads (fields : Fields) (o : Options) : Prop where
  dialect : readDialect (given fields "drivername") = .ok o.dialect
  hostname : given fields "hostname" = o.hostname
  username : given fields "username" = o.username
  password : given fields "password" = o.password
  database : given fields "database" = o.database
  port : readPort (given fields "port") = .ok o.port
  timeout : given fields "timeout" = o.timeout
  strict : given fields "strict_consistency" = o.strict
  loader : Loader.ofValue (given fields "data_loader") = o.loader
  required : ∀ name ∈ o.dialect.required, (given fields name).isTruthy = true

/-- Options come of named values exactly if no name is unknown and they are read from the values. -/
theorem ofFields_eq_ok : ofFields fields = .ok o ↔ givesUnknown fields = false ∧ Reads fields o := by
  unfold ofFields
  rw [refuse_eq_ok]
  constructor
  · rintro ⟨hunknown, h⟩
    obtain ⟨dialect, hdialect, h⟩ := bind_eq_ok.mp h
    obtain ⟨port, hport, h⟩ := bind_eq_ok.mp h
    obtain ⟨hmissing, h⟩ := refuse_eq_ok.mp h
    cases pure_eq_ok.mp h
    exact ⟨Bool.eq_false_iff.mpr hunknown, hdialect, rfl, rfl, rfl, rfl, hport, rfl, rfl, rfl, by simpa using hmissing⟩
  · rintro ⟨hunknown, h⟩
    refine ⟨Bool.eq_false_iff.mp hunknown, ?_⟩
    rw [h.dialect, h.port]
    refine refuse_eq_ok.mpr ⟨by simpa using h.required, ?_⟩
    rw [h.hostname, h.username, h.password, h.database, h.timeout, h.strict, h.loader]
    rfl

/-- What holds of three options holds of all that a database requires. -/
theorem forall_required (dialect : Dialect) {p : String → Prop} (hostname : p "hostname") (username : p "username")
    (database : p "database") : ∀ name ∈ dialect.required, p name := by
  cases dialect <;> simp [Dialect.required, hostname, username, database]

/-- Options in writing are read as they are. -/
theorem Reads.toFields (h : Reads fields o) : Reads o.toFields o where
  dialect := by
    change readDialect (.text o.dialect.name) = _
    rw [readDialect, Dialect.ofName?_name]
  hostname := rfl
  username := rfl
  password := rfl
  database := rfl
  port := by
    change readPort ((o.port.map .int).getD .null) = _
    cases o.port <;> rfl
  timeout := rfl
  strict := rfl
  loader := by
    change Loader.ofValue (.text o.loader.name) = _
    cases o.loader <;> rfl
  required := by
    intro name hname
    have hsame : given o.toFields name = given fields name :=
      forall_required o.dialect (p := fun name => given o.toFields name = given fields name) h.hostname.symm h.username.symm
        h.database.symm name hname
    rw [hsame]
    exact h.required name hname

theorem givesUnknown_toFields (o : Options) : givesUnknown o.toFields = false := rfl

/-! ## What is read alike -/

/-- Named values from which the same is read. -/
structure Alike (fields others : Fields) : Prop where
  unknown : givesUnknown fields = givesUnknown others
  dialect : readDialect (given fields "drivername") = readDialect (given others "drivername")
  hostname : given fields "hostname" = given others "hostname"
  username : given fields "username" = given others "username"
  password : given fields "password" = given others "password"
  database : given fields "database" = given others "database"
  port : readPort (given fields "port") = readPort (given others "port")
  timeout : given fields "timeout" = given others "timeout"
  strict : given fields "strict_consistency" = given others "strict_consistency"
  loader : Loader.ofValue (given fields "data_loader") = Loader.ofValue (given others "data_loader")

/-- The same options come of values from which the same is read. -/
theorem Alike.ofFields (h : Alike fields others) : ofFields fields = ofFields others := by
  have hmissing (dialect : Dialect) : dialect.required.filter (fun name => !(given fields name).isTruthy) =
      dialect.required.filter fun name => !(given others name).isTruthy := by
    refine List.filter_congr (forall_required dialect ?_ ?_ ?_)
    · rw [h.hostname]
    · rw [h.username]
    · rw [h.database]
  have hunknown := h.unknown
  unfold givesUnknown at hunknown
  unfold Options.ofFields
  simp only [hunknown, hmissing, h.dialect, h.hostname, h.username, h.password, h.database, h.port, h.timeout, h.strict, h.loader]

/-- Where the same options are read, the same is read. -/
theorem Reads.alike (h : Reads fields o) (h' : Reads others o) (hu : givesUnknown fields = false)
    (hu' : givesUnknown others = false) : Alike fields others where
  unknown := hu.trans hu'.symm
  dialect := h.dialect.trans h'.dialect.symm
  hostname := h.hostname.trans h'.hostname.symm
  username := h.username.trans h'.username.symm
  password := h.password.trans h'.password.symm
  database := h.database.trans h'.database.symm
  port := h.port.trans h'.port.symm
  timeout := h.timeout.trans h'.timeout.symm
  strict := h.strict.trans h'.strict.symm
  loader := h.loader.trans h'.loader.symm

/-- If the same is read of an option before some changes, the same is read of it after them. -/
theorem given_setAll_congr {β : Type} (read : Value → β) (h : read (given fields name) = read (given others name)) :
    read (given (fields.setAll changes) name) = read (given (others.setAll changes) name) := by
  induction changes generalizing fields others with
  | nil => exact h
  | cons c changes ih =>
    refine ih ?_
    rw [given, given, Fields.get?_set, Fields.get?_set]
    split
    · rfl
    · exact h

/-- The same changes leave alike what is alike. -/
theorem Alike.setAll (h : Alike fields others) (changes : Fields) : Alike (fields.setAll changes) (others.setAll changes) where
  unknown := by
    have hunknown := h.unknown
    unfold givesUnknown at hunknown ⊢
    rw [Fields.any_setAll (fun name => !optionDefaults.has name), Fields.any_setAll (fun name => !optionDefaults.has name),
      hunknown]
  dialect := given_setAll_congr readDialect h.dialect
  hostname := given_setAll_congr id h.hostname
  username := given_setAll_congr id h.username
  password := given_setAll_congr id h.password
  database := given_setAll_congr id h.database
  port := given_setAll_congr readPort h.port
  timeout := given_setAll_congr id h.timeout
  strict := given_setAll_congr id h.strict
  loader := given_setAll_congr Loader.ofValue h.loader

/-- Named values and the options that are read from them are alike. -/
theorem alike_toFields (h : ofFields fields = .ok o) : Alike fields o.toFields := by
  obtain ⟨hunknown, hreads⟩ := ofFields_eq_ok.mp h
  exact hreads.alike hreads.toFields hunknown (givesUnknown_toFields o)

/-! ## Loading -/

theorem filter_unknown_eq_nil (h : givesUnknown fields = false) :
    (fields.map (·.1)).filter (fun name => !optionDefaults.has name) = [] := by
  rw [List.filter_eq_nil_iff, List.forall_mem_map]
  intro f hf hunknown
  exact Bool.false_ne_true (h.symm.trans (List.any_eq_true.mpr ⟨f, hf, hunknown⟩))

/-- Names that are options do not count among those that are not. -/
theorem unknownNames_append (h : givesUnknown fields = false) : unknownNames (changes ++ fields) = unknownNames changes := by
  rw [unknownNames, List.map_append, List.filter_append, filter_unknown_eq_nil h, List.append_nil, unknownNames]

theorem unknownNames_eq_nil (h : givesUnknown fields = false) : unknownNames fields = [] := by
  rw [unknownNames, filter_unknown_eq_nil h]
  simp

/-- Where all names are options, they are read with the changes. -/
theorem load_fields_of_known (s : Surroundings) (h : givesUnknown fields = false) (hchanges : givesUnknown changes = false) :
    load s (.fields fields) changes = ofFields (fields.setAll changes) := by
  have hnone : unknownNames (changes ++ fields) = [] := (unknownNames_append h).trans (unknownNames_eq_nil hchanges)
  unfold load
  simp only [Source.named, hnone]
  rfl

/-- Named values and the options that are read from them load alike, whatever is replaced. -/
theorem load_fields (s : Surroundings) (h : ofFields fields = .ok o) (changes : Fields) :
    load s (.fields fields) changes = load s (.existing o) changes := by
  have hunknown : unknownNames (changes ++ fields) = unknownNames (changes ++ []) := by
    rw [unknownNames_append (ofFields_eq_ok.mp h).1, List.append_nil]
  have hread : ofFields (fields.setAll changes) = if changes.isEmpty then .ok o else o.replace changes := by
    cases changes with
    | nil => exact h
    | cons c changes => exact ((alike_toFields h).setAll _).ofFields
  unfold load
  simp only [Source.named, hunknown, hread]
  rfl

/-- Options that are loaded can be read, if options that existed before could. -/
theorem exists_ofFields_of_load {s : Surroundings} {source : Source}
    (hsource : ∀ o, source = .existing o → ∃ fields, ofFields fields = .ok o) (h : load s source changes = .ok o) :
    ∃ fields, ofFields fields = .ok o := by
  unfold load at h
  obtain ⟨-, h⟩ := refuse_eq_ok.mp h
  cases source with
  | existing o' =>
    dsimp only at h
    split at h
    · cases pure_eq_ok.mp h
      exact hsource _ rfl
    · exact ⟨_, h⟩
  | fields named => exact ⟨_, h⟩
  | environment => exact ⟨_, h⟩

/-- What options have to be, as they are written: of a supported database, with an integer for a port or none, with a loader,
and with something for each option that the database requires. -/
structure Sound (o : Options) : Prop where
  dialect : ∃ name ∈ Dialect.available, given o.toFields "drivername" = .text name
  port : given o.toFields "port" = .null ∨ ∃ n, given o.toFields "port" = .int n
  loader : ∃ loader : Loader, given o.toFields "data_loader" = .text loader.name
  required : ∀ name ∈ o.dialect.required, (given o.toFields name).isTruthy = true

/-- Options that come of named values are sound. -/
theorem sound_of_ofFields (h : ofFields fields = .ok o) : Sound o where
  dialect := ⟨o.dialect.name, by cases o.dialect <;> decide, rfl⟩
  port := by
    change (o.port.map Value.int).getD .null = .null ∨ ∃ n, (o.port.map Value.int).getD .null = .int n
    cases o.port with
    | none => exact .inl rfl
    | some n => exact .inr ⟨n, rfl⟩
  loader := ⟨o.loader, rfl⟩
  required := (ofFields_eq_ok.mp h).2.toFields.required

end Options

end RelationMapper
