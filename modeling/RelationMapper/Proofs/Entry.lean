import RelationMapper.Entry
import RelationMapper.Proofs.Schema.WellFormed
import RelationMapper.Proofs.Traffic

/-!
# What the check of an entry promises

In a well-formed schema an entry that passes `checkEntry` can be written: each of its fields is a column with a value that fits,
which then has a literal (`only_literal`), or a relation with a list of entries that pass in turn (`FieldChecked`,
`fieldChecked_of_checkField`). The lemmas here take the check apart, one for each level of the tree.
-/

namespace RelationMapper

variable {tables : List Table} {t : Table}

/-! ## Literals -/

theorem unrefused_writeInt (n : Int) : Unrefused (writeInt n) := by
  unfold writeInt
  split
  · exact Only.error rfl
  · exact Only.ok _

/-- A value that fits a column has a literal, unless it is an integer too long to be written. -/
theorem only_literal {allowed : Fault → Prop} {name : String} {v : Value} {column : ColumnType}
    (h : assertFits name v column = .ok ()) (hint : ∀ n, v = .int n → Only allowed (writeInt n)) (quote : String) :
    Only allowed (v.literal quote (some column)) := by
  obtain ⟨kind, hk, -⟩ := bind_eq_ok.mp h
  cases v with
  | int n => exact hint n rfl
  | real x =>
    have hf : x.isFinite = true := by
      cases hx : x.isFinite with
      | true => rfl
      | false => rw [Value.kind, hx] at hk; cases hk
    rw [Value.literal, if_pos hf]
    exact Only.ok _
  | text s =>
    rw [Value.literal]
    split <;> exact Only.ok _
  | null | bool | moment | date | now => exact Only.ok _
  | bytes | buffer | list | tuple | set | map | object => cases hk

/-- The same for the literal that is written after a further check. -/
theorem only_checkedLiteral {allowed : Fault → Prop} {name : String} {v : Value} {column : ColumnType}
    (h : assertFits name v column = .ok ()) (hint : ∀ n, v = .int n → Only allowed (writeInt n)) (quote : String) :
    Only allowed (checkedLiteral quote name column v) := by
  rw [checkedLiteral, h]
  exact only_literal h hint quote

/-- An integer fits an integer column. -/
theorem assertFits_int (name : String) (n : Int) : assertFits name (.int n) .int = .ok () := by
  unfold assertFits Value.kind
  by_cases hn : n = 0 ∨ n = 1 <;> simp [hn, Kind.accepted]

/-! ## Types of properties -/

/-- The type of a property is declared, or it is that of the key. -/
theorem Table.spec_eq_ok {name : String} {spec : TypeSpec} :
    t.spec name = .ok spec ↔ (∃ p, t.property? name = some p ∧ p.spec = .ok spec) ∨
      (t.property? name = none ∧ name = t.key ∧ spec = ⟨"int", none, false⟩) := by
  have hint : TypeSpec.parse ColumnType.int.name = .ok ⟨"int", none, false⟩ := rfl
  unfold Table.spec Table.declaredType
  rw [bind_eq_ok]
  cases hp : t.property? name with
  | some p => simp [Property.spec]
  | none =>
    by_cases hk : name = t.key
    · simp only [hk, if_true, mapError_eq_ok, Except.ok.injEq, exists_eq_left', hint, reduceCtorEq, false_and,
        exists_false, true_and, false_or]
      exact eq_comm
    · simp [hk]

/-- A key of a map that names a property is the name. -/
theorem Table.named_eq_ok {key : Value} {name : String} {spec : TypeSpec} :
    t.named key = .ok (name, spec) ↔ key = .text name ∧ t.spec name = .ok spec := by
  cases key with
  | text s =>
    rw [Table.named, bind_eq_ok]
    simp only [pure_eq_ok, Prod.mk.injEq, Value.text.injEq]
    constructor
    · rintro ⟨spec', hs, rfl, rfl⟩
      exact ⟨rfl, hs⟩
    · rintro ⟨rfl, hs⟩
      exact ⟨spec, hs, rfl, rfl⟩
  | _ => simp [Table.named, bind_eq_ok]

/-- In a well-formed schema every property that can be named has a supported type, the key included. -/
theorem supported_of_spec (h : WellFormedSchema tables) (hd : t.Distinct) (ht : t ∈ tables) {name : String}
    {spec : TypeSpec} (hs : t.spec name = .ok spec) : Supported tables t spec := by
  rcases Table.spec_eq_ok.mp hs with ⟨p, hp, hs⟩ | ⟨-, -, rfl⟩
  · obtain ⟨spec', hs', hsup⟩ := h.types t ht p ((Table.property?_eq_some hd).mp hp).1
    rw [hs] at hs'
    exact Except.ok.inj hs' ▸ hsup
  · exact .column .int (by decide) rfl (by decide)

/-- The owner's key is an integer column of a related table. -/
theorem spec_of_declaresInt (hd : t.Distinct) {name : String} (h : t.DeclaresInt name) :
    ∃ spec, t.spec name = .ok spec ∧ spec.columnType? = some .int ∧ spec.isArray = false := by
  obtain ⟨p, hp, rfl, spec, hs, hb, ha⟩ := h
  refine ⟨spec, Table.spec_eq_ok.mpr (Or.inl ⟨p, (Table.property?_eq_some hd).mpr ⟨hp, rfl⟩, hs⟩), ?_, ha⟩
  rw [TypeSpec.columnType?, hb]
  exact ColumnType.ofName?_name .int

/-! ## Keys of maps -/

/-- A key is the same as a text only if it is that text. -/
theorem sameKey_text (key : Value) (name : String) : key.sameKey (.text name) = key.isText name := by
  cases key <;> simp [Value.sameKey, Value.sameNumber, Value.int?, Value.isText]

theorem isText_eq_true {key : Value} {name : String} : key.isText name = true ↔ key = .text name := by
  cases key <;> simp [Value.isText]

mutual

/-- No map in a value has two keys that are the same. -/
def Value.KeysDiffer : Value → Prop
  | .list items | .tuple items | .set items => AllKeysDiffer items
  | .map entries => entries.Pairwise (fun a b => a.1.sameKey b.1 = false) ∧ EntriesKeysDiffer entries
  | _ => True

/-- The same for all of some values. -/
def AllKeysDiffer : List Value → Prop
  | [] => True
  | v :: rest => v.KeysDiffer ∧ AllKeysDiffer rest

/-- The same for all values of a map. -/
def EntriesKeysDiffer : List (Value × Value) → Prop
  | [] => True
  | (_, v) :: rest => v.KeysDiffer ∧ EntriesKeysDiffer rest

end

/-- The items of a value in which keys differ are such values. -/
theorem allKeysDiffer_items {v : Value} (h : v.KeysDiffer) {items : List Value} (hi : v.items? = some items) :
    AllKeysDiffer items := by
  cases v with
  | list _ | tuple _ | set _ =>
    cases hi
    exact h
  | _ => cases hi

theorem entriesKeysDiffer_mem {fields : List (Value × Value)} (h : EntriesKeysDiffer fields) {e : Value × Value}
    (he : e ∈ fields) : e.2.KeysDiffer := by
  induction fields with
  | nil => exact absurd he List.not_mem_nil
  | cons f fields ih =>
    rcases List.mem_cons.mp he with rfl | he
    · exact h.1
    · exact ih h.2 he

/-! ## Fields, level by level -/

/-- A field whose value can be written: a column whose value fits, or a relation with entries that can be written. -/
inductive FieldChecked (tables : List Table) (t : Table) (key value : Value) : Prop where
  | column (name : String) (spec : TypeSpec) (type : ColumnType) : t.named key = .ok (name, spec) →
      spec.columnType? = some type → value.isSequence = false → assertFits name value type = .ok () →
      FieldChecked tables t key value
  | relation (name : String) (spec : TypeSpec) (related : Table) (items : List Value) :
      t.named key = .ok (name, spec) → spec.columnType? = none → t.related tables spec = .ok related →
      related ∈ tables → related.DeclaresInt t.key → value.items? = some items →
      Table.checkEntries tables related t.key items = .ok () → FieldChecked tables t key value

namespace FieldChecked

variable {key value : Value} {name : String} {spec : TypeSpec}

/-- A field that was checked is named by a property. -/
theorem named (h : FieldChecked tables t key value) : ∃ name spec, t.named key = .ok (name, spec) := by
  cases h with
  | column name spec type hn => exact ⟨name, spec, hn⟩
  | relation name spec related items hn => exact ⟨name, spec, hn⟩

/-- A column has a value that fits. -/
theorem fits (h : FieldChecked tables t key value) (hn : t.named key = .ok (name, spec)) {type : ColumnType}
    (hs : spec.columnType? = some type) : value.isSequence = false ∧ assertFits name value type = .ok () := by
  cases h with
  | column _ _ type' hn' hs' hseq hfits =>
    cases hn.symm.trans hn'
    cases hs.symm.trans hs'
    exact ⟨hseq, hfits⟩
  | relation _ _ _ _ hn' hs' =>
    cases hn.symm.trans hn'
    cases hs.symm.trans hs'

/-- A relation has entries that were checked for the table that it refers to. -/
theorem entries (h : FieldChecked tables t key value) (hn : t.named key = .ok (name, spec))
    (hs : spec.columnType? = none) :
    ∃ related items, t.related tables spec = .ok related ∧ related ∈ tables ∧ related.DeclaresInt t.key ∧
      value.items? = some items ∧ Table.checkEntries tables related t.key items = .ok () := by
  cases h with
  | column _ _ type hn' hs' =>
    cases hn.symm.trans hn'
    cases hs.symm.trans hs'
  | relation _ _ related items hn' _ hr hm hd hi hc =>
    cases hn.symm.trans hn'
    exact ⟨related, items, hr, hm, hd, hi, hc⟩

end FieldChecked

/-- A table that a type refers to is one of the schema. -/
theorem related_eq_ok {spec : TypeSpec} {related : Table} :
    t.related tables spec = .ok related ↔ findTable? tables spec.base = some related := by
  unfold Table.related
  cases findTable? tables spec.base <;> simp

/-- The check of a field lets pass fields that can be written. -/
theorem fieldChecked_of_checkField (h : WellFormedSchema tables) (hd : t.Distinct) (ht : t ∈ tables) {key value : Value}
    (hc : Table.checkField tables t key value = .ok ()) : FieldChecked tables t key value := by
  rw [Table.checkField] at hc
  obtain ⟨⟨name, spec⟩, hn, hc⟩ := bind_eq_ok.mp hc
  obtain ⟨_, hshape, hc⟩ := bind_eq_ok.mp hc
  rw [mapError_eq_ok] at hshape
  obtain ⟨harray, hnone⟩ := refuse_eq_ok.mp hshape
  cases supported_of_spec h hd ht (Table.named_eq_ok.mp hn).2 with
  | column type hcol ha hp =>
    rw [hcol] at hc
    refine .column name spec type hn hcol ?_ (mapError_eq_ok.mp hc)
    have := (ite_error_eq_ok.mp hnone).1
    simpa [ha] using this
  | relation related hcol ha hp hm hb hi =>
    rw [hcol] at hc
    obtain ⟨related', hr, hc⟩ := bind_eq_ok.mp hc
    have hsame : related' = related := by
      have hf := related_eq_ok.mp hr
      rw [(findTable?_eq_some h.names).mpr ⟨hm, hb⟩] at hf
      exact (Option.some.inj hf).symm
    subst hsame
    have hseq : value.isSequence = true := by simpa [ha] using harray
    cases value with
    | list items | tuple items | set items => exact .relation name spec related' items hn hcol hr hm hi rfl hc
    | _ => cases hseq

/-- The check of fields goes through all of them except the owner's key. -/
theorem checkFields_eq_ok {owner : Option String} {fields : List (Value × Value)} :
    Table.checkFields tables t owner fields = .ok () ↔
      ∀ e ∈ fields, owner.any e.1.isText = false → Table.checkField tables t e.1 e.2 = .ok () := by
  induction fields with
  | nil => simp [Table.checkFields]
  | cons e fields ih =>
    obtain ⟨key, value⟩ := e
    rw [Table.checkFields, List.forall_mem_cons, ← ih]
    cases ho : owner.any key.isText with
    | true => simp
    | false =>
      simp only [Bool.not_false, if_true, bind_eq_ok, true_implies]
      constructor
      · rintro ⟨_, h1, h2⟩
        exact ⟨h1, h2⟩
      · rintro ⟨h1, h2⟩
        exact ⟨(), h1, h2⟩

/-- The check of entries goes through all of them. -/
theorem checkEntries_cons {owner : String} {entry : Value} {items : List Value} :
    Table.checkEntries tables t owner (entry :: items) = .ok () ↔
      Table.checkEntry tables t (some owner) entry = .ok () ∧ Table.checkEntries tables t owner items = .ok () := by
  rw [Table.checkEntries, bind_eq_ok]
  constructor
  · rintro ⟨_, h1, h2⟩
    exact ⟨h1, h2⟩
  · rintro ⟨h1, h2⟩
    exact ⟨(), h1, h2⟩

/-- An entry that passes is a map whose fields pass. -/
theorem checkFields_of_checkEntry {owner : Option String} {fields : List (Value × Value)}
    (h : Table.checkEntry tables t owner (.map fields) = .ok ()) : Table.checkFields tables t owner fields = .ok () := by
  rw [Table.checkEntry] at h
  exact (refuse_eq_ok.mp h).2

/-- An entry that passes does not name the key of its table, unless the key is also that of the owner. -/
theorem key_notMem_of_checkEntry {owner : Option String} {fields : List (Value × Value)}
    (h : Table.checkEntry tables t owner (.map fields) = .ok ()) (ho : owner ≠ some t.key) (v : Value) :
    (.text t.key, v) ∉ fields := by
  intro hm
  rw [Table.checkEntry] at h
  refine (refuse_eq_ok.mp h).1 ?_
  rw [Bool.and_eq_true, decide_eq_true_iff]
  exact ⟨ho, List.any_eq_true.mpr ⟨_, hm, (sameKey_text _ _).trans (isText_eq_true.mpr rfl)⟩⟩

end RelationMapper
