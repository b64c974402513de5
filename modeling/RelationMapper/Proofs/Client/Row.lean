import RelationMapper.Client.Rows
import RelationMapper.Proofs.Entry
import RelationMapper.Proofs.Value.Keyed

/-!
# The row of an entry

The row of an entry has a cell for each field that is a column, with the literal of its value (`mem_renderRow`), and none for a
relation. Its columns differ if the keys of the entry do (`nodup_names_renderRow`). Setting a name in an entry takes the place of
what was under it and touches nothing else (`mem_set_text_iff`).
-/

namespace RelationMapper

/-- A table has a column of a type: a property that is no relation, or the key. -/
def Table.HasColumn (t : Table) (name : String) (type : ColumnType) : Prop :=
  ∃ spec, t.spec name = .ok spec ∧ spec.columnType? = some type

/-- A column has one type. -/
theorem Table.HasColumn.unique {t : Table} {name : String} {type type' : ColumnType} (h : t.HasColumn name type)
    (h' : t.HasColumn name type') : type = type' := by
  obtain ⟨spec, hs, hc⟩ := h
  obtain ⟨spec', hs', hc'⟩ := h'
  cases hs.symm.trans hs'
  exact Option.some.inj (hc.symm.trans hc')

/-- An integer property is a column. -/
theorem Table.DeclaresInt.hasColumn {t : Table} {name : String} (hd : t.Distinct) (h : t.DeclaresInt name) :
    t.HasColumn name .int := by
  obtain ⟨spec, hs, hc, -⟩ := spec_of_declaresInt hd h
  exact ⟨spec, hs, hc⟩

namespace Client

variable {tables : List Table} {t : Table} {quote : String} {fields : Keyed Value} {row : List (String × String)}

/-! ## Setting a name -/

/-- What is in a map after a name was set is the new value or was there under another key. -/
theorem mem_set_text (hk : fields.Pairwise fun a b => a.1.sameKey b.1 = false) {name : String} {v : Value}
    {e : Value × Value} (he : e ∈ Keyed.set fields (.text name) v) :
    e = (.text name, v) ∨ (e ∈ fields ∧ e.1.isText name = false) := by
  induction fields with
  | nil => exact Or.inl (List.mem_singleton.mp he)
  | cons f fields ih =>
    rw [List.pairwise_cons] at hk
    by_cases hf : f.1.sameKey (.text name) = true
    · have hname : f.1 = .text name := isText_eq_true.mp (sameKey_text f.1 name ▸ hf)
      rw [show f = (f.1, f.2) from rfl, Keyed.set_here hf, List.mem_cons] at he
      rcases he with rfl | he
      · exact Or.inl (by rw [hname])
      · refine Or.inr ⟨List.mem_cons_of_mem _ he, Bool.eq_false_iff.mpr fun ht => ?_⟩
        have := hk.1 e he
        rw [isText_eq_true.mp ht, hf] at this
        cases this
    · have hfalse : f.1.sameKey (.text name) = false := Bool.eq_false_iff.mpr hf
      rw [Keyed.set_there hfalse, List.mem_cons] at he
      rcases he with rfl | he
      · exact Or.inr ⟨List.mem_cons_self, by rw [← sameKey_text]; exact hfalse⟩
      · rcases ih hk.2 he with he | ⟨he, hn⟩
        · exact Or.inl he
        · exact Or.inr ⟨List.mem_cons_of_mem _ he, hn⟩

/-- After a name was set, a map holds the new value there and what was under other keys. -/
theorem mem_set_text_iff (hk : fields.Pairwise fun a b => a.1.sameKey b.1 = false) {name : String} {v : Value}
    {e : Value × Value} :
    e ∈ Keyed.set fields (.text name) v ↔ e = (.text name, v) ∨ (e ∈ fields ∧ e.1.isText name = false) := by
  refine ⟨mem_set_text hk, fun he => ?_⟩
  clear hk
  induction fields with
  | nil => exact List.mem_singleton.mpr (he.resolve_right fun h => List.not_mem_nil h.1)
  | cons f fields ih =>
    by_cases hf : f.1.sameKey (.text name) = true
    · have hname : f.1.isText name = true := sameKey_text f.1 name ▸ hf
      rw [show f = (f.1, f.2) from rfl, Keyed.set_here hf, isText_eq_true.mp hname]
      rcases he with rfl | ⟨he, hn⟩
      · exact List.mem_cons_self
      · rcases List.mem_cons.mp he with rfl | he
        · cases hname.symm.trans hn
        · exact List.mem_cons_of_mem _ he
    · rw [Keyed.set_there (Bool.eq_false_iff.mpr hf)]
      rcases he with he | ⟨he, hn⟩
      · exact List.mem_cons_of_mem _ (ih (.inl he))
      · rcases List.mem_cons.mp he with rfl | he
        · exact List.mem_cons_self
        · exact List.mem_cons_of_mem _ (ih (.inr ⟨he, hn⟩))

/-- Keys that differ still do when a name was set. -/
theorem pairwise_set_text (hk : fields.Pairwise fun a b => a.1.sameKey b.1 = false) (name : String) (v : Value) :
    (Keyed.set fields (.text name) v).Pairwise fun a b => a.1.sameKey b.1 = false := by
  induction fields with
  | nil => exact List.pairwise_singleton _ _
  | cons f fields ih =>
    rw [List.pairwise_cons] at hk
    by_cases hf : f.1.sameKey (.text name) = true
    · rw [show f = (f.1, f.2) from rfl, Keyed.set_here hf]
      exact List.pairwise_cons.mpr hk
    · have hfalse : f.1.sameKey (.text name) = false := Bool.eq_false_iff.mpr hf
      rw [Keyed.set_there hfalse]
      refine List.pairwise_cons.mpr ⟨fun e he => ?_, ih hk.2⟩
      rcases mem_set_text hk.2 he with rfl | ⟨he, -⟩
      · exact hfalse
      · exact hk.1 e he

/-! ## Rows -/

/-- A row whose fields can be written is written, up to integers that are too long. -/
theorem only_renderRow {allowed : Fault → Prop} (h : ∀ e ∈ fields, FieldChecked tables t e.1 e.2)
    (hint : ∀ e ∈ fields, ∀ n, e.2 = .int n → Only allowed (writeInt n)) :
    Only allowed (renderRow quote tables t fields) := by
  refine Only.filterMapM fun e he => ?_
  obtain ⟨name, spec, hn⟩ := (h e he).named
  refine Only.bind_ok hn ?_
  dsimp only
  cases hs : spec.columnType? with
  | some type => exact (only_literal ((h e he).fits hn hs).2 (hint e he) quote).bind fun _ _ => Only.ok _
  | none =>
    obtain ⟨related, -, hr, -⟩ := (h e he).entries hn hs
    exact Only.bind_ok hr (Only.ok _)

/-- What a field brings to the row of an entry: a cell for a column, under its name and with the literal of the value, and
nothing for a relation. -/
theorem cells_renderRow (h : renderRow quote tables t fields = .ok row) :
    ∃ cell : Value × Value → Option (String × String), row = fields.filterMap cell ∧ ∀ e ∈ fields, ∀ column literal,
      cell e = some (column, literal) ↔ e.1 = .text column ∧ ∃ type, t.HasColumn column type ∧
        e.2.literal quote (some type) = .ok literal := by
  obtain ⟨cell, hcell, rfl⟩ := filterMapM_eq_ok.mp h
  refine ⟨cell, rfl, fun e he column literal => ?_⟩
  obtain ⟨⟨name, spec⟩, hn, hrendered⟩ := bind_eq_ok.mp (hcell e he)
  obtain ⟨hname, hs⟩ := Table.named_eq_ok.mp hn
  dsimp only at hrendered
  cases hc : spec.columnType? with
  | some type =>
    rw [hc] at hrendered
    obtain ⟨written, hw, hrendered⟩ := bind_eq_ok.mp hrendered
    rw [← pure_eq_ok.mp hrendered, Option.some.injEq, Prod.mk.injEq, hname, Value.text.injEq]
    refine and_congr_right ?_
    rintro rfl
    constructor
    · rintro rfl
      exact ⟨type, ⟨spec, hs, hc⟩, hw⟩
    · rintro ⟨type', htype, hl⟩
      cases htype.unique ⟨spec, hs, hc⟩
      exact Except.ok.inj (hw.symm.trans hl)
  | none =>
    rw [hc] at hrendered
    obtain ⟨_, -, hrendered⟩ := bind_eq_ok.mp hrendered
    rw [← pure_eq_ok.mp hrendered, hname, Value.text.injEq]
    refine ⟨nofun, ?_⟩
    rintro ⟨rfl, type, ⟨spec', hs', hc'⟩, -⟩
    cases hs.symm.trans hs'
    cases hc.symm.trans hc'

/-- A row holds a literal in a column if the entry holds a value with this literal there. -/
theorem mem_renderRow (h : renderRow quote tables t fields = .ok row) {column literal : String} :
    (column, literal) ∈ row ↔ ∃ v type, (.text column, v) ∈ fields ∧ t.HasColumn column type ∧
      v.literal quote (some type) = .ok literal := by
  obtain ⟨cell, rfl, hcell⟩ := cells_renderRow h
  rw [List.mem_filterMap]
  constructor
  · rintro ⟨⟨key, v⟩, hm, hsome⟩
    obtain ⟨rfl, type, htype, hl⟩ := (hcell _ hm _ _).mp hsome
    exact ⟨v, type, hm, htype, hl⟩
  · rintro ⟨v, type, hm, htype, hl⟩
    exact ⟨_, hm, (hcell _ hm _ _).mpr ⟨rfl, type, htype, hl⟩⟩

/-- What is in a row under a column had a literal. -/
theorem literal_of_renderRow (h : renderRow quote tables t fields = .ok row) {column : String} {v : Value}
    (hm : (.text column, v) ∈ fields) {type : ColumnType} (htype : t.HasColumn column type) :
    ∃ literal, v.literal quote (some type) = .ok literal := by
  obtain ⟨_, hcell, -⟩ := filterMapM_eq_ok.mp h
  obtain ⟨⟨name, spec⟩, hn, hrendered⟩ := bind_eq_ok.mp (hcell _ hm)
  obtain ⟨hname, hs⟩ := Table.named_eq_ok.mp hn
  cases hname
  obtain ⟨spec', hs', hc⟩ := htype
  cases hs.symm.trans hs'
  dsimp only at hrendered
  rw [hc] at hrendered
  obtain ⟨literal, hl, -⟩ := bind_eq_ok.mp hrendered
  exact ⟨literal, hl⟩

/-- The columns of a row are the fields of the entry that are columns. -/
theorem mem_names_renderRow (h : renderRow quote tables t fields = .ok row) {column : String} :
    column ∈ row.map (·.1) ↔ ∃ v type, (.text column, v) ∈ fields ∧ t.HasColumn column type := by
  rw [List.mem_map]
  constructor
  · rintro ⟨⟨column, literal⟩, hm, rfl⟩
    obtain ⟨v, type, hm, htype, -⟩ := (mem_renderRow h).mp hm
    exact ⟨v, type, hm, htype⟩
  · rintro ⟨v, type, hm, htype⟩
    obtain ⟨literal, hl⟩ := literal_of_renderRow h hm htype
    exact ⟨_, (mem_renderRow h).mpr ⟨v, type, hm, htype, hl⟩, rfl⟩

/-- No column of a row is repeated. -/
theorem nodup_names_renderRow (h : renderRow quote tables t fields = .ok row)
    (hk : fields.Pairwise fun a b => a.1.sameKey b.1 = false) : (row.map (·.1)).Nodup := by
  obtain ⟨cell, rfl, hcell⟩ := cells_renderRow h
  refine List.pairwise_map.mpr (List.pairwise_filterMap.mpr ?_)
  refine hk.imp_of_mem ?_
  rintro a b ha hb hdiffer ⟨column, literal⟩ hsome ⟨column', literal'⟩ hsome' rfl
  have hname := ((hcell a ha _ _).mp hsome).1
  have hname' := ((hcell b hb _ _).mp hsome').1
  rw [hname, hname', sameKey_text] at hdiffer
  exact absurd (isText_eq_true.mpr rfl) (Bool.eq_false_iff.mp hdiffer)

end Client

end RelationMapper
