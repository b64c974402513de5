import RelationMapper.Proofs.Client.Delete

/-!
# Updates behave

An update assigns columns and replaces related rows, owner by owner: those of a relation are deleted by the owner's key and the
given entries inserted. All of this was checked before anything is sent (`behaves_updateFields`).
-/

namespace RelationMapper.Client

open Act

variable {P : Prop} {r : Registry JoinPlan} {t : Table}

/-- Assignments of fields that can be written are written, up to integers that are too long. -/
theorem only_renderAssignments {allowed : Fault → Prop} {quote : String} {tables : List Table} {fields : Keyed Value}
    (h : ∀ e ∈ fields, FieldChecked tables t e.1 e.2)
    (hint : ∀ e ∈ fields, ∀ n, e.2 = .int n → Only allowed (writeInt n)) :
    Only allowed (t.renderAssignments quote fields) := by
  refine Only.filterMapM fun e he => ?_
  obtain ⟨name, spec, hn⟩ := (h e he).named
  refine Only.bind_ok hn ?_
  dsimp only
  cases hs : spec.columnType? with
  | some type =>
    obtain ⟨hseq, hfits⟩ := (h e he).fits hn hs
    dsimp only
    rw [hseq]
    exact (only_checkedLiteral hfits (hint e he) quote).bind fun _ _ => Only.ok _
  | none => exact Only.ok _

/-- A relation of an entry with the entries for it, as the check of the entry leaves them. -/
structure Replaceable (r : Registry JoinPlan) (t : Table) (relation : Table × Value) : Prop where
  mem : relation.1 ∈ r.tables
  declares : relation.1.DeclaresInt t.key
  checked : ∃ items, relation.2.items? = some items ∧ Table.checkEntries r.tables relation.1 t.key items = .ok () ∧
    AllKeysDiffer items

/-- The relations of an entry that was checked. -/
theorem replaceable_of_mem {fields : Keyed Value} (h : ∀ e ∈ fields, FieldChecked r.tables t e.1 e.2)
    (hk : EntriesKeysDiffer fields) {relations : List (Table × Value)} (hr : relationsOf r.tables t fields = .ok relations)
    {relation : Table × Value} (hmem : relation ∈ relations) : Replaceable r t relation := by
  obtain ⟨e, he, hstep⟩ := exists_of_mem_filterMapM hr hmem
  obtain ⟨⟨name, spec⟩, hn, hstep⟩ := bind_eq_ok.mp hstep
  dsimp only at hstep
  split at hstep
  · cases pure_eq_ok.mp hstep
  · case isFalse hs =>
    obtain ⟨related, hrel, hstep⟩ := bind_eq_ok.mp hstep
    cases pure_eq_ok.mp hstep
    obtain ⟨related', items, hrel', hm, hd, hi, hc⟩ := (h e he).entries hn (Option.not_isSome_iff_eq_none.mp hs)
    cases hrel.symm.trans hrel'
    exact ⟨hm, hd, items, hi, hc, allKeysDiffer_items (entriesKeysDiffer_mem hk he) hi⟩

end RelationMapper.Client
