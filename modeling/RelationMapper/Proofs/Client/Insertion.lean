import RelationMapper.Proofs.Client.Rendering
import RelationMapper.Proofs.Client.Sending

/-!
# What an insertion sends

An entry is inserted with the entries below it in the order in which they stand, each before those below it: for each of them the
next key is asked for and then the row is sent (`Insertions`). An insertion that breaks off has sent a beginning of this
(`sends_insertEntry`).
-/

namespace RelationMapper.Client

open Act Number

variable {r : Registry JoinPlan} {t : Table} {o : Options} {smooth : Prop} {quote : String} {ts : List Table}

/-! ## Entries that are to be inserted -/

/-- An entry for a table that is to be inserted, with the key of its owner if it has one. -/
structure Pending where
  table : Table
  owner : Option (String × Value)
  entry : Value

/-- The entries that a field holds, if it is a relation, with the key of their owner. -/
def pendingIn (tables : List Table) (t : Table) (key name value : Value) : List Pending :=
  match t.named name with
  | .error _ => []
  | .ok (_, spec) =>
    if spec.isPrimitive then []
    else match t.related tables spec with
      | .error _ => []
      | .ok related => (value.items?.getD []).map fun item => ⟨related, some (t.key, key), item⟩

/-- The entries that the fields of an entry hold. The first field under which the entry names its owner's key holds none. -/
def pendingBelow (tables : List Table) (t : Table) (key : Value) : Option String → List (Value × Value) → List Pending
  | _, [] => []
  | owner, (name, value) :: rest =>
    if owner.any name.isText then pendingBelow tables t key none rest
    else pendingIn tables t key name value ++ pendingBelow tables t key owner rest

/-- A column holds no entries that are to be inserted. -/
theorem pendingIn_column {key name value : Value} {name' : String} {spec : TypeSpec} (hn : t.named name = .ok (name', spec))
    (hs : spec.isPrimitive = true) : pendingIn ts t key name value = [] := by
  simp [pendingIn, hn, hs]

/-- A relation holds its entries, each to be inserted below the owner. -/
theorem pendingIn_relation {key name value : Value} {name' : String} {spec : TypeSpec} {related : Table} {items : List Value}
    (hn : t.named name = .ok (name', spec)) (hs : spec.isPrimitive = false) (hrel : t.related ts spec = .ok related)
    (hi : value.items? = some items) :
    pendingIn ts t key name value = items.map fun item => ⟨related, some (t.key, key), item⟩ := by
  simp [pendingIn, hn, hs, hrel, hi]

/-- What a field holds to be inserted is an entry of the relation that the field names. -/
theorem mem_pendingIn {key name value : Value} {p : Pending} (hp : p ∈ pendingIn ts t key name value) :
    ∃ name' spec related items, t.named name = .ok (name', spec) ∧ spec.isPrimitive = false ∧
      t.related ts spec = .ok related ∧ value.items? = some items ∧
      ∃ item ∈ items, p = ⟨related, some (t.key, key), item⟩ := by
  unfold pendingIn at hp
  split at hp
  · exact absurd hp List.not_mem_nil
  · case h_2 name' spec hn =>
    split at hp
    · exact absurd hp List.not_mem_nil
    · case isFalse hs =>
      split at hp
      · exact absurd hp List.not_mem_nil
      · case h_2 related hrel =>
        obtain ⟨item, hitem, rfl⟩ := List.mem_map.mp hp
        cases hi : value.items? with
        | none =>
          rw [hi] at hitem
          exact absurd hitem List.not_mem_nil
        | some items =>
          rw [hi] at hitem
          exact ⟨name', spec, related, items, hn, Bool.eq_false_iff.mpr hs, hrel, rfl, item, hitem, rfl⟩

theorem columnType?_eq_none {spec : TypeSpec} (h : spec.isPrimitive = false) : spec.columnType? = none :=
  Option.not_isSome_iff_eq_none.mp (Bool.eq_false_iff.mp h)

/-- What is to be inserted for a field that was checked was checked. -/
theorem FieldInsertable.pendingIn {key name value : Value} (h : FieldInsertable r t key name value) {p : Pending}
    (hp : p ∈ Client.pendingIn r.tables t key name value) : Insertable r p.table p.owner p.entry := by
  obtain ⟨name', spec, related, items, hn, hs, hrel, hi, item, hitem, rfl⟩ := mem_pendingIn hp
  exact (h.entries hn (columnType?_eq_none hs) hrel hi).of_mem hitem

/-- What is to be inserted below a row that was checked was checked. -/
theorem FieldsInsertable.pendingBelow {key : Value} {owner : Option String} {fields : List (Value × Value)}
    (h : FieldsInsertable r t key owner fields) {p : Pending} (hp : p ∈ Client.pendingBelow r.tables t key owner fields) :
    Insertable r p.table p.owner p.entry := by
  induction fields generalizing owner with
  | nil => exact absurd hp List.not_mem_nil
  | cons field fields ih =>
    rw [Client.pendingBelow] at hp
    split at hp
    · case isTrue hn => exact ih (h.passed hn) hp
    · case isFalse hn =>
      rcases List.mem_append.mp hp with hp | hp
      · exact (h.head (Bool.eq_false_iff.mpr hn)).pendingIn hp
      · exact ih h.tail hp

/-- The exchanges by which entries are inserted, each together with the entries below it; `whole` says whether to the end. For
each entry the next key is asked for, and then the row is sent: the key, and the columns among the fields. -/
inductive Insertions (quote : String) (tables : List Table) (whole : Bool) : List Pending → List Exchange → Prop
  | done : Insertions quote tables whole [] []
  | cut {todo : List Pending} : whole = false → Insertions quote tables whole todo []
  | asked {p : Pending} {todo : List Pending} (reply : Reply) : whole = false →
    Insertions quote tables whole (p :: todo) [⟨.nextKey p.table.name p.table.key, reply⟩]
  | node {t : Table} {owner : Option (String × Value)} {fields : List (Value × Value)} {todo : List Pending}
    {asked inserted : Reply} {n : Int} {row : List (String × String)} {xs : List Exchange}
    (key : asked.result >>= Result.keyAfter = .ok (.int n))
    (rendered : renderRow quote tables t (rowFields owner fields) = .ok row)
    (rest : Insertions quote tables whole (pendingBelow tables t (.int n) (owner.map (·.1)) fields ++ todo) xs) :
    Insertions quote tables whole (⟨t, owner, .map fields⟩ :: todo)
      (⟨.nextKey t.name t.key, asked⟩ ::
        ⟨.insert t.name (t.key :: row.map (·.1)) (intText n :: row.map (·.2)), inserted⟩ :: xs)

namespace Insertions

variable {whole : Bool} {todo more : List Pending} {xs ys : List Exchange}

/-- What is inserted to the end may be followed by more. -/
theorem append (h : Insertions quote ts true todo xs) (h' : Insertions quote ts whole more ys) :
    Insertions quote ts whole (todo ++ more) (xs ++ ys) := by
  induction h with
  | done => exact h'
  | cut hw | asked _ hw => cases hw
  | node key rendered _ ih => exact .node key rendered (List.append_assoc _ _ _ ▸ ih)

/-- What breaks off is not followed by anything. -/
theorem extend (h : Insertions quote ts false todo xs) (more : List Pending) :
    Insertions quote ts false (todo ++ more) xs := by
  induction h with
  | done => exact .cut rfl
  | cut => exact .cut rfl
  | asked reply => exact .asked reply rfl
  | node key rendered _ ih => exact .node key rendered (List.append_assoc _ _ _ ▸ ih)

end Insertions

/-! ## Inserting them -/

/-- An integer is written exactly if it is not too long, and as its digits. -/
theorem writeInt_eq_ok {n : Int} {s : String} : writeInt n = .ok s ↔ isTooLong n = false ∧ s = intText n := by
  unfold writeInt
  cases isTooLong n <;> simp [eq_comm]

/-- An integer that can be written if everything goes well is written then. -/
theorem only_writeInt_smooth {n : Int} (h : smooth → isTooLong n = false) : Only (fun _ => ¬smooth) (writeInt n) := by
  intro e he hsmooth
  rw [writeInt, h hsmooth] at he
  cases he

theorem checkWritable_cons {v : Value} {items : List Value} (h : Value.checkAllWritable (v :: items) = .ok ()) :
    v.checkWritable = .ok () ∧ Value.checkAllWritable items = .ok () := by
  obtain ⟨_, hv, hrest⟩ := bind_eq_ok.mp h
  exact ⟨hv, hrest⟩

theorem checkEntriesWritable_cons {e : Value × Value} {fields : List (Value × Value)}
    (h : Value.checkEntriesWritable (e :: fields) = .ok ()) :
    e.2.checkWritable = .ok () ∧ Value.checkEntriesWritable fields = .ok () := by
  obtain ⟨_, -, h⟩ := bind_eq_ok.mp h
  obtain ⟨_, hv, hrest⟩ := bind_eq_ok.mp h
  exact ⟨hv, hrest⟩

/-- An entry whose integers can be written, and so can the key of its owner. -/
structure Written (owner : Option (String × Value)) (entry : Value) : Prop where
  entry : entry.checkWritable = .ok ()
  owner : ∀ key, owner = some key → ∀ n, key.2 = .int n → isTooLong n = false

/-- The integers of the row of such an entry can be written. -/
theorem Written.row {owner : Option (String × Value)} {fields : List (Value × Value)} (hw : Written owner (.map fields))
    (hk : (Value.map fields).KeysDiffer) (ho : ∀ key, owner = some key → ∃ n, key.2 = .int n) :
    ∀ e ∈ rowFields owner fields, ∀ m, e.2 = .int m → isTooLong m = false := by
  cases owner with
  | none => exact @isTooLong_rowFields none fields hk hw.entry 0 rfl
  | some key =>
    obtain ⟨name, value⟩ := key
    obtain ⟨n, hn⟩ := ho _ rfl
    cases show value = .int n from hn
    exact @isTooLong_rowFields (some name) fields hk hw.entry n (hw.owner _ rfl n rfl)

theorem sends_passOwnerKey [MomentReader] (hr : r.Validated) (owner : Option String) {P : Prop} {F : List Exchange → Prop}
    (hP : P → t ∈ r.tables ∧ ∀ name, owner = some name → t.DeclaresInt name) (hF : P → F []) :
    Sends (settled r) o smooth P (owner.forM (passOwnerKey t)) (fun _ xs => xs = []) F := by
  cases owner with
  | none => exact Sends.pure fun _ => rfl
  | some name =>
    have column (h : P) : ∃ spec, t.spec name = .ok spec ∧ spec.isPrimitive = true := by
      obtain ⟨ht, hd⟩ := hP h
      obtain ⟨spec, hs, hcol, -⟩ := spec_of_declaresInt (hr.distinct t ht) (hd name rfl)
      exact ⟨spec, hs, by rw [TypeSpec.isPrimitive, hcol]; rfl⟩
    refine Sends.lift_bind (fun h => ?_) hF fun spec hspec => ?_
    · obtain ⟨spec, hs, -⟩ := column h
      rw [hs]
      exact Only.ok spec
    · split
      · case isTrue hprimitive =>
        refine Sends.throw fun h => ?_
        obtain ⟨spec', hs, hp⟩ := column h
        cases hspec.symm.trans hs
        rw [hp] at hprimitive
        cases hprimitive
      · exact Sends.pure fun _ => rfl

/-- How a relation is inserted, whatever is done with the entries. -/
theorem sends_relation [MomentReader] {key name value : Value} {P : Prop} {next : Table → Work Unit}
    (hnext : ∀ name' spec related, t.named name = .ok (name', spec) → spec.isPrimitive = false →
      t.related r.tables spec = .ok related → Sends (settled r) o smooth (FieldInsertable r t key name value ∧ P) (next related)
        (fun _ => Insertions quote r.tables true (pendingIn r.tables t key name value))
        (Insertions quote r.tables false (pendingIn r.tables t key name value))) :
    Sends (settled r) o smooth (FieldInsertable r t key name value ∧ P)
      (do
        let (_, spec) ← Act.lift (t.named name)
        if spec.isPrimitive then return ()
        let related ← Act.lift (t.related (← tables) spec)
        next related)
      (fun _ => Insertions quote r.tables true (pendingIn r.tables t key name value))
      (Insertions quote r.tables false (pendingIn r.tables t key name value)) := by
  refine Sends.lift_bind (fun h => ?_) (fun _ => .cut rfl) fun (name', spec) hn => ?_
  · obtain ⟨name', spec, hn⟩ := h.1.checked.named
    rw [hn]
    exact Only.ok _
  dsimp only
  split
  · case isTrue hs =>
    rw [pendingIn_column hn hs]
    exact Sends.pure fun _ => .done
  · case isFalse hs =>
    have hs : spec.isPrimitive = false := Bool.eq_false_iff.mpr hs
    refine Sends.tables_bind (Sends.lift_bind (fun h => ?_) (fun _ => .cut rfl) fun related hrel =>
      hnext name' spec related hn hs hrel)
    obtain ⟨related, -, hrel, -⟩ := h.1.checked.entries hn (columnType?_eq_none hs)
    rw [hrel]
    exact Only.ok _

/-- The key that the first of some exchanges asked for. -/
def FirstKey (t : Table) (key : Value) (xs : List Exchange) : Prop :=
  ∃ n asked rest, key = .int n ∧ xs = ⟨.nextKey t.name t.key, asked⟩ :: rest ∧ asked.result >>= Result.keyAfter = .ok (.int n)

mutual

/-- An entry that was checked is inserted with all entries below it, and its key is the first one that was asked for. -/
theorem sends_insertEntry [MomentReader] (hr : r.Validated) (t : Table) (owner : Option (String × Value)) :
    ∀ entry : Value, Sends (settled r) o smooth (Insertable r t owner entry ∧ (smooth → Written owner entry))
      (insertEntry o t owner entry)
      (fun key xs => FirstKey t key xs ∧ Insertions o.dialect.quote r.tables true [⟨t, owner, entry⟩] xs)
      (Insertions o.dialect.quote r.tables false [⟨t, owner, entry⟩])
  | .map fields => by
    unfold insertEntry
    refine Sends.nextKey_bind hr t (fun _ => .cut rfl) (fun _ reply => .asked reply rfl) fun key asked => ?_
    refine Sends.lift_bind ?_ (fun _ => .asked asked rfl) fun keyText hkeyText => Sends.tables_bind ?_
    · rintro ⟨-, -, n, rfl, hshort⟩
      exact only_writeInt_smooth hshort
    refine Sends.lift_bind ?_ (fun _ => .asked asked rfl) fun row hrow => ?_
    · rintro ⟨⟨h, hw⟩, -⟩
      refine only_renderRow (h.writable hr) fun e he m hm => only_writeInt_smooth fun hsmooth => ?_
      exact (hw hsmooth).row h.keysDiffer (fun key hk => (h.above key hk).2) e he m hm
    -- what was sent for the row itself
    have node {whole : Bool} {xs : List Exchange} (inserted : Reply) (htells : asked.TellsNext smooth key)
        (below : Insertions o.dialect.quote r.tables whole (pendingBelow r.tables t key (owner.map (·.1)) fields) xs) :
        Insertions o.dialect.quote r.tables whole [⟨t, owner, .map fields⟩]
          (⟨.nextKey t.name t.key, asked⟩ ::
            ⟨.insert t.name (t.key :: row.map (·.1)) (keyText :: row.map (·.2)), inserted⟩ :: xs) := by
      obtain ⟨hread, n, rfl, -⟩ := htells
      rw [(writeInt_eq_ok.mp hkeyText).2]
      exact .node hread hrow (by rwa [List.append_nil])
    refine Sends.discard_ask_bind hr (fun _ => .asked asked rfl) ?_ fun inserted => ?_
    · rintro ⟨-, htells⟩ inserted
      exact node inserted htells (.cut rfl)
    refine ((sends_insertRelations hr t key (owner.map (·.1)) fields).weaken ?_).bind ?_ fun _ xs => ?_
    · rintro ⟨⟨h, hw⟩, -, n, rfl, hshort⟩
      exact ⟨h.fields hr ⟨n, rfl⟩, fun hsmooth => ⟨(hw hsmooth).entry, fun m hm => Value.int.inj hm ▸ hshort hsmooth⟩⟩
    · rintro ⟨-, htells⟩ xs hxs
      exact node inserted htells hxs
    · refine Sends.pure ?_
      rintro ⟨⟨-, htells⟩, hxs⟩
      rw [List.append_nil]
      obtain ⟨n, rfl, -⟩ := htells.int
      exact ⟨⟨n, asked, _, rfl, rfl, htells.read⟩, node inserted htells hxs⟩
  | .null | .bool _ | .int _ | .real _ | .text _ | .bytes _ | .buffer _ | .moment _ | .date _ | .now | .list _ | .tuple _
  | .set _ | .object => by
    rw [insertEntry]
    · refine Sends.throw fun h => ?_
      cases h.1.checked
    · simp

/-- The fields of an entry whose row was inserted. -/
theorem sends_insertRelations [MomentReader] (hr : r.Validated) (t : Table) (key : Value) (owner : Option String) :
    ∀ fields : List (Value × Value), Sends (settled r) o smooth
      (FieldsInsertable r t key owner fields ∧
        (smooth → Value.checkEntriesWritable fields = .ok () ∧ ∀ n, key = .int n → isTooLong n = false))
      (insertRelations o t key owner fields)
      (fun _ => Insertions o.dialect.quote r.tables true (pendingBelow r.tables t key owner fields))
      (Insertions o.dialect.quote r.tables false (pendingBelow r.tables t key owner fields))
  | [] => by
    rw [insertRelations]
    refine (sends_passOwnerKey hr owner (fun h => ⟨h.1.mem, h.1.above⟩) fun _ => .cut rfl).mono ?_ fun _ _ hxs => hxs
    rintro - - xs rfl
    exact .done
  | (name, value) :: rest => by
    rw [insertRelations, pendingBelow]
    split
    · case isTrue hn =>
      refine (sends_passOwnerKey hr owner (fun h => ⟨h.1.mem, h.1.above⟩) fun _ => .cut rfl).bind (fun _ _ hxs => hxs)
        fun _ xs => ?_
      refine (sends_insertRelations hr t key none rest).weaken ?_ |>.mono ?_ ?_
      · rintro ⟨⟨h, hw⟩, -⟩
        exact ⟨h.passed hn, fun hsmooth => (hw hsmooth).imp_left fun hw => (checkEntriesWritable_cons hw).2⟩
      · rintro ⟨-, rfl⟩ - ys hys
        exact hys
      · rintro ⟨-, rfl⟩ ys hys
        exact hys
    · case isFalse hn =>
      refine ((sends_insertRelation hr t key name value).weaken ?_).bind (fun _ xs hxs => hxs.extend _) fun _ xs => ?_
      · rintro ⟨h, hw⟩
        exact ⟨h.head (Bool.eq_false_iff.mpr hn), fun hsmooth => (hw hsmooth).imp_left fun hw => (checkEntriesWritable_cons hw).1⟩
      · refine (sends_insertRelations hr t key owner rest).weaken ?_ |>.mono ?_ ?_
        · rintro ⟨⟨h, hw⟩, -⟩
          exact ⟨h.tail, fun hsmooth => (hw hsmooth).imp_left fun hw => (checkEntriesWritable_cons hw).2⟩
        · rintro ⟨-, hxs⟩ - ys hys
          exact hxs.append hys
        · rintro ⟨-, hxs⟩ ys hys
          exact hxs.append hys

/-- A field of an entry whose row was inserted. -/
theorem sends_insertRelation [MomentReader] (hr : r.Validated) (t : Table) (key name : Value) :
    ∀ value : Value, Sends (settled r) o smooth
      (FieldInsertable r t key name value ∧
        (smooth → value.checkWritable = .ok () ∧ ∀ n, key = .int n → isTooLong n = false))
      (insertRelation o t key name value)
      (fun _ => Insertions o.dialect.quote r.tables true (pendingIn r.tables t key name value))
      (Insertions o.dialect.quote r.tables false (pendingIn r.tables t key name value))
  | .list items | .tuple items | .set items => by
    unfold insertRelation
    refine sends_relation fun name' spec related hn hs hrel => ?_
    rw [pendingIn_relation hn hs hrel rfl]
    refine (sends_insertEntries hr related (t.key, key) items).weaken ?_
    rintro ⟨h, hw⟩
    exact ⟨h.entries hn (columnType?_eq_none hs) hrel rfl, hw⟩
  | .null | .bool _ | .int _ | .real _ | .text _ | .bytes _ | .buffer _ | .moment _ | .date _ | .now | .map _ | .object => by
    unfold insertRelation
    refine sends_relation fun name' spec related hn hs hrel => Sends.lift ?_ ?_ fun _ => .cut rfl
    all_goals
      rintro ⟨h, -⟩
      obtain ⟨_, _, -, -, -, hi, -⟩ := h.checked.entries hn (columnType?_eq_none hs)
      cases hi

/-- The entries of a relation. -/
theorem sends_insertEntries [MomentReader] (hr : r.Validated) (related : Table) (owner : String × Value) :
    ∀ items : List Value, Sends (settled r) o smooth
      (AllInsertable r related owner items ∧
        (smooth → Value.checkAllWritable items = .ok () ∧ ∀ n, owner.2 = .int n → isTooLong n = false))
      (insertEntries o related owner items)
      (fun _ => Insertions o.dialect.quote r.tables true (items.map fun item => ⟨related, some owner, item⟩))
      (Insertions o.dialect.quote r.tables false (items.map fun item => ⟨related, some owner, item⟩))
  | [] => by
    rw [insertEntries]
    exact Sends.pure fun _ => .done
  | entry :: rest => by
    rw [insertEntries]
    refine ((sends_insertEntry hr related (some owner) entry).weaken ?_).discard.bind (fun _ xs hxs => hxs.extend _)
      fun _ xs => ?_
    · rintro ⟨h, hw⟩
      refine ⟨h.head, fun hsmooth => ⟨(checkWritable_cons (hw hsmooth).1).1, ?_⟩⟩
      rintro _ ⟨⟩
      exact (hw hsmooth).2
    · refine (sends_insertEntries hr related owner rest).weaken ?_ |>.mono ?_ ?_
      · rintro ⟨⟨h, hw⟩, -⟩
        exact ⟨h.tail, fun hsmooth => (hw hsmooth).imp_left fun hw => (checkWritable_cons hw).2⟩
      · rintro ⟨-, _, -, hxs⟩ - ys hys
        exact hxs.append hys
      · rintro ⟨-, _, -, hxs⟩ ys hys
        exact hxs.append hys

end

end RelationMapper.Client
