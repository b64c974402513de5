import RelationMapper.Proofs.Client.Clearing

/-!
# What an update sends

An update asks for the keys of the rows that match, assigns the columns, and then replaces the related rows: for each key and
each relation in turn, those that are there are deleted by their owner's key and the given ones inserted (`Updates`,
`sends_updateFields`).
-/

namespace RelationMapper.Client

open Act Number

variable {r : Registry JoinPlan} {t : Table} {o : Options} {smooth : Prop}

/-- The related rows of an owner that are to be replaced: the key of the owner, the table, and the entries in their place. -/
structure Replacement where
  owner : Int
  related : Table
  items : List Value

namespace Replacement

/-- What is deleted first: the rows that hold the owner's key. -/
def clearance (tables : List Table) (t : Table) (job : Replacement) : Clearance :=
  .rows job.related [.equals job.related.name t.key (intText job.owner)]
    ((tables.map (·.name)).filter (· ≠ job.related.name))

/-- What is inserted then. -/
def pending (t : Table) (job : Replacement) : List Pending :=
  job.items.map fun item => ⟨job.related, some (t.key, .int job.owner), item⟩

/-- The replacements for an owner, one for each relation. -/
def ofRelations (relations : List (Table × Value)) (owner : Int) : List Replacement :=
  relations.map fun relation => ⟨owner, relation.1, relation.2.items?.getD []⟩

/-- The replacements before and after the one for an owner in a relation. -/
theorem flatMap_ofRelations (before after : List (Table × Value)) (relation : Table × Value) (earlier later : List Int)
    (owner : Int) :
    (earlier ++ owner :: later).flatMap (ofRelations (before ++ relation :: after)) =
      (earlier.flatMap (ofRelations (before ++ relation :: after)) ++ ofRelations before owner) ++
        ⟨owner, relation.1, relation.2.items?.getD []⟩ ::
          (ofRelations after owner ++ later.flatMap (ofRelations (before ++ relation :: after))) := by
  simp [ofRelations]

end Replacement

/-- The exchanges by which related rows are replaced, to the end or not. -/
inductive Replacements (dialect : Dialect) (tables : List Table) (t : Table) :
    Bool → List Replacement → List Exchange → Prop
  | done {whole : Bool} : Replacements dialect tables t whole [] []
  | cut {jobs : List Replacement} : Replacements dialect tables t false jobs []
  | clearing {job : Replacement} {jobs : List Replacement} {xs : List Exchange}
    (cleared : Clears dialect tables false (job.clearance tables t) xs) : Replacements dialect tables t false (job :: jobs) xs
  | inserting {job : Replacement} {jobs : List Replacement} {xs ys : List Exchange}
    (cleared : Clears dialect tables true (job.clearance tables t) xs)
    (inserted : Insertions dialect.quote tables false (job.pending t) ys) :
    Replacements dialect tables t false (job :: jobs) (xs ++ ys)
  | next {whole : Bool} {job : Replacement} {jobs : List Replacement} {xs ys zs : List Exchange}
    (cleared : Clears dialect tables true (job.clearance tables t) xs)
    (inserted : Insertions dialect.quote tables true (job.pending t) ys)
    (others : Replacements dialect tables t whole jobs zs) :
    Replacements dialect tables t whole (job :: jobs) (xs ++ (ys ++ zs))

namespace Replacements

variable {dialect : Dialect} {ts : List Table} {whole : Bool} {jobs more : List Replacement} {xs ys : List Exchange}

/-- What is replaced to the end may be followed by more. -/
theorem append (h : Replacements dialect ts t true jobs xs) (h' : Replacements dialect ts t whole more ys) :
    Replacements dialect ts t whole (jobs ++ more) (xs ++ ys) := by
  generalize hw : true = whole' at h
  induction h with
  | done => exact h'
  | cut | clearing | inserting => cases hw
  | next cleared inserted _ ih =>
    rw [List.append_assoc, List.append_assoc]
    exact .next cleared inserted (ih hw)

/-- What breaks off is not followed by anything. -/
theorem extend (h : Replacements dialect ts t false jobs xs) (more : List Replacement) :
    Replacements dialect ts t false (jobs ++ more) xs := by
  generalize hw : false = whole' at h
  induction h with
  | done =>
    cases hw
    exact .cut
  | cut => exact .cut
  | clearing cleared => exact .clearing cleared
  | inserting cleared inserted => exact .inserting cleared inserted
  | next cleared inserted _ ih => exact .next cleared inserted (ih hw)

/-- What comes of replacements comes of the first ones, and of the others if these came to their end. -/
theorem split (h : Replacements dialect ts t whole (jobs ++ more) xs) :
    (whole = false ∧ Replacements dialect ts t false jobs xs) ∨
      ∃ ys zs, xs = ys ++ zs ∧ Replacements dialect ts t true jobs ys ∧ Replacements dialect ts t whole more zs := by
  induction jobs generalizing xs with
  | nil => exact .inr ⟨[], xs, rfl, .done, h⟩
  | cons job jobs ih =>
    cases h with
    | cut => exact .inl ⟨rfl, .cut⟩
    | clearing cleared => exact .inl ⟨rfl, .clearing cleared⟩
    | inserting cleared inserted => exact .inl ⟨rfl, .inserting cleared inserted⟩
    | @next _ _ _ xs' ys' _ cleared inserted others =>
      rcases ih others with ⟨rfl, h⟩ | ⟨ys, zs, rfl, h, h'⟩
      · exact .inl ⟨rfl, .next cleared inserted h⟩
      · exact .inr ⟨xs' ++ (ys' ++ ys), zs, by simp, .next cleared inserted h, h'⟩

end Replacements

/-- The exchanges of an update that finds owners by their keys, to the end or not. -/
inductive Updates (dialect : Dialect) (tables : List Table) (t : Table) (conditions : List Condition)
    (relations : List (Table × Value)) (whole : Bool) : List Exchange → Prop
  | cut : whole = false → Updates dialect tables t conditions relations whole []
  | asked (reply : Reply) : whole = false →
    Updates dialect tables t conditions relations whole [⟨.selectKeys t.name t.key conditions, reply⟩]
  | replaced {reply : Reply} {ns : List Int} {assigned xs : List Exchange}
    (told : reply.result >>= Result.keys t.key = .ok (ns.map .int))
    (assignments : ∀ e ∈ assigned, ∃ a, e.statement = .update t.name a conditions)
    (replaced : Replacements dialect tables t whole (ns.flatMap (Replacement.ofRelations relations)) xs) :
    Updates dialect tables t conditions relations whole
      (⟨.selectKeys t.name t.key conditions, reply⟩ :: (assigned ++ xs))

/-! ## Replacing related rows -/

/-- The filter for one key is one condition. -/
theorem renderFilter_key {related : Table} (hd : related.Distinct) {name : String} (h : related.DeclaresInt name)
    {quote : String} {n : Int} {conditions : Option (List Condition)}
    (hf : related.renderFilter quote (.record [(name, .int n)]) = .ok conditions) :
    conditions = some [.equals related.name name (intText n)] := by
  obtain ⟨spec, hs, hcol, -⟩ := spec_of_declaresInt hd h
  obtain ⟨condition, ht, hf⟩ := bind_eq_ok.mp (show related.renderTests quote [(.text name, .int n)] = .ok conditions from hf)
  obtain ⟨⟨name', spec'⟩, hn, ht⟩ := bind_eq_ok.mp ht
  obtain ⟨hname, hs'⟩ := Table.named_eq_ok.mp hn
  cases hname
  cases hs.symm.trans hs'
  dsimp only at ht
  rw [hcol] at ht
  obtain ⟨literal, hl, ht⟩ := bind_eq_ok.mp ht
  obtain ⟨_, -, hl⟩ := bind_eq_ok.mp hl
  cases pure_eq_ok.mp ht
  cases (writeInt_eq_ok.mp hl).2
  exact (pure_eq_ok.mp hf).symm

/-- A key that was read is an integer, one that can be written if everything goes well. -/
def ReadKey (smooth : Prop) (key : Value) : Prop := ∃ n, key = .int n ∧ (smooth → isTooLong n = false)

/-- The rows that hold an owner's key are deleted. -/
theorem sends_deleteOwned [MomentReader] (hr : r.Validated) {related : Table} (hm : related ∈ r.tables)
    (hd : related.DeclaresInt t.key) (items : List Value) (key : Value) {P : Prop} (hP : P → ReadKey smooth key) :
    Sends (settled r) o smooth P (deleteRows o related (.record [(t.key, key)]))
      (fun _ xs => ∀ n, key = .int n → Clears o.dialect r.tables true (Replacement.clearance r.tables t ⟨n, related, items⟩) xs)
      (fun xs => ∀ n, key = .int n →
        Clears o.dialect r.tables false (Replacement.clearance r.tables t ⟨n, related, items⟩) xs) := by
  have htruthy : (Value.record [(t.key, key)]).isTruthy = true := rfl
  refine (sends_deleteRows hr hm htruthy fun h => ?_).mono ?_ ?_
  · obtain ⟨n, rfl, hshort⟩ := hP h
    refine only_keyFilter (hr.distinct related hm) hd (show IsKeys (.int n) from trivial) ?_ _
    rintro v hv m rfl
    cases List.mem_singleton.mp hv
    exact only_writeInt_smooth hshort
  · rintro - result xs ⟨conditions, hc, hxs⟩ n rfl
    cases renderFilter_key (hr.distinct related hm) hd hc
    exact hxs.1
  · rintro - xs (rfl | ⟨conditions, hc, hxs⟩) n rfl
    · exact .cut
    · cases renderFilter_key (hr.distinct related hm) hd hc
      exact hxs

theorem checkAllWritable_items {v : Value} (h : v.checkWritable = .ok ()) {items : List Value} (hi : v.items? = some items) :
    Value.checkAllWritable items = .ok () := by
  cases v with
  | list _ | tuple _ | set _ =>
    cases hi
    exact h
  | _ => cases hi

/-- The related rows of an owner in one relation are replaced. -/
theorem sends_replaceRelation [MomentReader] (hr : r.Validated) {related : Table} {value : Value}
    (hrel : Replaceable r t (related, value)) (key : Value) :
    Sends (settled r) o smooth (ReadKey smooth key ∧ (smooth → value.checkWritable = .ok ()))
      (do
        discard (deleteRows o related (.record [(t.key, key)]))
        match value.items? with
        | some items => insertEntries o related (t.key, key) items
        | none => Act.lift (insertNothing value))
      (fun _ xs => ∀ n, key = .int n → Replacements o.dialect r.tables t true [⟨n, related, value.items?.getD []⟩] xs)
      (fun xs => ∀ n, key = .int n → Replacements o.dialect r.tables t false [⟨n, related, value.items?.getD []⟩] xs) := by
  obtain ⟨hm, hd, items, hi, hc, hk⟩ := hrel
  dsimp only at hm hd hi hc
  rw [hi]
  refine (sends_deleteOwned hr hm hd items key fun h => h.1).discard.bind ?_ fun _ xs => ?_
  · exact fun _ xs hxs n hn => .clearing (hxs n hn)
  · refine ((sends_insertEntries hr related (t.key, key) items).weaken ?_).mono ?_ ?_
    · rintro ⟨⟨⟨n, rfl, hshort⟩, hw⟩, -⟩
      refine ⟨⟨hm, ⟨hd, n, rfl⟩, hc, hk⟩, fun hsmooth => ⟨checkAllWritable_items (hw hsmooth) hi, ?_⟩⟩
      exact fun m hm => Value.int.inj hm ▸ hshort hsmooth
    · rintro ⟨-, _, hxs⟩ - ys hys n rfl
      rw [← List.append_nil ys]
      exact .next (hxs n rfl) hys .done
    · rintro ⟨-, _, hxs⟩ ys hys n rfl
      exact .inserting (hxs n rfl) hys

/-- The related rows of an owner are replaced, relation by relation. -/
theorem sends_replaceRelations [MomentReader] (hr : r.Validated) {relations : List (Table × Value)}
    (hrel : ∀ relation ∈ relations, Replaceable r t relation) (key : Value) :
    Sends (settled r) o smooth
      (ReadKey smooth key ∧ (smooth → ∀ relation ∈ relations, relation.2.checkWritable = .ok ()))
      (replaceRelations o t relations key)
      (fun _ xs => ∀ n, key = .int n → Replacements o.dialect r.tables t true (Replacement.ofRelations relations n) xs)
      (fun xs => ∀ n, key = .int n → Replacements o.dialect r.tables t false (Replacement.ofRelations relations n) xs) := by
  induction relations with
  | nil => exact Sends.pure fun _ _ _ => .done
  | cons relation relations ih =>
    rw [List.forall_mem_cons] at hrel
    refine ((sends_replaceRelation hr hrel.1 key).weaken ?_).bind ?_ fun _ xs => ?_
    · exact fun ⟨hkey, hw⟩ => ⟨hkey, fun hsmooth => hw hsmooth relation List.mem_cons_self⟩
    · exact fun _ xs hxs n hn => (hxs n hn).extend (Replacement.ofRelations relations n)
    · refine ((ih hrel.2).weaken ?_).mono ?_ ?_
      · exact fun ⟨⟨hkey, hw⟩, _⟩ => ⟨hkey, fun hsmooth u hu => hw hsmooth u (List.mem_cons_of_mem _ hu)⟩
      · exact fun ⟨_, hxs⟩ _ ys hys n hn => (hxs n hn).append (hys n hn)
      · exact fun ⟨_, hxs⟩ ys hys n hn => (hxs n hn).append (hys n hn)

/-- The related rows of owners are replaced, owner by owner. -/
theorem sends_replaceAll [MomentReader] (hr : r.Validated) {relations : List (Table × Value)}
    (hrel : ∀ relation ∈ relations, Replaceable r t relation) (keys : List Value) :
    Sends (settled r) o smooth
      (ReadKeys smooth keys ∧ (smooth → ∀ relation ∈ relations, relation.2.checkWritable = .ok ()))
      (keys.forM (replaceRelations o t relations))
      (fun _ xs => ∀ ns : List Int, keys = ns.map .int →
        Replacements o.dialect r.tables t true (ns.flatMap (Replacement.ofRelations relations)) xs)
      (fun xs => ∀ ns : List Int, keys = ns.map .int →
        Replacements o.dialect r.tables t false (ns.flatMap (Replacement.ofRelations relations)) xs) := by
  induction keys with
  | nil =>
    refine Sends.pure fun _ ns hns => ?_
    cases List.map_eq_nil_iff.mp hns.symm
    exact .done
  | cons key keys ih =>
    refine ((sends_replaceRelations hr hrel key).weaken ?_).bind ?_ fun _ xs => ?_
    · rintro ⟨⟨ns, hns, hshort⟩, hw⟩
      obtain ⟨n, ns, rfl, rfl, -⟩ := List.map_eq_cons_iff.mp hns.symm
      exact ⟨⟨n, rfl, fun hsmooth => hshort hsmooth n List.mem_cons_self⟩, hw⟩
    · intro _ xs hxs ns hns
      obtain ⟨n, ns, rfl, rfl, -⟩ := List.map_eq_cons_iff.mp hns.symm
      exact (hxs n rfl).extend _
    · refine (ih.weaken ?_).mono ?_ ?_
      · rintro ⟨⟨⟨ns, hns, hshort⟩, hw⟩, -⟩
        obtain ⟨n, ns, rfl, rfl, rfl⟩ := List.map_eq_cons_iff.mp hns.symm
        exact ⟨⟨ns, rfl, fun hsmooth m hm => hshort hsmooth m (List.mem_cons_of_mem _ hm)⟩, hw⟩
      · rintro ⟨-, hxs⟩ - ys hys ns hns
        obtain ⟨n, ns, rfl, rfl, rfl⟩ := List.map_eq_cons_iff.mp hns.symm
        exact (hxs n rfl).append (hys ns rfl)
      · rintro ⟨-, hxs⟩ ys hys ns hns
        obtain ⟨n, ns, rfl, rfl, rfl⟩ := List.map_eq_cons_iff.mp hns.symm
        exact (hxs n rfl).append (hys ns rfl)

/-! ## Updates -/

/-- The values of relations can be written if those of the whole entry can. -/
theorem checkWritable_of_relation {tables : List Table} {fields : Keyed Value} {relations : List (Table × Value)}
    (hrel : relationsOf tables t fields = .ok relations) (hw : Value.checkEntriesWritable fields = .ok ())
    {relation : Table × Value} (hm : relation ∈ relations) : relation.2.checkWritable = .ok () := by
  obtain ⟨e, he, hstep⟩ := exists_of_mem_filterMapM hrel hm
  obtain ⟨⟨name, spec⟩, -, hstep⟩ := bind_eq_ok.mp hstep
  dsimp only at hstep
  split at hstep
  · cases pure_eq_ok.mp hstep
  · obtain ⟨related, -, hstep⟩ := bind_eq_ok.mp hstep
    cases pure_eq_ok.mp hstep
    exact checkWritable_of_field hw he

/-- An update by an entry that has relations. -/
theorem sends_updateFields [MomentReader] (hr : r.Validated) (conditions : List Condition) {fields : Keyed Value}
    (hf : ∀ e ∈ fields, FieldChecked r.tables t e.1 e.2) (hk : EntriesKeysDiffer fields)
    {relations : List (Table × Value)} (hrel : relationsOf r.tables t fields = .ok relations) (hne : relations ≠ []) :
    Sends (settled r) o smooth (smooth → Value.checkEntriesWritable fields = .ok ()) (updateFields o t conditions fields)
      (fun _ => Updates o.dialect r.tables t conditions relations true)
      (Updates o.dialect r.tables t conditions relations false) := by
  refine Sends.lift_bind (fun hw => ?_) (fun _ => .cut rfl) fun assignments _ => Sends.tables_bind ?_
  · refine only_renderAssignments hf fun e he n hn => only_writeInt_smooth fun hsmooth => ?_
    exact isTooLong_of_checkWritable (hn ▸ checkWritable_of_field (hw hsmooth) he)
  rw [hrel]
  refine Sends.lift_bind (fun _ => Only.ok _) (fun _ => .cut rfl) fun relations' he => ?_
  cases he
  have replaceable : ∀ relation ∈ relations, Replaceable r t relation := fun _ => replaceable_of_mem hf hk hrel
  have nonempty : relations.isEmpty = false := by simpa using hne
  dsimp only
  rw [if_neg (by simp [nonempty])]
  refine Sends.matchingKeys_bind hr t conditions (fun _ => .cut rfl) (fun _ reply => .asked reply rfl) fun keys reply => ?_
  have condition (h : (smooth → Value.checkEntriesWritable fields = .ok ()) ∧ reply.TellsKeys smooth t.key keys) :
      ReadKeys smooth keys ∧ (smooth → ∀ relation ∈ relations, relation.2.checkWritable = .ok ()) :=
    ⟨h.2.ints, fun hsmooth _ => checkWritable_of_relation hrel (h.1 hsmooth)⟩
  -- what was sent once the owners are known
  have replaced {whole : Bool} {xs : List Exchange} (assigned : List Exchange) (htells : reply.TellsKeys smooth t.key keys)
      (ha : ∀ e ∈ assigned, ∃ a, e.statement = .update t.name a conditions)
      (hxs : ∀ ns : List Int, keys = ns.map .int →
        Replacements o.dialect r.tables t whole (ns.flatMap (Replacement.ofRelations relations)) xs) :
      Updates o.dialect r.tables t conditions relations whole
        (⟨.selectKeys t.name t.key conditions, reply⟩ :: (assigned ++ xs)) := by
    obtain ⟨hread, ns, rfl, -⟩ := htells
    exact .replaced hread ha (hxs ns rfl)
  have all := (sends_replaceAll (o := o) hr replaceable keys).weaken condition
  split
  · refine Sends.discard_ask_bind hr (fun _ => .asked reply rfl) ?_ fun assigning => all.mono ?_ ?_
    · exact fun h assigning => replaced [⟨.update t.name assignments conditions, assigning⟩] h.2 (by simp) fun _ _ => .cut
    · exact fun h _ xs => replaced [⟨.update t.name assignments conditions, assigning⟩] h.2 (by simp)
    · exact fun h xs => replaced [⟨.update t.name assignments conditions, assigning⟩] h.2 (by simp)
  · exact all.mono (fun h _ xs => replaced [] h.2 (by simp)) fun h xs => replaced [] h.2 (by simp)

/-- An update by an entry that has relations, of the rows that pass a filter. -/
theorem sends_updateRows [MomentReader] (hr : r.Validated) (ht : t ∈ r.tables) {filter : Value} (htruthy : filter.isTruthy = true)
    {conditions : List Condition} (hfilter : t.renderFilter o.dialect.quote filter = .ok (some conditions))
    {fields : Keyed Value} (hc : Table.checkEntry r.tables t none (.map fields) = .ok ()) (hk : (Value.map fields).KeysDiffer)
    {relations : List (Table × Value)} (hrel : relationsOf r.tables t fields = .ok relations) (hne : relations ≠ []) :
    Sends (settled r) o smooth (smooth → (Value.map fields).checkWritable = .ok ()) (updateRows o t filter (.map fields))
      (fun _ => Updates o.dialect r.tables t conditions relations true)
      (Updates o.dialect r.tables t conditions relations false) := by
  have hfields : (Value.map fields).isTruthy = true := by
    cases fields with
    | nil => exact absurd (Except.ok.inj hrel).symm hne
    | cons field fields => rfl
  unfold updateRows
  split
  · cases htruthy
  · case _ he => cases he
  · dsimp only
    rw [htruthy, hfields]
    refine Sends.ensureValid_bind hr (Sends.lift_bind (fun _ => ?_) (fun _ => .cut rfl) fun conditions' he => ?_)
    · rw [hfilter]
      exact Only.ok _
    · cases hfilter.symm.trans he
      refine Sends.tables_bind (Sends.lift_bind (fun _ => ?_) (fun _ => .cut rfl) fun _ _ => ?_)
      · rw [hc]
        exact Only.ok _
      · exact sends_updateFields hr conditions (fun e he => fieldsChecked hr ht hc e he rfl) hk.2 hrel hne

end RelationMapper.Client
