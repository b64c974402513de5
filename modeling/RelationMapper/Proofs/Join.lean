import RelationMapper.Proofs.Value.Keyed
import RelationMapper.Reconstruction

/-!
# Joined rows

What is stored of some owners (`StoredOwner`), the rows in which a join answers it (`JoinPlan.joined`), and the records as
which it is to be read (`JoinPlan.record`). A join answers an owner once for every combination of its related records, one of
each relation, and with nulls for a relation of which the owner has none.

The rows of one owner show the records of a relation over and over. `Settles` is what makes this harmless: going through the
records builds up the list of them, and going through them again changes nothing. It carries over to any number of repetitions,
so an induction on the relations gives it for all combinations (`settles_combinations`).
-/

namespace RelationMapper

/-! ## Stored records and their join -/

/-- A stored row: the value of each column, by the column's name. -/
abbrev StoredRow := String → Value

/-- A stored owner: its row, and the rows that each relation has of it. -/
structure StoredOwner where
  row : StoredRow
  related : String → List StoredRow

/-- One record of each relation, or none where there is none. -/
abbrev Combination := List (RelationPlan × Option StoredRow)

namespace StoredOwner

/-- What a relation contributes to the rows of an owner: a record, for each record, or else nothing, once. -/
def partners (o : StoredOwner) (r : RelationPlan) : List (Option StoredRow) :=
  match o.related r.property with
  | [] => [none]
  | rows => rows.map some

/-- All combinations of records of some relations; those of the last relation change fastest. -/
def combinations (o : StoredOwner) : List RelationPlan → List Combination
  | [] => [[]]
  | r :: relations => (o.partners r).flatMap fun partner => (o.combinations relations).map ((r, partner) :: ·)

end StoredOwner

/-- What a join answers for a column of a relation: the value in the record, or null where there is none. -/
def cellOf (partner : Option StoredRow) (name : String) : Value := (partner.map (· name)).getD .null

namespace JoinPlan

/-- The joined row of an owner and a combination, each value under the alias of its column. -/
def joinedRow (p : JoinPlan) (o : StoredOwner) (combination : Combination) : Fields :=
  Fields.ofRow (p.allColumns.map (·.label))
    ((p.columns.map fun c => o.row c.name) ++
      combination.flatMap fun (r, partner) => r.columns.map fun c => cellOf partner c.name)

/-- The joined rows of some owners. -/
def joined (p : JoinPlan) (owners : List StoredOwner) : List Fields :=
  owners.flatMap fun o => (o.combinations p.relations).map (p.joinedRow o)

end JoinPlan

/-! ## Stored records as they are read -/

/-- The value that is read where a value is stored that the column's type accepts. -/
def ColumnPlan.decoded [MomentReader] (c : ColumnPlan) (v : Value) : Value :=
  match v.decode c.type with
  | .ok decoded => decoded
  | .error _ => v

/-- A stored row as it is read. -/
def StoredRow.record [MomentReader] (columns : List ColumnPlan) (row : StoredRow) : Fields :=
  columns.map fun c => (c.name, c.decoded (row c.name))

/-- A stored owner as it is read: its own fields, then for each relation the list of the related records. -/
def JoinPlan.record [MomentReader] (p : JoinPlan) (o : StoredOwner) : Fields :=
  StoredRow.record p.columns o.row ++ p.relations.map fun r =>
    (r.property, .list ((o.related r.property).map fun row => .record (StoredRow.record r.columns row)))

/-- A value that tells rows apart: no null, and the same as itself. All integers are. -/
structure Value.IsRowKey (v : Value) : Prop where
  notNull : v ≠ .null
  isKey : v.isKey = true
  same : v.sameKey v = true

/-- Rows that differ in their keys and hold only what the types of the columns accept. -/
structure StoredRows [MomentReader] (key : ColumnPlan) (columns : List ColumnPlan) (rows : List StoredRow) : Prop where
  keys : ∀ row ∈ rows, (row key.name).IsRowKey
  distinct : rows.Pairwise fun a b => (a key.name).sameKey (b key.name) = false
  accepted : ∀ row ∈ rows, ∀ c ∈ columns, ∃ v, (row c.name).decode c.type = .ok v

/-- Owners that differ in their keys, each with related records that do. -/
structure JoinPlan.Stores [MomentReader] (p : JoinPlan) (owners : List StoredOwner) : Prop where
  own : StoredRows p.keyColumn p.columns (owners.map (·.row))
  related : ∀ o ∈ owners, ∀ r ∈ p.relations, StoredRows r.keyColumn r.columns (o.related r.property)

/-- An integer tells rows apart. -/
theorem Value.isRowKey_int (n : Int) : (Value.int n).IsRowKey := by
  refine ⟨by simp, by simp [Value.isKey], ?_⟩
  simp [Value.sameKey, Value.sameNumber, Value.int?]

/-- Two integers are the same key if they are equal. -/
theorem Value.sameKey_int (m n : Int) : (Value.int m).sameKey (.int n) = (m == n) := by
  simp [Value.sameKey, Value.sameNumber, Value.int?]

/-- An integer column accepts everything but leaves it as it is. -/
theorem Value.decode_int [MomentReader] (v : Value) : v.decode .int = .ok v := by
  cases v <;> rfl

/-! ## Seeing records again -/

section Settling

variable {α β : Type} {f : β → α → β} {a b : β}

/-- Going through a list leads from a start to an end, and going through it once more changes nothing. -/
def Settles (f : β → α → β) (a b : β) (xs : List α) : Prop := xs.foldl f a = b ∧ xs.foldl f b = b

/-- What settles on each of several lists settles on all of them in a row. -/
theorem Settles.flatten {xss : List (List α)} (hne : xss ≠ []) (h : ∀ xs ∈ xss, Settles f a b xs) :
    Settles f a b xss.flatten := by
  have again : ∀ yss : List (List α), (∀ ys ∈ yss, Settles f a b ys) → yss.flatten.foldl f b = b := by
    intro yss hy
    induction yss with
    | nil => rfl
    | cons ys yss ih =>
      rw [List.forall_mem_cons] at hy
      rw [List.flatten_cons, List.foldl_append, hy.1.2, ih hy.2]
  obtain ⟨xs, xss, rfl⟩ := List.exists_cons_of_ne_nil hne
  refine ⟨?_, again _ h⟩
  rw [List.forall_mem_cons] at h
  rw [List.flatten_cons, List.foldl_append, h.1.1, again _ h.2]

/-- A step that is the same twice as once is the same any number of times. -/
theorem foldl_constant {γ : Type} {x : α} {step : β → γ → β} {ys : List γ} (hne : ys ≠ [])
    (hstep : ∀ b, ∀ y ∈ ys, step b y = f b x) (hf : ∀ b, f (f b x) x = f b x) (b : β) : ys.foldl step b = f b x := by
  induction ys generalizing b with
  | nil => exact absurd rfl hne
  | cons y ys ih =>
    rw [List.foldl_cons, hstep b y List.mem_cons_self]
    by_cases hys : ys = []
    · rw [hys, List.foldl_nil]
    · rw [ih hys (fun b y hy => hstep b y (List.mem_cons_of_mem _ hy)), hf]

/-- Going through lists one by one, where each list amounts to one step. -/
theorem foldl_flatten_map {γ : Type} {g : β → γ → β} {lists : α → List γ} {xs : List α}
    (h : ∀ x ∈ xs, ∀ b, (lists x).foldl g b = f b x) (b : β) : (xs.map lists).flatten.foldl g b = xs.foldl f b := by
  induction xs generalizing b with
  | nil => rfl
  | cons x xs ih =>
    rw [List.forall_mem_cons] at h
    rw [List.map_cons, List.flatten_cons, List.foldl_append, h.1, ih h.2, List.foldl_cons]

end Settling

namespace RelationPlan

/-- What is known of the records of a relation once one more of them, or none, has been seen. -/
def see [MomentReader] (r : RelationPlan) (records : Keyed Fields) : Option StoredRow → Keyed Fields
  | none => records
  | some row => records.set (row r.keyColumn.name) (row.record r.columns)

/-- All that there is to know of the records of a relation. -/
def known [MomentReader] (r : RelationPlan) (rows : List StoredRow) : Keyed Fields :=
  rows.map fun row => (row r.keyColumn.name, row.record r.columns)

/-- What combinations show of the relation under a name. -/
def seeIn [MomentReader] (name : String) (records : Keyed Fields) (combination : Combination) : Keyed Fields :=
  combination.foldl (fun records (r, partner) => if r.property = name then r.see records partner else records) records

variable {r : RelationPlan} {rows : List StoredRow}

/-- Seeing a record twice is seeing it once. -/
theorem see_see [MomentReader] {partner : Option StoredRow} (h : ∀ row, partner = some row → (row r.keyColumn.name).IsRowKey)
    (records : Keyed Fields) : r.see (r.see records partner) partner = r.see records partner := by
  cases partner with
  | none => rfl
  | some row => exact Keyed.set_set (h row rfl).same

/-- A record that is new is added at the end. -/
theorem see_new [MomentReader] {seen : List StoredRow} {row : StoredRow}
    (h : ∀ s ∈ seen, (s r.keyColumn.name).sameKey (row r.keyColumn.name) = false) :
    r.see (r.known seen) (some row) = r.known (seen ++ [row]) := by
  have hf : ∀ e ∈ r.known seen, e.1.sameKey (row r.keyColumn.name) = false := by
    intro e he
    obtain ⟨s, hs, rfl⟩ := List.mem_map.mp he
    exact h s hs
  rw [RelationPlan.see, Keyed.set_new hf, known, known, List.map_append]
  rfl

/-- A record that is known changes nothing. -/
theorem see_known [MomentReader] {columns : List ColumnPlan} (h : StoredRows r.keyColumn columns rows) {row : StoredRow}
    (hrow : row ∈ rows) : r.see (r.known rows) (some row) = r.known rows := by
  obtain ⟨before, after, rfl⟩ := List.append_of_mem hrow
  have hd := List.pairwise_append.mp h.distinct
  have hf : ∀ e ∈ r.known before, e.1.sameKey (row r.keyColumn.name) = false := by
    intro e he
    obtain ⟨s, hs, rfl⟩ := List.mem_map.mp he
    exact hd.2.2 s hs row List.mem_cons_self
  rw [RelationPlan.see, known, List.map_append]
  refine (Keyed.set_fresh hf).trans (congrArg _ ?_)
  exact Keyed.set_here (h.keys row hrow).same

/-- Going through new records adds them in order. -/
theorem foldl_see_new [MomentReader] {seen later : List StoredRow}
    (hd : (seen ++ later).Pairwise fun a b => (a r.keyColumn.name).sameKey (b r.keyColumn.name) = false) :
    (later.map some).foldl r.see (r.known seen) = r.known (seen ++ later) := by
  induction later generalizing seen with
  | nil => rw [List.append_nil]; rfl
  | cons row later ih =>
    have hnew := (List.pairwise_append.mp hd).2.2
    have hassoc : seen ++ row :: later = seen ++ [row] ++ later := by rw [List.append_assoc, List.singleton_append]
    rw [List.map_cons, List.foldl_cons, see_new fun s hs => hnew s hs row List.mem_cons_self, hassoc]
    exact ih (hassoc ▸ hd)

/-- Going through known records changes nothing. -/
theorem foldl_see_known [MomentReader] {columns : List ColumnPlan} (h : StoredRows r.keyColumn columns rows)
    {later : List StoredRow} (hsub : ∀ row ∈ later, row ∈ rows) : (later.map some).foldl r.see (r.known rows) = r.known rows := by
  induction later with
  | nil => rfl
  | cons row later ih =>
    rw [List.forall_mem_cons] at hsub
    rw [List.map_cons, List.foldl_cons, see_known h hsub.1, ih hsub.2]

/-- Going through what a relation contributes settles on all records of the relation. -/
theorem settles_partners [MomentReader] {o : StoredOwner} {columns : List ColumnPlan}
    (h : StoredRows r.keyColumn columns (o.related r.property)) :
    Settles r.see [] (r.known (o.related r.property)) (o.partners r) := by
  unfold StoredOwner.partners
  split
  · case h_1 hnone =>
    rw [hnone]
    exact ⟨rfl, rfl⟩
  · exact ⟨@foldl_see_new r _ [] _ h.distinct, foldl_see_known h fun row hrow => hrow⟩

/-- A record that a relation contributes is one of the owner's. -/
theorem mem_related_of_mem_partners {o : StoredOwner} {row : StoredRow} (h : some row ∈ o.partners r) :
    row ∈ o.related r.property := by
  unfold StoredOwner.partners at h
  split at h
  · simp at h
  · simpa using h

/-- One entry of a combination after the other. -/
theorem seeIn_cons [MomentReader] (name : String) (records : Keyed Fields) (s : RelationPlan) (partner : Option StoredRow)
    (c : Combination) :
    seeIn name records ((s, partner) :: c) = seeIn name (if s.property = name then s.see records partner else records) c :=
  rfl

/-- A combination shows nothing of a relation that it does not go through. -/
theorem seeIn_eq_self [MomentReader] {name : String} {c : Combination} (h : name ∉ c.map (·.1.property)) (records : Keyed Fields) :
    seeIn name records c = records := by
  induction c with
  | nil => rfl
  | cons e c ih =>
    rw [List.map_cons, List.mem_cons, not_or] at h
    rw [seeIn_cons, if_neg (Ne.symm h.1)]
    exact ih h.2

/-- Entries of one relation show nothing of another. -/
theorem foldl_seeIn_other [MomentReader] {name : String} {s : RelationPlan} (h : s.property ≠ name) (partner : Option StoredRow)
    (cs : List Combination) (records : Keyed Fields) :
    (cs.map ((s, partner) :: ·)).foldl (seeIn name) records = cs.foldl (seeIn name) records := by
  rw [List.foldl_map]
  congr
  funext records c
  rw [seeIn_cons, if_neg h]

/-- Combinations that share the record of a relation show that record, however many they are. -/
theorem foldl_seeIn_own [MomentReader] {s : RelationPlan} {partner : Option StoredRow} {cs : List Combination} (hne : cs ≠ [])
    (hc : ∀ c ∈ cs, s.property ∉ c.map (·.1.property)) (hk : ∀ row, partner = some row → (row s.keyColumn.name).IsRowKey)
    (records : Keyed Fields) :
    (cs.map ((s, partner) :: ·)).foldl (seeIn s.property) records = s.see records partner := by
  rw [List.foldl_map]
  refine foldl_constant hne (fun records c hcs => ?_) (see_see hk) records
  rw [seeIn_cons, if_pos rfl, seeIn_eq_self (hc c hcs)]

end RelationPlan

namespace StoredOwner

variable {o : StoredOwner} {relations : List RelationPlan}

theorem partners_ne_nil (o : StoredOwner) (r : RelationPlan) : o.partners r ≠ [] := by
  unfold partners
  split
  · exact List.cons_ne_nil _ _
  · case h_2 hne =>
    rw [Ne, List.map_eq_nil_iff]
    exact hne

/-- An owner has at least one row. -/
theorem combinations_ne_nil (o : StoredOwner) (relations : List RelationPlan) : o.combinations relations ≠ [] := by
  induction relations with
  | nil => exact List.cons_ne_nil _ _
  | cons r relations ih =>
    obtain ⟨partner, hp⟩ := List.exists_mem_of_ne_nil _ (o.partners_ne_nil r)
    obtain ⟨c, hc⟩ := List.exists_mem_of_ne_nil _ ih
    exact List.ne_nil_of_mem (List.mem_flatMap.mpr ⟨partner, hp, List.mem_map_of_mem hc⟩)

/-- A combination has one record, or none, of each relation. -/
theorem of_mem_combinations {c : Combination} (h : c ∈ o.combinations relations) :
    c.map (·.1) = relations ∧ ∀ e ∈ c, e.2 ∈ o.partners e.1 := by
  induction relations generalizing c with
  | nil =>
    rw [combinations, List.mem_singleton] at h
    exact h ▸ ⟨rfl, fun e he => absurd he List.not_mem_nil⟩
  | cons r relations ih =>
    obtain ⟨partner, hp, h⟩ := List.mem_flatMap.mp h
    obtain ⟨d, hd, rfl⟩ := List.mem_map.mp h
    obtain ⟨hm, hall⟩ := ih hd
    exact ⟨by rw [List.map_cons, hm], List.forall_mem_cons.mpr ⟨hp, hall⟩⟩

/-- Going through all combinations settles, for each relation, on all of its records. -/
theorem settles_combinations [MomentReader] {columns : RelationPlan → List ColumnPlan} (hn : (relations.map (·.property)).Nodup)
    (h : ∀ r ∈ relations, StoredRows r.keyColumn (columns r) (o.related r.property)) {r : RelationPlan}
    (hr : r ∈ relations) :
    Settles (RelationPlan.seeIn r.property) [] (r.known (o.related r.property)) (o.combinations relations) := by
  induction relations with
  | nil => exact absurd hr List.not_mem_nil
  | cons s relations ih =>
    rw [List.map_cons, List.nodup_cons] at hn
    rw [List.forall_mem_cons] at h
    rw [combinations, List.flatMap]
    rcases List.mem_cons.mp hr with rfl | hr
    · -- each record is shown by as many rows as the other relations have combinations
      have once : ∀ records, ((o.partners r).map fun partner => (o.combinations relations).map ((r, partner) :: ·)).flatten.foldl
          (RelationPlan.seeIn r.property) records = (o.partners r).foldl r.see records := by
        intro records
        refine foldl_flatten_map (fun partner hp records => ?_) records
        refine RelationPlan.foldl_seeIn_own (o.combinations_ne_nil relations) (fun c hc => ?_) (fun row hrow => ?_) records
        · have hm : c.map (·.1.property) = relations.map (·.property) := by
            rw [← (of_mem_combinations hc).1, List.map_map]
            rfl
          rw [hm]
          exact hn.1
        · exact h.1.keys row (RelationPlan.mem_related_of_mem_partners (hrow ▸ hp))
      have hp := RelationPlan.settles_partners h.1
      exact ⟨(once _).trans hp.1, (once _).trans hp.2⟩
    · have hne : s.property ≠ r.property := fun he => hn.1 (List.mem_map.mpr ⟨r, hr, he.symm⟩)
      refine Settles.flatten (by simpa using o.partners_ne_nil s) fun xs hxs => ?_
      obtain ⟨partner, -, rfl⟩ := List.mem_map.mp hxs
      have hrest := ih hn.2 h.2 hr
      rw [Settles, RelationPlan.foldl_seeIn_other hne, RelationPlan.foldl_seeIn_other hne]
      exact hrest

end StoredOwner

end RelationMapper
