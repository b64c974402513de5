import Mathlib.Logic.Relation
import RelationMapper.Proofs.Client.Clearing

/-!
# Ways through the relations

An insertion and a deletion both go from a table to those that it relates to. Where no way leads to a table (`Apart`), nothing is
inserted there, and nothing deleted (`Clearing.spares`).
-/

namespace RelationMapper

open Relation

/-- A table relates to another one of the schema. -/
def Relates (tables : List Table) (t u : Table) : Prop := t.RelatesTo u ∧ u ∈ tables

/-- A table is apart from another one if no way through the relations leads from there to it, not even one of no steps. -/
def Apart (tables : List Table) (u v : Table) : Prop := ¬ReflTransGen (Relates tables) v u

section

variable {tables : List Table} {t u v : Table}

/-- The relations of a plan lead to related tables. -/
theorem relates_of_plan (hn : (tables.map (·.name)).Nodup) {plan : JoinPlan} (hp : t.plan tables = .ok plan)
    {relation : RelationPlan} (hr : relation ∈ plan.relations) :
    ∃ u, Relates tables t u ∧ findTable? tables relation.table = some u := by
  obtain ⟨q, hq, type, u, hpl⟩ := (plan_eq_ok hp).2.2.2 relation hr
  obtain ⟨hm, hname⟩ := (findTable?_eq_some hn).mp hpl.found
  exact ⟨u, ⟨⟨q, hq, type, hpl.spec, hpl.notPrimitive, hname.symm⟩, hm⟩,
    hpl.table ▸ (findTable?_eq_some hn).mpr ⟨hm, rfl⟩⟩

/-- A property that is no column leads to a related table. -/
theorem relates_of_related (hn : (tables.map (·.name)).Nodup) {name : String} {spec : TypeSpec} (hs : t.spec name = .ok spec)
    (hb : spec.isPrimitive = false) (hr : t.related tables spec = .ok u) : Relates tables t u := by
  obtain ⟨hm, hname⟩ := (findTable?_eq_some hn).mp (related_eq_ok.mp hr)
  rcases Table.spec_eq_ok.mp hs with ⟨p, hp, hs⟩ | ⟨-, -, rfl⟩
  · exact ⟨⟨p, List.mem_of_find?_eq_some hp, spec, hs, hb, hname.symm⟩, hm⟩
  · cases hb

/-- A table that is apart from another one is apart from what that relates to. -/
theorem Apart.of_relates (h : Apart tables u t) (hr : Relates tables t v) : Apart tables u v :=
  fun hv => h (.head hr hv)

/-- A table that is apart from another one is apart from all to which a way leads from there. -/
theorem Apart.of_way (h : Apart tables u t) (hw : TransGen (Relates tables) t v) : Apart tables u v :=
  fun hv => h (hw.to_reflTransGen.trans hv)

/-- A table to which no way leads back is apart from those to which ways lead from it. -/
theorem apart_of_way (h : ¬TransGen (Relates tables) u u) (hw : TransGen (Relates tables) u v) : Apart tables u v :=
  fun hv => h (hw.trans_left hv)

/-- Tables that are apart have different names. -/
theorem Apart.name_ne (hn : (tables.map (·.name)).Nodup) (h : Apart tables u v) (hu : u ∈ tables) (hv : v ∈ tables) :
    v.name ≠ u.name := by
  intro he
  have hsame := (findTable?_eq_some hn).mpr ⟨hu, he.symm⟩
  rw [(findTable?_eq_some hn).mpr ⟨hv, rfl⟩] at hsame
  exact h (Option.some.inj hsame ▸ .refl)

/-- A way ends in the schema. -/
theorem mem_of_way (hw : TransGen (Relates tables) t u) : u ∈ tables := by
  cases hw with
  | single h | tail _ h => exact h.2

end

namespace Statement

/-- Whether a statement spares the rows of a table that hold a literal in a column: it deletes no rows of the table, or only ones
that hold another literal there. -/
def Spares (table column literal : String) : Statement → Prop
  | .delete table' conditions => table' ≠ table ∨ ∃ other, .equals table column other ∈ conditions ∧ other ≠ literal
  | .cascade _ child _ _ _ => child ≠ table
  | _ => True

end Statement

namespace Client

variable {tables : List Table} {t u : Table}

/-! ## Entries below an entry -/

/-- The entries that a field holds are for a table that is related. -/
theorem relates_of_pendingIn (hn : (tables.map (·.name)).Nodup) {key name value : Value} {p : Pending}
    (hp : p ∈ pendingIn tables t key name value) : Relates tables t p.table := by
  obtain ⟨name', spec, related, items, hn', hb, hr, -, item, -, rfl⟩ := mem_pendingIn hp
  exact relates_of_related hn (Table.named_eq_ok.mp hn').2 hb hr

/-- An entry's table relates to the table of each entry that is to be inserted below it. -/
theorem relates_of_pendingBelow (hn : (tables.map (·.name)).Nodup) {key : Value} {owner : Option String}
    {fields : List (Value × Value)} {p : Pending} (hp : p ∈ pendingBelow tables t key owner fields) :
    Relates tables t p.table := by
  induction fields generalizing owner with
  | nil => exact absurd hp List.not_mem_nil
  | cons field fields ih =>
    rw [pendingBelow] at hp
    split at hp
    · exact ih hp
    · rcases List.mem_append.mp hp with hp | hp
      · exact relates_of_pendingIn hn hp
      · exact ih hp

/-- An insertion deletes nothing. -/
theorem spares_of_insertions {quote : String} {whole : Bool} {todo : List Pending} {xs : List Exchange}
    (h : Insertions quote tables whole todo xs) (table column literal : String) :
    ∀ e ∈ xs, e.statement.Spares table column literal := by
  induction h with
  | done | cut => exact List.forall_mem_nil _
  | asked reply => exact List.forall_mem_singleton.mpr trivial
  | node key rendered _ ih => exact List.forall_mem_cons.mpr ⟨trivial, List.forall_mem_cons.mpr ⟨trivial, ih⟩⟩

/-! ## Deletions -/

namespace Clearance

/-- The table whose rows, or whose related rows, are to be deleted. -/
def table : Clearance → Table
  | rows t _ _ | relations t _ _ _ _ => t

/-- The relations that are left lead to related tables. -/
def LeadsOn (tables : List Table) : Clearance → Prop
  | rows _ _ _ => True
  | relations t _ _ _ rest =>
    ∀ relation ∈ rest, ∃ u, Relates tables t u ∧ findTable? tables relation.table = some u

section

variable {conditions : List Condition} {unvisited : List String} {keys : Option (List Value)} {relation : RelationPlan}
  {rest : List RelationPlan}

/-- The next relation leads to the table that is found for it. -/
theorem LeadsOn.head (h : (relations t conditions unvisited keys (relation :: rest)).LeadsOn tables)
    (hf : findTable? tables relation.table = some u) : Relates tables t u := by
  obtain ⟨v, hr, hv⟩ := h relation List.mem_cons_self
  cases hf.symm.trans hv
  exact hr

theorem LeadsOn.tail (h : (relations t conditions unvisited keys (relation :: rest)).LeadsOn tables)
    (keys' : Option (List Value)) : (relations t conditions unvisited keys' rest).LeadsOn tables :=
  fun relation hm => h relation (List.mem_cons_of_mem _ hm)

end

end Clearance

/-- The statements of which a deletion consists: it reads keys, deletes rows of tables to which a way leads, and in the end what
it is asked to delete. -/
inductive Clearing (tables : List Table) : Clearance → Statement → Prop
  | reading {c : Clearance} {table key : String} {conditions : List Condition} :
    Clearing tables c (.selectKeys table key conditions)
  | rows {t : Table} {conditions : List Condition} {unvisited : List String} :
    Clearing tables (.rows t conditions unvisited) (.delete t.name conditions)
  | beyond {c : Clearance} {u : Table} {conditions : List Condition} (way : TransGen (Relates tables) c.table u) :
    Clearing tables c (.delete u.name conditions)
  | cascade {c : Clearance} {u : Table} {dialect : Dialect} {owner key : String} {conditions : List Condition}
    (way : TransGen (Relates tables) c.table u) : Clearing tables c (.cascade dialect u.name owner key conditions)

namespace Clearing

variable {c : Clearance} {s : Statement} {conditions : List Condition} {unvisited : List String}

/-- What is sent for some relations of a table is sent for others as well, and for its rows. -/
theorem of_relations {keys : Option (List Value)} {relations : List RelationPlan}
    (h : Clearing tables (.relations t conditions unvisited keys relations) s) (hc : c.table = t) : Clearing tables c s := by
  cases h with
  | reading => exact .reading
  | beyond way => exact .beyond (hc ▸ way)
  | cascade way => exact .cascade (hc ▸ way)

/-- What is sent for a related table. -/
theorem of_related (h : Clearing tables (.rows u conditions unvisited) s) (hr : Relates tables c.table u) :
    Clearing tables c s := by
  cases h with
  | reading => exact .reading
  | rows => exact .beyond (.single hr)
  | beyond way => exact .beyond (.head hr way)
  | cascade way => exact .cascade (.head hr way)

end Clearing

/-- A deletion consists of such statements. -/
theorem clearing_of_clears (hn : (tables.map (·.name)).Nodup) {dialect : Dialect} {whole : Bool} {c : Clearance}
    {xs : List Exchange} (h : Clears dialect tables whole c xs) (hc : c.LeadsOn tables) :
    ∀ e ∈ xs, Clearing tables c e.statement := by
  induction h with
  | cut | done => exact List.forall_mem_nil _
  | rows planned _ reply ih =>
    refine List.forall_mem_append.mpr ⟨fun e he => ?_, List.forall_mem_singleton.mpr .rows⟩
    exact (ih (fun _ => relates_of_plan hn planned) e he).of_relations rfl
  | unfinished planned _ ih => exact fun e he => (ih (fun _ => relates_of_plan hn planned) e he).of_relations rfl
  | cascade found _ reply _ ih =>
    have hname := ((findTable?_eq_some hn).mp found).2
    exact List.forall_mem_cons.mpr ⟨hname ▸ .cascade (.single (hc.head found)),
      fun e he => (ih (hc.tail _) e he).of_relations rfl⟩
  | asked reply => exact List.forall_mem_singleton.mpr .reading
  | read _ _ _ _ ih => exact List.forall_mem_cons.mpr ⟨.reading, fun e he => (ih hc e he).of_relations rfl⟩
  | unowned _ _ _ _ ih => exact fun e he => (ih (hc.tail _) e he).of_relations rfl
  | owned found _ _ _ _ ihCleared ih =>
    exact List.forall_mem_append.mpr ⟨fun e he => (ihCleared trivial e he).of_related (hc.head found),
      fun e he => (ih (hc.tail _) e he).of_relations rfl⟩
  | part found _ _ _ ih => exact fun e he => (ih trivial e he).of_related (hc.head found)

namespace Clearing

variable {c : Clearance} {s : Statement}

/-- A deletion that starts apart from a table spares all of its rows. -/
theorem spares (hn : (tables.map (·.name)).Nodup) (h : Clearing tables c s) (hc : c.table ∈ tables) (hu : u ∈ tables)
    (ha : Apart tables u c.table) (column literal : String) : s.Spares u.name column literal := by
  cases h with
  | reading => trivial
  | rows => exact .inl (ha.name_ne hn hu hc)
  | beyond way => exact .inl ((ha.of_way way).name_ne hn hu (mem_of_way way))
  | cascade way => exact (ha.of_way way).name_ne hn hu (mem_of_way way)

/-- A deletion of the rows that hold a literal spares those that hold another one, unless a way leads back. -/
theorem spares_others (hn : (tables.map (·.name)).Nodup) {column literal other : String} {unvisited : List String}
    (h : Clearing tables (.rows u [.equals u.name column other] unvisited) s) (hu : u ∈ tables)
    (hback : ¬TransGen (Relates tables) u u) (hne : other ≠ literal) : s.Spares u.name column literal := by
  cases h with
  | reading => trivial
  | rows => exact .inr ⟨other, List.mem_singleton_self _, hne⟩
  | beyond way => exact .inl ((apart_of_way hback way).name_ne hn hu (mem_of_way way))
  | cascade way => exact (apart_of_way hback way).name_ne hn hu (mem_of_way way)

end Clearing

end Client

end RelationMapper
