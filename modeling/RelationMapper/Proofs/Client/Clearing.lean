import RelationMapper.Proofs.Client.Delete
import RelationMapper.Proofs.Client.Sending
import RelationMapper.Proofs.Client.Insertion

/-!
# What a deletion sends

Rows are deleted after their related rows. A relation is cleared by one statement, unless it leads to a table that has not been
visited on the way and has relations itself: then the keys of the owners are read, and the related rows are deleted in the same
way, by their owners' keys (`Clears`). A deletion that breaks off has sent a beginning of this (`sends_clearTable`).
-/

namespace RelationMapper.Client

open Act Number

variable {r : Registry JoinPlan} {t : Table} {o : Options} {smooth : Prop}

/-- What is to be deleted: the rows of a table that meet conditions, or rows that are related to these, by some relations of the
table; in the latter case the keys of the owners may have been read. The tables that have not been visited are known by name. -/
inductive Clearance where
  | rows (t : Table) (conditions : List Condition) (unvisited : List String)
  | relations (t : Table) (conditions : List Condition) (unvisited : List String) (keys : Option (List Value))
    (relations : List RelationPlan)

/-- Whether a deletion goes on through a related table: it has not been visited, and has relations. -/
def GoesOn (tables : List Table) (related : Table) (unvisited : List String) : Prop :=
  related.name ∈ unvisited ∧ ∃ plan, related.plan tables = .ok plan ∧ plan.relations ≠ []

/-- The exchanges of a deletion, to the end or not. -/
inductive Clears (dialect : Dialect) (tables : List Table) : Bool → Clearance → List Exchange → Prop
  | cut {c : Clearance} : Clears dialect tables false c []
  | rows {whole : Bool} {t : Table} {conditions : List Condition} {unvisited : List String} {plan : JoinPlan}
    {xs : List Exchange} (planned : t.plan tables = .ok plan)
    (below : Clears dialect tables true (.relations t conditions unvisited none plan.relations) xs) (reply : Reply) :
    Clears dialect tables whole (.rows t conditions unvisited) (xs ++ [⟨.delete t.name conditions, reply⟩])
  | unfinished {t : Table} {conditions : List Condition} {unvisited : List String} {plan : JoinPlan} {xs : List Exchange}
    (planned : t.plan tables = .ok plan)
    (below : Clears dialect tables false (.relations t conditions unvisited none plan.relations) xs) :
    Clears dialect tables false (.rows t conditions unvisited) xs
  | done {whole : Bool} {t : Table} {conditions : List Condition} {unvisited : List String} {keys : Option (List Value)} :
    Clears dialect tables whole (.relations t conditions unvisited keys []) []
  | cascade {whole : Bool} {t related : Table} {conditions : List Condition} {unvisited : List String}
    {keys : Option (List Value)} {relation : RelationPlan} {rest : List RelationPlan} {xs : List Exchange}
    (found : findTable? tables relation.table = some related) (ends : ¬GoesOn tables related unvisited) (reply : Reply)
    (others : Clears dialect tables whole (.relations t conditions unvisited keys rest) xs) :
    Clears dialect tables whole (.relations t conditions unvisited keys (relation :: rest))
      (⟨.cascade dialect relation.table t.name t.key conditions, reply⟩ :: xs)
  | asked {t : Table} {conditions : List Condition} {unvisited : List String} {relation : RelationPlan}
    {rest : List RelationPlan} (reply : Reply) :
    Clears dialect tables false (.relations t conditions unvisited none (relation :: rest))
      [⟨.selectKeys t.name t.key conditions, reply⟩]
  | read {whole : Bool} {t related : Table} {conditions : List Condition} {unvisited : List String} {keys : List Value}
    {relation : RelationPlan} {rest : List RelationPlan} {reply : Reply} {xs : List Exchange}
    (found : findTable? tables relation.table = some related) (goes : GoesOn tables related unvisited)
    (told : reply.result >>= Result.keys t.key = .ok keys)
    (cleared : Clears dialect tables whole (.relations t conditions unvisited (some keys) (relation :: rest)) xs) :
    Clears dialect tables whole (.relations t conditions unvisited none (relation :: rest))
      (⟨.selectKeys t.name t.key conditions, reply⟩ :: xs)
  | unowned {whole : Bool} {t related : Table} {conditions : List Condition} {unvisited : List String} {keys : List Value}
    {relation : RelationPlan} {rest : List RelationPlan} {xs : List Exchange}
    (found : findTable? tables relation.table = some related) (goes : GoesOn tables related unvisited)
    (filter : related.renderFilter dialect.quote (ownedBy t keys) = .ok none)
    (others : Clears dialect tables whole (.relations t conditions unvisited (some keys) rest) xs) :
    Clears dialect tables whole (.relations t conditions unvisited (some keys) (relation :: rest)) xs
  | owned {whole : Bool} {t related : Table} {conditions owned : List Condition} {unvisited : List String}
    {keys : List Value} {relation : RelationPlan} {rest : List RelationPlan} {xs ys : List Exchange}
    (found : findTable? tables relation.table = some related) (goes : GoesOn tables related unvisited)
    (filter : related.renderFilter dialect.quote (ownedBy t keys) = .ok (some owned))
    (cleared : Clears dialect tables true (.rows related owned (unvisited.filter (· ≠ related.name))) xs)
    (others : Clears dialect tables whole (.relations t conditions unvisited (some keys) rest) ys) :
    Clears dialect tables whole (.relations t conditions unvisited (some keys) (relation :: rest)) (xs ++ ys)
  | part {t related : Table} {conditions owned : List Condition} {unvisited : List String} {keys : List Value}
    {relation : RelationPlan} {rest : List RelationPlan} {xs : List Exchange}
    (found : findTable? tables relation.table = some related) (goes : GoesOn tables related unvisited)
    (filter : related.renderFilter dialect.quote (ownedBy t keys) = .ok (some owned))
    (cleared : Clears dialect tables false (.rows related owned (unvisited.filter (· ≠ related.name))) xs) :
    Clears dialect tables false (.relations t conditions unvisited (some keys) (relation :: rest)) xs

/-- Whoever has come to the end has come as far as anyone. -/
theorem Clears.relax {dialect : Dialect} {ts : List Table} {whole : Bool} {c : Clearance} {xs : List Exchange}
    (h : Clears dialect ts whole c xs) : Clears dialect ts false c xs := by
  induction h with
  | cut => exact .cut
  | rows planned below reply _ => exact .rows planned below reply
  | unfinished planned below _ => exact .unfinished planned below
  | done => exact .done
  | cascade found ends reply _ ih => exact .cascade found ends reply ih
  | asked reply => exact .asked reply
  | read found goes told _ ih => exact .read found goes told ih
  | unowned found goes filter _ ih => exact .unowned found goes filter ih
  | owned found goes filter cleared _ _ ih => exact .owned found goes filter cleared ih
  | part found goes filter cleared _ => exact .part found goes filter cleared

/-! ## Going through the relations -/

/-- Looking whether a deletion goes on through a related table. -/
theorem sends_goesOn [MomentReader] (hr : r.Validated) {related : Table} (hrelated : related ∈ r.tables) {unvisited : List String}
    {next : Bool → Work Unit} {P : Prop} {R : Unit → List Exchange → Prop} {F : List Exchange → Prop}
    (hnext : ∀ nested, (nested = true ∧ related.name ∈ unvisited ↔ GoesOn r.tables related unvisited) →
      Sends (settled r) o smooth P (next nested) R F) :
    Sends (settled r) o smooth P
      (do
        let nested ← if related.name ∈ unvisited then hasRelations related else pure false
        next nested) R F := by
  dsimp only
  by_cases hu : related.name ∈ unvisited
  · rw [if_pos hu]
    have assoc : (hasRelations related >>= next) = planFor related.name >>= fun plan => next !plan.relations.isEmpty := by
      rw [hasRelations, bind_assoc]
      rfl
    rw [assoc]
    refine Sends.planFor_bind hr hrelated fun plan hplan => hnext _ ?_
    unfold GoesOn
    simp [hu, hplan]
  · rw [if_neg hu]
    exact hnext false (by simp [GoesOn, hu])

/-- Keys that were read are integers, ones that can be written if everything goes well. -/
def ReadKeys (smooth : Prop) (keys : List Value) : Prop :=
  ∃ ns : List Int, keys = ns.map .int ∧ (smooth → ∀ n ∈ ns, isTooLong n = false)

/-- The filter for the related rows of owners whose keys were read can be made. -/
theorem only_ownedBy (hr : r.Validated) {related : Table} (hrelated : related ∈ r.tables) (hd : related.DeclaresInt t.key)
    {keys : List Value} (hk : ReadKeys smooth keys) (quote : String) :
    Only (fun _ => ¬smooth) (related.renderFilter quote (ownedBy t keys)) := by
  obtain ⟨ns, rfl, hshort⟩ := hk
  refine only_keyFilter (hr.distinct related hrelated) hd (show IsKeys (.list (ns.map .int)) from ?_) ?_ quote
  · intro v hv
    obtain ⟨n, -, rfl⟩ := List.mem_map.mp hv
    exact ⟨n, rfl⟩
  · rintro v hv n rfl
    obtain ⟨m, hm, hn⟩ := List.mem_map.mp hv
    cases hn
    exact only_writeInt_smooth fun hsmooth => hshort hsmooth n hm

/-- Some exchanges end with that of a statement, and a result is the one that is answered there. -/
def EndsIn (statement : Statement) (result : Result) (xs : List Exchange) : Prop :=
  ∃ before reply, xs = before ++ [⟨statement, reply⟩] ∧ reply.result = .ok result

mutual

/-- The rows of a table are deleted after their related rows. -/
theorem sends_clearTable [MomentReader] (hr : r.Validated) {t : Table} (ht : t ∈ r.tables) (conditions : List Condition)
    (unvisited : List String) :
    Sends (settled r) o smooth True (clearTable o t conditions unvisited)
      (fun result xs =>
        Clears o.dialect r.tables true (.rows t conditions unvisited) xs ∧ EndsIn (.delete t.name conditions) result xs)
      (Clears o.dialect r.tables false (.rows t conditions unvisited)) := by
  rw [clearTable]
  refine Sends.planFor_bind hr ht fun plan hplan => ?_
  have related := fun relation => relation_declaresInt (r := relation) hr.wellFormed ht hplan
  refine ((sends_clearRelations hr ht conditions unvisited none plan.relations related).weaken ?_).bind ?_ fun _ xs => ?_
  · rintro - keys ⟨⟩
  · exact fun _ xs hxs => .unfinished hplan hxs
  · refine (Sends.ask hr _).mono ?_ ?_
    · rintro ⟨-, hxs⟩ result ys ⟨reply, rfl, hresult, -⟩
      exact ⟨.rows hplan hxs reply, xs, reply, rfl, hresult⟩
    · rintro ⟨-, hxs⟩ ys (rfl | ⟨reply, rfl⟩)
      · rw [List.append_nil]
        exact .unfinished hplan hxs.relax
      · exact .rows hplan hxs reply
termination_by (unvisited.length, 1, 0)

/-- Related rows are deleted relation by relation. -/
theorem sends_clearRelations [MomentReader] (hr : r.Validated) {t : Table} (ht : t ∈ r.tables) (conditions : List Condition)
    (unvisited : List String) (keys : Option (List Value)) (relations : List RelationPlan)
    (related : ∀ relation ∈ relations, ∃ related ∈ r.tables, related.name = relation.table ∧ related.DeclaresInt t.key) :
    Sends (settled r) o smooth (∀ read, keys = some read → ReadKeys smooth read)
      (clearRelations o t conditions unvisited keys relations)
      (fun _ => Clears o.dialect r.tables true (.relations t conditions unvisited keys relations))
      (Clears o.dialect r.tables false (.relations t conditions unvisited keys relations)) := by
  match relations with
  | [] =>
    rw [clearRelations]
    exact Sends.pure fun _ => .done
  | relation :: rest =>
    rw [List.forall_mem_cons] at related
    obtain ⟨⟨u, hu, hname, hdeclares⟩, others⟩ := related
    have hfound : r.find? relation.table = some u := (findTable?_eq_some hr.wellFormed.names).mpr ⟨hu, hname⟩
    rw [clearRelations]
    refine Sends.getRegistry_bind ?_
    rw [hfound]
    refine sends_goesOn hr hu fun nested hnested => ?_
    split
    · case isTrue hdeep =>
      have goes := hnested.mp hdeep
      have hfewer : (unvisited.filter (· ≠ u.name)).length < unvisited.length :=
        List.length_filter_lt_length_iff_exists.mpr ⟨u.name, hdeep.2, by simp⟩
      have cleared (read : List Value) : Sends (settled r) o smooth (ReadKeys smooth read)
          (do
            match ← Act.lift (u.renderFilter o.dialect.quote (ownedBy t read)) with
            | none => pure ()
            | some owned => discard (clearTable o u owned (unvisited.filter (· ≠ u.name)))
            clearRelations o t conditions unvisited (some read) rest)
          (fun _ => Clears o.dialect r.tables true (.relations t conditions unvisited (some read) (relation :: rest)))
          (Clears o.dialect r.tables false (.relations t conditions unvisited (some read) (relation :: rest))) := by
        have remaining : Sends (settled r) o smooth (ReadKeys smooth read) _ _ _ :=
          (sends_clearRelations hr ht conditions unvisited (some read) rest others).weaken fun h _ he => Option.some.inj he ▸ h
        refine Sends.lift_bind (fun h => only_ownedBy hr hu hdeclares h _) (fun _ => .cut) fun owned howned => ?_
        cases owned with
        | none => exact remaining.mono (fun _ _ _ => .unowned hfound goes howned) fun _ _ => .unowned hfound goes howned
        | some owned =>
          refine ((sends_clearTable hr hu owned _).weaken fun _ => trivial).discard.bind ?_ fun _ xs => ?_
          · exact fun _ xs => .part hfound goes howned
          · refine (remaining.weaken fun h => h.1).mono ?_ ?_
            · rintro ⟨-, _, hxs, -⟩ - ys
              exact .owned hfound goes howned hxs
            · rintro ⟨-, _, hxs, -⟩ ys
              exact .owned hfound goes howned hxs
      cases keys with
      | some read => exact (cleared read).weaken fun h => h read rfl
      | none =>
        refine Sends.matchingKeys_bind hr t conditions (fun _ => .cut) (fun _ reply => .asked reply) fun read reply => ?_
        refine ((cleared read).weaken fun h => h.2.ints).mono ?_ ?_
        · exact fun h _ _ => .read hfound goes h.2.read
        · exact fun h _ => .read hfound goes h.2.read
    · case isFalse hflat =>
      have ends : ¬GoesOn r.tables u unvisited := fun h => hflat (hnested.mpr h)
      refine Sends.discard_ask_bind hr (fun _ => .cut) (fun _ reply => .cascade hfound ends reply .cut) fun reply => ?_
      exact (sends_clearRelations hr ht conditions unvisited keys rest others).mono
        (fun _ _ _ => .cascade hfound ends reply) fun _ _ => .cascade hfound ends reply
termination_by (unvisited.length, 0, relations.length)
decreasing_by
  all_goals first
    | exact Prod.Lex.left _ _ hfewer
    | exact Prod.Lex.right _ (Prod.Lex.right _ (by simp))

end

/-! ## Deleting what passes a filter -/

/-- What is sent to delete the rows that meet the conditions of a filter, and the result. If there are conditions, this is a
deletion to its end, and the result is what is answered to its last statement; otherwise no row can pass. -/
def Deletes (dialect : Dialect) (tables : List Table) (t : Table) : Option (List Condition) → Result → List Exchange → Prop
  | none, result, xs => result = .count 0 ∧ xs = []
  | some conditions, result, xs =>
    Clears dialect tables true (.rows t conditions ((tables.map (·.name)).filter (· ≠ t.name))) xs ∧
      EndsIn (.delete t.name conditions) result xs

/-- The rows that pass a filter are deleted. -/
theorem sends_deleteRows [MomentReader] (hr : r.Validated) (ht : t ∈ r.tables) {filter : Value} (htruthy : filter.isTruthy = true)
    {P : Prop} (hfilter : P → Only (fun _ => ¬smooth) (t.renderFilter o.dialect.quote filter)) :
    Sends (settled r) o smooth P (deleteRows o t filter)
      (fun result xs => ∃ conditions, t.renderFilter o.dialect.quote filter = .ok conditions ∧
        Deletes o.dialect r.tables t conditions result xs)
      (fun xs => xs = [] ∨ ∃ conditions, t.renderFilter o.dialect.quote filter = .ok (some conditions) ∧
        Clears o.dialect r.tables false (.rows t conditions ((r.tables.map (·.name)).filter (· ≠ t.name))) xs) := by
  unfold deleteRows
  split
  · cases htruthy
  · rw [htruthy]
    refine Sends.ensureValid_bind hr (Sends.lift_bind hfilter (fun _ => .inl rfl) fun conditions hc => ?_)
    cases conditions with
    | none => exact Sends.pure fun _ => ⟨none, hc, rfl, rfl⟩
    | some conditions =>
      refine Sends.tables_bind (((sends_clearTable hr ht conditions _).weaken fun _ => trivial).mono ?_ ?_)
      · exact fun _ result xs hxs => ⟨some conditions, hc, hxs⟩
      · exact fun _ xs hxs => .inr ⟨conditions, hc, hxs⟩

end RelationMapper.Client
