import RelationMapper.Proofs.Client.Cascade
import RelationMapper.Proofs.Client.InsertedTree
import RelationMapper.Proofs.Naming

/-!
# Deletions reach every related table

A deletion goes from the rows of a table to those of the related tables, and on from there. If no way through the relations
leads back, it follows every way to its end, as long as owners are found, and it deletes in the opposite direction: rows go
before their owners (`DeletesAlong`). It ends with the statement for the rows that it was asked to delete (`deletion_descends`).
-/

namespace RelationMapper

namespace Reply.TellsKeys

variable {tables : List Table} {reply : Reply} {key : String} {keys : List Value} {result : Result}

/-- A reply that tells keys is admissible. -/
theorem admits [MomentReader] {smooth : Prop} (h : reply.TellsKeys smooth key keys) (hr : reply.result = .ok result)
    (table : String) (conditions : List Condition) : (Statement.selectKeys table key conditions).Admits tables result := by
  obtain ⟨hread, ns, rfl, -⟩ := h
  rw [hr, ok_bind] at hread
  cases result with
  | count n => trivial
  | records columns rows =>
    intro row hrow v hv
    obtain ⟨w, hw, hcell⟩ := exists_mem_of_mapM (show rows.mapM (cell · key) = .ok (ns.map .int) from hread) hrow
    cases (Client.cell_eq_ok.mp hcell).symm.trans hv
    obtain ⟨n, -, rfl⟩ := List.mem_map.mp hw
    exact ⟨n, rfl⟩

/-- It suits if the keys can be written. -/
theorem suits (h : reply.TellsKeys True key keys) (hr : reply.result = .ok result) (table : String)
    (conditions : List Condition) : (Statement.selectKeys table key conditions).Suits result := by
  obtain ⟨hread, ns, rfl, hshort⟩ := h
  rw [hr, ok_bind] at hread
  exact ⟨ns, hread, hshort trivial⟩

end Reply.TellsKeys

namespace Client

open Act Relation Number

variable {r : Registry JoinPlan} {t u : Table} {o : Options} {tables : List Table} {dialect : Dialect}
  {conditions : List Condition} {unvisited : List String} {xs : List Exchange}

/-! ## Ways down -/

/-- The exchanges of a deletion along a way through the relations, beginning with the rows of a table that meet some conditions.
Rows of a table without relations go by a statement about their owners. Otherwise the keys of the owners are read: if there are
any, the way goes on with the rows that hold them, and if there are none, it ends here. Either way the owners go last. -/
inductive DeletesAlong (dialect : Dialect) (tables : List Table) :
    Table → List Condition → List Table → List Exchange → Prop
  | rows {t : Table} {conditions : List Condition} (deleted : Reply) :
    DeletesAlong dialect tables t conditions [] [⟨.delete t.name conditions, deleted⟩]
  | cascade {t u : Table} {conditions : List Condition} (ends : ∀ v, ¬Relates tables u v) (cleared deleted : Reply) :
    DeletesAlong dialect tables t conditions [u]
      [⟨.cascade dialect u.name t.name t.key conditions, cleared⟩, ⟨.delete t.name conditions, deleted⟩]
  | unowned {t u : Table} {conditions : List Condition} {path : List Table} {asked : Reply}
    (goes : ∃ v, Relates tables u v) (told : asked.result >>= Result.keys t.key = .ok []) (deleted : Reply) :
    DeletesAlong dialect tables t conditions (u :: path)
      [⟨.selectKeys t.name t.key conditions, asked⟩, ⟨.delete t.name conditions, deleted⟩]
  | owned {t u : Table} {conditions : List Condition} {path : List Table} {asked : Reply} {keys : List Int}
    {xs : List Exchange} (goes : ∃ v, Relates tables u v) (told : asked.result >>= Result.keys t.key = .ok (keys.map .int))
    (some : keys ≠ []) (below : DeletesAlong dialect tables u [.among u.name t.key (keys.map intText)] path xs)
    (deleted : Reply) :
    DeletesAlong dialect tables t conditions (u :: path)
      (⟨.selectKeys t.name t.key conditions, asked⟩ :: xs ++ [⟨.delete t.name conditions, deleted⟩])

/-- Where a deletion stands on its way: at a table of the schema, and no table ahead has been visited. -/
structure OnWay (tables : List Table) (t : Table) (unvisited : List String) : Prop where
  mem : t ∈ tables
  ahead : ∀ u, TransGen (Relates tables) t u → u.name ∈ unvisited

/-- If no way leads back, the tables ahead are still not visited one step further. -/
theorem OnWay.next (hn : (tables.map (·.name)).Nodup) (hacyclic : ∀ u, ¬TransGen (Relates tables) u u)
    (h : OnWay tables t unvisited) (hr : Relates tables t u) : OnWay tables u (unvisited.filter (· ≠ u.name)) := by
  refine ⟨hr.2, fun v hv => List.mem_filter.mpr ⟨h.ahead v (.head hr hv), ?_⟩⟩
  exact decide_eq_true ((apart_of_way (hacyclic u) hv).name_ne hn hr.2 (mem_of_way hv))

/-- A deletion goes on through a related table exactly if this has relations itself. -/
theorem OnWay.goesOn_iff (hwf : WellFormedSchema tables) (h : OnWay tables t unvisited) (hr : Relates tables t u) :
    GoesOn tables u unvisited ↔ ∃ v, Relates tables u v := by
  constructor
  · rintro ⟨-, plan, hplan, hne⟩
    obtain ⟨relation, hrelation⟩ := List.exists_mem_of_ne_nil _ hne
    obtain ⟨v, hv, -⟩ := relates_of_plan hwf.names hplan hrelation
    exact ⟨v, hv⟩
  · rintro ⟨v, hv⟩
    obtain ⟨plan, hplan⟩ := plan_exists hwf hr.2
    obtain ⟨relation, hrelation, -⟩ := exists_relation_columns hwf hplan hv.2 hv.1
    exact ⟨h.ahead u (.single hr), plan, hplan, List.ne_nil_of_mem hrelation⟩

/-! ## What is sent on the way -/

/-- The keys that were asked for in some exchanges were told: integers, ones that can be written. -/
def KeysTold (xs : List Exchange) : Prop :=
  ∀ e ∈ xs, ∀ table key conditions, e.statement = .selectKeys table key conditions →
    ∃ keys, e.reply.TellsKeys True key keys

/-- The exchange in which the keys of owners were told, if they have been read. -/
def ToldIn (t : Table) (conditions : List Condition) : Option (List Value) → List Exchange → Prop
  | none, asked => asked = []
  | some keys, asked => ∃ reply, asked = [⟨.selectKeys t.name t.key conditions, reply⟩] ∧ reply.TellsKeys True t.key keys

/-- What is sent along the ways that begin with some relations of a table, up to the deletion of the owners. -/
def LeadsAlong (dialect : Dialect) (tables : List Table) (t : Table) (conditions : List Condition)
    (relations : List RelationPlan) (xs : List Exchange) : Prop :=
  ∀ relation ∈ relations, ∀ u, findTable? tables relation.table = some u →
    ∀ path, (u :: path).IsChain (Relates tables) → ∃ ys, ys.Sublist xs ∧
      ∀ deleted, DeletesAlong dialect tables t conditions (u :: path) (ys ++ [⟨.delete t.name conditions, deleted⟩])

/-- The first relation and the others may have been cleared in different places. -/
theorem LeadsAlong.cons {relation : RelationPlan} {rest : List RelationPlan} (xs : List Exchange) {ys zs : List Exchange}
    (hfound : findTable? tables relation.table = some u)
    (first : ∀ path, (u :: path).IsChain (Relates tables) → ∃ ys, ys.Sublist xs ∧
      ∀ deleted, DeletesAlong dialect tables t conditions (u :: path) (ys ++ [⟨.delete t.name conditions, deleted⟩]))
    (others : LeadsAlong dialect tables t conditions rest ys) (hx : xs.Sublist zs) (hy : ys.Sublist zs) :
    LeadsAlong dialect tables t conditions (relation :: rest) zs := by
  intro relation' hm v hv path hpath
  rcases List.mem_cons.mp hm with rfl | hm
  · cases hfound.symm.trans hv
    obtain ⟨ws, hws, along⟩ := first path hpath
    exact ⟨ws, hws.trans hx, along⟩
  · obtain ⟨ws, hws, along⟩ := others relation' hm v hv path hpath
    exact ⟨ws, hws.trans hy, along⟩

/-- What is sent of a deletion along the ways from where it stands. Of relations it is known that they lead to tables that hold
the owner's key. -/
def Clearance.Descends (dialect : Dialect) (tables : List Table) : Clearance → List Exchange → Prop
  | rows t conditions unvisited, xs =>
    OnWay tables t unvisited → ∀ path, (t :: path).IsChain (Relates tables) →
      ∃ ys, ys.Sublist xs ∧ DeletesAlong dialect tables t conditions path ys
  | relations t conditions unvisited keys rest, xs =>
    OnWay tables t unvisited →
      (∀ relation ∈ rest, ∃ u, Relates tables t u ∧ u.DeclaresInt t.key ∧ findTable? tables relation.table = some u) →
        ∀ asked, ToldIn t conditions keys asked → LeadsAlong dialect tables t conditions rest (asked ++ xs)

/-- The relations of a plan lead to tables that hold the owner's key. -/
theorem relations_lead (hwf : WellFormedSchema tables) (ht : t ∈ tables) {plan : JoinPlan} (hp : t.plan tables = .ok plan) :
    ∀ relation ∈ plan.relations, ∃ u, Relates tables t u ∧ u.DeclaresInt t.key ∧ findTable? tables relation.table = some u := by
  intro relation hrelation
  obtain ⟨u, hleads, hdeclares⟩ := leadsTo_of_mem hwf ht hp hrelation
  obtain ⟨v, hv, hfound⟩ := relates_of_plan hwf.names hp hrelation
  cases hleads.found.symm.trans hfound
  exact ⟨u, hv, hdeclares, hfound⟩

/-- The filter for the rows of owners whose keys were told. -/
theorem renderFilter_of_told (hd : u.Distinct) (hdeclares : u.DeclaresInt t.key) {quote : String} {keys : List Value}
    {asked : Reply} (htold : asked.TellsKeys True t.key keys) {owned : Option (List Condition)}
    (hfilter : u.renderFilter quote (ownedBy t keys) = .ok owned) :
    ∃ ns : List Int, asked.result >>= Result.keys t.key = .ok (ns.map .int) ∧
      owned = if ns = [] then none else some [.among u.name t.key (ns.map intText)] := by
  obtain ⟨hread, ns, rfl, hshort⟩ := htold
  refine ⟨ns, hread, ?_⟩
  rw [renderFilter_ownedBy hd hdeclares, if_neg] at hfilter
  · exact (Except.ok.inj hfilter).symm
  · rintro ⟨n, hn, hlong⟩
    cases hlong.symm.trans (hshort trivial n hn)

/-- A deletion that comes to its end goes down every way from where it stands. -/
theorem descends_of_clears (hwf : WellFormedSchema tables) (hd : ∀ t ∈ tables, t.Distinct)
    (hacyclic : ∀ u, ¬TransGen (Relates tables) u u) {whole : Bool} {c : Clearance} (h : Clears dialect tables whole c xs)
    (hw : whole = true) (htold : KeysTold xs) : c.Descends dialect tables xs := by
  induction h with
  | cut | unfinished | asked | part => cases hw
  | @rows _ t conditions unvisited plan xs planned _ reply ih =>
    intro hway path hpath
    cases path with
    | nil => exact ⟨_, List.sublist_append_right _ _, .rows reply⟩
    | cons u path =>
      obtain ⟨hu, hpath⟩ := List.isChain_cons_cons.mp hpath
      obtain ⟨relation, hrelation, -, -, -, -, htable⟩ := exists_relation_columns hwf planned hu.2 hu.1
      have hfound : findTable? tables relation.table = some u := (findTable?_eq_some hwf.names).mpr ⟨hu.2, htable.symm⟩
      obtain ⟨ys, hys, along⟩ := ih rfl (fun e he => htold e (List.mem_append_left _ he)) hway
        (relations_lead hwf hway.mem planned) [] rfl relation hrelation u hfound path hpath
      exact ⟨ys ++ _, hys.append_right _, along reply⟩
  | done => exact fun _ _ _ _ relation hrelation => absurd hrelation List.not_mem_nil
  | @cascade _ t u conditions unvisited keys relation rest xs found ends reply _ ih =>
    intro hway hleads asked hasked
    rw [List.forall_mem_cons] at hleads
    obtain ⟨⟨v, hv, -, hfound⟩, hleads⟩ := hleads
    cases found.symm.trans hfound
    have leaf : ∀ v, ¬Relates tables u v := fun v hu => ends ((hway.goesOn_iff hwf hv).mpr ⟨v, hu⟩)
    refine .cons [⟨.cascade dialect relation.table t.name t.key conditions, reply⟩] found (fun path hpath => ?_)
      (ih hw (List.forall_mem_cons.mp htold).2 hway hleads asked hasked) ?_ ?_
    · -- the way ends at a table without relations
      cases path with
      | nil =>
        rw [← ((findTable?_eq_some hwf.names).mp found).2]
        exact ⟨_, .refl _, fun deleted => .cascade leaf reply deleted⟩
      | cons w path => exact absurd (List.isChain_cons_cons.mp hpath).1 (leaf w)
    · exact List.singleton_sublist.mpr (by simp)
    · exact (List.sublist_cons_self _ _).append_left _
  | read found goes told _ ih =>
    rintro hway hleads _ rfl
    obtain ⟨htold, hrest⟩ := List.forall_mem_cons.mp htold
    obtain ⟨keys', htells⟩ := htold _ _ _ rfl
    cases htells.read.symm.trans told
    exact ih hw hrest hway hleads _ ⟨_, rfl, htells⟩
  | @unowned _ t u conditions unvisited keys relation rest xs found goes filter _ ih =>
    rintro hway hleads _ ⟨asked, rfl, htells⟩
    rw [List.forall_mem_cons] at hleads
    obtain ⟨⟨v, hv, hdeclares, hfound⟩, hleads⟩ := hleads
    cases found.symm.trans hfound
    obtain ⟨ns, hread, hns⟩ := renderFilter_of_told (hd u hv.2) hdeclares htells filter
    have hnil : ns = [] := by
      by_contra hne
      rw [if_neg hne] at hns
      cases hns
    subst hnil
    refine .cons [_] found (fun path _ => ?_) (ih hw htold hway hleads _ ⟨asked, rfl, htells⟩)
      (List.sublist_append_left _ _) (.refl _)
    exact ⟨_, .refl _, fun deleted => .unowned ((hway.goesOn_iff hwf hv).mp goes) hread deleted⟩
  | @owned _ t u conditions owned unvisited keys relation rest xs ys found goes filter _ _ ihCleared ih =>
    rintro hway hleads _ ⟨asked, rfl, htells⟩
    rw [List.forall_mem_cons] at hleads
    obtain ⟨⟨v, hv, hdeclares, hfound⟩, hleads⟩ := hleads
    cases found.symm.trans hfound
    obtain ⟨ns, hread, hns⟩ := renderFilter_of_told (hd u hv.2) hdeclares htells filter
    have hsome : ns ≠ [] := by
      rintro rfl
      cases hns
    rw [if_neg hsome] at hns
    cases hns
    refine .cons (⟨.selectKeys t.name t.key conditions, asked⟩ :: xs) found (fun path hpath => ?_)
      (ih hw (fun e he => htold e (List.mem_append_right _ he)) hway hleads _ ⟨asked, rfl, htells⟩) ?_ ?_
    · obtain ⟨zs, hzs, along⟩ := ihCleared rfl (fun e he => htold e (List.mem_append_left _ he))
        (hway.next hwf.names hacyclic hv) path hpath
      exact ⟨_, hzs.cons_cons _, fun deleted => .owned ((hway.goesOn_iff hwf hv).mp goes) hread hsome along deleted⟩
    · exact (List.sublist_append_left _ _).cons_cons _
    · exact (List.sublist_append_right _ _).cons_cons _

/-! ## Deletions of a client -/

/-- Whether a statement is one of those that deletions send. -/
def OfDeletion : Statement → Prop
  | .selectKeys _ _ _ | .delete _ _ | .cascade _ _ _ _ _ => True
  | _ => False

/-- While the registry is valid, deletions send nothing else. -/
theorem keptByDeletion_sentOnly (hr : r.Validated) (s₀ : Session) :
    KeptByDeletion o fun s => s.registry = r ∧ SentOnly OfDeletion s₀ s where
  gate s hs := by
    rw [ensureValid, Setting.runFrom_ensureValid _ (hs.1 ▸ hr.valid)]
    exact hs
  keys _ _ _ := (keeps_onConnection (I := (· = r)) _).and (keeps_sentOnly trivial)
  delete _ _ _ := (keeps_onConnection (I := (· = r)) _).and (keeps_sentOnly trivial)
  cascade _ _ _ _ := (keeps_onConnection (I := (· = r)) _).and (keeps_sentOnly trivial)

/-- If the keys that are asked for are told, everything is as it may be expected. -/
theorem expected_of_keysTold [MomentReader] {s s' : Session} (hr : s.registry.Validated) {filter : Value}
    {result : Except Fault Result} (hrun : (deleteRows o t filter).runFrom s = (result, s'))
    (htold : KeysTold (exchanged (sentSince s s') s.rest.connection.script.replies)) :
    Admissible tables (sentSince s s') s.rest.connection.script.replies ∧
      ∀ e ∈ exchanged (sentSince s s') s.rest.connection.script.replies, ∀ answer, e.reply.result = .ok answer →
        e.statement.Suits answer := by
  have hkept := keeps_deleteRows (keptByDeletion_sentOnly (o := o) hr s) t filter s ⟨rfl, SentOnly.refl⟩
  rw [hrun] at hkept
  have hkinds : ∀ e ∈ exchanged (sentSince s s') s.rest.connection.script.replies, OfDeletion e.statement :=
    forall_exchanged hkept.2.sentSince
  have hexpected : ∀ e ∈ exchanged (sentSince s s') s.rest.connection.script.replies, ∀ answer,
      e.reply.result = .ok answer → e.statement.Admits tables answer ∧ e.statement.Suits answer := by
    intro e he answer hanswer
    have hkind := hkinds e he
    have htold := htold e he
    cases hs : e.statement with
    | selectKeys table key conditions =>
      obtain ⟨keys, htells⟩ := htold table key conditions hs
      exact ⟨htells.admits hanswer table conditions, htells.suits hanswer table conditions⟩
    | delete | cascade => exact ⟨trivial, trivial⟩
    | _ => rw [hs] at hkind; cases hkind
  exact ⟨admissible_of_exchanged fun e he answer ha => (hexpected e he answer ha).1,
    fun e he answer ha => (hexpected e he answer ha).2⟩

/-- A deletion by a filter goes down every way through the relations, if no way leads back. What is sent is a deletion to its
end, relation by relation; its last statement deletes the rows that meet the conditions of the filter, and what is answered to
it is the result. Along every way, the rows that owners have are deleted, and before the owners, as long as keys of owners are
found. This holds for whatever keys are told that can be written, as the integers of a database can, as long as nothing fails on
the connection. Nothing is sent for a filter that no row can pass. -/
theorem deletion_descends {o o' : Options} {s₀ s₁ s s' : Session} {report : Report}
    (hv : (Setting.runValidation (validation o')).runFrom s₀ = (.ok report, s₁)) (hs : s.registry = s₁.registry)
    (hd : ∀ t ∈ s.registry.tables, t.Distinct) (hacyclic : ∀ u, ¬TransGen (Relates s.registry.tables) u u) {t : Table}
    (ht : t ∈ s.registry.tables) {filter : Value} (htruthy : filter.isTruthy = true) {conditions : Option (List Condition)}
    (hfilter : t.renderFilter o.dialect.quote filter = .ok conditions) (hready : s.rest.connection.Ready o)
    {result : Except Fault Result} (hrun : (deleteRows o t filter).runFrom s = (result, s'))
    (htold : KeysTold (exchanged (sentSince s s') s.rest.connection.script.replies)) :
    match conditions with
    | none => result = .ok (.count 0) ∧ sentSince s s' = []
    | some conditions => ∃ before last answer,
        exchanged (sentSince s s') s.rest.connection.script.replies = before ++ [⟨.delete t.name conditions, last⟩] ∧
        result = .ok answer ∧ last.result = .ok answer ∧
        Clears o.dialect s.registry.tables true
          (.rows t conditions ((s.registry.tables.map (·.name)).filter (· ≠ t.name)))
          (exchanged (sentSince s s') s.rest.connection.script.replies) ∧
        ∀ path, (t :: path).IsChain (Relates s.registry.tables) →
          ∃ along, along.Sublist (exchanged (sentSince s s') s.rest.connection.script.replies) ∧
            DeletesAlong o.dialect s.registry.tables t conditions path along := by
  have hr : s.registry.Validated := hs ▸ validated_of_run (hs ▸ hd) hv
  obtain ⟨hadmissible, hsuits⟩ := expected_of_keysTold hr hrun htold
  have sends : Sends (settled s.registry) o True True (deleteRows o t filter) _ _ :=
    sends_deleteRows hr ht htruthy fun _ => hfilter ▸ Only.ok conditions
  obtain ⟨hok, herror⟩ := sends_since sends rfl hrun trivial (fun _ => hready) hadmissible fun _ => hsuits
  cases result with
  | error e => exact absurd trivial (herror e rfl).1
  | ok answer =>
    obtain ⟨conditions', hfilter', hdeletes⟩ := hok answer rfl
    cases hfilter.symm.trans hfilter'
    cases conditions with
    | none =>
      obtain ⟨rfl, hnothing⟩ := hdeletes
      refine ⟨rfl, List.length_eq_zero_iff.mp ?_⟩
      rw [← length_exchanged (sentSince s s') s.rest.connection.script.replies, hnothing, List.length_nil]
    | some conditions =>
      obtain ⟨hclears, before, last, hlast, hanswer⟩ := hdeletes
      refine ⟨before, last, answer, hlast, rfl, hanswer, hclears, fun path hpath => ?_⟩
      refine descends_of_clears hr.wellFormed hd hacyclic hclears rfl htold ⟨ht, fun u hu => ?_⟩ path hpath
      -- a table ahead is another one of the schema
      refine List.mem_filter.mpr ⟨List.mem_map_of_mem (mem_of_way hu), decide_eq_true ?_⟩
      exact (apart_of_way (hacyclic t) hu).name_ne hr.wellFormed.names ht (mem_of_way hu)

/-! ## A client -/

section

variable {s s' : Session} {plan : JoinPlan} {relation : RelationPlan} {rest : List RelationPlan}

theorem registry_ask (hv : s.registry.phase = .valid) (statement : Statement) :
    ((ask o statement).runFrom s).2.registry = s.registry := by
  rw [ask, runFrom_bind, ensureValid, Setting.runFrom_ensureValid _ hv]
  rfl

/-- Relations that lead to a table without relations are cleared by one statement. -/
theorem runFrom_clearRelations_flat {keys : Option (List Value)} (hf : s.registry.find? relation.table = some u)
    (hp : s.registry.planFor? u.name = some plan) (hr : plan.relations = []) :
    (clearRelations o t conditions unvisited keys (relation :: rest)).runFrom s =
      (discard (ask o (.cascade o.dialect relation.table t.name t.key conditions)) >>= fun _ =>
        clearRelations o t conditions unvisited keys rest).runFrom s := by
  have nested : (hasRelations u).runFrom s = (.ok false, s) := by
    rw [hasRelations, runFrom_bind, runFrom_planFor hp]
    dsimp only
    rw [hr]
    rfl
  rw [clearRelations, runFrom_bind, Setting.runFrom_getRegistry]
  dsimp only
  rw [hf]
  dsimp only
  split
  · rw [runFrom_bind, nested]
    rfl
  · rfl

/-- For the others, the keys of the owners are read. -/
theorem runFrom_clearRelations_deep (hf : s.registry.find? relation.table = some u)
    (hp : s.registry.planFor? u.name = some plan) (hr : plan.relations ≠ []) (hu : u.name ∈ unvisited) {keys : List Value}
    (hk : (matchingKeys o t conditions).runFrom s = (.ok keys, s')) :
    (clearRelations o t conditions unvisited none (relation :: rest)).runFrom s =
      (do
        match ← Act.lift (u.renderFilter o.dialect.quote (ownedBy t keys)) with
        | none => pure ()
        | some owned => discard (clearTable o u owned (unvisited.filter (· ≠ u.name)))
        clearRelations o t conditions unvisited (some keys) rest).runFrom s' := by
  have nested : (hasRelations u).runFrom s = (.ok true, s) := by
    rw [hasRelations, runFrom_bind, runFrom_planFor hp]
    dsimp only
    rw [List.isEmpty_eq_false_iff.mpr hr]
    rfl
  rw [clearRelations, runFrom_bind, Setting.runFrom_getRegistry]
  dsimp only
  rw [hf]
  dsimp only
  rw [if_pos hu, runFrom_bind, nested]
  dsimp only
  rewrite [dif_pos ⟨rfl, hu⟩, runFrom_bind, hk]
  rfl

end

/-- Posts that may be commented on. -/
def discussed : Table :=
  ⟨"Post", "postId", [⟨"title", "varchar(256)"⟩, ⟨"userId", "int"⟩, ⟨"comments", "Comment[]"⟩], 1⟩

/-- Comments on posts. -/
def comments : Table := ⟨"Comment", "commentId", [⟨"body", "varchar(256)"⟩, ⟨"postId", "int"⟩], 2⟩

/-- Users, their posts, and the comments on these. -/
def forum : List Table := [users, discussed, comments]

theorem forum_distinct : ∀ t ∈ forum, t.Distinct := by
  unfold Table.Distinct
  decide

/-- The tables of the forum relate to later ones only. -/
theorem later_of_relates (ht : t ∈ forum) (h : Relates forum t u) : t.number < u.number := by
  obtain ⟨⟨p, hp, spec, hs, hb, hn⟩, hu⟩ := h
  have later : ∀ t ∈ forum, ∀ p ∈ t.properties, ∀ u ∈ forum,
      (match p.spec with
        | .ok spec => !spec.isPrimitive && spec.base == u.name
        | .error _ => false) = true → t.number < u.number := by decide
  refine later t ht p hp u hu ?_
  rw [hs]
  simp [hb, hn]

/-- No table of the forum leads back to itself. -/
theorem forum_acyclic (u : Table) : ¬TransGen (Relates forum) u u := by
  have later {v w : Table} (hv : v ∈ forum) (h : TransGen (Relates forum) v w) : v.number < w.number := by
    induction h with
    | single h => exact later_of_relates hv h
    | tail way h ih => exact Nat.lt_trans ih (later_of_relates (mem_of_way way) h)
  exact fun h => Nat.lt_irrefl _ (later (mem_of_way h) h)

section

variable {r : Registry JoinPlan} (hr : r.Validated) (ht : r.tables = forum)

include hr ht in
/-- The tables of the forum are found, and their plans are stored. -/
theorem found_forum (hu : u ∈ forum) :
    r.find? u.name = some u ∧ ∃ plan, r.planFor? u.name = some plan ∧ u.plan forum = .ok plan := by
  have hu' : u ∈ r.tables := ht ▸ hu
  obtain ⟨plan, hstored, hplan⟩ := lookup_plans hr.plans hr.wellFormed.names hu'
  exact ⟨(findTable?_eq_some hr.wellFormed.names).mpr ⟨hu', rfl⟩, plan, hstored, ht ▸ hplan⟩

/-- A client of the forum when the key of a user is waiting to be told. -/
def forumAwaiting (r : Registry JoinPlan) (key : Int) : Session :=
  ⟨r, ⟨⟨true, 0, ⟨[{ answer := .ok (.rows ["userId"] [[.int key]]) }], [], none⟩, []⟩, none, 3⟩⟩

/-- A filter for users that have one of no names. -/
def nameless : Value := .map [(.text "name", .list [])]

include hr in
/-- A deletion by one of no names ends at once. -/
theorem runFrom_deleteNameless (key : Int) :
    (deleteRows blogOptions users nameless).runFrom (forumAwaiting r key) = (.ok (.count 0), forumAwaiting r key) := by
  change (ensureValid blogOptions >>= fun _ => _).runFrom (forumAwaiting r key) = _
  rw [runFrom_bind, ensureValid, Setting.runFrom_ensureValid (s := forumAwaiting r key) _ hr.valid]
  rfl

/-- The conditions that are given for a user by his name. -/
def adaNamed : List Condition := [.equals "User" "name" "'Ada'"]

/-- The client once the key was told. -/
def forumTold (r : Registry JoinPlan) (key : Int) : Session :=
  ((ask blogOptions (.selectKeys users.name users.key adaNamed)).runFrom (forumAwaiting r key)).2

include hr in
theorem runFrom_matchingKeys_users (key : Int) :
    (matchingKeys blogOptions users adaNamed).runFrom (forumAwaiting r key) = (.ok [.int key], forumTold r key) := by
  have hask : (ask blogOptions (.selectKeys users.name users.key adaNamed)).runFrom (forumAwaiting r key) =
      (.ok (.records ["userId"] [[("userId", .int key)]]), forumTold r key) := by
    rw [forumTold, ask, runFrom_bind, ensureValid, Setting.runFrom_ensureValid (s := forumAwaiting r key) _ hr.valid]
    rfl
  rw [matchingKeys_eq, runFrom_bind, hask]
  rfl

include hr ht in
/-- The posts of the user are deleted by his key, once it was told, and then the user. -/
theorem runFrom_deleteUser (key : Int) :
    (deleteRows blogOptions users ada).runFrom (forumAwaiting r key) =
      match discussed.renderFilter "'" (ownedBy users [.int key]) with
      | .error e => (.error e, forumTold r key)
      | .ok none => (ask blogOptions (.delete "User" adaNamed)).runFrom (forumTold r key)
      | .ok (some owned) =>
        (discard (clearTable blogOptions discussed owned ["Comment"]) >>= fun _ =>
          ask blogOptions (.delete "User" adaNamed)).runFrom (forumTold r key) := by
  obtain ⟨-, plan, hstored, hplan⟩ := found_forum hr ht (u := users) List.mem_cons_self
  obtain ⟨posts, hposts, hname⟩ : ∃ posts, plan.relations = [posts] ∧ posts.table = discussed.name := by
    cases hplan.symm.trans (rfl : _ = Except.ok _)
    exact ⟨_, rfl, rfl⟩
  obtain ⟨hfound, plan', hstored', hplan'⟩ := found_forum hr ht (u := discussed) (by decide)
  have hdeep : plan'.relations ≠ [] := by
    cases hplan'.symm.trans (rfl : _ = Except.ok _)
    exact List.cons_ne_nil _ _
  have hnames : (forumAwaiting r key).registry.tables.map (·.name) = ["User", "Post", "Comment"] := by
    change r.tables.map (·.name) = _
    rw [ht]
    rfl
  have hothers : ["User", "Post", "Comment"].filter (· ≠ users.name) = ["Post", "Comment"] := by decide
  have hlast : ["Post", "Comment"].filter (· ≠ discussed.name) = ["Comment"] := by decide
  have hquote : blogOptions.dialect.quote = "'" := rfl
  have hada : users.renderFilter blogOptions.dialect.quote ada = .ok (some adaNamed) := rfl
  rw [runFrom_deleteRows hr.valid rfl hada, hnames, hothers, runFrom_clearTable hstored, runFrom_bind, hposts,
    runFrom_clearRelations_deep (hname ▸ hfound) hstored' hdeep (by decide) (runFrom_matchingKeys_users hr key), hlast,
    hquote, runFrom_bind, runFrom_lift]
  cases discussed.renderFilter "'" (ownedBy users [.int key]) with
  | error e => rfl
  | ok owned =>
    dsimp only
    cases owned with
    | none =>
      dsimp only
      rw [clearRelations]
      rfl
    | some owned =>
      dsimp only
      rw [clearRelations, bind_pure_unit, runFrom_bind]
      rfl

/-- What is sent to delete the posts of the user with the comments on them. -/
def deletePosts : Work Result := do
  discard (ask blogOptions (.cascade .sqlite "Comment" "Post" "postId" [.among "Post" "userId" ["7"]]))
  ask blogOptions (.delete "Post" [.among "Post" "userId" ["7"]])

include hr ht in
theorem runFrom_deletePosts {s : Session} (hs : s.registry = r) :
    (clearTable blogOptions discussed [.among "Post" "userId" ["7"]] ["Comment"]).runFrom s = deletePosts.runFrom s := by
  subst hs
  obtain ⟨-, plan, hstored, hplan⟩ := found_forum hr ht (u := discussed) (by decide)
  obtain ⟨remarks, hremarks, hname⟩ : ∃ remarks, plan.relations = [remarks] ∧ remarks.table = comments.name := by
    cases hplan.symm.trans (rfl : _ = Except.ok _)
    exact ⟨_, rfl, rfl⟩
  obtain ⟨hfound, plan', hstored', hplan'⟩ := found_forum hr ht (u := comments) (by decide)
  have hflat : plan'.relations = [] := by
    cases hplan'.symm.trans (rfl : _ = Except.ok _)
    rfl
  rw [runFrom_clearTable hstored, runFrom_bind, hremarks, runFrom_clearRelations_flat (hname ▸ hfound) hstored' hflat,
    clearRelations, bind_pure_unit, hname, deletePosts, runFrom_bind]
  rfl

/-- What is sent to delete the user, once his key was told. -/
def deleteUser : Work Result := do
  discard deletePosts
  ask blogOptions (.delete "User" adaNamed)

/-- The client once the user is deleted. -/
def userDeleted (r : Registry JoinPlan) : Session := (deleteUser.runFrom (forumTold r 7)).2

include hr ht in
theorem runFrom_deleteUser_found :
    (deleteRows blogOptions users ada).runFrom (forumAwaiting r 7) =
      ((deleteUser.runFrom (forumTold r 7)).1, userDeleted r) := by
  have hfilter : discussed.renderFilter "'" (ownedBy users [.int 7]) = .ok (some [.among "Post" "userId" ["7"]]) := rfl
  have hposts := runFrom_deletePosts hr ht (s := forumTold r 7) (registry_ask hr.valid _)
  rw [runFrom_deleteUser hr ht, hfilter]
  change ((clearTable _ _ _ _ >>= fun _ => pure ()) >>= fun _ => _ : Work Result).runFrom _ =
    ((deletePosts >>= fun _ => pure ()) >>= fun _ => _ : Work Result).runFrom _
  simp only [runFrom_bind, hposts]

end

/-- A client that has declared the tables of the forum; the database has none yet. -/
def forumClient : Session := { blogClient with registry := { Registry.empty with tables := forum } }

/-- The client after a validation. -/
def forumReady : Session := ((Setting.runValidation (validation blogOptions)).runFrom forumClient).2

theorem runFrom_validationForum :
    (Setting.runValidation (validation blogOptions)).runFrom forumClient =
      (.ok ⟨[.missingTable "User", .missingTable "Post", .missingTable "Comment"], []⟩, forumReady) := rfl

theorem tables_forumReady : forumReady.registry.tables = forum := rfl

theorem validated_forumReady : forumReady.registry.Validated :=
  validated_of_run (tables_forumReady ▸ forum_distinct) runFrom_validationForum

theorem sentSince_deleteUser :
    sentSince (forumAwaiting forumReady.registry 7) (userDeleted forumReady.registry) =
      [.selectKeys "User" "userId" adaNamed, .cascade .sqlite "Comment" "Post" "postId" [.among "Post" "userId" ["7"]],
        .delete "Post" [.among "Post" "userId" ["7"]], .delete "User" adaNamed] := by
  decide +kernel

/-- What is sent to delete the user, with the replies. -/
def exchangedForUser : List Exchange :=
  exchanged (sentSince (forumAwaiting forumReady.registry 7) (userDeleted forumReady.registry))
    (forumAwaiting forumReady.registry 7).rest.connection.script.replies

theorem keysTold_forUser : KeysTold exchangedForUser := by
  have hreplies : (forumAwaiting forumReady.registry 7).rest.connection.script.replies =
      [{ answer := .ok (.rows ["userId"] [[.int 7]]) }] := rfl
  rw [exchangedForUser, sentSince_deleteUser, hreplies]
  simp only [exchanged_cons, exchanged_nil, List.headD_cons, List.tail_cons]
  refine List.forall_mem_cons.mpr ⟨?_, List.forall_mem_cons.mpr ⟨nofun, List.forall_mem_cons.mpr ⟨nofun,
    List.forall_mem_singleton.mpr nofun⟩⟩⟩
  rintro _ _ _ ⟨⟩
  exact ⟨[.int 7], rfl, [7], rfl, fun _ => by decide⟩

theorem chain_forum : [users, discussed, comments].IsChain (Relates forum) := by
  refine .cons_cons ⟨⟨⟨"posts", "Post[]"⟩, ?_, _, rfl, rfl, rfl⟩, ?_⟩ (.cons_cons
    ⟨⟨⟨"comments", "Comment[]"⟩, ?_, _, rfl, rfl, rfl⟩, ?_⟩ (.singleton _))
  all_goals decide

/-- The comments on the posts of a user are deleted before the posts, and these before the user. -/
theorem deletion_descends_forum :
    ∃ answer, (deleteRows blogOptions users ada).runFrom (forumAwaiting forumReady.registry 7) =
        (.ok answer, userDeleted forumReady.registry) ∧
      ∃ along, along.Sublist exchangedForUser ∧
        DeletesAlong .sqlite forum users adaNamed [discussed, comments] along := by
  have hready : (forumAwaiting forumReady.registry 7).rest.connection.Ready blogOptions :=
    ⟨⟨_, Connection.runFrom_ensureOpen rfl⟩, List.forall_mem_singleton.mpr ⟨⟨_, rfl⟩, rfl, rfl, rfl⟩⟩
  have hrun := runFrom_deleteUser_found validated_forumReady tables_forumReady
  have hada : users.renderFilter blogOptions.dialect.quote ada = .ok (some adaNamed) := rfl
  obtain ⟨-, -, answer, -, hanswer, -, -, halong⟩ := deletion_descends
    runFrom_validationForum (show (forumAwaiting forumReady.registry 7).registry = forumReady.registry from rfl) forum_distinct
    forum_acyclic List.mem_cons_self rfl hada hready hrun keysTold_forUser
  exact ⟨answer, hrun.trans (by rw [hanswer]), halong [discussed, comments] chain_forum⟩

/-- A deletion may delete nothing: if the filter asks for one of no values, it is accepted, and nothing is sent. -/
theorem nothing_deleted_forum :
    (Setting.runValidation (validation blogOptions)).runFrom forumClient =
      (.ok ⟨[.missingTable "User", .missingTable "Post", .missingTable "Comment"], []⟩, forumReady) ∧
    (∀ u, ¬TransGen (Relates forum) u u) ∧ nameless.isTruthy = true ∧ users.renderFilter "'" nameless = .ok none ∧
    (deleteRows blogOptions users nameless).runFrom (forumAwaiting forumReady.registry 7) =
      (.ok (.count 0), forumAwaiting forumReady.registry 7) :=
  ⟨runFrom_validationForum, forum_acyclic, rfl, rfl, runFrom_deleteNameless validated_forumReady _⟩

end Client

end RelationMapper
