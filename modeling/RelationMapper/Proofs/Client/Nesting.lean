import Mathlib.Data.List.Perm.Subperm
import RelationMapper.Proofs.Client.RowWork
import RelationMapper.Proofs.Client.Ways

/-!
# Deletions end

A deletion follows the relations of related tables, and these may lead back: to the table itself, or around a ring of tables. It
is stopped by the tables on its way alone. `deleteWithin` is this deletion as a recursion to a greatest depth: it breaks off where
it would go deeper, and it notes the way to each table that is cleared. Whatever is answered, it does not break off if the depth is
the number of the tables or greater, and has the outcome of `deleteRows`; and no way goes through a table twice (`deletion_ends`).
-/

namespace RelationMapper.Client

open Act

variable {α β : Type} {o : Options} {ts : List Table} {t related : Table}

/-! ## Work that may break off -/

/-- Work of a client that may break off, and notes the ways that it goes. -/
abbrev Walk := ExceptT Fault (StateT (Session × List (List String)) Option)

namespace Walk

/-- What a walk ends with, and the client and the ways after it; nothing if it breaks off. -/
def runFrom (walk : Walk α) (s : Session) (ways : List (List String)) : Option (Except Fault α × Session × List (List String)) :=
  StateT.run (ExceptT.run walk) (s, ways)

/-- Work that does not break off, as a part of a walk. -/
def does (act : Work α) : Walk α :=
  ExceptT.mk fun (s, ways) => some ((act.runFrom s).1, (act.runFrom s).2, ways)

/-- Notes a way. -/
def note (way : List String) : Walk Unit := modify fun (s, ways) => (s, ways ++ [way])

/-- Breaks off. -/
def breakOff : Walk α := ExceptT.mk fun _ => none

/-- Work on a walk is that work, and the noted ways stay. -/
theorem runFrom_does (act : Work α) (s : Session) (ways : List (List String)) :
    (does act).runFrom s ways = some ((act.runFrom s).1, (act.runFrom s).2, ways) := rfl

theorem runFrom_note (way : List String) (s : Session) (ways : List (List String)) :
    (note way).runFrom s ways = some (.ok (), s, ways ++ [way]) := rfl

theorem runFrom_bind (walk : Walk α) (f : α → Walk β) (s : Session) (ways : List (List String)) :
    (walk >>= f).runFrom s ways =
      match walk.runFrom s ways with
      | none => none
      | some (.ok a, s', ways') => (f a).runFrom s' ways'
      | some (.error e, s', ways') => some (.error e, s', ways') := by
  change StateT.run (ExceptT.run (walk >>= f)) (s, ways) = _
  rw [ExceptT.run_bind, StateT.run_bind]
  unfold runFrom
  cases h : StateT.run (ExceptT.run walk) (s, ways) with
  | none => rfl
  | some result =>
    obtain ⟨r, s', ways'⟩ := result
    cases r <;> rfl

end Walk

open Walk

/-! ## The deletion to a greatest depth -/

/-- Deletes the related rows of the rows that meet conditions, relation by relation. A related table that is on the way, or has no
relations, is cleared by one statement; any other is cleared as given, and the way goes on to it. -/
def clearRelationsWith (clear : Table → List Condition → List String → Walk Result) (o : Options) (t : Table)
    (conditions : List Condition) (way : List String) : Option (List Value) → List RelationPlan → Walk Unit
  | _, [] => return ()
  | keys, r :: rest => do
    match (← does Setting.getRegistry).find? r.table with
    | none => throw .noSuchPart
    | some related =>
      let nested ← if related.name ∈ way then pure false else does (hasRelations related)
      if nested then
        let keys ← match keys with
          | some keys => pure keys
          | none => does (matchingKeys o t conditions)
        match ← does (Act.lift (related.renderFilter o.dialect.quote (ownedBy t keys))) with
        | none => pure ()
        | some owned => discard (clear related owned (related.name :: way))
        clearRelationsWith clear o t conditions way (some keys) rest
      else
        discard (does (ask o (.cascade o.dialect r.table t.name t.key conditions)))
        clearRelationsWith clear o t conditions way keys rest

/-- Deletes the rows of a table that meet conditions, after their related rows, to a greatest depth of tables. The way leads here:
the name of this table, that of the table in whose clearing it is cleared, and so on. -/
def clearWithin (o : Options) : (depth : Nat) → Table → List Condition → (way : List String) → Walk Result
  | 0, _, _, _ => breakOff
  | depth + 1, t, conditions, way => do
    note way
    let plan ← does (planFor t.name)
    clearRelationsWith (clearWithin o depth) o t conditions way none plan.relations
    does (ask o (.delete t.name conditions))

/-- Deletes the rows that pass a filter, with their related rows, to a greatest depth of tables. -/
def deleteWithin (o : Options) (depth : Nat) (t : Table) (filter : Value) : Walk Result := do
  match filter with
  | .null => throw (.misuse (.noFilter .delete))
  | filter =>
    if !filter.isTruthy then throw (.misuse .emptyFilter)
    does (ensureValid o)
    match ← does (Act.lift (t.renderFilter o.dialect.quote filter)) with
    | none => return .count 0
    | some conditions => clearWithin o depth t conditions [t.name]

/-! ## Ways -/

section

/-- A way that goes through registered tables, and through none of them twice. -/
structure Straight (ts : List Table) (way : List String) : Prop where
  nodup : way.Nodup
  registered : way ⊆ ts.map (·.name)

variable {way unvisited : List String}

namespace Straight

theorem one (h : t ∈ ts) : Straight ts [t.name] :=
  ⟨List.pairwise_singleton _ _, List.cons_subset.mpr ⟨List.mem_map_of_mem h, List.nil_subset _⟩⟩

/-- A way can go on to a table that is not on it. -/
theorem cons (h : Straight ts way) (hr : related ∈ ts) (hnew : related.name ∉ way) : Straight ts (related.name :: way) :=
  ⟨List.nodup_cons.mpr ⟨hnew, h.nodup⟩, List.cons_subset.mpr ⟨List.mem_map_of_mem hr, h.registered⟩⟩

/-- Such a way has no more tables than there are. -/
theorem length_le (h : Straight ts way) : way.length ≤ ts.length :=
  Nat.le_trans (h.nodup.subperm h.registered).length_le (Nat.le_of_eq (List.length_map _))

end Straight

/-- A way, and the names that a deletion has not visited: of the tables, they name those that are not on the way. -/
structure Along (ts : List Table) (way unvisited : List String) : Prop where
  straight : Straight ts way
  rest : ∀ t ∈ ts, t.name ∈ unvisited ↔ t.name ∉ way

namespace Along

/-- At the start a way has one table, and all others are unvisited. -/
theorem start (h : t ∈ ts) : Along ts [t.name] ((ts.map (·.name)).filter (· ≠ t.name)) where
  straight := .one h
  rest u hu := by simpa using fun _ => ⟨u, hu, rfl⟩

theorem length_others_lt (h : t ∈ ts) : ((ts.map (·.name)).filter (· ≠ t.name)).length < ts.length := by
  have hfewer : ((ts.map (·.name)).filter (· ≠ t.name)).length < (ts.map (·.name)).length :=
    List.length_filter_lt_length_iff_exists.mpr ⟨t.name, List.mem_map_of_mem h, by simp⟩
  exact Nat.lt_of_lt_of_eq hfewer (List.length_map _)

/-- A way goes on to a table that is not on it, and that is then visited. -/
theorem next (h : Along ts way unvisited) (hr : related ∈ ts) (hnew : related.name ∉ way) :
    Along ts (related.name :: way) (unvisited.filter (· ≠ related.name)) where
  straight := h.straight.cons hr hnew
  rest u hu := by simp [h.rest u hu, and_comm]

end Along

/-! ## Walks that end -/

/-- A walk comes to its end with the outcome of some work, and with the same client after it, if the client has the given tables;
it keeps them, and the ways that it notes are straight. -/
def EndsAs (ts : List Table) (walk : Walk α) (act : Work α) : Prop :=
  ∀ s ways, s.registry.tables = ts → (act.runFrom s).2.registry.tables = ts ∧
    ∃ more, walk.runFrom s ways = some ((act.runFrom s).1, (act.runFrom s).2, ways ++ more) ∧ ∀ way ∈ more, Straight ts way

namespace EndsAs

/-- Work that keeps the tables ends on a walk as it does on its own. -/
theorem does {act : Work α} (h : KeepsRegistry (·.tables = ts) act) : EndsAs ts (does act) act :=
  fun s ways hs => ⟨h s hs, [], by rw [runFrom_does, List.append_nil], List.forall_mem_nil _⟩

theorem lift (r : Except Fault α) : EndsAs ts (ExceptT.mk (pure r)) (Act.lift r) :=
  fun s ways hs => ⟨hs, [], by rw [List.append_nil]; rfl, List.forall_mem_nil _⟩

theorem pure (a : α) : EndsAs ts (pure a) (pure a) := lift (.ok a)

theorem throw (e : Fault) : EndsAs ts (throw e : Walk α) (throw e) := lift (.error e)

theorem bind {walk : Walk α} {act : Work α} {f : α → Walk β} {g : α → Work β} (h : EndsAs ts walk act)
    (hf : ∀ a, EndsAs ts (f a) (g a)) : EndsAs ts (walk >>= f) (act >>= g) := by
  intro s ways hs
  obtain ⟨hs', more, hwalk, hmore⟩ := h s ways hs
  rw [Walk.runFrom_bind, hwalk, Act.runFrom_bind]
  cases hrun : act.runFrom s with
  | mk r s' =>
    rw [hrun] at hs'
    cases r with
    | error e => exact ⟨hs', more, rfl, hmore⟩
    | ok a =>
      obtain ⟨hs'', others, hwalk', hothers⟩ := hf a s' (ways ++ more) hs'
      exact ⟨hs'', more ++ others, by rw [← List.append_assoc]; exact hwalk', List.forall_mem_append.mpr ⟨hmore, hothers⟩⟩

/-- What follows a look at the registry may count on the tables. -/
theorem getRegistry_bind {f : Registry JoinPlan → Walk β} {g : Registry JoinPlan → Work β}
    (h : ∀ registry, registry.tables = ts → EndsAs ts (f registry) (g registry)) :
    EndsAs ts (Walk.does Setting.getRegistry >>= f) (Setting.getRegistry >>= g) :=
  fun s ways hs => h s.registry hs s ways hs

/-- Work whose result does not matter. -/
theorem discard_bind {walk : Walk α} {act : Work α} {walk' : Walk β} {act' : Work β} (h : EndsAs ts walk act)
    (h' : EndsAs ts walk' act') :
    EndsAs ts (discard walk >>= fun _ => walk') (discard act >>= fun _ => act') :=
  (h.bind fun _ => EndsAs.pure ()).bind fun _ => h'

/-- A straight way may be noted. -/
theorem note_bind {walk : Walk β} {act : Work β} (hway : Straight ts way) (h : EndsAs ts walk act) :
    EndsAs ts (note way >>= fun _ => walk) act := by
  intro s ways hs
  obtain ⟨hs', more, hwalk, hmore⟩ := h s (ways ++ [way]) hs
  refine ⟨hs', way :: more, ?_, List.forall_mem_cons.mpr ⟨hway, hmore⟩⟩
  rw [Walk.runFrom_bind, runFrom_note]
  exact hwalk.trans (by rw [List.append_assoc, List.singleton_append])

theorem ite {c : Prop} [Decidable c] {walk walk' : Walk α} {act act' : Work α} (h : EndsAs ts walk act)
    (h' : EndsAs ts walk' act') : EndsAs ts (if c then walk else walk') (if c then act else act') := by
  split
  · exact h
  · exact h'

end EndsAs

end

/-! ## The parts of a deletion -/

/-- Work on rows keeps the tables. -/
theorem keptByGate_tables : KeptByGate (·.tables = ts) :=
  SurvivesGate.kept ⟨fun _ _ h _ _ => h, fun _ _ h _ => h⟩

theorem keeps_tables_ask (s : Statement) : KeepsRegistry (·.tables = ts) (ask o s) :=
  keeps_ask (keptByGate_tables o) (keeps_onConnection (I := (·.tables = ts)) _)

theorem endsAs_ask (s : Statement) : EndsAs ts (does (ask o s)) (ask o s) := .does (keeps_tables_ask s)

theorem endsAs_matchingKeys (t : Table) (conditions : List Condition) :
    EndsAs ts (does (matchingKeys o t conditions)) (matchingKeys o t conditions) :=
  .does ((keeps_tables_ask _).bind fun _ => Keeps.lift _)

theorem endsAs_hasRelations (t : Table) : EndsAs ts (does (hasRelations t)) (hasRelations t) :=
  .does ((keeps_planFor t.name).bind fun _ => Keeps.pure _)

/-- Clearing related tables comes to its end if clearing each of those that are not on the way does. -/
theorem endsAs_clearRelations {way unvisited : List String} (h : Along ts way unvisited) (t : Table)
    (conditions : List Condition) {clear : Table → List Condition → List String → Walk Result}
    (hclear : ∀ related ∈ ts, related.name ∉ way → ∀ owned,
      EndsAs ts (clear related owned (related.name :: way))
        (clearTable o related owned (unvisited.filter (· ≠ related.name))))
    (relations : List RelationPlan) (keys : Option (List Value)) :
    EndsAs ts (clearRelationsWith clear o t conditions way keys relations)
      (clearRelations o t conditions unvisited keys relations) := by
  induction relations generalizing keys with
  | nil =>
    rw [clearRelationsWith, clearRelations]
    exact .pure ()
  | cons r rest ih =>
    rw [clearRelationsWith, clearRelations]
    refine .getRegistry_bind fun registry hregistry => ?_
    cases hrelated : registry.find? r.table with
    | none => exact .throw _
    | some related =>
      have hr : related ∈ ts := hregistry ▸ List.mem_of_find?_eq_some hrelated
      have hrest := h.rest related hr
      have cascaded : EndsAs ts
          (discard (does (ask o (.cascade o.dialect r.table t.name t.key conditions))) >>= fun _ =>
            clearRelationsWith clear o t conditions way keys rest)
          (discard (ask o (.cascade o.dialect r.table t.name t.key conditions)) >>= fun _ =>
            clearRelations o t conditions unvisited keys rest) := (endsAs_ask _).discard_bind (ih keys)
      dsimp only
      by_cases hon : related.name ∈ way
      · have hvisited : related.name ∉ unvisited := fun hmem => hrest.mp hmem hon
        rw [if_pos hon, if_neg hvisited]
        simp only [pure_bind, Bool.false_eq_true, if_false, false_and, dif_neg, not_false_eq_true]
        exact cascaded
      · have hunvisited : related.name ∈ unvisited := hrest.mpr hon
        rw [if_neg hon, if_pos hunvisited]
        refine .bind (endsAs_hasRelations related) fun nested => ?_
        cases nested with
        | false =>
          simp only [Bool.false_eq_true, if_false, false_and, dif_neg, not_false_eq_true]
          exact cascaded
        | true =>
          rw [if_pos rfl, dif_pos ⟨rfl, hunvisited⟩]
          have cleared (read : List Value) : EndsAs ts
              (do
                match ← does (Act.lift (related.renderFilter o.dialect.quote (ownedBy t read))) with
                | none => pure ()
                | some owned => discard (clear related owned (related.name :: way))
                clearRelationsWith clear o t conditions way (some read) rest)
              (do
                match ← Act.lift (related.renderFilter o.dialect.quote (ownedBy t read)) with
                | none => pure ()
                | some owned => discard (clearTable o related owned (unvisited.filter (· ≠ related.name)))
                clearRelations o t conditions unvisited (some read) rest) := by
            refine .bind (.does (Keeps.lift _)) fun owned => ?_
            cases owned with
            | none => exact ih (some read)
            | some owned => exact (hclear related hr hon owned).discard_bind (ih (some read))
          cases keys with
          | some read => exact cleared read
          | none => exact (endsAs_matchingKeys t conditions).bind cleared

/-- The depth that is left suffices if it exceeds the number of names that have not been visited: there are fewer of these at
each further table. -/
theorem endsAs_clearTable {way unvisited : List String} (h : Along ts way unvisited) {depth : Nat}
    (hdepth : unvisited.length < depth) (t : Table) (conditions : List Condition) :
    EndsAs ts (clearWithin o depth t conditions way) (clearTable o t conditions unvisited) := by
  induction depth generalizing way unvisited t conditions with
  | zero => exact absurd hdepth (Nat.not_lt_zero _)
  | succ depth ih =>
    rw [clearWithin, clearTable]
    refine .note_bind h.straight (.bind (.does (keeps_planFor t.name)) fun plan => ?_)
    refine .bind (endsAs_clearRelations h t conditions (fun related hr hon owned => ?_) plan.relations none) fun _ => endsAs_ask _
    have hunvisited : related.name ∈ unvisited := (h.rest related hr).mpr hon
    have hfewer : (unvisited.filter (· ≠ related.name)).length < unvisited.length :=
      List.length_filter_lt_length_iff_exists.mpr ⟨related.name, hunvisited, by simp⟩
    exact ih (h.next hr hon) (by omega) related owned

/-- A deletion on a walk that is allowed as deep as there are tables ends as the deletion does. -/
theorem endsAs_deleteRows (ht : t ∈ ts) {depth : Nat} (hdepth : ts.length ≤ depth) (filter : Value) :
    EndsAs ts (deleteWithin o depth t filter) (deleteRows o t filter) := by
  unfold deleteRows
  split
  · exact .throw _
  · case h_2 hnull =>
    unfold deleteWithin
    split
    · exact (hnull rfl).elim
    · dsimp only
      refine .ite (.throw _) (.bind (.does (keptByGate_tables o)) fun _ => .bind (.does (Keeps.lift _)) fun conditions => ?_)
      cases conditions with
      | none => exact .pure _
      | some conditions =>
        intro s ways hs
        have hends : EndsAs ts (clearWithin o depth t conditions [t.name]) _ :=
          endsAs_clearTable (.start ht) (Nat.lt_of_lt_of_le (Along.length_others_lt ht) hdepth) t conditions
        exact hs ▸ hends s ways hs

/-- Whatever the relations are, and whatever is answered: a deletion from a registered table comes to its end, at a depth of no
more tables than there are. If it may go as deep as this or deeper, it does not break off, and it is the deletion of the library.
On every way, from the table to those that are cleared one within the other, the tables are different. -/
theorem deletion_ends (o : Options) (s : Session) (ht : t ∈ s.registry.tables) (filter : Value) {depth : Nat}
    (hdepth : s.registry.tables.length ≤ depth) :
    ∃ ways,
      (deleteWithin o depth t filter).runFrom s [] =
        some (((deleteRows o t filter).runFrom s).1, ((deleteRows o t filter).runFrom s).2, ways) ∧
      ∀ way ∈ ways, way.Nodup ∧ way ⊆ s.registry.tables.map (·.name) ∧ way.length ≤ s.registry.tables.length := by
  obtain ⟨-, ways, hrun, hways⟩ := endsAs_deleteRows (o := o) ht hdepth filter s [] rfl
  exact ⟨ways, hrun, fun way hway => ⟨(hways way hway).nodup, (hways way hway).registered, (hways way hway).length_le⟩⟩

/-- Teams with teams below them and with projects. -/
def team : Table :=
  ⟨"Team", "teamId", [⟨"teamId", "int"⟩, ⟨"taskId", "int"⟩, ⟨"subteams", "Team[]"⟩, ⟨"projects", "Project[]"⟩], 0⟩

/-- Projects of teams, with tasks. -/
def project : Table := ⟨"Project", "projectId", [⟨"teamId", "int"⟩, ⟨"tasks", "Task[]"⟩], 1⟩

/-- Tasks of projects, with the teams that are made for them. -/
def task : Table := ⟨"Task", "taskId", [⟨"projectId", "int"⟩, ⟨"teams", "Team[]"⟩], 2⟩

def ring : List Table := [team, project, task]

/-- A client that has declared the ring; the database has no table yet. -/
def ringClient : Session :=
  let noColumns : Reply := { answer := .ok (.rows [] []) }
  ⟨{ Registry.empty with tables := ring }, ⟨⟨true, 0, ⟨[noColumns, noColumns, noColumns], [], none⟩, []⟩, none, 3⟩⟩

/-- The client after a validation. -/
def ringReady : Session := ((Setting.runValidation (validation blogOptions)).runFrom ringClient).2

/-- The client as it awaits a deletion: the keys of the teams and of their projects are told, once the teams below are gone. -/
def ringAwaiting : Session :=
  let keys (key : String) (keys : List Int) : Reply := { answer := .ok (.rows [key] (keys.map ([.int ·]))) }
  let replies := [{ answer := .ok (.count 2) }, keys "teamId" [1], keys "projectId" [5, 6]]
  { ringReady with rest := { ringReady.rest with connection := ringReady.rest.connection.withScript ⟨replies, [], none⟩ } }

/-- A filter for the first team. -/
def firstTeam : Value := .map [(.text "teamId", .int 1)]

/-- Teams relate to teams, and by way of projects and tasks to teams again. The validator has nothing against it, and a deletion
that goes all the way around ends. -/
theorem deletion_ends_ring :
    (Relates ring team team ∧ Relates ring team project ∧ Relates ring project task ∧ Relates ring task team) ∧
      (Setting.runValidation (validation blogOptions)).runFrom ringClient =
        (.ok ⟨[.missingTable "Team", .missingTable "Project", .missingTable "Task"], []⟩, ringReady) ∧
      team ∈ ringAwaiting.registry.tables ∧ ringAwaiting.registry.tables.length ≤ 3 ∧
      ∃ ways,
        (deleteWithin blogOptions 3 team firstTeam).runFrom ringAwaiting [] =
          some (((deleteRows blogOptions team firstTeam).runFrom ringAwaiting).1,
            ((deleteRows blogOptions team firstTeam).runFrom ringAwaiting).2, ways) ∧
        (∀ way ∈ ways, way.Nodup ∧ way ⊆ ["Team", "Project", "Task"] ∧ way.length ≤ 3) ∧
        ways = [["Team"], ["Project", "Team"], ["Task", "Project", "Team"]] := by
  have hteam : team ∈ ringAwaiting.registry.tables := List.mem_cons_self
  have hthree : ringAwaiting.registry.tables.length ≤ 3 := Nat.le_refl 3
  obtain ⟨ways, hrun, hways⟩ := deletion_ends blogOptions ringAwaiting hteam firstTeam hthree
  have hnoted : ((deleteWithin blogOptions 3 team firstTeam).runFrom ringAwaiting []).map (·.2.2) =
      some [["Team"], ["Project", "Team"], ["Task", "Project", "Team"]] := by decide +kernel
  rw [hrun] at hnoted
  refine ⟨?_, rfl, hteam, hthree, ways, hrun, hways, Option.some.inj hnoted⟩
  refine ⟨⟨⟨⟨"subteams", "Team[]"⟩, ?_, _, rfl, rfl, rfl⟩, ?_⟩, ⟨⟨⟨"projects", "Project[]"⟩, ?_, _, rfl, rfl, rfl⟩, ?_⟩,
    ⟨⟨⟨"tasks", "Task[]"⟩, ?_, _, rfl, rfl, rfl⟩, ?_⟩, ⟨⟨⟨"teams", "Team[]"⟩, ?_, _, rfl, rfl, rfl⟩, ?_⟩⟩
  all_goals decide

/-- It has to be as deep: two tables are too few. -/
example : ((deleteWithin blogOptions 2 team firstTeam).runFrom ringAwaiting []).map (·.2.2) = none := by decide +kernel

end RelationMapper.Client
