import RelationMapper.Proofs.Client.Children

/-!
# Two relations to one table

A table may have two relations to the same table, and an entry may be for both. An update then deletes the rows of an owner once
for each of them, and so the children that were inserted for the first are deleted with the second (`children_deleted_again`).
-/

namespace RelationMapper.Client

open Act Relation Number

variable {r : Registry JoinPlan} {t u : Table} {dialect : Dialect} {xs : List Exchange} {n : Int}

/-- Whoever inserts a child to the end has inserted its row. -/
theorem insertsUnder_of_insertions (hd : u.Distinct) {column : String} (hc : u.DeclaresInt column) {child : Value}
    (hk : child.KeysDiffer) {todo : List Pending}
    (h : Insertions dialect.quote r.tables true (⟨u, some (column, .int n), child⟩ :: todo) xs) :
    ∃ e ∈ xs, e.statement.InsertsUnder u.name column (intText n) := by
  cases h with
  | cut hw | asked _ hw => cases hw
  | @node _ _ fields _ _ _ _ row _ _ rendered =>
    have hrow : row = (row.map (·.1)).zip (row.map (·.2)) := List.zip_of_prod rfl rfl
    refine ⟨_, List.mem_cons_of_mem _ List.mem_cons_self, row, ?_, ?_⟩
    · simp [Statement.rowInto?, ← hrow]
    · have hchild : childRow dialect.quote r.tables u (column, .int n) (.map fields) = .ok row := rendered
      exact (mem_childRow hd hc hk hchild).mpr rfl

/-- Whoever deletes rows to the end has deleted the rows themselves. -/
theorem delete_of_clears {tables : List Table} {conditions : List Condition} {unvisited : List String}
    (h : Clears dialect tables true (.rows u conditions unvisited) xs) :
    ∃ e ∈ xs, e.statement = .delete u.name conditions := by
  cases h with
  | rows _ _ reply => exact ⟨_, List.mem_append_right _ List.mem_cons_self, rfl⟩

/-- A deletion by a literal does not spare the rows that hold it. -/
theorem not_spares_delete (table column literal : String) :
    ¬(Statement.delete table [.equals table column literal]).Spares table column literal := by
  rintro (h | ⟨other, hm, hne⟩)
  · exact h rfl
  · cases List.mem_singleton.mp hm
    exact hne rfl

/-- Two replacements for one owner in one table: what the first inserts is deleted by the second. -/
theorem deleted_again_of_replacements (hr : r.Validated) {child : Value} {items items' : List Value}
    {earlier between later : List Replacement} (hc : Replacement.Checked r t ⟨n, u, child :: items⟩)
    (h : Replacements dialect r.tables t true
      (earlier ++ ⟨n, u, child :: items⟩ :: (between ++ ⟨n, u, items'⟩ :: later)) xs) :
    ¬(xs.map (·.statement)).Pairwise fun statement later =>
      statement.InsertsUnder u.name t.key (intText n) → later.Spares u.name t.key (intText n) := by
  obtain ⟨hfalse, -⟩ | ⟨_, _, rfl, -, h⟩ := h.split
  · cases hfalse
  cases h with
  | @next _ _ _ _ ys zs _ inserted others =>
    obtain ⟨hfalse, -⟩ | ⟨_, _, rfl, -, h⟩ := others.split
    · cases hfalse
    cases h with
    | next cleared _ _ =>
      obtain ⟨e, he, hinserts⟩ := insertsUnder_of_insertions (hr.distinct u hc.mem) hc.above.1 hc.head.keysDiffer inserted
      obtain ⟨e', he', hdelete⟩ := delete_of_clears cleared
      intro hpairwise
      rw [List.pairwise_map] at hpairwise
      have hlater := (List.pairwise_append.mp (List.pairwise_append.mp (List.pairwise_append.mp hpairwise).2.1).2.1).2.2
      have hspares := hlater e he e' (List.mem_append_right _ (List.mem_append_left _ he')) hinserts
      rw [hdelete] at hspares
      exact not_spares_delete _ _ _ hspares

/-- Where two relations of an entry are to one table, an update that comes to its end deletes the rows of each owner again after it
has inserted the children of the first relation. -/
theorem children_deleted_again [MomentReader] {o o' : Options} {s₀ s₁ s s' : Session} {report : Report}
    (hv : (Setting.runValidation (validation o')).runFrom s₀ = (.ok report, s₁)) (hs : s.registry = s₁.registry)
    (hd : ∀ t ∈ s.registry.tables, t.Distinct) {t u : Table} (ht : t ∈ s.registry.tables) {filter : Value}
    (htruthy : filter.isTruthy = true) {conditions : List Condition}
    (hfilter : t.renderFilter o.dialect.quote filter = .ok (some conditions)) {fields : Keyed Value}
    (hc : Table.checkEntry s.registry.tables t none (.map fields) = .ok ()) (hk : (Value.map fields).KeysDiffer)
    {before between after : List (Table × Value)} {value value' : Value}
    (hrel : relationsOf s.registry.tables t fields = .ok (before ++ (u, value) :: (between ++ (u, value') :: after)))
    {child : Value} {children : List Value} (hi : value.items? = some (child :: children)) {owners : List Int} {owner : Int}
    (hkeys : (s.rest.connection.waiting (.selectKeys t.name t.key conditions)).result >>= Result.keys t.key =
      .ok (owners.map .int)) (ho : owner ∈ owners)
    (hrun : (updateRows o t filter (.map fields)).runFrom s = (.ok (), s'))
    (hadmissible : Admissible s.registry.tables (sentSince s s') s.rest.connection.script.replies) :
    ¬(sentSince s s').Pairwise fun statement later =>
      statement.InsertsUnder u.name t.key (intText owner) → later.Spares u.name t.key (intText owner) := by
  have hr : s.registry.Validated := hs ▸ validated_of_run (hs ▸ hd) hv
  obtain ⟨whole, hwhole, hupdates⟩ := updates_since hr ht htruthy hfilter hc hk hrel (by simp) rfl hrun hadmissible
  cases hwhole.mpr rfl
  have hown : Replacement.Checked s.registry t ⟨owner, u, child :: children⟩ := by
    have := (replaceable_of_mem (fun e he => fieldsChecked hr ht hc e he rfl) hk.2 hrel
      (List.mem_append_right _ List.mem_cons_self)).replacement owner
    rwa [hi] at this
  generalize hsent : exchanged (sentSince s s') s.rest.connection.script.replies = xs at hupdates
  rw [← map_statement_exchanged (sentSince s s') s.rest.connection.script.replies, hsent]
  cases hupdates with
  | cut hw | asked _ hw => cases hw
  | @replaced _ ns assigned xs told _ replaced =>
    have hsame : ns = owners := List.map_injective_iff.mpr (fun _ _ he => Value.int.inj he)
      (Except.ok.inj (told.symm.trans (first_exchanged hsent ▸ hkeys)))
    subst hsame
    obtain ⟨earlier, later, rfl⟩ := List.append_of_mem ho
    rw [Replacement.flatMap_ofRelations] at replaced
    simp only [hi, Option.getD_some, Replacement.ofRelations, List.map_append, List.map_cons, List.append_assoc,
      List.cons_append] at replaced
    rw [← List.append_assoc] at replaced
    intro hpairwise
    rw [List.map_cons, List.map_append, List.pairwise_cons, List.pairwise_append] at hpairwise
    exact deleted_again_of_replacements hr hown replaced hpairwise.2.2.1

/-! ## A client -/

/-- An entry with a post and a draft. -/
def withDraft : Keyed Value := [(.text "posts", .list [titled "First"]), (.text "drafts", .list [titled "Second"])]

theorem withDraft_keysDiffer : (Value.map withDraft).KeysDiffer :=
  ⟨List.pairwise_pair.mpr rfl, ⟨titled_keysDiffer _, trivial⟩, ⟨titled_keysDiffer _, trivial⟩, trivial⟩

/-- The client once both were replaced. -/
def draftReplaced : Session := ((replaceText "Second").runFrom postReplaced).2

theorem runFrom_updateDrafts :
    (updateRows blogOptions writers firstWriter (.map withDraft)).runFrom writersReady = (.ok (), draftReplaced) := by
  have hfound : (updateRows blogOptions writers firstWriter (.map withDraft)).runFrom writersReady =
      (replaceRelations blogOptions writers [(texts, .list [titled "First"]), (texts, .list [titled "Second"])] (.int 1) >>=
        fun _ => pure ()).runFrom writerFound := rfl
  have hpost : (replaceText "First").runFrom writerFound = (.ok (), postReplaced) := rfl
  have hlast : (replaceText "Second" >>= fun _ => replaceRelations blogOptions writers [] (.int 1)).runFrom postReplaced =
      (.ok (), draftReplaced) := rfl
  rw [hfound, bind_pure_unit, runFrom_replaceText (by decide) (by decide +kernel), runFrom_bind, hpost]
  dsimp only
  rw [runFrom_replaceText (by decide +kernel) (by decide +kernel), hlast]

theorem sentSince_updateDrafts :
    sentSince writersReady draftReplaced =
      [.selectKeys "User" "userId" [.equals "User" "userId" "1"], .delete "Post" [.equals "Post" "userId" "1"],
        .nextKey "Post" "postId", .insert "Post" ["postId", "title", "userId"] ["1", "'First'", "1"],
        .delete "Post" [.equals "Post" "userId" "1"],
        .nextKey "Post" "postId", .insert "Post" ["postId", "title", "userId"] ["1", "'Second'", "1"]] := by
  decide +kernel

/-- The post of the user is deleted again with the drafts. -/
theorem post_deleted_with_drafts :
    (updateRows blogOptions writers firstWriter (.map withDraft)).runFrom writersReady = (.ok (), draftReplaced) ∧
      ¬(sentSince writersReady draftReplaced).Pairwise fun statement later =>
        statement.InsertsUnder "Post" "userId" "1" → later.Spares "Post" "userId" "1" := by
  have hadmissible : Admissible writersReady.registry.tables (sentSince writersReady draftReplaced)
      writersReady.rest.connection.script.replies := sentSince_updateDrafts ▸ admissible_writers _ _
  exact ⟨runFrom_updateDrafts, @children_deleted_again _ blogOptions blogOptions _ _ writersReady _ _ runFrom_validationWriters
    rfl writers_distinct writers texts List.mem_cons_self firstWriter rfl [.equals "User" "userId" "1"] rfl withDraft rfl
    withDraft_keysDiffer [] [] [] _ _ rfl _ _ rfl [1] 1 rfl List.mem_cons_self runFrom_updateDrafts hadmissible⟩

end RelationMapper.Client
