import Mathlib.Data.List.Basic

/-!
# Lists in groups

`groups` puts a list in groups of things that are the same: each group is led by the first thing that no group before it holds,
and all later things that are the same as it follow. What is the same is a matter of a test that need not hold of a thing and
itself.

Where the test is symmetric and transitive, this is a grouping in which each thing stands in one group, the things of a group are
the same, those of different groups are not, and both the groups and the things in a group keep the order of the list
(`grouped_groups`). A list that is read one by one is grouped as it is read: one more thing joins the first group whose leader is
the same as it, or else it leads a new group (`groups_concat`).
-/

namespace RelationMapper

/-- Things that are the same: the first of them, and those that follow. -/
structure Group (α : Type) where
  first : α
  others : List α

variable {α : Type}

namespace Group

/-- All things of a group. -/
def all (g : Group α) : List α := g.first :: g.others

theorem all_ne_nil (g : Group α) : g.all ≠ [] := List.cons_ne_nil _ _

/-- The last thing of a group. -/
def last (g : Group α) : α := g.all.getLast g.all_ne_nil

/-- A group with one more thing. -/
def add (g : Group α) (a : α) : Group α := ⟨g.first, g.others ++ [a]⟩

end Group

section

variable (same : α → α → Bool)

/-- The things that are not the same as a given one. -/
def unlike (a : α) (xs : List α) : List α := xs.filter fun b => !same a b

/-- A list in groups. -/
def groups : List α → List (Group α)
  | [] => []
  | a :: rest => ⟨a, rest.filter (same a)⟩ :: groups (unlike same a rest)
termination_by xs => xs.length
decreasing_by exact Nat.lt_succ_of_le (List.length_filter_le _ _)

/-- Groups with one more thing: it joins the first group whose leader is the same as it, or else leads a new one. -/
def place (a : α) : List (Group α) → List (Group α)
  | [] => [⟨a, []⟩]
  | g :: gs => if same g.first a then g.add a :: gs else g :: place a gs

/-- The things of the group that one more thing joins; none if it leads a new one. -/
def companions (a : α) (gs : List (Group α)) : List α := ((gs.find? fun g => same g.first a).map Group.all).getD []

/-- Groups that make up a list: nothing is lost, the order is kept, and things are in one group exactly if they are the same. -/
structure Grouped (xs : List α) (gs : List (Group α)) : Prop where
  complete : (gs.flatMap Group.all).Perm xs
  ordered : ∀ g ∈ gs, g.all.Sublist xs
  firsts : (gs.map Group.first).Sublist xs
  alike : ∀ g ∈ gs, g.all.Pairwise fun a b => same a b = true
  apart : gs.Pairwise fun g g' => ∀ a ∈ g.all, ∀ b ∈ g'.all, same a b = false

end

variable {same : α → α → Bool}

/-! ## One by one -/

theorem unlike_concat (a b : α) (xs : List α) :
    unlike same a (xs ++ [b]) = if same a b = true then unlike same a xs else unlike same a xs ++ [b] := by
  rw [unlike, List.filter_append]
  cases h : same a b <;> simp [unlike, h]

/-- A list with one more thing at its end is grouped as before, with this thing in addition. -/
theorem groups_concat (xs : List α) (a : α) : groups same (xs ++ [a]) = place same a (groups same xs) := by
  induction xs using groups.induct same with
  | case1 => simp [groups, place, unlike]
  | case2 b rest ih =>
    rw [List.cons_append, groups, groups, place, List.filter_append, unlike_concat]
    by_cases h : same b a = true
    · simp [h, Group.add]
    · simp [h, ih]

/-! ## What groups are like -/

/-- Groups leave nothing out and hold nothing twice. -/
theorem groups_complete (xs : List α) : ((groups same xs).flatMap Group.all).Perm xs := by
  induction xs using groups.induct same with
  | case1 => simp [groups]
  | case2 a rest ih =>
    rw [groups, List.flatMap_cons]
    exact ((ih.append_left _).trans (List.filter_append_perm (same a) rest)).cons a

theorem mem_of_groups {xs : List α} {g : Group α} (hg : g ∈ groups same xs) {a : α} (ha : a ∈ g.all) : a ∈ xs :=
  (groups_complete xs).mem_iff.mp (List.mem_flatMap.mpr ⟨g, hg, ha⟩)

/-- Within a group things stand in the order of the list. -/
theorem groups_ordered (xs : List α) : ∀ g ∈ groups same xs, g.all.Sublist xs := by
  induction xs using groups.induct same with
  | case1 => simp [groups]
  | case2 a rest ih =>
    rw [groups, List.forall_mem_cons]
    exact ⟨List.filter_sublist.cons_cons a, fun g hg => ((ih g hg).trans List.filter_sublist).cons a⟩

/-- Groups stand in the order in which they begin. -/
theorem groups_firsts (xs : List α) : ((groups same xs).map Group.first).Sublist xs := by
  induction xs using groups.induct same with
  | case1 => simp [groups]
  | case2 a rest ih =>
    rw [groups, List.map_cons]
    exact (ih.trans List.filter_sublist).cons_cons a

/-- Whatever follows the leader of a group is the same as it. -/
theorem same_of_mem_others (xs : List α) : ∀ g ∈ groups same xs, ∀ a ∈ g.others, same g.first a = true := by
  induction xs using groups.induct same with
  | case1 => simp [groups]
  | case2 a rest ih =>
    rw [groups, List.forall_mem_cons]
    exact ⟨fun b hb => (List.mem_filter.mp hb).2, ih⟩

/-- Nothing in a later group is the same as the leader of a group. -/
theorem groups_apart_firsts (xs : List α) :
    (groups same xs).Pairwise fun g g' => ∀ a ∈ g'.all, same g.first a = false := by
  induction xs using groups.induct same with
  | case1 => simp [groups]
  | case2 a rest ih =>
    rw [groups, List.pairwise_cons]
    refine ⟨fun g hg b hb => ?_, ih⟩
    have hmem := List.mem_filter.mp (mem_of_groups hg hb)
    simpa using hmem.2

/-- Where being the same is symmetric and transitive, a list in groups is grouped by it. -/
theorem grouped_groups (symm : ∀ a b, same a b = true → same b a = true)
    (trans : ∀ a b c, same a b = true → same b c = true → same a c = true) (xs : List α) :
    Grouped same xs (groups same xs) := by
  refine ⟨groups_complete xs, groups_ordered xs, groups_firsts xs, fun g hg => ?_, ?_⟩
  · have hfirst := same_of_mem_others xs g hg
    refine List.pairwise_cons.mpr ⟨hfirst, List.pairwise_of_forall_mem_list fun a ha b hb => ?_⟩
    exact trans _ _ _ (symm _ _ (hfirst _ ha)) (hfirst _ hb)
  · refine List.Pairwise.imp_of_mem (fun {g g'} hg hg' hapart a ha b hb => ?_) (groups_apart_firsts xs)
    rcases List.mem_cons.mp ha with rfl | ha
    · exact hapart b hb
    · -- if a follower were the same as a thing of a later group, so would be the leader
      refine Bool.eq_false_iff.mpr fun hsame => ?_
      have := trans _ _ _ (same_of_mem_others xs g hg a ha) hsame
      rw [hapart b hb] at this
      cases this

end RelationMapper
