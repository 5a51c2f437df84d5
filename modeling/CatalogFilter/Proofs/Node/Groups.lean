import CatalogFilter.Proofs.Node.Each
import Mathlib

/-!
# Grouping is a stable partition

* `Divides` — groups of values with their positions that divide a list by a key: each position stands in one group, in order,
  and the groups stand in the order of their first positions.
* `Divides.insertGroup`, `divides_groupBy` — putting in the next value keeps this, so that grouping a list divides it.
* `groupBy_append` — the groups of two lists one behind the other are the groups of both, put together key by key.
* `Node.groupBy_divides` — so it is where filters are grouped by the property that they test, and by their operator.

Equal values may stand in a list more than once. That is why the groups are followed with the positions of their values;
without them they are what grouping gives.
-/

namespace CatalogFilter

variable {κ α β : Type}

/-! ## One value -/

section Insertion

variable [BEq κ]

/-- What is done to every value may be done before or after it is put into its group. -/
theorem map_insertGroup (f : α → β) (key : κ) (x : α) (groups : List (κ × List α)) :
    (insertGroup key x groups).map (fun g => (g.1, g.2.map f)) =
      insertGroup key (f x) (groups.map fun g => (g.1, g.2.map f)) := by
  induction groups with
  | nil => rfl
  | cons g rest ih =>
    rw [insertGroup, List.map_cons, insertGroup]
    split
    · rw [List.map_cons, List.map_append, List.map_singleton]
    · rw [List.map_cons, ih]

/-- So it may before or after grouping. -/
theorem map_groupBy (f : α → β) (key : β → κ) (xs : List α) :
    (groupBy (fun x => key (f x)) xs).map (fun g => (g.1, g.2.map f)) = groupBy key (xs.map f) := by
  induction xs using List.reverseRecOn with
  | nil => rfl
  | append_singleton xs x ih =>
    rw [List.map_append, List.map_singleton, groupBy_concat, groupBy_concat, map_insertGroup, ih]

variable [LawfulBEq κ]

/-- A value is put behind those of its key, or into a new group at the end if its key is new. -/
theorem insertGroup_cases (key : κ) (x : α) (groups : List (κ × List α)) :
    (key ∉ groups.map Prod.fst ∧ insertGroup key x groups = groups ++ [(key, [x])]) ∨
      ∃ before xs after, groups = before ++ (key, xs) :: after ∧
        insertGroup key x groups = before ++ (key, xs ++ [x]) :: after := by
  induction groups with
  | nil => exact .inl ⟨List.not_mem_nil, rfl⟩
  | cons g rest ih =>
    obtain ⟨k, ys⟩ := g
    rw [insertGroup]
    by_cases same : k = key
    · subst same
      rw [if_pos BEq.rfl]
      exact .inr ⟨[], ys, rest, rfl, rfl⟩
    · rw [if_neg (by simpa using same)]
      rcases ih with ⟨new, inserted⟩ | ⟨before, xs, after, rfl, inserted⟩
      · refine .inl ⟨?_, by rw [inserted, List.cons_append]⟩
        rw [List.map_cons, List.mem_cons, not_or]
        exact ⟨Ne.symm same, new⟩
      · exact .inr ⟨(k, ys) :: before, xs, after, rfl, by rw [inserted, List.cons_append]⟩

end Insertion

/-! ## Stable partitions -/

/-- Whether groups of values with their positions divide a list by a key. -/
structure Divides (key : α → κ) (xs : List α) (groups : List (κ × List (α × ℕ))) : Prop where
  /-- No group is empty. -/
  nonempty : ∀ g ∈ groups, g.2 ≠ []
  /-- Each value has the key of its group. -/
  keyed : ∀ g ∈ groups, ∀ p ∈ g.2, key p.1 = g.1
  /-- The groups together hold every value at its position, once. -/
  complete : (groups.flatMap Prod.snd).Perm xs.zipIdx
  /-- In a group the positions ascend. -/
  ascending : ∀ g ∈ groups, g.2.Pairwise fun p q => p.2 < q.2
  /-- The groups stand in the order of their first positions. -/
  byFirst : groups.Pairwise fun g h => ∀ p ∈ g.2.head?, ∀ q ∈ h.2.head?, p.2 < q.2
  /-- No two groups have the same key. -/
  distinct : (groups.map Prod.fst).Nodup

/-- A value of a group stands before the end of the list. -/
theorem Divides.lt_length {key : α → κ} {xs : List α} {groups : List (κ × List (α × ℕ))} (h : Divides key xs groups)
    {g : κ × List (α × ℕ)} (among : g ∈ groups) {p : α × ℕ} (member : p ∈ g.2) : p.2 < xs.length :=
  List.snd_lt_of_mem_zipIdx (h.complete.subset (List.mem_flatMap.2 ⟨g, among, member⟩))

/-- The next value of a list has the next position. -/
theorem zipIdx_concat (xs : List α) (x : α) : (xs ++ [x]).zipIdx = xs.zipIdx ++ [(x, xs.length)] := by
  rw [List.zipIdx_append, Nat.zero_add, List.zipIdx_singleton]

section Grouping

variable [BEq κ] [LawfulBEq κ]

/-- The next value of the list, put into its group, leaves the list divided. -/
theorem Divides.insertGroup {key : α → κ} {xs : List α} {groups : List (κ × List (α × ℕ))} (h : Divides key xs groups)
    (x : α) : Divides key (xs ++ [x]) (insertGroup (key x) (x, xs.length) groups) := by
  have below {g : κ × List (α × ℕ)} (among : g ∈ groups) : ∀ p ∈ g.2, p.2 < xs.length := fun _ => h.lt_length among
  rcases insertGroup_cases (key x) (x, xs.length) groups with ⟨new, inserted⟩ | ⟨before, ps, after, rfl, inserted⟩
  · rw [inserted]
    exact {
      nonempty := List.forall_mem_append.2 ⟨h.nonempty, by simp⟩
      keyed := List.forall_mem_append.2 ⟨h.keyed, by simp⟩
      complete := by
        rw [zipIdx_concat, List.flatMap_append, List.flatMap_singleton]
        exact h.complete.append_right _
      ascending := List.forall_mem_append.2 ⟨h.ascending, by simp⟩
      byFirst := by
        refine List.pairwise_append.2 ⟨h.byFirst, List.pairwise_singleton _ _, fun g among k newest => ?_⟩
        rw [List.mem_singleton.1 newest]
        rintro p first _ ⟨⟩
        exact below among p (List.mem_of_mem_head? first)
      distinct := by
        rw [List.map_append, List.map_singleton]
        exact List.nodup_append.2 ⟨h.distinct, List.nodup_singleton _, by rintro k old _ newest rfl; simp_all⟩ }
  · -- The group is there: what is said of all groups is said of those before it, of it, and of those behind it.
    obtain ⟨nonempty, keyed, complete, ascending, byFirst, distinct⟩ := h
    rw [List.forall_mem_append, List.forall_mem_cons] at nonempty keyed ascending
    have head : (ps ++ [(x, xs.length)]).head? = ps.head? := List.head?_append_of_ne_nil _ nonempty.2.1
    rw [inserted]
    exact {
      nonempty := by
        rw [List.forall_mem_append, List.forall_mem_cons]
        exact ⟨nonempty.1, by simp, nonempty.2.2⟩
      keyed := by
        rw [List.forall_mem_append, List.forall_mem_cons, List.forall_mem_append]
        exact ⟨keyed.1, ⟨keyed.2.1, by simp⟩, keyed.2.2⟩
      complete := by
        have behind : ([(x, xs.length)] ++ after.flatMap Prod.snd).Perm (after.flatMap Prod.snd ++ [(x, xs.length)]) :=
          List.perm_append_comm
        rw [List.flatMap_append, List.flatMap_cons] at complete
        rw [zipIdx_concat, List.flatMap_append, List.flatMap_cons, List.append_assoc]
        refine ((behind.append_left ps).append_left (before.flatMap Prod.snd)).trans ?_
        rw [← List.append_assoc ps, ← List.append_assoc (before.flatMap Prod.snd)]
        exact complete.append_right _
      ascending := by
        rw [List.forall_mem_append, List.forall_mem_cons, List.pairwise_append]
        refine ⟨ascending.1, ⟨ascending.2.1, List.pairwise_singleton _ _, fun p member q newest => ?_⟩, ascending.2.2⟩
        rw [List.mem_singleton.1 newest]
        exact below (List.mem_append_right _ List.mem_cons_self) p member
      byFirst := by
        simp only [List.pairwise_append, List.pairwise_cons, List.forall_mem_cons, head] at byFirst ⊢
        exact byFirst
      distinct := by simpa using distinct }

/-- Grouping values with their positions divides the list. -/
theorem divides_groupBy (key : α → κ) (xs : List α) : Divides key xs (groupBy (fun p => key p.1) xs.zipIdx) := by
  induction xs using List.reverseRecOn with
  | nil => exact ⟨nofun, nofun, .nil, nofun, .nil, .nil⟩
  | append_singleton xs x ih =>
    rw [zipIdx_concat, groupBy_concat]
    exact ih.insertGroup x

/-- The groups of a list have different keys. -/
theorem nodup_groupBy (key : α → κ) (xs : List α) : ((groupBy key xs).map Prod.fst).Nodup := by
  have distinct := (divides_groupBy key xs).distinct
  rwa [← List.zipIdx_map_fst 0 xs, ← map_groupBy, List.map_map]

end Grouping

/-! ## Lists one behind the other -/

section Joined

variable [BEq κ]

/-- Groups, each with another list's group of its key behind it. -/
def extendGroups (gs hs : List (κ × List α)) : List (κ × List α) :=
  gs.map fun g => (g.1, g.2 ++ (hs.lookup g.1).getD [])

/-- Two lists of groups put together key by key: the groups of the first list, each with the second list's group of its key
behind it, and then the groups of the second list that have other keys. -/
def joinGroups (gs hs : List (κ × List α)) : List (κ × List α) :=
  extendGroups gs hs ++ hs.filter fun h => !(gs.map Prod.fst).contains h.1

theorem map_fst_extendGroups (gs hs : List (κ × List α)) : (extendGroups gs hs).map Prod.fst = gs.map Prod.fst := by
  rw [extendGroups, List.map_map]
  rfl

variable [LawfulBEq κ]

/-- Only the group of a value's own key changes when it is put in. -/
theorem lookup_insertGroup (key k : κ) (x : α) (groups : List (κ × List α)) :
    (insertGroup key x groups).lookup k =
      if k == key then some ((groups.lookup key).getD [] ++ [x]) else groups.lookup k := by
  induction groups with
  | nil => cases same : k == key <;> simp [insertGroup, List.lookup, same]
  | cons g rest ih =>
    obtain ⟨l, ys⟩ := g
    rw [insertGroup]
    by_cases here : l = key
    · subst here
      rw [if_pos BEq.rfl, List.lookup_cons, List.lookup_cons_self, List.lookup_cons]
      cases k == l <;> rfl
    · have other : (key == l) = false := beq_eq_false_iff_ne.2 (Ne.symm here)
      rw [if_neg (by simpa using here), List.lookup_cons, List.lookup_cons, List.lookup_cons, other, ih]
      by_cases same : k = l
      · subst same
        simp [here]
      · rw [beq_eq_false_iff_ne.2 same]

/-- A value is put among the groups that are picked by their keys, if its own is picked. -/
theorem filter_insertGroup (picks : κ → Bool) (key : κ) (x : α) (groups : List (κ × List α)) :
    (insertGroup key x groups).filter (fun g => picks g.1) =
      if picks key then insertGroup key x (groups.filter fun g => picks g.1) else groups.filter fun g => picks g.1 := by
  induction groups with
  | nil => cases picked : picks key <;> simp [insertGroup, picked]
  | cons g rest ih =>
    obtain ⟨k, ys⟩ := g
    by_cases same : k = key
    · subst same
      cases picked : picks k <;> simp [insertGroup, picked]
    · cases pick : picks k <;> cases picked : picks key <;> simp [insertGroup, pick, picked, same, ih]

/-- A value is put behind groups none of which has its key. -/
theorem insertGroup_append_of_new {key : κ} {gs : List (κ × List α)} (new : key ∉ gs.map Prod.fst) (x : α)
    (hs : List (κ × List α)) : insertGroup key x (gs ++ hs) = gs ++ insertGroup key x hs := by
  induction gs with
  | nil => rfl
  | cons g rest ih =>
    rw [List.map_cons, List.mem_cons, not_or] at new
    rw [List.cons_append, insertGroup, if_neg (by simpa using Ne.symm new.1), ih new.2, List.cons_append]

/-- A value is put among the first groups if one of them has its key. -/
theorem insertGroup_append_of_known {key : κ} {gs : List (κ × List α)} (known : key ∈ gs.map Prod.fst) (x : α)
    (hs : List (κ × List α)) : insertGroup key x (gs ++ hs) = insertGroup key x gs ++ hs := by
  induction gs with
  | nil => cases known
  | cons g rest ih =>
    obtain ⟨k, ys⟩ := g
    rw [List.cons_append, insertGroup, insertGroup]
    split
    · rfl
    · rename_i other
      have later : key ∈ rest.map Prod.fst :=
        (List.mem_cons.1 known).resolve_left fun same => other (by simpa using same.symm)
      rw [ih later, List.cons_append]

variable {gs : List (κ × List α)} {key : κ} (hs : List (κ × List α)) (x : α)

/-- A value that is put in behind the groups does not change them if its key is none of theirs. -/
theorem extendGroups_insertGroup_of_new (new : key ∉ gs.map Prod.fst) :
    extendGroups gs (insertGroup key x hs) = extendGroups gs hs := by
  refine List.map_congr_left fun g among => ?_
  have other : g.1 ≠ key := fun same => new (List.mem_map.2 ⟨g, among, same⟩)
  rw [lookup_insertGroup, if_neg (by simpa using other)]

/-- A value whose key is one of theirs stands at the end of its group. -/
theorem extendGroups_insertGroup_of_known (distinct : (gs.map Prod.fst).Nodup) (known : key ∈ gs.map Prod.fst) :
    extendGroups gs (insertGroup key x hs) = insertGroup key x (extendGroups gs hs) := by
  induction gs with
  | nil => cases known
  | cons g rest ih =>
    rw [List.map_cons, List.nodup_cons] at distinct
    rw [extendGroups, extendGroups, List.map_cons, List.map_cons, insertGroup, ← extendGroups, ← extendGroups, lookup_insertGroup]
    by_cases same : g.1 = key
    · subst same
      rw [if_pos BEq.rfl, if_pos BEq.rfl, extendGroups_insertGroup_of_new hs x distinct.1, Option.getD_some, List.append_assoc]
    · have later : key ∈ rest.map Prod.fst := (List.mem_cons.1 known).resolve_left (Ne.symm same)
      rw [if_neg (by simpa using same), if_neg (by simpa using same), ih distinct.2 later]

/-- A value put into the second of two lists of groups stands in its group when both are put together. -/
theorem joinGroups_insertGroup (distinct : (gs.map Prod.fst).Nodup) :
    joinGroups gs (insertGroup key x hs) = insertGroup key x (joinGroups gs hs) := by
  rw [joinGroups, joinGroups, filter_insertGroup fun k => !(gs.map Prod.fst).contains k]
  by_cases known : key ∈ gs.map Prod.fst
  · rw [if_neg (by simpa using known), extendGroups_insertGroup_of_known hs x distinct known,
      insertGroup_append_of_known (by rwa [map_fst_extendGroups])]
  · rw [if_pos (by simpa using known), extendGroups_insertGroup_of_new hs x known,
      insertGroup_append_of_new (by rwa [map_fst_extendGroups])]

/-- The groups of two lists one behind the other are the groups of both, put together key by key. -/
theorem groupBy_append (key : α → κ) (xs ys : List α) :
    groupBy key (xs ++ ys) = joinGroups (groupBy key xs) (groupBy key ys) := by
  induction ys using List.reverseRecOn with
  | nil => simp [joinGroups, extendGroups]
  | append_singleton ys y ih =>
    rw [← List.append_assoc, groupBy_concat, groupBy_concat, ih, joinGroups_insertGroup _ _ (nodup_groupBy key xs)]

end Joined

/-! ## Groups of filters -/

/-- Filters grouped by the first property in them, or by their operator, are a stable partition. Of any list the groups hold
each position once, in the group of its key, which is none where a filter has no property; no group is empty, in each group the
positions ascend, and the groups, of which no two have one key, stand in the order of their first positions. The groups of two
lists one behind the other are those of both lists put together key by key. -/
theorem Node.groupBy_divides (ns ms : List Node) :
    (∃ groups, Divides (fun n => (n.preorder.filterMap propertyName?).head?) ns groups ∧
        groupBy subjectProperty? ns = groups.map fun g => (g.1, g.2.map Prod.fst)) ∧
      (∃ groups, Divides operatorName ns groups ∧
        groupBy operatorName ns = groups.map fun g => (g.1, g.2.map Prod.fst)) ∧
      groupBy subjectProperty? (ns ++ ms) = joinGroups (groupBy subjectProperty? ns) (groupBy subjectProperty? ms) ∧
      groupBy operatorName (ns ++ ms) = joinGroups (groupBy operatorName ns) (groupBy operatorName ms) := by
  have divided {κ : Type} [BEq κ] [LawfulBEq κ] (key : Node → κ) :
      ∃ groups, Divides key ns groups ∧ groupBy key ns = groups.map fun g => (g.1, g.2.map Prod.fst) := by
    refine ⟨_, divides_groupBy key ns, ?_⟩
    rw [map_groupBy Prod.fst key, List.zipIdx_map_fst]
  have first : subjectProperty? = fun n => (n.preorder.filterMap propertyName?).head? := by
    funext n
    rw [subjectProperty?, propertyNames, walk, walkStack_eq_flatMap, List.flatMap_singleton]
  refine ⟨?_, divided operatorName, groupBy_append _ ns ms, groupBy_append _ ns ms⟩
  rw [← first]
  exact divided subjectProperty?

end CatalogFilter
