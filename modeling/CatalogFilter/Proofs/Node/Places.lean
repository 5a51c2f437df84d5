import CatalogFilter.Proofs.Node.Each
import Mathlib

/-!
# Places in a tree

* `underIndices` — what stands at paths below each item of a list, with the item's index in front of the path.
* `Node.at?` — the node that a path of operand indices leads to.
* `Node.placedNodes` — the nodes of a tree with their paths, each before its operands.
* `Node.mem_placedNodes_iff`, `Node.pairwise_placedNodes` — these are all the places that paths lead to, and they ascend.
* `Node.map_snd_placedNodes` — without their paths they are the nodes of the tree in order.

Equal nodes may stand in several places of a tree. A path tells them apart, and the order of paths is the one in which a
node comes before its operands and each operand before the next one.
-/

namespace CatalogFilter

/-! ## Paths below the items of a list -/

section Indices

variable {α β : Type}

/-- What stands at paths below each item, with the index of the item in front of each path. -/
def underIndices (placed : α → List (List ℕ × β)) (xs : List α) : List (List ℕ × β) :=
  xs.zipIdx.flatMap fun (x, i) => (placed x).map fun p => (i :: p.1, p.2)

variable {placed : α → List (List ℕ × β)} {xs : List α}

/-- The items may come with a proof that they are among the items. -/
theorem underIndices_attach (placed : α → List (List ℕ × β)) (xs : List α) :
    underIndices (fun x : {x // x ∈ xs} => placed x.1) xs.attach = underIndices placed xs := by
  have indices : xs.zipIdx = xs.attach.zipIdx.map (Prod.map Subtype.val id) := by
    rw [← List.zipIdx_map, List.attach_map_subtype_val]
  rw [underIndices, underIndices, indices, List.flatMap_map]
  rfl

/-- Below an item stands what its index and a path below it lead to. -/
theorem mem_underIndices {i : ℕ} {path : List ℕ} {y : β} :
    (i :: path, y) ∈ underIndices placed xs ↔ ∃ x, xs[i]? = some x ∧ (path, y) ∈ placed x := by
  rw [underIndices, List.mem_flatMap]
  constructor
  · rintro ⟨⟨x, j⟩, item, member⟩
    obtain ⟨p, below, same⟩ := List.mem_map.1 member
    cases same
    exact ⟨x, List.mem_zipIdx_iff_getElem?.1 item, below⟩
  · rintro ⟨x, item, below⟩
    exact ⟨(x, i), List.mem_zipIdx_iff_getElem?.2 item, List.mem_map.2 ⟨(path, y), below, rfl⟩⟩

/-- Nothing stands at the items themselves. -/
theorem nil_notMem_underIndices (y : β) : ([], y) ∉ underIndices placed xs := by
  intro member
  obtain ⟨⟨x, i⟩, -, below⟩ := List.mem_flatMap.1 member
  obtain ⟨_, -, same⟩ := List.mem_map.1 below
  cases same

/-- The paths ascend if those below each item do. -/
theorem pairwise_underIndices (each : ∀ x ∈ xs, (placed x).Pairwise fun p q => p.1 < q.1) :
    (underIndices placed xs).Pairwise fun p q => p.1 < q.1 := by
  rw [underIndices, List.pairwise_flatMap]
  constructor
  · rintro ⟨x, i⟩ item
    rw [List.pairwise_map]
    have member : x ∈ xs := List.mem_of_getElem? (List.mem_zipIdx_iff_getElem?.1 item)
    exact (each x member).imp fun less => List.cons_lt_cons_iff.2 (.inr ⟨rfl, less⟩)
  · have indices : xs.zipIdx.Pairwise fun x y => x.2 < y.2 := by
      rw [← List.pairwise_map, List.zipIdx_map_snd]
      exact List.pairwise_lt_range' 1
    refine indices.imp fun less p first q second => ?_
    obtain ⟨_, -, rfl⟩ := List.mem_map.1 first
    obtain ⟨_, -, rfl⟩ := List.mem_map.1 second
    exact List.cons_lt_cons_iff.2 (.inl less)

/-- Without paths there is left what stands below one item after the other. -/
theorem map_snd_underIndices :
    (underIndices placed xs).map (·.2) = xs.flatMap fun x => (placed x).map (·.2) := by
  have below (x : α × ℕ) :
      ((placed x.1).map fun p => (x.2 :: p.1, p.2)).map (·.2) = (placed x.1).map (·.2) := by
    rw [List.map_map]
    rfl
  calc (underIndices placed xs).map (·.2)
      = xs.zipIdx.flatMap fun x => (placed x.1).map (·.2) := by
        rw [underIndices, List.map_flatMap]
        exact List.flatMap_congr fun x _ => below x
    _ = (xs.zipIdx.map Prod.fst).flatMap fun x => (placed x).map (·.2) := by rw [List.flatMap_map]
    _ = xs.flatMap fun x => (placed x).map (·.2) := by rw [List.zipIdx_map_fst]

end Indices

namespace Node

/-! ## Places -/

/-- The node that a path of operand indices leads to. -/
def at? (n : Node) : List ℕ → Option Node
  | [] => some n
  | i :: path => n.children[i]?.bind fun c => c.at? path

/-- The nodes of a tree with their paths, each before its operands. -/
def placedNodes (n : Node) : List (List ℕ × Node) :=
  ([], n) :: underIndices (fun c : {c // c ∈ n.children} => placedNodes c.1) n.children.attach
termination_by n.weight
decreasing_by exact weight_lt c.2

variable {n m : Node}

theorem placedNodes_eq (n : Node) : n.placedNodes = ([], n) :: underIndices placedNodes n.children := by
  rw [placedNodes, underIndices_attach placedNodes]

theorem at?_cons_eq_some_iff {i : ℕ} {path : List ℕ} :
    n.at? (i :: path) = some m ↔ ∃ c, n.children[i]? = some c ∧ c.at? path = some m :=
  Option.bind_eq_some_iff

/-- The places are all those that paths lead to, each with the node that is there. -/
theorem mem_placedNodes_iff {path : List ℕ} : (path, m) ∈ n.placedNodes ↔ n.at? path = some m := by
  induction n using byChildren generalizing path with
  | step n ih =>
    rw [placedNodes_eq, List.mem_cons]
    cases path with
    | nil =>
      have root : n.at? [] = some n := rfl
      rw [root, Option.some_inj, Prod.mk.injEq, or_iff_left (nil_notMem_underIndices m), and_iff_right rfl, eq_comm]
    | cons i path =>
      rw [at?_cons_eq_some_iff, mem_underIndices, or_iff_right nofun]
      refine exists_congr fun c => and_congr_right fun child => ?_
      exact ih c (List.mem_of_getElem? child)

/-- The paths ascend, so no place comes twice. -/
theorem pairwise_placedNodes (n : Node) : n.placedNodes.Pairwise fun x y => x.1 < y.1 := by
  induction n using byChildren with
  | step n ih =>
    rw [placedNodes_eq, List.pairwise_cons]
    refine ⟨?_, pairwise_underIndices ih⟩
    rintro ⟨path, m⟩ below
    cases path with
    | nil => exact absurd below (nil_notMem_underIndices m)
    | cons i path => exact List.nil_lt_cons i path

/-- Without their paths the places are the nodes of the tree, each before its operands. -/
theorem map_snd_placedNodes (n : Node) : n.placedNodes.map (·.2) = n.preorder := by
  induction n using byChildren with
  | step n ih => rw [placedNodes_eq, List.map_cons, map_snd_underIndices, preorder_eq n, List.flatMap_congr ih]

end Node

end CatalogFilter
