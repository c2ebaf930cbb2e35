import RowMerge.Proofs.Flattening
import RowMerge.Proofs.Views
import RowMerge.MergeTree

/-!
# Trees of merges

What the sources of a tree stand for, by recursion on the depth of the tree: a leaf for itself, and a
merge for the groups of its lanes. A tree that has just been built stands for its leaves from left to
right.
-/
namespace RowMerge

open Merge (Grouping Joined)

variable {σ : Type} [Cursor σ] {order : Row → Row → Ordering}

/-- The merge as it was built over its sources, with any limits that let it be built. -/
def Merge.Built (order : Row → Row → Ordering) (sources : List σ) (merge : Merge σ) : Prop :=
  ∃ config built, Merge.build config order sources = .ok built ∧ merge = built.state

theorem Merge.Built.eq_fresh {sources : List σ} {merge : Merge σ}
    (built : Merge.Built order sources merge) : merge = Merge.fresh order sources ∧ sources ≠ [] := by
  obtain ⟨config, outcome, made, rfl⟩ := built
  exact Merge.state_of_build made

namespace MergeTree

/-- A tree of merges that have all been built by one order and not been advanced. -/
def Built (order : Row → Row → Ordering) : (depth : Nat) → MergeTree σ depth → Prop
  | 0, _ => True
  | _ + 1, .inl _ => True
  | depth + 1, .inr merge =>
    ∃ sources, (∀ source ∈ sources, Built order depth source) ∧ Merge.Built order sources merge

/-! ## What a tree stands for -/

def Spread (order : Row → Row → Ordering) :
    (depth : Nat) → MergeTree σ depth → Lookahead → List (Lane σ) → Prop
  | 0 => Grouping.Leaf (σ := σ)
  | depth + 1 => Sum.elim Grouping.Leaf (Joined order (Spread order depth))

theorem grouping [Std.TransCmp order] (depth : Nat) :
    Grouping order (Spread (σ := σ) order depth) := by
  induction depth with
  | zero => exact Grouping.leaf
  | succ depth ih => exact Grouping.leaf.sum ih.join

theorem spread_leaf {leaf : σ} (regular : Cursor.Regular leaf) {lanes : List (Lane σ)}
    (sources : lanes.map Lane.source = [leaf]) (due : ∀ lane ∈ lanes, lane.lookahead = .pending) :
    Grouping.Leaf leaf .pending lanes := by
  obtain ⟨lane, _, rfl, rfl, empty⟩ := List.map_eq_cons_iff.mp sources
  obtain rfl := List.map_eq_nil_iff.mp empty
  exact ⟨lane, rfl, due lane List.mem_cons_self, regular.twins⟩

/-- A tree that has just been built stands for its leaves, none of which has been pulled. -/
theorem spread_of_built (depth : Nat) {tree : MergeTree σ depth} (built : Built order depth tree)
    (regular : ∀ leaf ∈ leaves depth tree, Cursor.Regular leaf) {lanes : List (Lane σ)}
    (sources : lanes.map Lane.source = leaves depth tree)
    (due : ∀ lane ∈ lanes, lane.lookahead = .pending) : Spread order depth tree .pending lanes := by
  induction depth generalizing lanes with
  | zero => exact spread_leaf (regular tree List.mem_cons_self) sources due
  | succ depth ih =>
    rcases tree with leaf | merge
    · exact spread_leaf (regular leaf List.mem_cons_self) sources due
    · obtain ⟨trees, built, made⟩ := built
      obtain ⟨rfl, some_tree⟩ := made.eq_fresh
      -- the leaves of the lanes, one after the other, are those of the tree
      obtain ⟨groups, rfl, paired⟩ := exists_groups_of_map_eq sources
      have below : ∀ lane ∈ Merge.lanesOf trees, lane.source ∈ trees :=
        fun _ => Merge.source_mem_of_mem_lanesOf
      refine ⟨groups, ⟨rfl, Merge.indexed_lanesOf trees, ?_, ?_, .inl rfl⟩, .idle⟩
      · simpa [Merge.fresh, Merge.lanesOf] using some_tree
      · obtain ⟨length, related⟩ := List.forall₂_iff_zip.mp paired
        refine List.forall₂_iff_zip.mpr ⟨length, ?_⟩
        intro lane group member
        obtain ⟨lane_member, group_member⟩ := List.of_mem_zip member
        rw [Merge.Stands, Merge.pending_of_mem_lanesOf lane_member]
        refine ih (built lane.source (below lane lane_member)) ?_ (related member) ?_
        · intro leaf present
          exact regular leaf (List.mem_flatMap.mpr ⟨lane, lane_member, present⟩)
        · intro leaf present
          exact due leaf (List.mem_flatten.mpr ⟨group, group_member, present⟩)

/-- The root of a tree that has just been built, beside the flat merge that has been built over the leaves
of the tree. -/
theorem flattens_of_built {depth : Nat} {root : Merge (MergeTree σ depth)} {flat : Merge σ}
    (grown : Built order (depth + 1) (ofMerge root))
    (made : Merge.Built order (leaves (depth + 1) (ofMerge root)) flat)
    (regular : ∀ leaf ∈ leaves (depth + 1) (ofMerge root), Cursor.Regular leaf) :
    Merge.Flattens order (Spread order depth) root flat := by
  obtain ⟨rfl, -⟩ := made.eq_fresh
  have joined : Joined order (Spread order depth) root .pending
      (Merge.lanesOf (leaves (depth + 1) (ofMerge root))) :=
    spread_of_built (depth + 1) grown regular (Merge.map_source_lanesOf _)
      fun lane => Merge.pending_of_mem_lanesOf
  obtain ⟨trees, -, merged⟩ := grown
  obtain ⟨rfl, -⟩ := merged.eq_fresh
  exact ⟨joined, rfl, Merge.indexed_lanesOf _, rfl, rfl⟩

/-- A tree passes every request on to its root. -/
theorem view_ofMerge (depth : Nat) :
    Cursor.View (ofMerge : Merge (MergeTree σ depth) → MergeTree σ (depth + 1)) where
  advance _ := rfl
  reset _ := rfl
  close _ := rfl
  rowCount _ := rfl
  currentRow _ := rfl
  needsClose _ := rfl
  schema _ := rfl

end MergeTree

end RowMerge
