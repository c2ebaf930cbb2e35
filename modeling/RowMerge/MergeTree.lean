import RowMerge.Merge
/-!
# Trees of merges

A merge is a cursor, so a merge can be a source of another one. A tree of depth `n` over leaves `σ`
is a leaf or a merge of trees of depth `n - 1`; the leaves may lie at any depth up to `n`.
-/
namespace RowMerge

/-- Merges of cursors `σ`, nested at most `depth` deep. -/
def MergeTree (σ : Type) : Nat → Type
  | 0 => σ
  | depth + 1 => σ ⊕ Merge (MergeTree σ depth)

namespace MergeTree

variable {σ : Type}

def leaf (source : σ) : (depth : Nat) → MergeTree σ depth
  | 0 => source
  | _ + 1 => .inl source

def ofMerge {depth : Nat} (merge : Merge (MergeTree σ depth)) : MergeTree σ (depth + 1) :=
  .inr merge

/-- The leaves from left to right. -/
def leaves : (depth : Nat) → MergeTree σ depth → List σ
  | 0, source => [source]
  | _ + 1, .inl source => [source]
  | depth + 1, .inr merge => merge.lanes.flatMap fun lane => leaves depth lane.source

/-- The lane of the root that the current row came from; a leaf has no lanes. -/
def currentLane : {depth : Nat} → MergeTree σ depth → Option Nat
  | 0, _ => none
  | _ + 1, .inl _ => none
  | _ + 1, .inr merge => merge.currentLane

/-- A tree is a cursor if its leaves are. -/
@[reducible] def cursor [Cursor σ] : (depth : Nat) → Cursor (MergeTree σ depth)
  | 0 => inferInstanceAs (Cursor σ)
  | depth + 1 =>
    letI : Cursor (MergeTree σ depth) := cursor depth
    inferInstanceAs (Cursor (σ ⊕ Merge (MergeTree σ depth)))

instance [Cursor σ] {depth : Nat} : Cursor (MergeTree σ depth) := cursor depth

@[simp] theorem leaves_leaf (source : σ) (depth : Nat) : leaves depth (leaf source depth) = [source] := by
  cases depth <;> rfl

@[simp] theorem leaves_ofMerge {depth : Nat} (merge : Merge (MergeTree σ depth)) :
    leaves (depth + 1) (ofMerge merge) =
      merge.lanes.flatMap fun lane => leaves depth lane.source := rfl

end MergeTree

end RowMerge
