import RowMerge.Row
import RowMerge.Schema
import RowMerge.Outcome
/-!
# Cursors

A cursor yields rows one at a time. `advance` moves it to the next row and answers whether there is
one; the current row is absent before the first row and after the last. `reset` goes back to the
start, `close` gives up what the cursor holds. A merge is a cursor over cursors, so cursors nest:
what is a cursor is a matter of the operations alone, and any fault may come from any of them.
-/
namespace RowMerge

/-- A pull-based source of rows with states `σ`. -/
class Cursor (σ : Type) where
  /-- Moves to the next row; `false` when there is none. -/
  advance : σ → Outcome σ (Except Fault Bool)
  reset : σ → Outcome σ (Except Fault Unit)
  close : σ → Outcome σ (Except Fault Unit)
  /-- The number of rows from the start to the end, if it is known without reading them. -/
  rowCount : σ → Outcome σ (Option Nat)
  currentRow : σ → Option Row
  /-- Whether something is held that `close` would release. -/
  needsClose : σ → Bool
  schema : σ → Schema

instance {σ τ : Type} [Cursor σ] [Cursor τ] : Cursor (σ ⊕ τ) where
  advance
    | .inl s => (Cursor.advance s).mapState .inl
    | .inr t => (Cursor.advance t).mapState .inr
  reset
    | .inl s => (Cursor.reset s).mapState .inl
    | .inr t => (Cursor.reset t).mapState .inr
  close
    | .inl s => (Cursor.close s).mapState .inl
    | .inr t => (Cursor.close t).mapState .inr
  rowCount
    | .inl s => (Cursor.rowCount s).mapState .inl
    | .inr t => (Cursor.rowCount t).mapState .inr
  currentRow
    | .inl s => Cursor.currentRow s
    | .inr t => Cursor.currentRow t
  needsClose
    | .inl s => Cursor.needsClose s
    | .inr t => Cursor.needsClose t
  schema
    | .inl s => Cursor.schema s
    | .inr t => Cursor.schema t

end RowMerge
