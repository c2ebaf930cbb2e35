import RowMerge.Cursor.Remote
/-!
# Watched objects

A cursor, or a pager, that reports the calls that reach it before it passes them on. Looking at the
current row of a cursor, at its schema and at what it holds is not reported, nor is the row count
of a pager.
-/
namespace RowMerge

/-- An object under a name by which its calls are reported. -/
structure Watched (σ : Type) where
  name : String
  /-- A row count that is answered in place of the object's own. -/
  declared : Option (Option Nat)
  inner : σ

namespace Watched

variable {σ α : Type}

def pass (source : Watched σ) (call : Call) (run : σ → Outcome σ α) : Outcome (Watched σ) α :=
  ((run source.inner).mapState fun inner => { source with inner }).after (.call source.name call)

@[simp] theorem answer_pass (source : Watched σ) (call : Call) (run : σ → Outcome σ α) :
    (source.pass call run).answer = (run source.inner).answer := rfl

@[simp] theorem inner_pass (source : Watched σ) (call : Call) (run : σ → Outcome σ α) :
    (source.pass call run).state.inner = (run source.inner).state := rfl

@[simp] theorem name_pass (source : Watched σ) (call : Call) (run : σ → Outcome σ α) :
    (source.pass call run).state.name = source.name := rfl

@[simp] theorem events_pass (source : Watched σ) (call : Call) (run : σ → Outcome σ α) :
    (source.pass call run).events = .call source.name call :: (run source.inner).events := rfl

def rowCount [Cursor σ] (source : Watched σ) : Outcome (Watched σ) (Option Nat) :=
  source.pass .rowCount fun inner =>
    match source.declared with
    | some count => .silent count inner
    | none => Cursor.rowCount inner

instance [Cursor σ] : Cursor (Watched σ) where
  advance source := source.pass .advance Cursor.advance
  reset source := source.pass .reset Cursor.reset
  close source := source.pass .close Cursor.close
  rowCount := rowCount
  currentRow source := Cursor.currentRow source.inner
  needsClose source := Cursor.needsClose source.inner
  schema source := Cursor.schema source.inner

instance [Pager σ] : Pager (Watched σ) where
  fetch source offset limit :=
    source.pass (.fetch offset limit) fun inner => Pager.fetch inner offset limit
  rowCount source := source.declared.getD (Pager.rowCount source.inner)
  release source := source.pass .release Pager.release

end Watched

end RowMerge
