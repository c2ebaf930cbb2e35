import RowMerge.Cursor.Basic
/-!
# Lanes

A lane is one input of a merge: a source with at most one row of lookahead. It only pulls and
buffers; it never compares rows.
-/
namespace RowMerge

/-- What a lane knows of the next row of its source. -/
inductive Lookahead where
  /-- Nothing has been pulled since the last row was taken. -/
  | pending
  /-- A row has been pulled and waits to be taken. -/
  | buffered (row : Row)
  | exhausted

namespace Lookahead

def row? : Lookahead → Option Row
  | buffered row => some row
  | _ => none

end Lookahead

structure Lane (σ : Type) where
  index : Nat
  source : σ
  lookahead : Lookahead

namespace Lane

variable {σ : Type}

/-- A lane from which nothing has been pulled. -/
def ofSource (index : Nat) (source : σ) : Lane σ := ⟨index, source, .pending⟩

def isPending (lane : Lane σ) : Bool :=
  match lane.lookahead with
  | .pending => true
  | _ => false

def isExhausted (lane : Lane σ) : Bool :=
  match lane.lookahead with
  | .exhausted => true
  | _ => false

def currentRow (lane : Lane σ) : Option Row := lane.lookahead.row?

/-- The lane after its buffered row was handed out; without one nothing changes. -/
def release (lane : Lane σ) : Lane σ :=
  match lane.lookahead with
  | .buffered _ => { lane with lookahead := .pending }
  | _ => lane

@[simp] theorem index_release (lane : Lane σ) : lane.release.index = lane.index := by
  unfold release
  split <;> rfl

@[simp] theorem source_release (lane : Lane σ) : lane.release.source = lane.source := by
  unfold release
  split <;> rfl

def take (lane : Lane σ) : Outcome (Lane σ) (Option Row) := .silent lane.currentRow lane.release

variable [Cursor σ]

/-- Pulls a row into the buffer; `false` when the source has none. After a fault the lane is as it
was, and a source that moved without showing a row is a fault. -/
def pull (lane : Lane σ) : Outcome (Lane σ) (Except Fault Bool) :=
  (Cursor.advance lane.source).bind fun answer source =>
    match answer with
    | .error fault => .silent (.error fault) { lane with source }
    | .ok false =>
      (Outcome.silent (.ok false) { lane with source, lookahead := .exhausted }).after
        (.note (.laneExhausted lane.index))
    | .ok true =>
      match Cursor.currentRow source with
      | some row => .silent (.ok true) { lane with source, lookahead := .buffered row }
      | none => .silent (.error (.noCurrentRow lane.index)) { lane with source }

/-- Rewinds the source, and drops the lookahead if that succeeds. -/
def reset (lane : Lane σ) : Outcome (Lane σ) (Except Fault Unit) :=
  (Cursor.reset lane.source).bind fun answer source =>
    match answer with
    | .error fault => .silent (.error fault) { lane with source }
    | .ok () => .silent (.ok ()) { lane with source, lookahead := .pending }

/-- Closes the source; the lookahead stays. -/
def close (lane : Lane σ) : Outcome (Lane σ) (Except Fault Unit) :=
  (Cursor.close lane.source).mapState fun source => { lane with source }

def rowCount (lane : Lane σ) : Outcome (Lane σ) (Option Nat) :=
  (Cursor.rowCount lane.source).mapState fun source => { lane with source }

def needsClose (lane : Lane σ) : Bool := Cursor.needsClose lane.source

def schema (lane : Lane σ) : Schema := Cursor.schema lane.source

end Lane

end RowMerge
