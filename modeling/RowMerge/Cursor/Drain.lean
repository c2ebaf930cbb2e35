import RowMerge.Cursor.Basic
/-!
# Draining a cursor

A drain yields the rows of a cursor one by one until the cursor is exhausted or fails; then it
stops for good. The cursor outlives it, so that another drain goes on where this one stopped.
-/
namespace RowMerge

structure Drain (σ : Type) where
  cursor : σ
  stopped : Bool

namespace Drain

variable {σ : Type}

def ofCursor (cursor : σ) : Drain σ := ⟨cursor, false⟩

variable [Cursor σ]

def next (drain : Drain σ) : Outcome (Drain σ) (Option (Except Fault Row)) :=
  if drain.stopped then .silent none drain
  else
    (Cursor.advance drain.cursor).bind fun answer cursor =>
      match answer with
      | .ok true => .silent ((Cursor.currentRow cursor).map .ok) { drain with cursor }
      | .ok false => .silent none ⟨cursor, true⟩
      | .error fault => .silent (some (.error fault)) ⟨cursor, true⟩

theorem next_of_stopped {drain : Drain σ} (stopped : drain.stopped = true) :
    drain.next = .silent none drain := by
  simp [next, stopped]

/-- Asks for a number of items, whether the drain stops among them or not. -/
def poll : Nat → Drain σ → Outcome (Drain σ) (List (Option (Except Fault Row)))
  | 0, drain => .silent [] drain
  | count + 1, drain => drain.next.bind fun item drain =>
    (poll count drain).map (item :: ·)

/-- The rows up to the first item that is none, or the first fault. No more than `limit` items are
asked for; without an end among them there is no answer. -/
def collect : Nat → Drain σ → Outcome (Drain σ) (Option (Except Fault (List Row)))
  | 0, drain => .silent none drain
  | limit + 1, drain => drain.next.bind fun item drain =>
    match item with
    | none => .silent (some (.ok [])) drain
    | some (.error fault) => .silent (some (.error fault)) drain
    | some (.ok row) => (collect limit drain).map fun rows? => rows?.map (·.map (row :: ·))

end Drain

namespace Cursor

variable {σ : Type} [Cursor σ]

/-- The rows that a cursor still has, by a drain of its own. -/
def collect (limit : Nat) (cursor : σ) : Outcome σ (Option (Except Fault (List Row))) :=
  ((Drain.ofCursor cursor).collect limit).mapState Drain.cursor

def poll (count : Nat) (cursor : σ) : Outcome σ (List (Option (Except Fault Row))) :=
  (Drain.poll count (Drain.ofCursor cursor)).mapState Drain.cursor

end Cursor

end RowMerge
