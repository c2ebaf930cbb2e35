import RowMerge.Lane
import RowMerge.Config
/-!
# Merges of sorted sources

A merge makes one sorted stream out of several sources that are sorted by the same order. Each lane
looks ahead by one row. An advance pulls every lane that has no row in its buffer, from the first
lane on; the least of the buffered rows becomes the current row, the lane of lowest index winning a
tie, and that lane is due for a pull at the next advance.

A pull that fails ends the advance; what was pulled before it stays in the buffers, so that a
later advance goes on from there. The row count is asked of the lanes once and remembered, for it
describes the sources and not how far they have been read.
-/
namespace RowMerge

/-- What is remembered of the row count. -/
inductive CountMemo where
  | uncomputed
  | known (count : Nat)
  | unknown
  deriving DecidableEq

namespace CountMemo

/-- The memo of a count that was asked for. -/
def ofCount : Option Nat → CountMemo
  | some count => known count
  | none => unknown

def text : CountMemo → String
  | uncomputed => "Uncomputed"
  | known count => s!"Known({count})"
  | unknown => "Unknown"

end CountMemo

/-- A merge of lanes by an order of rows. -/
structure Merge (σ : Type) where
  lanes : List (Lane σ)
  order : Row → Row → Ordering
  current : Option Row
  /-- The lane that the current row came from. -/
  currentLane : Option Nat
  count : CountMemo

namespace Merge

variable {σ : Type}

def laneCount (merge : Merge σ) : Nat := merge.lanes.length

/-! ## Construction -/

/-- The lanes of a list of sources, numbered from 0. -/
def lanesOf (sources : List σ) : List (Lane σ) :=
  sources.mapIdx fun index source => .ofSource index source

/-- A merge before its first row. -/
def fresh (order : Row → Row → Ordering) (sources : List σ) : Merge σ where
  lanes := lanesOf sources
  order
  current := none
  currentLane := none
  count := .uncomputed

/-- The first of the schemas from a lane on that differs from the expected one. -/
def mismatch? (expected : Schema) : Nat → List Schema → Option Fault
  | _, [] => none
  | lane, schema :: rest =>
    if schema = expected then mismatch? expected (lane + 1) rest
    else some (.schemaMismatch lane expected.display schema.display)

/-- Whether a merge over sources with these schemas can be made: the configuration is looked at
first, then the number of sources, then their schemas. -/
def accept (config : Config) (schemas : List Schema) : Except Fault Unit :=
  match config.defect?, schemas with
  | some defect, _ => .error (.configuration defect)
  | none, [] => .error .noSources
  | none, expected :: rest =>
    if config.maxLanes.toNat < schemas.length then
      .error (.tooManySources schemas.length config.maxLanes.toNat)
    else
      match if config.checkSchema then mismatch? expected 1 rest else none with
      | some fault => .error fault
      | none => .ok ()

/-- A merge over sources that are open; their order decides ties. Only their schemas are looked
at. -/
def build [Cursor σ] (config : Config) (order : Row → Row → Ordering) (sources : List σ) :
    Except Fault (Outcome (Merge σ) Unit) :=
  (accept config (sources.map Cursor.schema)).map fun _ =>
    (Outcome.silent () (fresh order sources)).after (.note (.created sources.length))

/-! ## Selection -/

/-- The better of the best row so far and the row of the next lane, which has to be strictly less
to win. -/
def challenge (order : Row → Row → Ordering) (best : Option (Nat × Row)) (lane : Lane σ) :
    Option (Nat × Row) :=
  match lane.currentRow with
  | none => best
  | some row =>
    match best with
    | none => some (lane.index, row)
    | some (_, least) => if order row least = .lt then some (lane.index, row) else best

/-- The lane whose row is left when the buffered rows have challenged each other, from the first lane
on. Under a total order it is the lowest of the lanes that hold a least row. -/
def winner (merge : Merge σ) : Option Nat :=
  (merge.lanes.foldl (challenge merge.order) none).map Prod.fst

/-- Makes the winner's row the current one; without a buffered row there is no current one. -/
def select (merge : Merge σ) : Outcome (Merge σ) Bool :=
  match merge.winner with
  | some index =>
    (Outcome.silent true
      { merge with
        lanes := merge.lanes.modify index Lane.release
        current := merge.lanes[index]?.bind Lane.currentRow
        currentLane := some index }).after (.note (.laneWins index))
  | none =>
    let drained := Outcome.silent false { merge with current := none, currentLane := none }
    if merge.currentLane.isSome then drained.after (.note .mergeExhausted) else drained

/-! ## Calls to the lanes -/

variable [Cursor σ]

/-- Pulls a lane that is pending and leaves any other alone. -/
def pullPending (lane : Lane σ) : Outcome (Lane σ) (Except Fault Unit) :=
  if lane.isPending then lane.pull.map (·.map fun _ => ()) else .silent (.ok ()) lane

/-- Counts are below `2 ^ 64`; a sum that is not counts as unknown. -/
def countLimit : Nat := UInt64.size

/-- A running total with one more count. -/
def addCount (total : Nat) (count? : Option Nat) : Option Nat :=
  count?.bind fun count => if total + count < countLimit then some (total + count) else none

/-- Adds the counts of lanes to a total, up to the first that makes it unknown. -/
def sumCounts (total : Nat) : List (Lane σ) → Outcome (List (Lane σ)) (Option Nat)
  | [] => .silent (some total) []
  | lane :: rest => lane.rowCount.bind fun count? lane =>
    match addCount total count? with
    | some sum => (sumCounts sum rest).mapState (lane :: ·)
    | none => .silent none (lane :: rest)

/-- Closes every lane, whatever fails, and answers the first fault. -/
def closeAll : List (Lane σ) → Outcome (List (Lane σ)) (Except Fault Unit)
  | [] => .silent (.ok ()) []
  | lane :: rest => lane.close.bind fun answer lane =>
    let later := (closeAll rest).mapState (lane :: ·)
    match answer with
    | .ok () => later
    | .error fault =>
      (later.map fun _ => .error fault).after (.note (.closeFailed lane.index fault))

/-! ## The operations of a merge -/

def advance (merge : Merge σ) : Outcome (Merge σ) (Except Fault Bool) :=
  (Outcome.untilFault pullPending merge.lanes).bind fun answer lanes =>
    match answer with
    | .error fault => .silent (.error fault) { merge with lanes }
    | .ok () => ({ merge with lanes }.select).map .ok

def rowCount (merge : Merge σ) : Outcome (Merge σ) (Option Nat) :=
  match merge.count with
  | .known count => .silent (some count) merge
  | .unknown => .silent none merge
  | .uncomputed => (sumCounts 0 merge.lanes).bind fun count? lanes =>
    .silent count? { merge with lanes, count := .ofCount count? }

/-- Resets the lanes up to the first that fails; the current row is dropped only if none does. -/
def reset (merge : Merge σ) : Outcome (Merge σ) (Except Fault Unit) :=
  ((Outcome.untilFault Lane.reset merge.lanes).bind fun answer lanes =>
    match answer with
    | .error fault => Outcome.silent (.error fault) { merge with lanes }
    | .ok () => .silent (.ok ()) { merge with lanes, current := none, currentLane := none }).after
      (.note (.resetting merge.laneCount))

/-- Closes every lane and drops the current row; the lanes keep their lookahead. -/
def close (merge : Merge σ) : Outcome (Merge σ) (Except Fault Unit) :=
  (closeAll merge.lanes).mapState fun lanes =>
    { merge with lanes, current := none, currentLane := none }

/-- A merge holds something as long as every lane does. -/
def needsClose (merge : Merge σ) : Bool := merge.lanes.all Lane.needsClose

def schema (merge : Merge σ) : Schema :=
  match merge.lanes with
  | lane :: _ => lane.schema
  | [] => .empty

instance : Cursor (Merge σ) where
  advance := advance
  reset := reset
  close := close
  rowCount := rowCount
  currentRow := current
  needsClose := needsClose
  schema := schema

/-- A merge in one line: the number of lanes, the current lane, and the memo of the row count. -/
def summary (merge : Merge σ) : String :=
  let currentLane := merge.currentLane.elim "None" fun lane => s!"Some({lane})"
  s!"SortedMerge \x7b lanes: {merge.laneCount}, current_lane: {currentLane}, " ++
    s!"row_count: {merge.count.text} \x7d"

end Merge

end RowMerge
