import RowMerge.Proofs.Selection
import RowMerge.Cursor.Remote
import RowMerge.Cursor.Request

/-!
# Views of cursors

A view is a function between the states of two cursors that every operation respects: whether the
operation comes before the view or after it, its outcome is the same. A view of sources is a view of
merges over them, so that what sources keep for themselves and never show, a merge over them does not show
either. In the same way a view of pagers is a view of remote scans.
-/
namespace RowMerge

variable {σ τ : Type}

/-- Every operation on what is seen of a cursor has the outcome that is seen of the operation. -/
structure Cursor.View [Cursor σ] [Cursor τ] (view : τ → σ) : Prop where
  advance : ∀ t, Cursor.advance (view t) = (Cursor.advance t).mapState view
  reset : ∀ t, Cursor.reset (view t) = (Cursor.reset t).mapState view
  close : ∀ t, Cursor.close (view t) = (Cursor.close t).mapState view
  rowCount : ∀ t, Cursor.rowCount (view t) = (Cursor.rowCount t).mapState view
  currentRow : ∀ t, Cursor.currentRow (view t) = Cursor.currentRow t
  needsClose : ∀ t, Cursor.needsClose (view t) = Cursor.needsClose t
  schema : ∀ t, Cursor.schema (view t) = Cursor.schema t

namespace Cursor.View

variable [Cursor σ] [Cursor τ] {view : τ → σ} (sees : View view)
include sees

theorem perform (t : τ) (request : Request) :
    Cursor.perform (view t) request = (Cursor.perform t request).mapState view := by
  cases request with
  | advance => simp only [Cursor.perform, sees.advance]; rfl
  | reset => simp only [Cursor.perform, sees.reset]; rfl
  | close => simp only [Cursor.perform, sees.close]; rfl
  | rowCount => simp only [Cursor.perform, sees.rowCount]; rfl
  | currentRow => simp only [Cursor.perform, sees.currentRow]; rfl
  | needsClose => simp only [Cursor.perform, sees.needsClose]; rfl
  | schema => simp only [Cursor.perform, sees.schema]; rfl

theorem run (t : τ) (requests : List Request) :
    Cursor.run (view t) requests = (Cursor.run t requests).mapState view := by
  induction requests generalizing t with
  | nil => rfl
  | cons request rest ih =>
    simp only [Cursor.run, sees.perform, Outcome.bind, Outcome.mapState, ih, Outcome.map]

end Cursor.View

/-! ## Remote scans -/

/-- Every call of what is seen of a pager has the outcome that is seen of the call. -/
structure Pager.View [Pager σ] [Pager τ] (view : τ → σ) : Prop where
  fetch : ∀ t offset limit,
    Pager.fetch (view t) offset limit = (Pager.fetch t offset limit).mapState view
  rowCount : ∀ t, Pager.rowCount (view t) = Pager.rowCount t
  release : ∀ t, Pager.release (view t) = (Pager.release t).mapState view

namespace Remote

def map (view : τ → σ) (scan : Remote τ) : Remote σ := { scan with pager := view scan.pager }

variable [Pager σ] [Pager τ] {view : τ → σ} (sees : Pager.View view)
include sees

theorem fetchPage_map (scan : Remote τ) :
    (scan.map view).fetchPage = scan.fetchPage.mapState (map view) := by
  simp only [fetchPage, map, sees.fetch, Outcome.bind, Outcome.mapState]
  cases (Pager.fetch scan.pager scan.received scan.pageSize).answer <;> rfl

/-- A scan is seen as the scan over what is seen of its pager. -/
theorem view_map : Cursor.View (map view) where
  advance scan := by
    change (scan.map view).advance = scan.advance.mapState (map view)
    have closed : (scan.map view).closed = scan.closed := rfl
    have needed : (scan.map view).needsPage = scan.needsPage := rfl
    simp only [advance, closed, needed, fetchPage_map sees]
    split
    · rfl
    · split
      · simp only [Outcome.bind, Outcome.mapState]
        cases scan.fetchPage.answer <;> rfl
      · rfl
  reset scan := by
    change (scan.map view).reset = scan.reset.mapState (map view)
    have closed : (scan.map view).closed = scan.closed := rfl
    simp only [reset, closed]
    split <;> rfl
  close scan := by
    change (scan.map view).close = scan.close.mapState (map view)
    have closed : (scan.map view).closed = scan.closed := rfl
    simp only [close, closed]
    split
    · rfl
    · simp only [map, sees.release, Outcome.bind, Outcome.mapState]
      cases (Pager.release scan.pager).answer <;> rfl
  rowCount scan := congrArg (Outcome.silent · (scan.map view)) (sees.rowCount scan.pager)
  currentRow _ := rfl
  needsClose _ := rfl
  schema _ := rfl

end Remote

/-! ## Lanes -/

/-- A walk over what is seen of the members is what is seen of the walk. -/
theorem Outcome.untilFault_map {step : τ → Outcome τ (Except Fault Unit)}
    {step' : σ → Outcome σ (Except Fault Unit)} {view : τ → σ}
    (sees : ∀ t, step' (view t) = (step t).mapState view) (members : List τ) :
    untilFault step' (members.map view) = (untilFault step members).mapState (List.map view) := by
  induction members with
  | nil => rfl
  | cons member rest ih =>
    simp only [List.map_cons, untilFault, sees, ih, bind, mapState]
    cases (step member).answer <;> rfl

namespace Lane

def map (view : τ → σ) (lane : Lane τ) : Lane σ := ⟨lane.index, view lane.source, lane.lookahead⟩

theorem sameFront_map (view : τ → σ) (lane : Lane τ) : Merge.SameFront lane (lane.map view) := ⟨rfl, rfl⟩

theorem release_map (view : τ → σ) (lane : Lane τ) : (lane.map view).release = lane.release.map view := by
  obtain ⟨index, source, lookahead⟩ := lane
  cases lookahead <;> rfl

variable [Cursor σ] [Cursor τ] {view : τ → σ} (sees : Cursor.View view) (lane : Lane τ)
include sees

theorem pull_map : (lane.map view).pull = lane.pull.mapState (map view) := by
  simp only [pull, map, sees.advance, Outcome.bind, Outcome.mapState]
  cases (Cursor.advance lane.source).answer with
  | error fault => rfl
  | ok more =>
    cases more with
    | false => rfl
    | true =>
      simp only [sees.currentRow]
      cases Cursor.currentRow (Cursor.advance lane.source).state <;> rfl

theorem pullPending_map :
    Merge.pullPending (lane.map view) = (Merge.pullPending lane).mapState (map view) := by
  have due : (lane.map view).isPending = lane.isPending := rfl
  simp only [Merge.pullPending, due, pull_map sees]
  split <;> rfl

theorem reset_map : (lane.map view).reset = lane.reset.mapState (map view) := by
  simp only [reset, map, sees.reset, Outcome.bind, Outcome.mapState]
  cases (Cursor.reset lane.source).answer <;> rfl

theorem close_map : (lane.map view).close = lane.close.mapState (map view) := by
  simp only [close, map, sees.close, Outcome.mapState]

theorem rowCount_map : (lane.map view).rowCount = lane.rowCount.mapState (map view) := by
  simp only [rowCount, map, sees.rowCount, Outcome.mapState]

end Lane

/-! ## Merges -/

namespace Merge

def map (view : τ → σ) (merge : Merge τ) : Merge σ :=
  { merge with lanes := merge.lanes.map (Lane.map view) }

theorem fresh_map (view : τ → σ) (order : Row → Row → Ordering) (sources : List τ) :
    (fresh order sources).map view = fresh order (sources.map view) := by
  have lanes : (lanesOf sources).map (Lane.map view) = lanesOf (sources.map view) := by
    apply List.ext_getElem <;> simp [lanesOf, Lane.ofSource, Lane.map]
  simp only [map, fresh, lanes]

theorem winner_map (view : τ → σ) (merge : Merge τ) : (merge.map view).winner = merge.winner := by
  -- a selection looks at nothing that a view could leave out
  refine winner_of_sameFront rfl ?_
  exact List.forall₂_map_right_iff.mpr (List.forall₂_same.mpr fun lane _ => lane.sameFront_map view)

theorem select_map (view : τ → σ) (merge : Merge τ) :
    (merge.map view).select = merge.select.mapState (map view) := by
  simp only [select, winner_map]
  cases merge.winner with
  | none =>
    have shown : (merge.map view).currentLane = merge.currentLane := rfl
    simp only [shown]
    split <;> rfl
  | some index =>
    have lanes : (merge.map view).lanes.modify index Lane.release =
        (merge.lanes.modify index Lane.release).map (Lane.map view) := by
      refine List.ext_getElem? fun place => ?_
      simp only [map, List.getElem?_map, List.getElem?_modify]
      split <;> simp [Function.comp_def, Lane.release_map]
    have row : (merge.map view).lanes[index]?.bind Lane.currentRow =
        merge.lanes[index]?.bind Lane.currentRow := by
      simp only [map, List.getElem?_map, Option.bind_map]
      rfl
    simp only [lanes, row]
    rfl

variable [Cursor σ] [Cursor τ] {view : τ → σ} (sees : Cursor.View view)
include sees

theorem advance_map (merge : Merge τ) :
    (merge.map view).advance = merge.advance.mapState (map view) := by
  have walk := Outcome.untilFault_map (Lane.pullPending_map sees) merge.lanes
  have selected := fun lanes => select_map view { merge with lanes }
  simp only [map] at selected
  simp only [advance, map, walk, Outcome.bind, Outcome.mapState, Outcome.map]
  cases (Outcome.untilFault pullPending merge.lanes).answer with
  | error fault => rfl
  | ok _ => simp only [selected]; rfl

theorem reset_map (merge : Merge τ) : (merge.map view).reset = merge.reset.mapState (map view) := by
  have walk := Outcome.untilFault_map (Lane.reset_map sees) merge.lanes
  simp only [reset, map, walk, laneCount, List.length_map, Outcome.bind, Outcome.mapState, Outcome.after]
  cases (Outcome.untilFault Lane.reset merge.lanes).answer <;> rfl

theorem closeAll_map (lanes : List (Lane τ)) :
    closeAll (lanes.map (Lane.map view)) = (closeAll lanes).mapState (List.map (Lane.map view)) := by
  induction lanes with
  | nil => rfl
  | cons lane rest ih =>
    simp only [List.map_cons, closeAll, Lane.close_map sees, ih, Outcome.bind, Outcome.mapState]
    cases lane.close.answer <;> rfl

theorem sumCounts_map (total : Nat) (lanes : List (Lane τ)) :
    sumCounts total (lanes.map (Lane.map view)) =
      (sumCounts total lanes).mapState (List.map (Lane.map view)) := by
  induction lanes generalizing total with
  | nil => rfl
  | cons lane rest ih =>
    simp only [List.map_cons, sumCounts, Lane.rowCount_map sees, ih, Outcome.bind, Outcome.mapState]
    cases addCount total lane.rowCount.answer <;> rfl

/-- A merge is seen as the merge over what is seen of its sources. -/
theorem view_map : Cursor.View (map view) where
  advance := advance_map sees
  reset := reset_map sees
  close merge := by
    change (merge.map view).close = merge.close.mapState (map view)
    simp only [close, map, closeAll_map sees, Outcome.mapState]
  rowCount merge := by
    change (merge.map view).rowCount = merge.rowCount.mapState (map view)
    cases memo : merge.count with
    | known count => simp [rowCount, map, memo, Outcome.silent, Outcome.mapState]
    | unknown => simp [rowCount, map, memo, Outcome.silent, Outcome.mapState]
    | uncomputed =>
      simp only [rowCount, map, memo, sumCounts_map sees, Outcome.bind, Outcome.mapState]
      rfl
  currentRow merge := rfl
  needsClose merge := by
    change (merge.map view).needsClose = merge.needsClose
    have lane : ∀ lane : Lane τ, (lane.map view).needsClose = lane.needsClose :=
      fun lane => sees.needsClose lane.source
    simp only [needsClose, map, List.all_map, Function.comp_def, lane]
  schema merge := by
    change (merge.map view).schema = merge.schema
    cases lanes : merge.lanes with
    | nil => simp [schema, map, lanes]
    | cons lane rest => simp [schema, map, lanes, Lane.schema, Lane.map, sees.schema]

end Merge

end RowMerge
