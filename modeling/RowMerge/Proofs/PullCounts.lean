import RowMerge.Cursor.Watched
import RowMerge.Proofs.Pulls
import RowMerge.Proofs.Rewinding
import RowMerge.Proofs.Views
import Mathlib.Algebra.GroupWithZero.Nat
import Mathlib.Data.List.TakeWhile

/-!
# Pulled and emitted rows

What has been pulled from a lane has been emitted, but for a row that waits in the buffer. The pulls are
counted where they arrive, by sources that keep a record of the calls that advance them; the emitted rows
are counted by the answers of the merge. Both counts start over when the lane is rewound, which may happen
in a reset that fails at a lane behind it.
-/
namespace RowMerge

variable {σ : Type}

/-! ## Sources with a record -/

/-- The answer of a source to an advance, and the row that it showed afterwards. -/
structure Response where
  answer : Except Fault Bool
  shown : Option Row

/-- The source moved to a row. -/
def Response.hasRow (response : Response) : Bool :=
  match response.answer with
  | .ok true => response.shown.isSome
  | _ => false

/-- A source with a record of its advances since it last went back to its start. -/
structure Recorded (σ : Type) where
  inner : σ
  record : List Response

namespace Recorded

def start (inner : σ) : Recorded σ := ⟨inner, []⟩

/-- The number of rows that have been pulled. -/
def pulledRows (source : Recorded σ) : Nat := source.record.countP Response.hasRow

variable [Cursor σ]

def advance (source : Recorded σ) : Outcome (Recorded σ) (Except Fault Bool) :=
  (Cursor.advance source.inner).bind fun answer inner =>
    .silent answer ⟨inner, source.record ++ [⟨answer, Cursor.currentRow inner⟩]⟩

def reset (source : Recorded σ) : Outcome (Recorded σ) (Except Fault Unit) :=
  (Cursor.reset source.inner).bind fun answer inner =>
    match answer with
    | .error fault => .silent (.error fault) ⟨inner, source.record⟩
    | .ok () => .silent (.ok ()) (start inner)

instance : Cursor (Recorded σ) where
  advance := advance
  reset := reset
  close source := (Cursor.close source.inner).mapState fun inner => { source with inner }
  rowCount source := (Cursor.rowCount source.inner).mapState fun inner => { source with inner }
  currentRow source := Cursor.currentRow source.inner
  needsClose source := Cursor.needsClose source.inner
  schema source := Cursor.schema source.inner

/-- The record does not show. -/
theorem view_inner : Cursor.View (Recorded.inner (σ := σ)) where
  advance source := by
    change Cursor.advance source.inner = (advance source).mapState inner
    simp [advance, Outcome.bind, Outcome.mapState, Outcome.silent]
  reset source := by
    change Cursor.reset source.inner = (reset source).mapState inner
    unfold reset
    obtain ⟨answer, next, events⟩ := Cursor.reset source.inner
    cases answer <;> simp [Outcome.bind, Outcome.mapState, Outcome.silent, start]
  close _ := rfl
  rowCount _ := rfl
  currentRow _ := rfl
  needsClose _ := rfl
  schema _ := rfl

theorem record_advance (source : Recorded σ) : (Cursor.advance source).state.record =
    source.record ++ [⟨(Cursor.advance source).answer, Cursor.currentRow (Cursor.advance source).state⟩] :=
  rfl

theorem record_reset (source : Recorded σ) : (Cursor.reset source).state.record =
    match (Cursor.reset source).answer with
    | .ok () => []
    | .error _ => source.record := by
  change (reset source).state.record = match (reset source).answer with | .ok () => [] | .error _ => _
  unfold reset
  cases answer : (Cursor.reset source.inner).answer <;> simp [answer, start]

end Recorded

/-! ## The account of a lane -/

namespace Lane

/-- The number of rows in the buffer. -/
def bufferedRows (lane : Lane σ) : Nat :=
  match lane.lookahead with
  | .buffered _ => 1
  | _ => 0

/-- The rows pulled from a lane are those that it has emitted and the one in its buffer, and it is exhausted
from the pull on that found no row. -/
structure Balanced (lane : Lane (Recorded σ)) (emitted : Nat) : Prop where
  rows : lane.source.pulledRows = emitted + lane.bufferedRows
  exhausted_iff : lane.lookahead = .exhausted ↔
    ∃ response ∈ lane.source.record, response.answer = .ok false
  last : ∀ before response after, lane.source.record = before ++ response :: after →
    response.answer = .ok false → after = []

theorem balanced_of_empty {lane : Lane (Recorded σ)} (pending : lane.lookahead = .pending)
    (empty : lane.source.record = []) : lane.Balanced 0 where
  rows := by simp [Recorded.pulledRows, empty, bufferedRows, pending]
  exhausted_iff := by simp [empty, pending]
  last := by simp [empty]

namespace Balanced

variable {lane next : Lane (Recorded σ)} {emitted : Nat} (balanced : Balanced lane emitted)
include balanced

theorem of_same (lookahead : next.lookahead = lane.lookahead)
    (record : next.source.record = lane.source.record) : Balanced next emitted where
  rows := by
    have rows := balanced.rows
    simpa only [Recorded.pulledRows, bufferedRows, lookahead, record] using rows
  exhausted_iff := by rw [lookahead, record]; exact balanced.exhausted_iff
  last := by rw [record]; exact balanced.last

theorem unended (more : lane.lookahead ≠ .exhausted) :
    ∀ response ∈ lane.source.record, response.answer ≠ .ok false :=
  fun response member ended => more (balanced.exhausted_iff.mpr ⟨response, member, ended⟩)

theorem pulled {response : Response} (pending : lane.lookahead = .pending)
    (record : next.source.record = lane.source.record ++ [response])
    (buffered : next.bufferedRows = if response.hasRow then 1 else 0)
    (exhausted : next.lookahead = .exhausted ↔ response.answer = .ok false) :
    Balanced next emitted := by
  have unended := balanced.unended (by simp [pending])
  constructor
  · have rows : lane.source.pulledRows = emitted := by
      simpa [bufferedRows, pending] using balanced.rows
    rw [buffered, Recorded.pulledRows, record, List.countP_append, ← rows, Recorded.pulledRows]
    simp [List.countP_cons]
  · rw [exhausted, record]
    simp only [List.mem_append, List.mem_singleton]
    constructor
    · exact fun ended => ⟨response, .inr rfl, ended⟩
    · rintro ⟨other, member | rfl, ended⟩
      · exact absurd ended (unended other member)
      · exact ended
  · -- a response that ended the lane can only be the new one
    intro before other after split ended
    rw [record] at split
    rcases List.eq_nil_or_concat after with rfl | ⟨behind, last, rfl⟩
    · rfl
    · have earlier : lane.source.record = before ++ other :: behind := by
        rw [List.concat_eq_append, ← List.cons_append, ← List.append_assoc] at split
        exact (List.append_inj' split rfl).1
      exact absurd ended (unended other (by simp [earlier]))

theorem release {row : Row} (held : lane.lookahead = .buffered row) :
    Balanced lane.release (emitted + 1) := by
  have unended := balanced.unended (by simp [held])
  rw [release_of_buffered held]
  constructor
  · simpa [bufferedRows, held] using balanced.rows
  · simpa using unended
  · exact balanced.last

variable [Cursor σ]

theorem refilled : Balanced (Merge.refilled lane) emitted := by
  by_cases pending : lane.lookahead = .pending
  · have pull := Merge.pull_of_pending pending
    generalize (Merge.pullPending lane).answer = answer, Merge.refilled lane = next at pull ⊢
    -- the record grows by the response to this pull
    have record := Recorded.record_advance lane.source
    cases pull with
    | failed answer =>
      exact balanced.pulled pending record
        (by simp [bufferedRows, pending, Response.hasRow, answer])
        (by simp [pending, answer])
    | rowless answer absent =>
      exact balanced.pulled pending record
        (by simp [bufferedRows, pending, Response.hasRow, answer, absent])
        (by simp [pending, answer])
    | ended answer =>
      exact balanced.pulled pending record
        (by simp [bufferedRows, Response.hasRow, answer])
        (by simp [answer])
    | row answer shown =>
      exact balanced.pulled pending record
        (by simp [bufferedRows, Response.hasRow, answer, shown])
        (by simp [answer])
  · rw [Merge.refilled_of_settled pending]
    exact balanced

end Balanced

theorem balanced_rewound [Cursor σ] {lane : Lane (Recorded σ)}
    (ok : (Cursor.reset lane.source).answer = .ok ()) : (Merge.rewound lane).Balanced 0 := by
  have empty := Recorded.record_reset lane.source
  rw [ok] at empty
  exact balanced_of_empty rfl empty

end Lane

/-! ## The accounts of a merge -/

theorem sum_modify_succ {counts : List Nat} {place : Nat} (within : place < counts.length) :
    (counts.modify place (· + 1)).sum = counts.sum + 1 := by
  induction counts generalizing place with
  | nil => cases within
  | cons count rest ih =>
    cases place with
    | zero => simp only [List.modify_zero_cons, List.sum_cons, Nat.add_right_comm]
    | succ place =>
      have later := ih (Nat.lt_of_succ_lt_succ within)
      simp only [List.modify_succ_cons, List.sum_cons, later, Nat.add_assoc]

def Answer.isEmission : Answer → Bool
  | .moved (.ok true) => true
  | _ => false

namespace Merge

open Lane (Balanced)

section Emitted

variable [Cursor σ] {merge : Merge σ} {counts : List Nat}

/-- The numbers of rows emitted from the lanes since each was last rewound, after one more request. -/
def emittedAfter (merge : Merge σ) (counts : List Nat) : Request → List Nat
  | .advance =>
    match merge.advance.answer, merge.advance.state.currentLane with
    | .ok true, some lane => counts.modify lane (· + 1)
    | _, _ => counts
  | .reset => merge.rewoundLanes.map (fun _ => 0) ++ counts.drop merge.rewoundLanes.length
  | _ => counts

/-- These numbers after a run of requests. -/
def emittedRows (merge : Merge σ) (counts : List Nat) : List Request → List Nat
  | [] => counts
  | request :: rest =>
    emittedRows (Cursor.perform merge request).state (merge.emittedAfter counts request) rest

theorem rewoundLanes_of_fault {before after : List (Lane σ)} {lane : Lane σ} {fault : Fault}
    (split : merge.lanes = before ++ lane :: after)
    (ok : ∀ l ∈ before, (Cursor.reset l.source).answer = .ok ())
    (failed : (Cursor.reset lane.source).answer = .error fault) : merge.rewoundLanes = before := by
  have passed : ∀ l ∈ before, (Cursor.reset l.source).answer.isOk = true := by
    intro l member
    rw [ok l member]
    rfl
  rw [rewoundLanes, split, List.takeWhile_append_of_pos passed,
    List.takeWhile_cons_of_neg (by simp [failed, Except.isOk, Except.toBool]), List.append_nil]

theorem rewoundLanes_of_ok (ok : ∀ l ∈ merge.lanes, (Cursor.reset l.source).answer = .ok ()) :
    merge.rewoundLanes = merge.lanes := by
  refine List.takeWhile_eq_self_iff.mpr fun l member => ?_
  rw [ok l member]
  rfl

/-- Without a reset every row that comes out of the merge is counted once. -/
theorem sum_emittedAfter (indexed : Indexed merge.lanes) (length : merge.lanes.length = counts.length)
    {request : Request} (forward : request ≠ .reset) :
    (merge.emittedAfter counts request).sum =
      counts.sum + if (Cursor.perform merge request).answer.isEmission then 1 else 0 := by
  cases request with
  | advance =>
    change _ = counts.sum + if (Answer.moved merge.advance.answer).isEmission then 1 else 0
    have step := advances indexed
    simp only [emittedAfter]
    generalize merge.advance.answer = answer, merge.advance.state = next at step ⊢
    cases step with
    | fails split pulled failed => rfl
    | ends pulled exhausted => rfl
    | @emits before after lane row split pulled held won =>
      -- the winner is one of the lanes, so it has a count
      refine sum_modify_succ ?_
      rw [← length, split]
      simp
  | reset => exact absurd rfl forward
  | currentRow | rowCount | close | needsClose | schema => rfl

/-- Rows are counted alike over sources that look the same. -/
theorem emittedRows_map {τ : Type} [Cursor τ] {view : σ → τ} (sees : Cursor.View view)
    (merge : Merge σ) (counts : List Nat) (requests : List Request) :
    (merge.map view).emittedRows counts requests = merge.emittedRows counts requests := by
  have one : ∀ (merge : Merge σ) (counts : List Nat) (request : Request),
      (merge.map view).emittedAfter counts request = merge.emittedAfter counts request := by
    intro merge counts request
    cases request with
    | advance =>
      simp only [emittedAfter, advance_map sees, Outcome.answer_mapState, Outcome.state_mapState]
      rfl
    | reset =>
      have lanes : (merge.map view).rewoundLanes = merge.rewoundLanes.map (Lane.map view) := by
        simp [rewoundLanes, map, List.takeWhile_map, Function.comp_def, Lane.map, sees.reset]
      simp [emittedAfter, lanes, Function.comp_def]
    | currentRow | rowCount | close | needsClose | schema => rfl
  induction requests generalizing merge counts with
  | nil => rfl
  | cons request rest ih =>
    rw [emittedRows, emittedRows, one, (view_map sees).perform]
    exact ih _ _

end Emitted

variable [Cursor σ] {merge : Merge (Recorded σ)} {counts : List Nat}

theorem balanced_advance (indexed : Indexed merge.lanes)
    (balanced : List.Forall₂ Balanced merge.lanes counts) :
    List.Forall₂ Balanced merge.advance.state.lanes (merge.emittedAfter counts .advance) := by
  have step := advances indexed
  simp only [emittedAfter]
  generalize merge.advance.answer = answer, merge.advance.state = next at step ⊢
  cases step with
  | @fails before after lane fault split pulled failed =>
    rw [split] at balanced
    obtain ⟨front, count, back, rfl, front_balanced, here, back_balanced⟩ :=
      forall₂_append_cons balanced
    exact List.rel_append
      (List.forall₂_map_left_iff.mpr (front_balanced.imp fun _ _ balanced => balanced.refilled))
      (.cons here.refilled back_balanced)
  | ends pulled exhausted =>
    exact List.forall₂_map_left_iff.mpr (balanced.imp fun _ _ balanced => balanced.refilled)
  | @emits before after lane row split pulled held won =>
    rw [split] at balanced
    obtain ⟨front, count, back, rfl, front_balanced, here, back_balanced⟩ :=
      forall₂_append_cons balanced
    -- a row goes from the buffer of the winner to the count of its lane
    have added : (front ++ count :: back).modify before.length (· + 1) =
        front ++ (count + 1) :: back := by
      rw [front_balanced.length_eq]
      simp [List.modify_eq_take_cons_drop]
    simp only [added]
    exact List.rel_append
      (List.forall₂_map_left_iff.mpr (front_balanced.imp fun _ _ balanced => balanced.refilled))
      (.cons (here.refilled.release held)
        (List.forall₂_map_left_iff.mpr (back_balanced.imp fun _ _ balanced => balanced.refilled)))

theorem balanced_rewound {lanes : List (Lane (Recorded σ))}
    (ok : ∀ l ∈ lanes, (Cursor.reset l.source).answer = .ok ()) :
    List.Forall₂ Balanced (lanes.map rewound) (lanes.map fun _ => 0) := by
  refine List.forall₂_map_left_iff.mpr (List.forall₂_map_right_iff.mpr ?_)
  exact List.forall₂_same.mpr fun l member => Lane.balanced_rewound (ok l member)

theorem balanced_reset (balanced : List.Forall₂ Balanced merge.lanes counts) :
    List.Forall₂ Balanced merge.reset.state.lanes (merge.emittedAfter counts .reset) := by
  have step := resets merge
  simp only [emittedAfter]
  generalize merge.reset.answer = answer, merge.reset.state = next at step ⊢
  cases step with
  | @fails before after lane fault split ok failed =>
    rw [rewoundLanes_of_fault split ok failed]
    rw [split] at balanced
    obtain ⟨front, count, back, rfl, front_balanced, here, back_balanced⟩ :=
      forall₂_append_cons balanced
    -- the lanes before the one that failed start over, and its own account stands
    have kept := Recorded.record_reset lane.source
    rw [failed] at kept
    rw [front_balanced.length_eq, List.drop_left]
    exact List.rel_append (balanced_rewound ok) (.cons (here.of_same rfl kept) back_balanced)
  | rewinds ok =>
    rw [rewoundLanes_of_ok ok, balanced.length_eq, List.drop_length, List.append_nil]
    exact balanced_rewound ok

theorem balanced_perform (indexed : Indexed merge.lanes)
    (balanced : List.Forall₂ Balanced merge.lanes counts) (request : Request) :
    List.Forall₂ Balanced (Cursor.perform merge request).state.lanes
      (merge.emittedAfter counts request) := by
  cases request with
  | advance => exact balanced_advance indexed balanced
  | reset => exact balanced_reset balanced
  | close =>
    change List.Forall₂ Balanced merge.close.state.lanes counts
    rw [state_close]
    exact List.forall₂_map_left_iff.mpr (balanced.imp fun _ _ balanced => balanced.of_same rfl rfl)
  | rowCount =>
    obtain ⟨front, back, split, state⟩ := state_rowCount merge
    change List.Forall₂ Balanced merge.rowCount.state.lanes counts
    rw [split] at balanced
    obtain ⟨front', back', rfl, front_balanced, back_balanced⟩ := forall₂_append balanced
    rw [state]
    exact List.rel_append
      (List.forall₂_map_left_iff.mpr (front_balanced.imp fun _ _ balanced => balanced.of_same rfl rfl))
      back_balanced
  | currentRow | needsClose | schema => exact balanced

theorem balanced_run (consistent : Consistent merge)
    (balanced : List.Forall₂ Balanced merge.lanes counts) (requests : List Request) :
    List.Forall₂ Balanced (Cursor.run merge requests).state.lanes
      (merge.emittedRows counts requests) := by
  induction requests generalizing merge counts with
  | nil => exact balanced
  | cons request rest ih =>
    exact ih (consistent.perform request) (balanced_perform consistent.indexed balanced request)

theorem sum_emittedRows (consistent : Consistent merge)
    (balanced : List.Forall₂ Balanced merge.lanes counts) {requests : List Request}
    (forward : .reset ∉ requests) : (merge.emittedRows counts requests).sum =
      counts.sum + (Cursor.run merge requests).answer.countP Answer.isEmission := by
  induction requests generalizing merge counts with
  | nil => rfl
  | cons request rest ih =>
    have other : request ≠ .reset := fun same => forward (by simp [same])
    have later : .reset ∉ rest := fun member => forward (List.mem_cons_of_mem _ member)
    have first := sum_emittedAfter consistent.indexed balanced.length_eq other
    have rows := ih (consistent.perform request) (balanced_perform consistent.indexed balanced request) later
    change _ = counts.sum + List.countP Answer.isEmission (_ :: _)
    rw [emittedRows, rows, first, List.countP_cons]
    omega

/-! ## Reading ahead -/

omit [Cursor σ] in
theorem sum_pulledRows {lanes : List (Lane (Recorded σ))} (balanced : List.Forall₂ Balanced lanes counts) :
    (lanes.map fun lane => lane.source.pulledRows).sum =
      counts.sum + (lanes.map Lane.bufferedRows).sum := by
  induction balanced with
  | nil => rfl
  | cons here _ ih =>
    simp only [List.map_cons, List.sum_cons, here.rows, ih]
    omega

omit [Cursor σ] in
theorem sum_bufferedRows_le (lanes : List (Lane σ)) :
    (lanes.map Lane.bufferedRows).sum ≤ lanes.length := by
  induction lanes with
  | nil => simp
  | cons lane rest ih =>
    have one : lane.bufferedRows ≤ 1 := by
      unfold Lane.bufferedRows
      split <;> simp
    simp only [List.map_cons, List.sum_cons, List.length_cons]
    omega

omit [Cursor σ] in
/-- A lane that is due has no row in its buffer. -/
theorem sum_bufferedRows_lt {lanes : List (Lane σ)} {lane : Lane σ} (member : lane ∈ lanes)
    (due : lane.lookahead = .pending) : (lanes.map Lane.bufferedRows).sum < lanes.length := by
  obtain ⟨before, after, rfl⟩ := List.append_of_mem member
  have front := sum_bufferedRows_le before
  have back := sum_bufferedRows_le after
  have none : lane.bufferedRows = 0 := by
    simp [Lane.bufferedRows, due]
  simp only [List.map_append, List.map_cons, List.sum_append, List.sum_cons, List.length_append,
    List.length_cons, none]
  omega

/-- When a row is emitted, every other lane may have a row in its buffer. -/
theorem sum_pulledRows_le (indexed : Indexed merge.lanes)
    (balanced : List.Forall₂ Balanced merge.lanes counts) (answer : merge.advance.answer = .ok true) :
    (merge.advance.state.lanes.map fun lane => lane.source.pulledRows).sum + 1 ≤
      counts.sum + 1 + merge.lanes.length := by
  have emitted : (merge.emittedAfter counts .advance).sum = counts.sum + 1 := by
    have added := sum_emittedAfter indexed balanced.length_eq (nofun : Request.advance ≠ .reset)
    have one : (Cursor.perform merge .advance).answer = .moved (.ok true) := congrArg Answer.moved answer
    rw [added, one]
    rfl
  obtain ⟨number, lane, row, -, -, -, -, found, -⟩ := takenFrom_of_advance indexed answer
  have buffered := sum_bufferedRows_lt (List.mem_of_getElem? found) rfl
  have length : merge.advance.state.lanes.length = merge.lanes.length := by
    simpa using congrArg List.length (advance_keeps indexed).1
  rw [sum_pulledRows (balanced_advance indexed balanced), emitted]
  omega

/-- A merge before its first row, over sources with empty records. -/
def recorded (order : Row → Row → Ordering) (sources : List σ) : Merge (Recorded σ) :=
  fresh order (sources.map Recorded.start)

omit [Cursor σ] in
theorem map_recorded (order : Row → Row → Ordering) (sources : List σ) :
    (recorded order sources).map Recorded.inner = fresh order sources := by
  rw [recorded, fresh_map, List.map_map]
  exact congrArg (fresh order) (List.map_id sources)

omit [Cursor σ] in
theorem balanced_recorded (order : Row → Row → Ordering) (sources : List σ) :
    List.Forall₂ Balanced (recorded order sources).lanes (sources.map fun _ => 0) := by
  refine forall₂_mapIdx_left (R := fun source count => source.record = [] ∧ count = 0) ?_ ?_
  · refine List.forall₂_map_left_iff.mpr (List.forall₂_map_right_iff.mpr ?_)
    exact List.forall₂_same.mpr fun source _ => ⟨rfl, rfl⟩
  · rintro place source count ⟨empty, rfl⟩
    exact Lane.balanced_of_empty rfl empty

/-- A merge by any order over any sources, after any requests. An advance pulls lanes that are due, each
once and from the first one on. Where the sources keep records, which do not show, the rows pulled from each
lane since it was last rewound are those emitted from it and one in the buffer if there is one, and the lane
is exhausted from the pull on that found no row. After an advance that emits a row the next one pulls the
lane that the row came from and no other; and if no reset came before, no more rows have been pulled than
emitted but one for every other lane. -/
theorem pulled_rows_balanced {config : Config} {order : Row → Row → Ordering} {sources : List σ}
    {built : Outcome (Merge σ) Unit} (made : build config order sources = .ok built)
    (requests : List Request) :
    let merge := (Cursor.run built.state requests).state
    let counted := (Cursor.run (recorded order sources) requests).state
    (∃ pulled, Pulls merge pulled) ∧
    Cursor.run built.state requests =
      (Cursor.run (recorded order sources) requests).mapState (map Recorded.inner) ∧
    List.Forall₂ Balanced counted.lanes
      (built.state.emittedRows (sources.map fun _ => 0) requests) ∧
    (merge.advance.answer = .ok true →
      (∃ number lane, merge.advance.state.currentLane = some number ∧
        merge.advance.state.lanes[number]? = some lane ∧ Pulls merge.advance.state [lane]) ∧
      (.reset ∉ requests →
        let emitted := (Cursor.run built.state requests).answer.countP Answer.isEmission + 1
        (counted.advance.state.lanes.map fun lane => lane.source.pulledRows).sum ≤
          emitted + sources.length - 1)) := by
  intro merge counted
  have fresh_built : built.state = (recorded order sources).map Recorded.inner :=
    (state_of_build made).1.trans (map_recorded order sources).symm
  have same : Cursor.run built.state requests =
      (Cursor.run (recorded order sources) requests).mapState (map Recorded.inner) :=
    fresh_built ▸ (view_map Recorded.view_inner).run _ requests
  have indexed : Indexed merge.lanes :=
    Reachable.consistent ⟨config, order, sources, built, requests, made, rfl⟩ |>.indexed
  have consistent : Consistent (recorded order sources) :=
    consistent_fresh order (by simpa using (state_of_build made).2)
  have start := balanced_recorded order sources
  have rows : built.state.emittedRows (sources.map fun _ => 0) requests =
      (recorded order sources).emittedRows (sources.map fun _ => 0) requests := by
    rw [fresh_built, emittedRows_map Recorded.view_inner]
  have balanced := balanced_run consistent start requests
  refine ⟨exists_pulls indexed, same, rows ▸ balanced, fun answer => ?_⟩
  refine ⟨pulls_of_emitted indexed answer, ?_⟩
  intro forward emitted
  -- the count goes by the merge over the sources with records, which answers as the other one does
  have moved : counted.advance.answer = .ok true := by
    have image : merge = counted.map Recorded.inner := congrArg Outcome.state same
    rw [← answer, image, advance_map Recorded.view_inner]
    rfl
  have reached : Consistent counted := consistent.run requests
  have bound := sum_pulledRows_le reached.indexed balanced moved
  have total := sum_emittedRows consistent start forward
  have nothing : (sources.map fun _ => 0).sum = 0 := by simp
  have length : counted.lanes.length = sources.length := by
    rw [length_lanes_run]
    simp [recorded, fresh, lanesOf]
  have answers : (Cursor.run built.state requests).answer =
      (Cursor.run (recorded order sources) requests).answer := congrArg Outcome.answer same
  simp only [emitted, answers]
  omega

/-- Three scans under watch after their first row. The next advance emits the row of the second scan, with
one row read ahead from each of the others, and the advance after it pulls the second scan alone. -/
theorem pulled_rows_balanced_of_watched_scans :
    let row (arity : Nat) : Row := ⟨List.replicate arity .null⟩
    let scan (name : String) (rows : List Row) : Watched Scan := ⟨name, none, .ofRows .empty rows⟩
    let sources := [scan "a" [row 1, row 4], scan "b" [row 2], scan "c" [row 3]]
    let order := compareOn Row.arity
    let merge := (Cursor.run (fresh order sources) [.rowCount, .advance]).state
    let counted := (Cursor.run (recorded order sources) [.rowCount, .advance]).state
    List.Forall₂ Balanced counted.lanes [1, 0, 0] ∧
      merge.advance.answer = .ok true ∧ merge.advance.state.currentLane = some 1 ∧
      (∃ number lane, merge.advance.state.currentLane = some number ∧
        merge.advance.state.lanes[number]? = some lane ∧ Pulls merge.advance.state [lane]) ∧
      Event.advanced merge.advance.state.advance.events = ["b"] ∧
      (counted.advance.state.lanes.map fun lane => lane.source.pulledRows) = [2, 1, 1] ∧
      (counted.advance.state.lanes.map fun lane => lane.source.pulledRows).sum ≤
        2 + sources.length - 1 := by
  intro row scan sources order
  dsimp only
  have made : build {} order sources =
      .ok ((Outcome.silent () (fresh order sources)).after (.note (.created sources.length))) := rfl
  have accounts := pulled_rows_balanced made [.rowCount, .advance]
  simp only [Outcome.state_after, Outcome.state_silent] at accounts
  obtain ⟨-, -, balanced, emits⟩ := accounts
  have counts : (fresh order sources).emittedRows (sources.map fun _ => 0) [.rowCount, .advance] =
      [1, 0, 0] := by
    cbv
  have moved : (Cursor.run (fresh order sources) [.rowCount, .advance]).state.advance.answer =
      .ok true := by
    cbv
  have one : (Cursor.run (fresh order sources) [.rowCount, .advance]).answer.countP
      Answer.isEmission = 1 := by cbv
  obtain ⟨pulls, bound⟩ := emits moved
  rw [counts] at balanced
  refine ⟨balanced, moved, by cbv, pulls, by cbv, by cbv, ?_⟩
  have ahead := bound (by simp)
  rw [one] at ahead
  exact ahead

end Merge

end RowMerge
