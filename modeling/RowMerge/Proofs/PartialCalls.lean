import RowMerge.Proofs.Consistency
import RowMerge.Cursor.Watched

/-!
# What a failed call leaves behind

An advance or a reset that fails has come to one lane. The lanes in front of it are as the call makes them:
pulled if they were due, or rewound. The lane itself keeps its lookahead, and everything else is as it was.
The lanes behind it have no part in the call: with any others in their place it would have come to the same
end, by the same calls to the sources. What the call answers is what the source of the lane answered,
unless that source moved without showing a row.
-/
namespace RowMerge.Merge

variable {σ : Type} [Cursor σ] {merge : Merge σ} {front back : List (Lane σ)} {lane : Lane σ}
  {fault : Fault}

/-! ## A lane that fails -/

/-- The source of a lane answers an advance with a fault, or it moves and shows no row, which is a fault
with the number of the lane. -/
def FailsToPull (lane : Lane σ) (fault : Fault) : Prop :=
  (Cursor.advance lane.source).answer = .error fault ∨
    (Cursor.advance lane.source).answer = .ok true ∧
      Cursor.currentRow (Cursor.advance lane.source).state = none ∧
      fault = .noCurrentRow lane.index

theorem refilled_of_fault (failed : (pullPending lane).answer = .error fault) :
    FailsToPull lane fault ∧
      refilled lane = { lane with source := (Cursor.advance lane.source).state } := by
  have pull := pull_of_pending (pending_of_fault failed).1
  rw [failed] at pull
  generalize refilled lane = after at pull ⊢
  cases pull with
  | failed answer => exact ⟨.inl answer, rfl⟩
  | rowless answer absent => exact ⟨.inr ⟨answer, absent, rfl⟩, rfl⟩

/-- A pull that fails leaves no note. -/
theorem events_pullPending_of_fault (failed : (pullPending lane).answer = .error fault) :
    (pullPending lane).events = (Cursor.advance lane.source).events := by
  have due : lane.isPending = true := Lane.isPending_iff.mpr (pending_of_fault failed).1
  rcases (refilled_of_fault failed).1 with answer | ⟨answer, absent, -⟩
  · simp [pullPending, due, Lane.pull, answer]
  · simp [pullPending, due, Lane.pull, answer, absent]

/-! ## Calls that fail -/

/-- An advance whose pulls fail at one lane comes to the same end whatever stands behind it. -/
theorem advance_of_front (merge : Merge σ) (pulled : ∀ l ∈ front, (pullPending l).answer = .ok ())
    (failed : (pullPending lane).answer = .error fault) (others : List (Lane σ)) :
    advance { merge with lanes := front ++ lane :: others } =
      ⟨.error fault, { merge with lanes := front.map refilled ++
          { lane with source := (Cursor.advance lane.source).state } :: others },
        (front.flatMap fun l => (pullPending l).events) ++ (Cursor.advance lane.source).events⟩ := by
  have stopped : Outcome.untilFault pullPending (front ++ lane :: others) =
      ⟨.error fault, front.map refilled ++ refilled lane :: others,
        (front.flatMap fun l => (pullPending l).events) ++ (pullPending lane).events⟩ :=
    Outcome.untilFault_of_fault pulled failed
  rw [events_pullPending_of_fault failed, (refilled_of_fault failed).2] at stopped
  simp [advance, stopped, Outcome.bind, Outcome.silent]

theorem reset_of_front (merge : Merge σ) (rewinds : ∀ l ∈ front, (Cursor.reset l.source).answer = .ok ())
    (failed : (Cursor.reset lane.source).answer = .error fault) (others : List (Lane σ)) :
    reset { merge with lanes := front ++ lane :: others } =
      ⟨.error fault, { merge with lanes := front.map rewound ++
          { lane with source := (Cursor.reset lane.source).state } :: others },
        .note (.resetting (front.length + 1 + others.length)) ::
          ((front.flatMap fun l => (Cursor.reset l.source).events) ++
            (Cursor.reset lane.source).events)⟩ := by
  have ok : ∀ l ∈ front, l.reset.answer = .ok () :=
    fun l member => (answer_reset_lane l).trans (rewinds l member)
  have lanes : front.map (fun l => l.reset.state) = front.map rewound :=
    List.map_congr_left fun l member => state_reset_lane_of_ok (rewinds l member)
  have stopped : Outcome.untilFault Lane.reset (front ++ lane :: others) = _ :=
    Outcome.untilFault_of_fault ok ((answer_reset_lane lane).trans failed)
  simp only [lanes, state_reset_lane_of_error failed, events_reset_lane] at stopped
  -- the note names the number of all lanes
  have count : (front ++ lane :: others).length = front.length + 1 + others.length := by
    rw [List.length_append, List.length_cons]
    omega
  simp [reset, stopped, Outcome.bind, Outcome.silent, Outcome.after, laneCount, count]

/-- An advance comes to a lane and fails there. -/
structure AdvanceFails (merge : Merge σ) (fault : Fault) (front : List (Lane σ)) (lane : Lane σ)
    (back : List (Lane σ)) : Prop where
  split : merge.lanes = front ++ lane :: back
  index : lane.index = front.length
  due : lane.lookahead = .pending
  refusal : FailsToPull lane fault
  /-- A lane in front that was due has got a row or come to its end, and any other is as it was. -/
  pulled : ∀ l ∈ front, (l.lookahead = .pending → Pull l (.ok ()) (refilled l)) ∧
    (l.lookahead ≠ .pending → refilled l = l)
  /-- The lanes behind stay as they are, and any others would do so. -/
  outcome : ∀ others, advance { merge with lanes := front ++ lane :: others } =
    ⟨.error fault, { merge with lanes := front.map refilled ++
        { lane with source := (Cursor.advance lane.source).state } :: others },
      (front.flatMap fun l => (pullPending l).events) ++ (Cursor.advance lane.source).events⟩

/-- A reset comes to a lane and fails there. -/
structure ResetFails (merge : Merge σ) (fault : Fault) (front : List (Lane σ)) (lane : Lane σ)
    (back : List (Lane σ)) : Prop where
  split : merge.lanes = front ++ lane :: back
  refusal : (Cursor.reset lane.source).answer = .error fault
  /-- The sources in front have gone back to their starts. -/
  rewinds : ∀ l ∈ front, (Cursor.reset l.source).answer = .ok ()
  /-- The lanes behind stay as they are, and any others would do so. -/
  outcome : ∀ others, reset { merge with lanes := front ++ lane :: others } =
    ⟨.error fault, { merge with lanes := front.map rewound ++
        { lane with source := (Cursor.reset lane.source).state } :: others },
      .note (.resetting (front.length + 1 + others.length)) ::
        ((front.flatMap fun l => (Cursor.reset l.source).events) ++
          (Cursor.reset lane.source).events)⟩

theorem exists_advanceFails (indexed : Indexed merge.lanes)
    (failed : merge.advance.answer = .error fault) :
    ∃ front lane back, AdvanceFails merge fault front lane back := by
  rcases Outcome.fault_or_ok pullPending merge.lanes with
    pulled | ⟨front, lane, back, own, split, pulled, refused⟩
  · have passed := (advance_of_pulled (Outcome.untilFault_ok_iff.mpr pulled)).1
    cases passed.symm.trans failed
  · have outcome := advance_of_front merge pulled refused
    obtain rfl : own = fault := by
      have answer := congrArg Outcome.answer (outcome back)
      rw [← split] at answer
      cases answer.symm.trans failed
      rfl
    have index : lane.index = front.length := (split ▸ indexed).index_eq_length
    refine ⟨front, lane, back, split, index, (pending_of_fault refused).1,
      (refilled_of_fault refused).1, ?_, outcome⟩
    intro l member
    refine ⟨?_, refilled_of_settled⟩
    intro due
    rw [← pulled l member]
    exact pull_of_pending due

theorem exists_resetFails (failed : merge.reset.answer = .error fault) :
    ∃ front lane back, ResetFails merge fault front lane back := by
  have step := resets merge
  rw [failed] at step
  generalize merge.reset.state = next at step
  cases step with
  | @fails front back lane _ split ok refused =>
    exact ⟨front, lane, back, split, refused, ok, reset_of_front merge ok refused⟩

/-- In any state that requests have brought a merge to, over any sources: an advance or a reset that fails
has come to one lane. The answer is the fault of its source, or the one with its number if the source
moved without showing a row. The lane keeps its lookahead, those in front of it are pulled or rewound,
those behind it are neither changed nor looked at, and the current row, its lane and the memo of the row
count stay. -/
theorem frame_of_fault (reached : Reachable merge) (fault : Fault) :
    (merge.advance.answer = .error fault →
      ∃ front lane back, AdvanceFails merge fault front lane back) ∧
    (merge.reset.answer = .error fault →
      ∃ front lane back, ResetFails merge fault front lane back) :=
  ⟨exists_advanceFails reached.consistent.indexed, exists_resetFails⟩

/-- Three scans, of which the second is closed. A first advance has pulled the first one and failed at the
second. The next one calls the second alone, and a reset calls the first two and takes the row of the
first away. The third is not called, and the row count is still known. -/
theorem frame_of_fault_at_closed_scan :
    let row (n : Int64) : Row := ⟨[.integer n]⟩
    let closed := (Cursor.close (Scan.ofRows .empty [row 2])).state
    let sources : List (Watched Scan) := [⟨"a", none, .ofRows .empty [row 1]⟩, ⟨"b", none, closed⟩,
      ⟨"c", none, .ofRows .empty [row 3]⟩]
    let merge := (Cursor.run (fresh (compareOn Row.arity) sources) [.rowCount, .advance]).state
    (merge.advance.answer = .error Scan.advancedWhenClosed ∧
      merge.advance.events = [.call "b" .advance] ∧ merge.advance.state.count = .known 3) ∧
    (merge.reset.answer = .error Scan.resetWhenClosed ∧
      merge.reset.events = [.note (.resetting 3), .call "a" .reset, .call "b" .reset] ∧
      merge.reset.state.count = .known 3 ∧
      merge.lanes.map Lane.currentRow = [some (row 1), none, none] ∧
      merge.reset.state.lanes.map Lane.currentRow = [none, none, none]) := by
  intro row closed sources merge
  have reached : Reachable merge :=
    ⟨{}, compareOn Row.arity, sources, _, [.rowCount, .advance], rfl, rfl⟩
  have state : merge = {
      lanes := [⟨0, ⟨"a", none, .empty, [row 1], some 0, false⟩, .buffered (row 1)⟩,
        ⟨1, ⟨"b", none, closed⟩, .pending⟩, ⟨2, ⟨"c", none, .ofRows .empty [row 3]⟩, .pending⟩]
      order := compareOn Row.arity
      current := none
      currentLane := none
      count := .known 3 } := rfl
  clear_value merge
  subst state
  constructor
  · obtain ⟨front, lane, back, fails⟩ := (frame_of_fault reached Scan.advancedWhenClosed).1 rfl
    have outcome := fails.outcome back
    rw [← fails.split] at outcome
    exact ⟨rfl, rfl, congrArg (·.state.count) outcome⟩
  · obtain ⟨front, lane, back, fails⟩ := (frame_of_fault reached Scan.resetWhenClosed).2 rfl
    have outcome := fails.outcome back
    rw [← fails.split] at outcome
    exact ⟨rfl, rfl, congrArg (·.state.count) outcome, rfl, rfl⟩

end RowMerge.Merge
