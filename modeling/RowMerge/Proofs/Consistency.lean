import RowMerge.Proofs.Steps
import RowMerge.Proofs.Runs
import RowMerge.Cursor.Scan

/-!
# The states a merge can be in

Whatever the order and the sources do, the lanes keep their numbers, a current row comes with its
lane, and a row never waits in a buffer unless some lane is due for a pull: an advance that fails
leaves the lane it failed at due, one that emits a row leaves the winner due, and one that answers
`false` leaves no row. A merge that has answered `false` stays silent until a reset rewinds a lane.
-/
namespace RowMerge.Merge

variable {σ : Type}

/-! ## Construction -/

theorem ne_nil_of_accept {config : Config} {schemas : List Schema}
    (accepted : accept config schemas = .ok ()) : schemas ≠ [] := by
  rintro rfl
  unfold accept at accepted
  split at accepted <;> simp_all

theorem state_of_build [Cursor σ] {config : Config} {order : Row → Row → Ordering}
    {sources : List σ} {built : Outcome (Merge σ) Unit}
    (made : build config order sources = .ok built) :
    built.state = fresh order sources ∧ sources ≠ [] := by
  unfold build at made
  cases accepted : accept config (sources.map Cursor.schema) with
  | error fault => simp [accepted, Except.map] at made
  | ok _ =>
    rw [accepted] at made
    cases made
    exact ⟨rfl, by simpa using ne_nil_of_accept accepted⟩

/-! ## Consistent states -/

/-- What holds of a merge between calls. -/
structure Consistent (merge : Merge σ) : Prop where
  lanes_ne_nil : merge.lanes ≠ []
  indexed : Indexed merge.lanes
  current_iff : merge.current.isSome ↔ merge.currentLane.isSome
  /-- While a row waits in a buffer, a lane is due for a pull. -/
  due_of_buffered : ∀ row, .buffered row ∈ merge.lanes.map Lane.lookahead →
    .pending ∈ merge.lanes.map Lane.lookahead

/-- The number and the lookahead of a lane: what calls that pull and rewind nothing leave alone. -/
def mark (lane : Lane σ) : Nat × Lookahead := (lane.index, lane.lookahead)

theorem Consistent.of_marks {merge next : Merge σ} (consistent : Consistent merge)
    (marks : next.lanes.map mark = merge.lanes.map mark)
    (current : next.current.isSome ↔ next.currentLane.isSome) : Consistent next := by
  have numbers : next.lanes.map Lane.index = merge.lanes.map Lane.index := by
    simpa [Function.comp_def, mark] using congrArg (List.map Prod.fst) marks
  have lookaheads : next.lanes.map Lane.lookahead = merge.lanes.map Lane.lookahead := by
    simpa [Function.comp_def, mark] using congrArg (List.map Prod.snd) marks
  constructor
  · intro empty
    exact consistent.lanes_ne_nil (List.map_eq_nil_iff.mp (marks ▸ List.map_eq_nil_iff.mpr empty))
  · exact consistent.indexed.of_map_index numbers
  · exact current
  · rw [lookaheads]
    exact consistent.due_of_buffered

/-- A merge that has handed out all rows. -/
structure Ended (merge : Merge σ) : Prop where
  exhausted : ∀ lane ∈ merge.lanes, lane.lookahead = .exhausted
  current : merge.current = none
  currentLane : merge.currentLane = none

theorem Ended.of_marks {merge next : Merge σ} (ended : Ended merge)
    (marks : next.lanes.map mark = merge.lanes.map mark) (current : next.current = none)
    (currentLane : next.currentLane = none) : Ended next := by
  refine ⟨?_, current, currentLane⟩
  intro lane member
  have present := List.mem_map_of_mem (f := mark) member
  rw [marks] at present
  obtain ⟨old, found, same⟩ := List.mem_map.mp present
  exact (congrArg Prod.snd same).symm.trans (ended.exhausted old found)

theorem consistent_fresh (order : Row → Row → Ordering) {sources : List σ}
    (some_source : sources ≠ []) : Consistent (fresh order sources) where
  lanes_ne_nil := by simpa [fresh, lanesOf] using some_source
  indexed := indexed_lanesOf sources
  current_iff := by simp [fresh]
  due_of_buffered := by simp [fresh, lanesOf, Lane.ofSource]

variable [Cursor σ] {merge : Merge σ}

theorem Consistent.advance (consistent : Consistent merge) : Consistent merge.advance.state := by
  have step := advances consistent.indexed
  have indexed := consistent.indexed.advance
  generalize merge.advance.answer = answer, merge.advance.state = next at step indexed ⊢
  cases step with
  | @fails before after lane fault split pulled failed =>
    have due := (pending_of_fault failed).2
    exact ⟨by simp, indexed, consistent.current_iff, fun _ _ => by simp [due]⟩
  | ends pulled exhausted =>
    refine ⟨by simpa using consistent.lanes_ne_nil, indexed, by simp, ?_⟩
    -- no row is left to wait for anything
    intro row waiting
    simp only [List.map_map, List.mem_map, Function.comp_apply] at waiting
    obtain ⟨lane, member, held⟩ := waiting
    rw [exhausted lane member] at held
    cases held
  | @emits before after lane row split pulled held won =>
    -- the winner is due again
    exact ⟨by simp, indexed, by simp, fun _ _ => by simp [Lane.release_of_buffered held]⟩

theorem Consistent.reset (consistent : Consistent merge) : Consistent merge.reset.state := by
  have step := resets merge
  generalize merge.reset.answer = answer, merge.reset.state = next at step ⊢
  cases step with
  | @fails before after lane fault split ok failed =>
    cases before with
    -- nothing was rewound
    | nil => exact consistent.of_marks (by simp [split, mark]) consistent.current_iff
    | cons first rest =>
      -- a lane that was rewound is due
      refine ⟨by simp, consistent.indexed.of_map_index ?_, consistent.current_iff, ?_⟩
      · simp [split, rewound, Lane.ofSource, Function.comp_def]
      · exact fun _ _ => by simp [rewound, Lane.ofSource]
  | rewinds ok =>
    refine ⟨by simpa using consistent.lanes_ne_nil, consistent.indexed.of_map_index ?_, by simp, ?_⟩
    · simp [rewound, Lane.ofSource, Function.comp_def]
    · simp [rewound, Lane.ofSource]

theorem Consistent.close (consistent : Consistent merge) : Consistent merge.close.state := by
  rw [state_close]
  exact consistent.of_marks (by simp [mark, closed, Function.comp_def]) (by simp)

theorem Consistent.rowCount (consistent : Consistent merge) : Consistent merge.rowCount.state := by
  obtain ⟨front, back, split, state⟩ := state_rowCount merge
  rw [state]
  exact consistent.of_marks (by simp [split, mark, asked, Function.comp_def]) consistent.current_iff

theorem Consistent.perform (consistent : Consistent merge) (request : Request) :
    Consistent (Cursor.perform merge request).state := by
  cases request with
  | advance => exact consistent.advance
  | currentRow => exact consistent
  | rowCount => exact consistent.rowCount
  | reset => exact consistent.reset
  | close => exact consistent.close
  | needsClose => exact consistent
  | schema => exact consistent

theorem Consistent.run (consistent : Consistent merge) (requests : List Request) :
    Consistent (Cursor.run merge requests).state :=
  Cursor.run_invariant (P := Consistent) (fun _ request kept => kept.perform request) consistent
    requests

/-- A state that a merge comes to after it was built, by any requests, whether they fail or not. -/
def Reachable (merge : Merge σ) : Prop :=
  ∃ config order sources built requests,
    build config order sources = .ok built ∧ merge = (Cursor.run built.state requests).state

theorem Reachable.consistent (reached : Reachable merge) : Consistent merge := by
  obtain ⟨config, order, sources, built, requests, made, rfl⟩ := reached
  obtain ⟨fresh, some_source⟩ := state_of_build made
  rw [fresh]
  exact (consistent_fresh order some_source).run requests

/-! ## Exhausted merges -/

/-- The lanes that a reset rewinds: those before the first one whose source fails to go back. -/
def rewoundLanes (merge : Merge σ) : List (Lane σ) :=
  merge.lanes.takeWhile fun lane => (Cursor.reset lane.source).answer.isOk

/-- None of the resets among requests rewinds a lane. -/
def NoRewind (merge : Merge σ) (requests : List Request) : Prop :=
  ∀ before after, requests = before ++ .reset :: after →
    (Cursor.run merge before).state.rewoundLanes = []

/-- Advancing a merge that has ended reaches no source and changes nothing. -/
theorem Ended.advance (ended : Ended merge) : merge.advance = .silent (.ok false) merge := by
  -- no lane is due for a pull and none has a row
  have settled : ∀ lane ∈ merge.lanes, lane.lookahead ≠ .pending := by
    intro lane member
    simp [ended.exhausted lane member]
  have pulls := untilFault_pullPending_of_settled settled
  have lost : merge.winner = none :=
    winner_eq_none_iff.mpr fun lane member =>
      Lane.currentRow_of_exhausted (ended.exhausted lane member)
  have same : { merge with current := none, currentLane := none } = merge := by
    rw [← ended.current, ← ended.currentLane]
  have selected : merge.select = .silent false merge := by
    simp [select, lost, ended.currentLane, same]
  simp only [Merge.advance, pulls]
  exact congrArg (Outcome.map Except.ok) selected

theorem Ended.reset (ended : Ended merge) (noRewind : merge.rewoundLanes = []) :
    Ended merge.reset.state := by
  have step := resets merge
  generalize merge.reset.answer = answer, merge.reset.state = next at step ⊢
  cases step with
  | @fails before after lane fault split ok failed =>
    cases before with
    | nil =>
      -- the first lane fails, and a lane that fails keeps its lookahead
      exact ended.of_marks (by simp [split, mark]) ended.current ended.currentLane
    | cons first rest => simp [rewoundLanes, split, ok first, Except.isOk, Except.toBool] at noRewind
  | rewinds ok =>
    cases lanes : merge.lanes with
    | nil => exact ⟨by simp, rfl, rfl⟩
    | cons first rest => simp [rewoundLanes, lanes, ok first, Except.isOk, Except.toBool] at noRewind

theorem Ended.perform (ended : Ended merge) {request : Request}
    (noRewind : request = .reset → merge.rewoundLanes = []) :
    Ended (Cursor.perform merge request).state := by
  cases request with
  | advance =>
    have unchanged : (Cursor.perform merge .advance).state = merge :=
      congrArg Outcome.state ended.advance
    rw [unchanged]
    exact ended
  | currentRow => exact ended
  | rowCount =>
    obtain ⟨front, back, split, state⟩ := state_rowCount merge
    change Ended merge.rowCount.state
    rw [state]
    exact ended.of_marks (by simp [split, mark, asked, Function.comp_def]) ended.current
      ended.currentLane
  | reset => exact ended.reset (noRewind rfl)
  | close =>
    change Ended merge.close.state
    rw [state_close]
    exact ended.of_marks (by simp [mark, closed, Function.comp_def]) rfl rfl
  | needsClose => exact ended
  | schema => exact ended

theorem Ended.run (ended : Ended merge) {requests : List Request}
    (noRewind : NoRewind merge requests) :
    Ended (Cursor.run merge requests).state := by
  induction requests generalizing merge with
  | nil => exact ended
  | cons request rest ih =>
    have first : request = .reset → merge.rewoundLanes = [] := by
      rintro rfl
      exact noRewind [] rest rfl
    refine ih (ended.perform first) ?_
    rintro before after rfl
    exact noRewind (request :: before) after rfl

theorem ended_of_advance (indexed : Indexed merge.lanes) (answer : merge.advance.answer = .ok false) :
    Ended merge.advance.state := by
  have step := advances indexed
  rw [answer] at step
  generalize merge.advance.state = next at step ⊢
  cases step with
  | ends pulled exhausted =>
    refine ⟨?_, rfl, rfl⟩
    intro lane member
    obtain ⟨old, present, rfl⟩ := List.mem_map.mp member
    exact exhausted old present

/-! ## The current row -/

/-- The current row was taken from one lane by the advance: the buffer of the lane held it once the
lane had been pulled, and after the advance this lane alone is due for a pull. -/
def TakenFrom (before after : Merge σ) (number : Nat) (lane : Lane σ) (row : Row) : Prop :=
  before.lanes[number]? = some lane ∧ (refilled lane).lookahead = .buffered row ∧
  after.current = some row ∧ after.currentLane = some number ∧
  after.lanes[number]? = some { refilled lane with lookahead := .pending } ∧
  ∀ (other : Nat) (l : Lane σ), after.lanes[other]? = some l →
    (l.lookahead = .pending ↔ other = number)

theorem takenFrom_of_advance (indexed : Indexed merge.lanes)
    (answer : merge.advance.answer = .ok true) :
    ∃ number lane row, TakenFrom merge merge.advance.state number lane row := by
  have step := advances indexed
  rw [answer] at step
  generalize merge.advance.state = next at step ⊢
  cases step with
  | @emits before after lane row split pulled held won =>
    refine ⟨before.length, lane, row, by simp [split], held, rfl, rfl, ?_, ?_⟩
    · simp [Lane.release_of_buffered held]
    · have settled : ∀ l ∈ merge.lanes, (refilled l).lookahead ≠ .pending :=
        fun l member => (pullPending_ok_iff l).mp (pulled l member)
      rw [split] at settled
      intro other l found
      -- the lanes on both sides are as the pulls left them
      rcases Nat.lt_trichotomy other before.length with less | rfl | greater
      · rw [List.getElem?_append_left (by simpa using less)] at found
        obtain ⟨old, present, rfl⟩ := List.mem_map.mp (List.mem_of_getElem? found)
        have busy := settled old (List.mem_append_left _ present)
        exact ⟨fun due => absurd due busy, fun same => absurd same (Nat.ne_of_lt less)⟩
      · obtain rfl : (refilled lane).release = l := by simpa using found
        simp [Lane.release_of_buffered held]
      · obtain ⟨k, rfl⟩ := Nat.exists_eq_add_of_lt greater
        rw [List.getElem?_append_right (by simp; omega)] at found
        simp only [List.length_map, Nat.add_assoc, Nat.add_sub_cancel_left,
          List.getElem?_cons_succ] at found
        obtain ⟨old, present, rfl⟩ := List.mem_map.mp (List.mem_of_getElem? found)
        have busy := settled old (List.mem_append_right _ (List.mem_cons_of_mem _ present))
        exact ⟨fun due => absurd due busy, fun same => absurd same (Nat.ne_of_gt greater)⟩

/-! ## Every reachable state -/

/-- A merge over any sources and by any order, in any state that requests have brought it to: its
lanes are numbered from 0, a current row comes with its lane, and while a row waits in a buffer some
lane is due. An advance that answers `true` has taken the current row from the lane it names. One
that answers `false` leaves all lanes exhausted, and until a reset rewinds a lane every later one
answers `false` without reaching a source. -/
theorem advance_of_reachable (reached : Reachable merge) :
    Consistent merge ∧
    (merge.advance.answer = .ok true →
      ∃ number lane row, TakenFrom merge merge.advance.state number lane row) ∧
    (merge.advance.answer = .ok false →
      Ended merge.advance.state ∧
      ∀ later, NoRewind merge.advance.state later →
        (Cursor.run merge.advance.state later).state.advance =
          .silent (.ok false) (Cursor.run merge.advance.state later).state) := by
  have consistent := reached.consistent
  refine ⟨consistent, takenFrom_of_advance consistent.indexed, ?_⟩
  intro answer
  have ended := ended_of_advance consistent.indexed answer
  exact ⟨ended, fun later noRewind => (ended.run noRewind).advance⟩

/-- A scan of one row and one of none, drained and then closed. Scans that are closed refuse to go
back, so the reset rewinds nothing, and the merge still answers `false` in place of their faults. -/
theorem advance_of_reachable_closed_scans :
    let scans := [Scan.ofRows .empty [⟨[.integer 1]⟩], Scan.empty .empty]
    let drained := (Cursor.run (fresh (compareOn Row.arity) scans) [.advance]).state
    let refused := (Cursor.run drained.advance.state [.close, .reset]).state
    drained.advance.answer = .ok false ∧ refused.reset.answer = .error Scan.resetWhenClosed ∧
      refused.advance = .silent (.ok false) refused := by
  intro scans drained refused
  have reached : Reachable drained := ⟨{}, compareOn Row.arity, scans, _, [.advance], rfl, rfl⟩
  have noRewind : NoRewind drained.advance.state [.close, .reset] := by
    intro before after split
    match before, split with
    | [.close], _ => rfl
    | .close :: .reset :: _, split => simp at split
  have ended : drained.advance.answer = .ok false := rfl
  have kept : refused.reset.answer = .error Scan.resetWhenClosed := rfl
  exact ⟨ended, kept, ((advance_of_reachable reached).2.2 ended).2 _ noRewind⟩

end RowMerge.Merge
