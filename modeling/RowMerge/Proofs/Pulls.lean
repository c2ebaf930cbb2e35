import RowMerge.Proofs.Advanced
import RowMerge.Proofs.Consistency

/-!
# What an advance pulls

An advance visits the lanes from the first one on, up to one whose pull fails, and advances the sources
of those that are due. Lanes with a row in their buffers and exhausted lanes are passed over. When a row
has been emitted the lane it came from is the only one that is due, so the next advance pulls this lane
and no other: a merge reads ahead by no more than one row for each lane.
-/
namespace RowMerge.Merge

variable {σ : Type} [Cursor σ] {merge : Merge σ}

/-! ## Visits -/

/-- The source of a lane after a visit. -/
def visited (lane : Lane σ) : σ :=
  if lane.isPending then (Cursor.advance lane.source).state else lane.source

/-- An advance visits the lanes in front and none of those behind them. -/
structure Visits (merge : Merge σ) (front back : List (Lane σ)) : Prop where
  split : merge.lanes = front ++ back
  sources : merge.advance.state.lanes.map Lane.source = front.map visited ++ back.map Lane.source
  events : Event.advanced merge.advance.events =
    (front.filter Lane.isPending).flatMap fun lane =>
      Event.advanced (Cursor.advance lane.source).events
  /-- Lanes are left out only behind one whose pull fails. -/
  stops : back = [] ∨ ∃ before lane fault, front = before ++ [lane] ∧ lane.lookahead = .pending ∧
    merge.advance.answer = .error fault

/-- An advance advances the sources of these lanes, each of them once and in this order, and leaves all
others alone. -/
def Pulls (merge : Merge σ) (pulled : List (Lane σ)) : Prop :=
  ∃ front back, Visits merge front back ∧ pulled = front.filter Lane.isPending

theorem source_refilled (lane : Lane σ) : (refilled lane).source = visited lane := by
  by_cases pending : lane.lookahead = .pending
  · simp [visited, Lane.isPending_iff.mpr pending, source_refilled_of_pending pending]
  · have settled : lane.isPending = false := Lane.isPending_eq_false_iff.mpr pending
    simp [visited, settled, refilled_of_settled pending]

theorem sources_refilled (lanes : List (Lane σ)) :
    (lanes.map refilled).map Lane.source = lanes.map visited := by
  simp [Function.comp_def, source_refilled]

theorem advanced_pulls (lanes : List (Lane σ)) :
    Event.advanced (lanes.flatMap fun lane => (pullPending lane).events) =
      (lanes.filter Lane.isPending).flatMap fun lane =>
        Event.advanced (Cursor.advance lane.source).events := by
  induction lanes with
  | nil => rfl
  | cons lane rest ih =>
    by_cases pending : lane.lookahead = .pending
    · simp [Lane.isPending_iff.mpr pending, advanced_pullPending pending, ih]
    · have settled : lane.isPending = false := Lane.isPending_eq_false_iff.mpr pending
      simp [settled, pullPending_of_settled pending, ih]

theorem exists_visits (indexed : Indexed merge.lanes) : ∃ front back, Visits merge front back := by
  have events := advanced_advance merge
  have step := advances indexed
  generalize answer : merge.advance.answer = moved, state : merge.advance.state = next at step
  cases step with
  | @fails before after lane fault split pulled failed =>
    have stopped : Outcome.untilFault pullPending (before ++ lane :: after) = _ :=
      Outcome.untilFault_of_fault pulled failed
    have calls := advanced_pulls (before ++ [lane])
    refine ⟨before ++ [lane], after, by simpa using split, ?_, ?_, .inr ?_⟩
    · simp [state, source_refilled, Function.comp_def]
    · rw [events, split, stopped, ← calls]
      simp
    · exact ⟨before, lane, fault, rfl, (pending_of_fault failed).1, answer⟩
  | ends pulled exhausted =>
    refine ⟨merge.lanes, [], by simp, ?_, ?_, .inl rfl⟩
    · rw [state, sources_refilled, List.map_nil, List.append_nil]
    · rw [events, Outcome.untilFault_of_ok pulled, advanced_pulls]
  | @emits before after lane row split pulled held won =>
    refine ⟨merge.lanes, [], by simp, ?_, ?_, .inl rfl⟩
    · -- what leaves the buffer of the winner does not touch its source
      simp [state, split, source_refilled, Function.comp_def]
    · rw [events, Outcome.untilFault_of_ok pulled, advanced_pulls]

theorem exists_pulls (indexed : Indexed merge.lanes) : ∃ pulled, Pulls merge pulled := by
  obtain ⟨front, back, visits⟩ := exists_visits indexed
  exact ⟨_, front, back, visits, rfl⟩

/-! ## After a row -/

/-- Where one lane alone is due, it is pulled. -/
theorem pulls_of_only_due {before after : List (Lane σ)} {lane : Lane σ}
    (indexed : Indexed merge.lanes) (split : merge.lanes = before ++ lane :: after)
    (due : lane.lookahead = .pending)
    (settled : ∀ l ∈ before ++ after, l.lookahead ≠ .pending) : Pulls merge [lane] := by
  obtain ⟨front, back, visits⟩ := exists_visits indexed
  -- the lane is visited, for the advance cannot fail before it comes to the lane
  obtain ⟨rest, reached, behind⟩ : ∃ rest, front = before ++ lane :: rest ∧ rest ⊆ after := by
    have same := visits.split.symm.trans split
    rcases visits.stops with rfl | ⟨before', lane', fault, rfl, due', failed⟩
    · exact ⟨after, by simpa using same, List.Subset.refl after⟩
    · rw [List.append_assoc, List.singleton_append] at same
      have member : lane' ∈ before ++ lane :: after := by simp [← same]
      obtain rfl : lane' = lane := by
        by_contra other
        exact settled lane' (by simpa [other] using member) due'
      -- lanes are numbered, so it is the one at this place
      have place : before'.length = before.length := by
        rw [split] at indexed
        exact (same ▸ indexed).index_eq_length.symm.trans indexed.index_eq_length
      obtain ⟨rfl, -⟩ := List.append_inj same place
      exact ⟨[], rfl, List.nil_subset after⟩
  have skipped : ∀ l ∈ before ++ after, l.isPending = false :=
    fun l member => Lane.isPending_eq_false_iff.mpr (settled l member)
  have early : before.filter Lane.isPending = [] :=
    List.filter_eq_nil_iff.mpr fun l member => by simp [skipped l (List.mem_append_left _ member)]
  have late : rest.filter Lane.isPending = [] :=
    List.filter_eq_nil_iff.mpr fun l member => by
      simp [skipped l (List.mem_append_right _ (behind member))]
  refine ⟨front, back, visits, ?_⟩
  rw [reached, List.filter_append, List.filter_cons_of_pos (Lane.isPending_iff.mpr due), early, late]
  rfl

/-- After a row has been emitted the next advance pulls the lane it came from. -/
theorem pulls_of_emitted (indexed : Indexed merge.lanes) (answer : merge.advance.answer = .ok true) :
    ∃ number lane, merge.advance.state.currentLane = some number ∧
      merge.advance.state.lanes[number]? = some lane ∧ Pulls merge.advance.state [lane] := by
  have renumbered := indexed.advance
  have step := advances indexed
  rw [answer] at step
  generalize merge.advance.state = next at step renumbered ⊢
  cases step with
  | @emits before after lane row split pulled held won =>
    have settled : ∀ l ∈ merge.lanes, (refilled l).lookahead ≠ .pending :=
      fun l member => (pullPending_ok_iff l).mp (pulled l member)
    refine ⟨before.length, (refilled lane).release, rfl, by simp, ?_⟩
    refine pulls_of_only_due renumbered rfl (by rw [Lane.release_of_buffered held]) ?_
    rw [← List.map_append]
    refine List.forall_mem_map.mpr fun l member => settled l ?_
    rw [split]
    rcases List.mem_append.mp member with early | late
    · exact List.mem_append_left _ early
    · exact List.mem_append_right _ (List.mem_cons_of_mem _ late)

end RowMerge.Merge
