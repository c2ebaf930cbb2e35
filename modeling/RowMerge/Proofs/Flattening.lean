import RowMerge.Proofs.Nesting
import RowMerge.Proofs.Consistency

/-!
# Trees of merges and flat merges

A tree of merges by one total preorder answers every request as the flat merge over its leaves does,
and advances the leaves in the same order. The rows that the tree has ahead, beyond those that wait in
the buffers of the lanes over its leaves, are rows that still wait in the buffers of the flat merge.
-/
namespace RowMerge

open Outcome (untilFault)

namespace Merge

variable {σ τ : Type} [Cursor σ] [Cursor τ] {order : Row → Row → Ordering}
  {R : τ → Lookahead → List (Lane σ) → Prop} {merge : Merge τ} {flat : Merge σ}

/-! ## One request -/

/-- A merge over groups beside the flat merge of all their lanes. -/
structure Flattens (order : Row → Row → Ordering) (R : τ → Lookahead → List (Lane σ) → Prop)
    (merge : Merge τ) (flat : Merge σ) : Prop where
  joined : Joined order R merge .pending flat.lanes
  sorted : flat.order = order
  indexed : Indexed flat.lanes
  current : flat.current = merge.current
  count : flat.count = merge.count

namespace Flattens

variable [Std.TransCmp order]

theorem advance (flattens : Flattens order R merge flat) (grouping : Grouping order R) :
    merge.advance.answer = flat.advance.answer ∧
      Event.advanced merge.advance.events = Event.advanced flat.advance.events ∧
      Flattens order R merge.advance.state flat.advance.state := by
  have events := (grouping.join.advanced flattens.joined).trans (advanced_advance flat).symm
  have pulled := grouping.join.advance flattens.joined
  obtain ⟨groups, joins, -⟩ := flattens.joined
  have count := flattens.count.trans (advance_keeps joins.indexed).2.2.symm
  have indexed : Indexed (untilFault pullPending flat.lanes).state :=
    flattens.indexed.of_map_index (Outcome.map_untilFault fun lane _ => index_refilled lane)
  change Pulled _ merge.advance.state merge.advance.answer _ _ at pulled
  generalize answered : merge.advance.answer = answer,
    walked : (untilFault pullPending flat.lanes).answer = result,
    lanes : (untilFault pullPending flat.lanes).state = group at pulled indexed ⊢
  cases pulled with
  | @failed fault _ related =>
    -- a round that fails keeps the current row on both sides
    obtain ⟨flat_answer, flat_state⟩ := advance_of_fault walked
    rw [flat_answer, flat_state, lanes]
    have current := flattens.current.trans (current_advance_of_error joins.indexed answered).symm
    exact ⟨rfl, events, related, flattens.sorted, indexed, current, count⟩
  | ended related =>
    obtain ⟨flat_answer, flat_state⟩ := advance_of_pulled walked
    rw [lanes] at flat_answer flat_state
    -- no lane of the flat merge has a row
    have lost : ({ flat with lanes := group } : Merge σ).winner = none :=
      winner_eq_none_iff.mpr fun lane member =>
        Lane.currentRow_of_exhausted (grouping.join.exhausted related lane member)
    obtain ⟨no, kept⟩ := select_of_no_winner lost
    rw [flat_answer, flat_state, no, kept]
    have current := (ended_of_advance joins.indexed answered).current.symm
    exact ⟨rfl, events, related.of_exhausted, flattens.sorted, indexed, current, count⟩
  | @row row _ shown related =>
    obtain ⟨flat_answer, flat_state⟩ := advance_of_pulled walked
    rw [lanes] at flat_answer flat_state
    cases grouping.join.fronts related with
    | @intro before after leaf held leads settled taken =>
      -- the row that the merge emits is the one that wins in the flat merge
      have won : ({ flat with lanes := before ++ leaf :: after } : Merge σ).winner =
          some leaf.index := winner_of_leads flattens.sorted rfl held leads
      rw [indexed.index_eq_length] at won
      obtain ⟨yes, kept⟩ := select_of_winner rfl held won
      rw [flat_answer, flat_state, yes, kept]
      have renumbered : Indexed (before ++ leaf.release :: after) := indexed.of_map_index (by simp)
      exact ⟨rfl, events, taken, flattens.sorted, renumbered, shown.symm, count⟩

theorem rowCount (flattens : Flattens order R merge flat) (grouping : Grouping order R) :
    merge.rowCount.answer = flat.rowCount.answer ∧
      Event.advanced merge.rowCount.events = Event.advanced flat.rowCount.events ∧
      Flattens order R merge.rowCount.state flat.rowCount.state := by
  have regular := grouping.join.regular flattens.joined
  obtain ⟨-, events, joined⟩ := grouping.join.rowCount flattens.joined
  have quiet : Event.advanced flat.rowCount.events = [] :=
    advanced_rowCount fun lane member => ((regular lane member).asks []).2
  have answer : merge.rowCount.answer = flat.rowCount.answer := by
    obtain ⟨groups, joins, cover⟩ := flattens.joined
    cases memo : merge.count with
    | known count => simp [Merge.rowCount, flattens.count, memo]
    | unknown => simp [Merge.rowCount, flattens.count, memo]
    | uncomputed =>
      have total : (sumCounts 0 flat.lanes).answer = tally 0 flat.lanes := answer_sumCounts 0 _
      rw [joins.answer_rowCount grouping, ← cover.tally_eq, ← total]
      simp [Merge.rowCount, flattens.count, memo]
  refine ⟨answer, events.trans quiet.symm, ?_⟩
  obtain ⟨front, back, split, state⟩ := state_rowCount flat
  obtain ⟨_, _, _, state'⟩ := state_rowCount merge
  -- the flat merge may ask other leaves than the tree does, but asking makes twins
  have same : List.Forall₂ SameLane flat.lanes (front.map asked ++ back) := by
    rw [split] at regular ⊢
    obtain ⟨regular_front, regular_back⟩ := List.forall_mem_append.mp regular
    refine List.rel_append (List.forall₂_map_right_iff.mpr (List.forall₂_same.mpr ?_))
      (List.forall₂_same.mpr ?_)
    · exact fun lane member => ⟨rfl, (regular_front lane member).twins_rowCount⟩
    · exact fun lane member => ⟨rfl, (regular_back lane member).twins⟩
  have numbers : (front.map asked ++ back).map Lane.index = flat.lanes.map Lane.index := by
    simp [split, asked, Function.comp_def]
  have current : merge.rowCount.state.current = merge.current := by rw [state']
  have count : merge.rowCount.state.count = .ofCount merge.rowCount.answer := by rw [state']
  rw [state]
  exact ⟨grouping.join.replace joined same, flattens.sorted, flattens.indexed.of_map_index numbers,
    flattens.current.trans current.symm, by rw [count, answer]⟩

theorem reset (flattens : Flattens order R merge flat) (grouping : Grouping order R)
    (ok : ∀ lane ∈ flat.lanes, (Cursor.reset lane.source).answer = .ok ()) :
    merge.reset.answer = flat.reset.answer ∧
      Event.advanced merge.reset.events = Event.advanced flat.reset.events ∧
      Flattens order R merge.reset.state flat.reset.state := by
  obtain ⟨answer, events, joined⟩ := grouping.join.reset flattens.joined ok
  change merge.reset.answer = .ok () at answer
  change Joined order R merge.reset.state _ _ at joined
  obtain ⟨flat_answer, flat_state⟩ := reset_of_ok ok
  have numbers : (flat.lanes.map rewound).map Lane.index = flat.lanes.map Lane.index := by
    simp [rewound, Lane.ofSource, Function.comp_def]
  have kept : merge.reset.state.current = none ∧ merge.reset.state.count = merge.count := by
    -- the answer shows that every lane went back
    have step := resets merge
    rw [answer] at step
    generalize merge.reset.state = next at step ⊢
    cases step
    exact ⟨rfl, rfl⟩
  rw [flat_answer, flat_state]
  exact ⟨answer, events.trans (advanced_reset ok).symm, joined, flattens.sorted,
    flattens.indexed.of_map_index numbers, kept.1.symm, flattens.count.trans kept.2.symm⟩

theorem close (flattens : Flattens order R merge flat) (grouping : Grouping order R) :
    merge.close.answer = flat.close.answer ∧
      Event.advanced merge.close.events = Event.advanced flat.close.events ∧
      Flattens order R merge.close.state flat.close.state := by
  obtain ⟨answer, events, joined⟩ := grouping.join.close flattens.joined
  refine ⟨answer.trans (closeAll_eq flat.lanes).1.symm, events.trans (advanced_close flat).symm, ?_⟩
  change Joined order R merge.close.state _ _ at joined
  rw [state_close merge] at joined ⊢
  rw [state_close flat]
  have numbers : (flat.lanes.map closed).map Lane.index = flat.lanes.map Lane.index := by
    simp [closed, Function.comp_def]
  exact ⟨joined, flattens.sorted, flattens.indexed.of_map_index numbers, rfl, flattens.count⟩

/-- Every request gets the same answer and advances the same objects, unless a reset fails. -/
theorem perform (flattens : Flattens order R merge flat) (grouping : Grouping order R)
    {request : Request}
    (ok : request = .reset → ∀ lane ∈ flat.lanes, (Cursor.reset lane.source).answer = .ok ()) :
    (Cursor.perform merge request).answer = (Cursor.perform flat request).answer ∧
      Event.advanced (Cursor.perform merge request).events =
        Event.advanced (Cursor.perform flat request).events ∧
      Flattens order R (Cursor.perform merge request).state (Cursor.perform flat request).state := by
  cases request with
  | advance =>
    obtain ⟨answer, rest⟩ := flattens.advance grouping
    exact ⟨congrArg Answer.moved answer, rest⟩
  | currentRow => exact ⟨congrArg Answer.row flattens.current.symm, rfl, flattens⟩
  | rowCount =>
    obtain ⟨answer, rest⟩ := flattens.rowCount grouping
    exact ⟨congrArg Answer.count answer, rest⟩
  | reset =>
    obtain ⟨answer, rest⟩ := flattens.reset grouping (ok rfl)
    exact ⟨congrArg Answer.done answer, rest⟩
  | close =>
    obtain ⟨answer, rest⟩ := flattens.close grouping
    exact ⟨congrArg Answer.done answer, rest⟩
  | needsClose =>
    have answer := grouping.join.needsClose flattens.joined
    exact ⟨congrArg Answer.held answer, rfl, flattens⟩
  | schema =>
    obtain ⟨first, rest, lanes, answer⟩ := grouping.join.schema flattens.joined
    have top : flat.schema = first.schema := by rw [Merge.schema, lanes]
    exact ⟨congrArg Answer.columns (answer.trans top.symm), rfl, flattens⟩

end Flattens

/-! ## Runs -/

/-- Whenever a reset is among the requests, the sources of all lanes can go back. -/
def Rewindable (flat : Merge σ) (requests : List Request) : Prop :=
  ∀ before after, requests = before ++ .reset :: after →
    ∀ lane ∈ (Cursor.run flat before).state.lanes, (Cursor.reset lane.source).answer = .ok ()

theorem rewindable_nil (flat : Merge σ) : Rewindable flat [] := by
  intro before after split
  simp at split

theorem rewindable_cons {request : Request} {rest : List Request} :
    Rewindable flat (request :: rest) ↔
      (request = .reset → ∀ lane ∈ flat.lanes, (Cursor.reset lane.source).answer = .ok ()) ∧
        Rewindable (Cursor.perform flat request).state rest := by
  constructor
  · intro rewindable
    constructor
    -- the first request is the one with nothing before it
    · rintro rfl
      exact rewindable [] rest rfl
    · rintro before after rfl
      exact rewindable (request :: before) after rfl
  · rintro ⟨first, later⟩ before after split
    cases before with
    | nil => exact first (List.cons.inj split).1
    | cons _ before =>
      obtain ⟨rfl, tail⟩ := List.cons.inj split
      exact later before after tail

theorem Flattens.run [Std.TransCmp order] (flattens : Flattens order R merge flat)
    (grouping : Grouping order R) {requests : List Request} (rewindable : Rewindable flat requests) :
    (Cursor.run merge requests).answer = (Cursor.run flat requests).answer ∧
      Event.advanced (Cursor.run merge requests).events =
        Event.advanced (Cursor.run flat requests).events := by
  induction requests generalizing merge flat with
  | nil => exact ⟨rfl, rfl⟩
  | cons request rest ih =>
    obtain ⟨ok, later⟩ := rewindable_cons.mp rewindable
    obtain ⟨answer, events, next⟩ := flattens.perform grouping ok
    obtain ⟨answers, events'⟩ := ih next later
    simp [Cursor.run, answer, answers, events, events']

end Merge

end RowMerge
