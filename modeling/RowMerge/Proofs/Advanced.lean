import RowMerge.Proofs.Steps

/-!
# Advances among events

The order in which objects are advanced is read off the events of a call. The calls of a merge advance
nothing themselves: what they reach is what the calls to the lanes reach, from the first lane on.
-/
namespace RowMerge

namespace Event

/-- The name of the object that the event reports an advance of. -/
def advanced? : Event → Option String
  | call name .advance => some name
  | _ => none

/-- The objects that are advanced in the course of events. -/
def advanced (events : List Event) : List String := events.filterMap advanced?

@[simp] theorem advanced_nil : advanced [] = [] := rfl

@[simp] theorem advanced_append (first second : List Event) :
    advanced (first ++ second) = advanced first ++ advanced second := List.filterMap_append

@[simp] theorem advanced_note (note : Note) (events : List Event) :
    advanced (.note note :: events) = advanced events := rfl

theorem advanced_flatMap {α : Type} (events : α → List Event) (members : List α) :
    advanced (members.flatMap events) = members.flatMap fun member => advanced (events member) := by
  induction members with
  | nil => rfl
  | cons member rest ih => simp [ih]

end Event

namespace Merge

open Outcome (untilFault)

variable {σ : Type}

theorem advanced_select (merge : Merge σ) : Event.advanced merge.select.events = [] := by
  unfold select
  cases merge.winner with
  | some index => rfl
  | none => cases merge.currentLane <;> rfl

variable [Cursor σ]

theorem advanced_pullPending {lane : Lane σ} (pending : lane.lookahead = .pending) :
    Event.advanced (pullPending lane).events =
      Event.advanced (Cursor.advance lane.source).events := by
  have due : lane.isPending = true := Lane.isPending_iff.mpr pending
  simp only [pullPending, due, if_true, Outcome.events_map, Lane.pull, Outcome.events_bind,
    Event.advanced_append]
  cases (Cursor.advance lane.source).answer with
  | error fault => simp
  | ok more =>
    cases more with
    | false => simp
    | true => cases Cursor.currentRow (Cursor.advance lane.source).state <;> simp

theorem advanced_advance (merge : Merge σ) :
    Event.advanced merge.advance.events =
      Event.advanced (untilFault pullPending merge.lanes).events := by
  cases result : (untilFault pullPending merge.lanes).answer with
  | error fault => simp [advance, result]
  | ok _ => simp [advance, result, advanced_select]

theorem advanced_reset {merge : Merge σ}
    (ok : ∀ lane ∈ merge.lanes, (Cursor.reset lane.source).answer = .ok ()) :
    Event.advanced merge.reset.events =
      merge.lanes.flatMap fun lane => Event.advanced (Cursor.reset lane.source).events := by
  have passed : ∀ lane ∈ merge.lanes, lane.reset.answer = .ok () := by
    simpa only [answer_reset_lane] using ok
  simp [reset, Outcome.untilFault_of_ok passed, Event.advanced_flatMap, events_reset_lane]

theorem advanced_close (merge : Merge σ) :
    Event.advanced merge.close.events =
      merge.lanes.flatMap fun lane => Event.advanced (Cursor.close lane.source).events := by
  change Event.advanced (closeAll merge.lanes).events = _
  induction merge.lanes with
  | nil => rfl
  | cons lane rest ih =>
    cases answer : (Cursor.close lane.source).answer <;>
      simp [closeAll, Lane.close, answer, ih]

theorem advanced_sumCounts {lanes : List (Lane σ)}
    (quiet : ∀ lane ∈ lanes, Event.advanced (Cursor.rowCount lane.source).events = []) (total : Nat) :
    Event.advanced (sumCounts total lanes).events = [] := by
  induction lanes generalizing total with
  | nil => rfl
  | cons lane rest ih =>
    obtain ⟨first, later⟩ := List.forall_mem_cons.mp quiet
    cases sum : addCount total (Cursor.rowCount lane.source).answer with
    | none => simp [sumCounts, Lane.rowCount, sum, first]
    | some sum' => simp [sumCounts, Lane.rowCount, sum, first, ih later sum']

theorem advanced_rowCount {merge : Merge σ}
    (quiet : ∀ lane ∈ merge.lanes, Event.advanced (Cursor.rowCount lane.source).events = []) :
    Event.advanced merge.rowCount.events = [] := by
  unfold rowCount
  cases merge.count with
  | uncomputed => simp [advanced_sumCounts quiet]
  | known count => rfl
  | unknown => rfl

end Merge

end RowMerge
