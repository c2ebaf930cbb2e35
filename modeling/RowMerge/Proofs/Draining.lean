import RowMerge.Proofs.Runs
import RowMerge.Cursor.Drain
import RowMerge.Cursor.Scan
import RowMerge.Cursor.Watched

/-!
# When a drain is over

A drain that has answered none or a fault is over: it answers none from then on and leaves its
cursor alone. What it collects is then all that the cursor had. Both hold of every cursor that shows
a row whenever it moves. The one gap is a cursor that moves and shows none: the drain answers none
like at an end, but it does not stop, and what is left of the cursor is not looked at.
-/
namespace RowMerge

open Cursor

/-- The next advance answers `true` and leaves the cursor without a current row. -/
def Cursor.MovesUnseen {σ : Type} [Cursor σ] (cursor : σ) : Prop :=
  (advance cursor).answer = .ok true ∧ currentRow (advance cursor).state = none

/-- What an advance can be to a drain. -/
theorem Cursor.advance_cases {σ : Type} [Cursor σ] (cursor : σ) :
    (∃ row, (advance cursor).answer = .ok true ∧ currentRow (advance cursor).state = some row) ∨
      (advance cursor).answer = .ok false ∨ (∃ fault, (advance cursor).answer = .error fault) ∨
      MovesUnseen cursor := by
  rcases answer : (advance cursor).answer with fault | _ | _
  · exact .inr (.inr (.inl ⟨fault, rfl⟩))
  · exact .inr (.inl rfl)
  · cases shown : currentRow (advance cursor).state with
    | none => exact .inr (.inr (.inr ⟨answer, shown⟩))
    | some row => exact .inl ⟨row, rfl, rfl⟩

namespace Drain

variable {σ : Type} [Cursor σ]

/-- None or a fault, after which a caller expects no more rows. -/
def Ending (item : Option (Except Fault Row)) : Prop :=
  item = none ∨ ∃ fault, item = some (.error fault)

/-! ## After the end -/

theorem poll_of_stopped {drain : Drain σ} (stopped : drain.stopped = true) (count : Nat) :
    poll count drain = .silent (List.replicate count none) drain := by
  induction count with
  | zero => rfl
  | succ count ih =>
    rw [poll, next_of_stopped stopped]
    simp only [Outcome.bind, Outcome.map, Outcome.silent, ih, List.replicate_succ, List.nil_append]

theorem next_of_unseen {drain : Drain σ} (running : drain.stopped = false)
    (unseen : MovesUnseen drain.cursor) :
    drain.next = (advance drain.cursor).bind fun _ cursor => .silent none ⟨cursor, false⟩ := by
  obtain ⟨moved, hidden⟩ := unseen
  simp [next, running, Outcome.bind, moved, hidden]

/-- Every ending stops the drain but the one that no row was shown at. -/
theorem stopped_or_unseen {drain : Drain σ} (ending : Ending drain.next.answer) :
    drain.next.state.stopped = true ∨ drain.stopped = false ∧ MovesUnseen drain.cursor := by
  cases running : drain.stopped with
  | true =>
    left
    rw [next_of_stopped running]
    exact running
  | false =>
    -- a row is no ending, and a fault and the answer `false` stop the drain
    rcases advance_cases drain.cursor with ⟨row, moved, shown⟩ | ended | ⟨fault, failed⟩ | unseen
    · simp [Ending, next, running, moved, shown] at ending
    · left
      simp [next, running, ended]
    · left
      simp [next, running, failed]
    · exact .inr ⟨rfl, unseen⟩

end Drain

/-! ## What is collected -/

namespace Cursor

variable {σ : Type} [Cursor σ]

/-- The first advance of a drain that collects, and what comes of its answer. -/
theorem collect_succ (limit : Nat) (cursor : σ) :
    collect (limit + 1) cursor = (advance cursor).bind fun answer cursor =>
      match answer, currentRow cursor with
      | .ok true, some row => (collect limit cursor).map fun rows? => rows?.map (·.map (row :: ·))
      | .ok true, none => .silent (some (.ok [])) cursor
      | .ok false, _ => .silent (some (.ok [])) cursor
      | .error fault, _ => .silent (some (.error fault)) cursor := by
  simp only [collect, Drain.collect, Drain.ofCursor, Drain.next, Outcome.bind, Outcome.map,
    Outcome.mapState, Outcome.silent]
  rcases (advance cursor).answer with fault | _ | _
  · simp
  · simp
  · cases currentRow (advance cursor).state <;> simp

theorem collect_of_shown {cursor : σ} {row : Row} (moved : (advance cursor).answer = .ok true)
    (shown : currentRow (advance cursor).state = some row) (limit : Nat) :
    collect (limit + 1) cursor = (advance cursor).bind fun _ cursor =>
      (collect limit cursor).map fun rows? => rows?.map (·.map (row :: ·)) := by
  simp only [collect_succ, Outcome.bind, moved, shown]

theorem collect_of_ending {cursor : σ}
    (ending : (advance cursor).answer = .ok false ∨ MovesUnseen cursor) (limit : Nat) :
    collect (limit + 1) cursor = (advance cursor).bind fun _ cursor =>
      .silent (some (.ok [])) cursor := by
  rcases ending with ended | ⟨moved, hidden⟩
  · simp only [collect_succ, Outcome.bind, ended]
  · simp only [collect_succ, Outcome.bind, moved, hidden]

theorem collect_of_fault {cursor : σ} {fault : Fault}
    (failed : (advance cursor).answer = .error fault) (limit : Nat) :
    collect (limit + 1) cursor = (advance cursor).bind fun _ cursor =>
      .silent (some (.error fault)) cursor := by
  simp only [collect_succ, Outcome.bind, failed]

theorem of_map_cons {row : Row} {rows : List Row} {rows? : Option (Except Fault (List Row))}
    (collected : (rows?.map fun answer => answer.map (row :: ·)) = some (.ok rows)) :
    ∃ rest, rows? = some (.ok rest) ∧ row :: rest = rows := by
  rcases rows? with _ | fault | rest
  · simp at collected
  · simp [Except.map] at collected
  · simpa [Except.map] using collected

/-- The calls behind a list of rows are one advance for each row and one more, which ended the
drain. -/
theorem calls_of_collect {limit : Nat} {cursor : σ} {rows : List Row}
    (collected : (collect limit cursor).answer = some (.ok rows)) :
    (collect limit cursor).state = (run cursor (List.replicate (rows.length + 1) .advance)).state ∧
      (collect limit cursor).events =
        (run cursor (List.replicate (rows.length + 1) .advance)).events ∧
      ((advance (run cursor (List.replicate rows.length .advance)).state).answer = .ok false ∨
        MovesUnseen (run cursor (List.replicate rows.length .advance)).state) := by
  induction limit generalizing cursor rows with
  | zero => simp [collect, Drain.collect] at collected
  | succ limit ih =>
    by_cases ending : (advance cursor).answer = .ok false ∨ MovesUnseen cursor
    · rw [collect_of_ending ending] at collected ⊢
      cases collected
      refine ⟨?_, ?_, ending⟩ <;> simp [run, perform]
    · rcases advance_cases cursor with ⟨row, moved, shown⟩ | ended | ⟨fault, failed⟩ | unseen
      · -- the first advance shows a row, and the rest is collected from there
        rw [collect_of_shown moved shown] at collected ⊢
        obtain ⟨rest, tail, rfl⟩ := of_map_cons collected
        obtain ⟨state, events, last⟩ := ih tail
        refine ⟨state, ?_, last⟩
        simp only [Outcome.events_bind, Outcome.events_map, events]
        rfl
      · exact absurd (.inl ended) ending
      · rw [collect_of_fault failed] at collected
        simp at collected
      · exact absurd (.inr unseen) ending

end Cursor

namespace Drain

variable {σ : Type} [Cursor σ]

theorem advance_mem_events {drain : Drain (Watched σ)} (running : drain.stopped = false) :
    .call drain.cursor.name .advance ∈ drain.next.events := by
  simp only [next, running, Bool.false_eq_true, if_false, Outcome.events_bind]
  exact List.mem_append_left _ List.mem_cons_self

/-- A drain whose item was an ending is over, and a list that was collected is what the cursor had
when its last advance answered `false`. Both fail exactly where that advance moved without showing a
row. The calls that reach a watched cursor are among the events, so a drain that is silent makes
none. -/
theorem over_iff_not_unseen (drain : Drain (Watched σ)) (source : Watched σ) (limit : Nat)
    (rows : List Row) :
    (Ending drain.next.answer →
      ((∀ count, poll count drain.next.state =
          .silent (List.replicate count none) drain.next.state) ↔
        ¬ (drain.stopped = false ∧ MovesUnseen drain.cursor))) ∧
    ((Cursor.collect limit source).answer = some (.ok rows) →
      (Cursor.collect limit source).state =
        (run source (List.replicate (rows.length + 1) .advance)).state ∧
      (Cursor.collect limit source).events =
        (run source (List.replicate (rows.length + 1) .advance)).events ∧
      ((advance (run source (List.replicate rows.length .advance)).state).answer = .ok false ↔
        ¬ MovesUnseen (run source (List.replicate rows.length .advance)).state)) := by
  constructor
  · intro ending
    constructor
    · rintro idle ⟨running, unseen⟩
      -- the drain still runs, so the next item takes a call
      have running : drain.next.state.stopped = false := by rw [next_of_unseen running unseen]; rfl
      have call := advance_mem_events running
      have silent : (poll 1 drain.next.state).events = [] := by rw [idle 1]; rfl
      simp only [poll, Outcome.events_bind, List.append_eq_nil_iff] at silent
      rw [silent.1] at call
      exact List.not_mem_nil call
    · intro seen count
      rcases stopped_or_unseen ending with stopped | unseen
      · exact poll_of_stopped stopped count
      · exact absurd unseen seen
  · intro collected
    obtain ⟨state, events, last⟩ := calls_of_collect collected
    refine ⟨state, events, ?_⟩
    constructor
    · rintro ended ⟨moved, -⟩
      simp [ended] at moved
    · intro seen
      exact last.resolve_right seen

/-- A scan of one row: the drain is over after the row, and what is collected is the whole scan. -/
theorem over_of_scan :
    let row : Row := ⟨[.integer 1]⟩
    let source : Watched Scan := ⟨"s", none, .ofRows .empty [row]⟩
    let drain := (Drain.ofCursor source).next.state
    (∀ count, poll count drain.next.state =
        .silent (List.replicate count none) drain.next.state) ∧
      (advance (run source [.advance]).state).answer = .ok false := by
  intro row source drain
  have ended : (advance drain.cursor).answer = .ok false := rfl
  have seen : ¬ MovesUnseen drain.cursor := by
    rintro ⟨moved, -⟩
    simp [ended] at moved
  obtain ⟨idle, whole⟩ := over_iff_not_unseen drain source 2 [row]
  exact ⟨(idle (.inl rfl)).mpr fun ⟨_, unseen⟩ => seen unseen, (whole rfl).2.2.mpr seen⟩

end Drain

/-! ## A cursor with gaps -/

/-- A cursor whose advances go through a list that has gaps between its rows. -/
structure Gapped where
  current : Option Row
  ahead : List (Option Row)

instance : Cursor Gapped where
  advance cursor :=
    match cursor.ahead with
    | [] => .silent (.ok false) ⟨none, []⟩
    | row? :: ahead => .silent (.ok true) ⟨row?, ahead⟩
  reset := .silent (.ok ())
  close := .silent (.ok ())
  rowCount := .silent none
  currentRow := Gapped.current
  needsClose _ := false
  schema _ := .empty

/-- At a gap the drain answers none and then goes on to the row behind it, with a second call. The
rows collected up to the gap are none, although the only advance answered `true`. -/
theorem Gapped.drain_goes_on :
    let row : Row := ⟨[.integer 1]⟩
    let source : Watched Gapped := ⟨"s", none, ⟨none, [none, some row]⟩⟩
    let drain := Drain.ofCursor source
    drain.next.answer = none ∧
      drain.next.state.next.answer = some (.ok row) ∧
      drain.next.state.next.events = [.call "s" .advance] ∧
      (Cursor.collect 2 source).answer = some (.ok []) ∧
      (Cursor.collect 2 source).events = [.call "s" .advance] ∧
      (advance source).answer = .ok true := by
  refine ⟨rfl, rfl, rfl, rfl, rfl, rfl⟩

end RowMerge
