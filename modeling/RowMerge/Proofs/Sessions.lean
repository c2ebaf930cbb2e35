import RowMerge.Proofs.Draining
import RowMerge.Proofs.Retries
import RowMerge.Proofs.Transcripts

/-!
# Drains one after the other

A drain keeps nothing of its cursor but whether it has stopped. So by however many drains a cursor is read,
each of them polled a number of times or until it has collected what is left, the items are those of
direct advances, dealt out in their order: a drain takes rows up to and including the first item that is no
row, and the next drain goes on with the item behind it. That a cursor shows a row whenever it
moves is needed once, where a drain would take a row that is not shown for the end.
-/
namespace RowMerge

open Cursor

variable {σ α β : Type} [Cursor σ]

/-! ## Direct advances -/

/-- The row that an advance shows, or the fault that it answers with; none at the end. -/
def Step.item (step : Step σ) : Option Act :=
  match step.answer with
  | .moved (.ok true) => (currentRow step.after).map .ok
  | .moved (.error fault) => some (.error fault)
  | _ => none

namespace Cursor

/-- What a number of advances show, one after the other. -/
def items (count : Nat) (s : σ) : List (Option Act) :=
  (transcript s (List.replicate count .advance)).map Step.item

theorem items_add (first second : Nat) (s : σ) :
    items (first + second) s =
      items first s ++ items second (run s (List.replicate first .advance)).state := by
  simp only [items, List.replicate_add, transcript_append, List.map_append]

/-- However often the cursor is advanced, it shows a row whenever it moves. -/
def AlwaysShows (s : σ) : Prop :=
  ∀ count, ¬ MovesUnseen (run s (List.replicate count .advance)).state

theorem AlwaysShows.run {s : σ} (shows : AlwaysShows s) (count : Nat) :
    AlwaysShows (run s (List.replicate count .advance)).state := by
  intro more
  have later := shows (count + more)
  rwa [List.replicate_add, run_append] at later

theorem AlwaysShows.advance {s : σ} (shows : AlwaysShows s) : AlwaysShows (advance s).state :=
  shows.run 1

/-- A call that answers from direct advances, whose items are its share, and does nothing else. -/
structure Spends (s : σ) (share : List (Option Act)) (outcome : Outcome σ α) : Prop where
  items : share = items share.length s
  state : outcome.state = (run s (List.replicate share.length .advance)).state
  events : outcome.events = (run s (List.replicate share.length .advance)).events

namespace Spends

variable {s : σ} {share : List (Option Act)} {outcome : Outcome σ α}

theorem silent (answer : α) (s : σ) : Spends s [] (.silent answer s) := ⟨rfl, rfl, rfl⟩

theorem map (spends : Spends s share outcome) (f : α → β) : Spends s share (outcome.map f) :=
  ⟨spends.items, spends.state, spends.events⟩

theorem bind (spends : Spends s share outcome) {share' : List (Option Act)}
    {next : α → σ → Outcome σ β}
    (later : Spends outcome.state share' (next outcome.answer outcome.state)) :
    Spends s (share ++ share') (outcome.bind next) := by
  obtain ⟨items, state, events⟩ := spends
  obtain ⟨items', state', events'⟩ := later
  rw [state] at items' state' events'
  constructor
  · rw [List.length_append, items_add, ← items, ← items']
  · rw [List.length_append, List.replicate_add, run_append, Outcome.state_bind, state, state']
    rfl
  · rw [List.length_append, List.replicate_add, run_append, Outcome.events_bind, state, events, events']
    rfl

theorem advance (s : σ) : Spends s [(stepOf s .advance).item] (Cursor.advance s) :=
  ⟨rfl, rfl, by simp [run, perform]⟩

end Spends

end Cursor

/-! ## One drain -/

/-- A drain that is polled a number of times, or one that collects rows by a number of items at most. -/
inductive Session where
  | poll (count : Nat)
  | collect (limit : Nat)

inductive Report where
  | polled (items : List (Option Act))
  | collected (rows? : Option (Except Fault (List Row)))

/-- A drain of its own for the session. -/
def Session.hold (s : σ) : Session → Outcome σ Report
  | .poll count => (Cursor.poll count s).map .polled
  | .collect limit => (Cursor.collect limit s).map .collected

def itemsOf (rows : List Row) : List (Option Act) := rows.map fun row => some (.ok row)

/-- What a session reports of its share of the items. -/
inductive Tells : Session → List (Option Act) → Report → Prop
  | polled (rows : List Row) : Tells (.poll rows.length) (itemsOf rows) (.polled (itemsOf rows))
  /-- Behind the first item that is no row, polls are answered with none. -/
  | polledPast (rows : List Row) {last : Option Act} (ending : Drain.Ending last) (idle : Nat) :
      Tells (.poll (idle + rows.length + 1)) (itemsOf rows ++ [last])
        (.polled (itemsOf rows ++ last :: List.replicate idle none))
  | collected (rows : List Row) {limit : Nat} (within : rows.length < limit) :
      Tells (.collect limit) (itemsOf rows ++ [none]) (.collected (some (.ok rows)))
  /-- The rows before a fault are dropped. -/
  | failed (rows : List Row) {limit : Nat} (within : rows.length < limit) (fault : Fault) :
      Tells (.collect limit) (itemsOf rows ++ [some (.error fault)])
        (.collected (some (.error fault)))
  /-- Only rows have come so far. -/
  | unfinished (rows : List Row) :
      Tells (.collect rows.length) (itemsOf rows) (.collected none)

namespace Tells

variable {share : List (Option Act)}

theorem cons_polled {count : Nat} {items : List (Option Act)}
    (tells : Tells (.poll count) share (.polled items)) (row : Row) :
    Tells (.poll (count + 1)) (some (.ok row) :: share) (.polled (some (.ok row) :: items)) := by
  cases tells with
  | polled rows => exact .polled (row :: rows)
  | polledPast rows ending idle => exact .polledPast (row :: rows) ending idle

theorem cons_collected {limit : Nat} {rows? : Option (Except Fault (List Row))}
    (tells : Tells (.collect limit) share (.collected rows?)) (row : Row) :
    Tells (.collect (limit + 1)) (some (.ok row) :: share)
      (.collected (rows?.map (·.map (row :: ·)))) := by
  cases tells with
  | collected rows within => exact .collected (row :: rows) (Nat.succ_lt_succ within)
  | failed rows within fault => exact .failed (row :: rows) (Nat.succ_lt_succ within) fault
  | unfinished rows => exact .unfinished (row :: rows)

end Tells

/-! ### The first advance of a drain -/

namespace Cursor

variable {s : σ}

theorem item_of_shown {row : Row} (moved : (advance s).answer = .ok true)
    (shown : currentRow (advance s).state = some row) :
    (stepOf s .advance).item = some (.ok row) := by
  simp [Step.item, stepOf, perform, moved, shown]

theorem item_of_end (ended : (advance s).answer = .ok false) : (stepOf s .advance).item = none := by
  simp [Step.item, stepOf, perform, ended]

theorem item_of_fault {fault : Fault} (failed : (advance s).answer = .error fault) :
    (stepOf s .advance).item = some (.error fault) := by
  simp [Step.item, stepOf, perform, failed]

/-- The next advance comes to the end or fails. -/
def Ends (s : σ) : Prop := (advance s).answer = .ok false ∨ ∃ fault, (advance s).answer = .error fault

theorem exists_row_or_ends (shows : AlwaysShows s) :
    (∃ row, (advance s).answer = .ok true ∧ currentRow (advance s).state = some row) ∨ Ends s := by
  rcases advance_cases s with shown | ended | failed | unseen
  · exact .inl shown
  · exact .inr (.inl ended)
  · exact .inr (.inr failed)
  · exact absurd unseen (shows 0)

theorem poll_of_shown {row : Row} (moved : (advance s).answer = .ok true)
    (shown : currentRow (advance s).state = some row) (count : Nat) :
    poll (count + 1) s = (advance s).bind fun _ s => (poll count s).map (some (.ok row) :: ·) := by
  simp [poll, Drain.poll, Drain.ofCursor, Drain.next, Outcome.bind, Outcome.map, Outcome.mapState,
    Outcome.silent, moved, shown]

/-- A drain that has stopped leaves the cursor alone. -/
theorem poll_of_ends (ends : Ends s) (count : Nat) :
    poll (count + 1) s = (advance s).bind fun _ s' =>
      .silent ((stepOf s .advance).item :: List.replicate count none) s' := by
  have stopped : (Drain.ofCursor s).next =
      ⟨(stepOf s .advance).item, ⟨(advance s).state, true⟩, (advance s).events⟩ := by
    rcases ends with ended | ⟨fault, failed⟩
    · rw [item_of_end ended]
      simp [Drain.next, Drain.ofCursor, Outcome.bind, Outcome.silent, ended]
    · rw [item_of_fault failed]
      simp [Drain.next, Drain.ofCursor, Outcome.bind, Outcome.silent, failed]
  have halted : (⟨(advance s).state, true⟩ : Drain σ).stopped = true := rfl
  have idle := Drain.poll_of_stopped halted count
  simp [poll, Drain.poll, stopped, idle, Outcome.bind, Outcome.map, Outcome.mapState, Outcome.silent]

theorem Ends.item (ends : Ends s) : Drain.Ending (stepOf s .advance).item := by
  rcases ends with ended | ⟨fault, failed⟩
  · exact .inl (item_of_end ended)
  · exact .inr ⟨fault, item_of_fault failed⟩

/-! ### Shares -/

theorem exists_share_of_poll (shows : AlwaysShows s) (count : Nat) :
    ∃ share, Tells (.poll count) share (.polled (poll count s).answer) ∧
      Spends s share (poll count s) := by
  -- a poll that gives a row leaves a drain like a new one, over the cursor behind that row
  induction count generalizing s with
  | zero => exact ⟨[], .polled [], .silent [] s⟩
  | succ count ih =>
    rcases exists_row_or_ends shows with ⟨row, moved, shown⟩ | ends
    · obtain ⟨share, tells, spends⟩ := ih shows.advance
      have first := Spends.advance s
      rw [item_of_shown moved shown] at first
      rw [poll_of_shown moved shown]
      exact ⟨_, tells.cons_polled row, first.bind (spends.map _)⟩
    · -- the other polls answer without an advance, so the share is the ending alone
      rw [poll_of_ends ends]
      exact ⟨_, .polledPast [] ends.item count, (Spends.advance s).bind (.silent _ _)⟩

theorem exists_share_of_collect (shows : AlwaysShows s) (limit : Nat) :
    ∃ share, Tells (.collect limit) share (.collected (collect limit s).answer) ∧
      Spends s share (collect limit s) := by
  induction limit generalizing s with
  | zero => exact ⟨[], .unfinished [], .silent none s⟩
  | succ limit ih =>
    have first := Spends.advance s
    rcases exists_row_or_ends shows with ⟨row, moved, shown⟩ | ended | ⟨fault, failed⟩
    · obtain ⟨share, tells, spends⟩ := ih shows.advance
      rw [item_of_shown moved shown] at first
      rw [collect_of_shown moved shown]
      exact ⟨_, tells.cons_collected row, first.bind (spends.map _)⟩
    · rw [item_of_end ended] at first
      rw [collect_of_ending (.inl ended)]
      exact ⟨_, .collected [] (Nat.succ_pos limit), first.bind (.silent _ _)⟩
    · rw [item_of_fault failed] at first
      rw [collect_of_fault failed]
      exact ⟨_, .failed [] (Nat.succ_pos limit) fault, first.bind (.silent _ _)⟩

theorem exists_share (shows : AlwaysShows s) (session : Session) :
    ∃ share, Tells session share (session.hold s).answer ∧ Spends s share (session.hold s) := by
  cases session with
  | poll count =>
    obtain ⟨share, tells, spends⟩ := exists_share_of_poll shows count
    exact ⟨share, tells, spends.map _⟩
  | collect limit =>
    obtain ⟨share, tells, spends⟩ := exists_share_of_collect shows limit
    exact ⟨share, tells, spends.map _⟩

end Cursor

/-! ## Many drains -/

/-- The sessions one after the other, each from where the one before it has left the cursor. -/
def attend (s : σ) : List Session → Outcome σ (List Report)
  | [] => .silent [] s
  | session :: rest => (session.hold s).bind fun report s => (attend s rest).map (report :: ·)

/-- The reports of sessions, each on a share of its own. -/
inductive Told : List Session → List (List (Option Act)) → List Report → Prop
  | nil : Told [] [] []
  | cons {session : Session} {share : List (Option Act)} {report : Report} {sessions : List Session}
      {shares : List (List (Option Act))} {reports : List Report} (here : Tells session share report)
      (behind : Told sessions shares reports) :
      Told (session :: sessions) (share :: shares) (report :: reports)

/-- All items of a share but one at the end are rows or faults. -/
theorem Tells.length_eq {session : Session} {share : List (Option Act)} {report : Report}
    (tells : Tells session share report) :
    share.length = (share.filterMap id).length + if share.any Option.isNone then 1 else 0 := by
  cases tells with
  | polled rows => simp [itemsOf]
  | polledPast rows ending idle =>
    rcases ending with rfl | ⟨fault, rfl⟩ <;> simp [itemsOf]
  | collected rows within => simp [itemsOf]
  | failed rows within fault => simp [itemsOf]
  | unfinished rows => simp [itemsOf]

theorem Told.length_eq {sessions : List Session} {shares : List (List (Option Act))}
    {reports : List Report} (told : Told sessions shares reports) :
    shares.flatten.length =
      (shares.flatten.filterMap id).length + shares.countP (·.any Option.isNone) := by
  induction told with
  | nil => rfl
  | cons here behind ih =>
    have first := here.length_eq
    simp only [List.flatten_cons, List.length_append, List.filterMap_append, List.countP_cons]
    omega

theorem exists_shares {s : σ} (shows : AlwaysShows s) (sessions : List Session) :
    ∃ shares, Told sessions shares (attend s sessions).answer ∧
      Spends s shares.flatten (attend s sessions) := by
  induction sessions generalizing s with
  | nil => exact ⟨[], .nil, .silent [] s⟩
  | cons session rest ih =>
    obtain ⟨share, tells, spends⟩ := exists_share shows session
    -- the rest of the sessions find a cursor that was advanced so many times
    have shows' : AlwaysShows (session.hold s).state := spends.state ▸ shows.run share.length
    obtain ⟨shares, told, spends'⟩ := ih shows'
    exact ⟨share :: shares, .cons tells told, spends.bind (spends'.map _)⟩

/-- A cursor that shows a row whenever it moves is read by any number of drains, one after the other, each
polled or collecting. Each takes a share of the items: rows, and one item that is no row if it stops at that.
The shares, put one after the other, are the items of as many direct advances, and these advances are all
that the cursor has seen: one for each row or fault, and one for each drain that came to the end. What a
drain reports is its share; behind an ending polls are answered with none, and a fault that ends a
collection is its answer. -/
theorem sessions_share_items {s : σ} (shows : AlwaysShows s) (sessions : List Session) :
    ∃ shares, Told sessions shares (attend s sessions).answer ∧
      Spends s shares.flatten (attend s sessions) ∧
      shares.flatten.length =
        (shares.flatten.filterMap id).length + shares.countP (·.any Option.isNone) := by
  obtain ⟨shares, told, spends⟩ := exists_shares shows sessions
  exact ⟨shares, told, spends, told.length_eq⟩

theorem Scripted.alwaysShows (source : Scripted) : AlwaysShows source := by
  have shows : ∀ source : Scripted, ¬ MovesUnseen source := by
    rintro ⟨script, _ | ⟨fault | row, rest⟩, current⟩ ⟨moved, hidden⟩
    · cases moved
    · cases moved
    · cases hidden
  exact fun count => shows _

/-- The first collection ends at a fault behind one row, which is dropped; the second one goes on behind
the fault. The last drain is polled past the end. -/
theorem sessions_share_items_past_fault :
    let row (n : Int64) : Row := ⟨[.integer n]⟩
    let lost : Fault := .source "connection lost"
    let source := Scripted.ofActs [.ok (row 1), .ok (row 2), .error lost, .ok (row 3)]
    let sessions : List Session := [.poll 1, .collect 9, .collect 9, .poll 2]
    let reports : List Report :=
      [.polled [some (.ok (row 1))], .collected (some (.error lost)), .collected (some (.ok [row 3])),
        .polled [none, none]]
    (attend source sessions).answer = reports ∧
      ∃ shares, Told sessions shares reports ∧ Spends source shares.flatten (attend source sessions) ∧
        shares.flatten.length =
          (shares.flatten.filterMap id).length + shares.countP (·.any Option.isNone) := by
  intro row lost source sessions reports
  have answer : (attend source sessions).answer = reports := rfl
  have shared := sessions_share_items source.alwaysShows sessions
  rw [answer] at shared
  exact ⟨answer, shared⟩

end RowMerge
