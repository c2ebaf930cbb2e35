import RowMerge.Proofs.Selection
import RowMerge.Cursor.Request

/-!
# What the operations of a merge can do

Each operation of a merge has one statement here that lists its ways to end with the state each of
them leaves. An advance fails at one lane, finds every lane exhausted, or emits the row of the
winner. A reset fails at one lane or rewinds all. Closing and asking for the row count change
sources, but never what a lane has in its buffer.
-/
namespace RowMerge.Merge

variable {σ : Type} {merge : Merge σ}

/-! ## Selection -/

theorem select_of_no_winner (lost : merge.winner = none) :
    merge.select.answer = false ∧
      merge.select.state = { merge with current := none, currentLane := none } := by
  simp only [select, lost]
  split <;> exact ⟨rfl, rfl⟩

theorem select_of_winner {before after : List (Lane σ)} {lane : Lane σ} {row : Row}
    (split : merge.lanes = before ++ lane :: after) (held : lane.lookahead = .buffered row)
    (won : merge.winner = some before.length) :
    merge.select.answer = true ∧
      merge.select.state = { merge with
        lanes := before ++ lane.release :: after
        current := some row
        currentLane := some before.length } := by
  have content := Lane.currentRow_eq_some_iff.mpr held
  simp [select, won, split, content, List.modify_eq_take_cons_drop]

/-- A selection leaves the order and the memo of the row count alone. -/
theorem select_keeps (merge : Merge σ) :
    merge.select.state.order = merge.order ∧ merge.select.state.count = merge.count := by
  cases won : merge.winner with
  | none =>
    rw [(select_of_no_winner won).2]
    exact ⟨rfl, rfl⟩
  | some index => simp [select, won]

/-! ## Advance -/

variable [Cursor σ]

theorem advance_of_fault {fault : Fault}
    (failed : (Outcome.untilFault pullPending merge.lanes).answer = .error fault) :
    merge.advance.answer = .error fault ∧ merge.advance.state =
      { merge with lanes := (Outcome.untilFault pullPending merge.lanes).state } := by
  simp [advance, failed]

theorem advance_of_pulled
    (through : (Outcome.untilFault pullPending merge.lanes).answer = .ok ()) :
    let full := { merge with lanes := (Outcome.untilFault pullPending merge.lanes).state }
    merge.advance.answer = .ok full.select.answer ∧ merge.advance.state = full.select.state := by
  simp [advance, through]

theorem Indexed.refilled {lanes : List (Lane σ)} (indexed : Indexed lanes) :
    Indexed (lanes.map refilled) :=
  indexed.of_map_index (by simp [Function.comp_def])

/-- Where every pull succeeds, the row of the lane that wins among the pulled ones is emitted. -/
theorem advance_of_winner {before after : List (Lane σ)} {lane : Lane σ} {row : Row}
    (pulled : ∀ l ∈ merge.lanes, (pullPending l).answer = .ok ())
    (split : merge.lanes.map refilled = before ++ lane :: after)
    (held : lane.lookahead = .buffered row)
    (won : { merge with lanes := merge.lanes.map refilled }.winner = some before.length) :
    merge.advance.answer = .ok true ∧
      merge.advance.state = { merge with
        lanes := before ++ lane.release :: after
        current := some row
        currentLane := some before.length } := by
  have through : Outcome.untilFault pullPending merge.lanes =
      ⟨.ok (), merge.lanes.map refilled, _⟩ := Outcome.untilFault_of_ok pulled
  have selected := advance_of_pulled (congrArg Outcome.answer through)
  rw [through] at selected
  obtain ⟨answer, state⟩ := selected
  obtain ⟨yes, kept⟩ := select_of_winner split held won
  exact ⟨answer.trans (congrArg Except.ok yes), state.trans kept⟩

/-- The ways for an advance to end, with its answer and the state after it. -/
inductive Advances (merge : Merge σ) : Except Fault Bool → Merge σ → Prop
  /-- The pull of a lane fails; the lanes behind it are not looked at. -/
  | fails {before after : List (Lane σ)} {lane : Lane σ} {fault : Fault}
      (split : merge.lanes = before ++ lane :: after)
      (pulled : ∀ l ∈ before, (pullPending l).answer = .ok ())
      (failed : (pullPending lane).answer = .error fault) :
      Advances merge (.error fault)
        { merge with lanes := before.map refilled ++ refilled lane :: after }
  /-- No lane has a row left. -/
  | ends (pulled : ∀ l ∈ merge.lanes, (pullPending l).answer = .ok ())
      (exhausted : ∀ l ∈ merge.lanes, (refilled l).lookahead = .exhausted) :
      Advances merge (.ok false)
        { merge with lanes := merge.lanes.map refilled, current := none, currentLane := none }
  /-- The row of one lane becomes the current one. -/
  | emits {before after : List (Lane σ)} {lane : Lane σ} {row : Row}
      (split : merge.lanes = before ++ lane :: after)
      (pulled : ∀ l ∈ merge.lanes, (pullPending l).answer = .ok ())
      (held : (refilled lane).lookahead = .buffered row)
      (won : { merge with lanes := merge.lanes.map refilled }.winner = some before.length) :
      Advances merge (.ok true)
        { merge with
          lanes := before.map refilled ++ (refilled lane).release :: after.map refilled
          current := some row
          currentLane := some before.length }

theorem advances (indexed : Indexed merge.lanes) :
    Advances merge merge.advance.answer merge.advance.state := by
  rcases Outcome.fault_or_ok pullPending merge.lanes with
    pulled | ⟨before, lane, after, fault, split, pulled, failed⟩
  · have through : Outcome.untilFault pullPending merge.lanes =
        ⟨.ok (), merge.lanes.map refilled, _⟩ := Outcome.untilFault_of_ok pulled
    let full := { merge with lanes := merge.lanes.map refilled }
    have selected := advance_of_pulled (congrArg Outcome.answer through)
    rw [through] at selected
    obtain ⟨answer, state⟩ := selected
    rw [answer, state]
    change Advances merge (.ok full.select.answer) full.select.state
    -- every lane has been pulled, and what is left is the selection
    cases won : full.winner with
    | none =>
      obtain ⟨no, kept⟩ := select_of_no_winner won
      rw [no, kept]
      refine .ends pulled fun l member => ?_
      have content := winner_eq_none_iff.mp won _ (List.mem_map_of_mem member)
      exact Lane.exhausted_of_currentRow_eq_none ((pullPending_ok_iff l).mp (pulled l member)) content
    | some index =>
      -- the winner among the pulled lanes is the image of a lane
      obtain ⟨before', lane', after', row, split', rfl, held⟩ := exists_of_winner indexed.refilled won
      obtain ⟨before, rest, split, rfl, tail⟩ := List.map_eq_append_iff.mp split'
      obtain ⟨lane, after, rfl, rfl, rfl⟩ := List.map_eq_cons_iff.mp tail
      obtain ⟨yes, kept⟩ := select_of_winner split' held won
      rw [yes, kept]
      simpa [full] using Advances.emits split pulled held (by simpa [full] using won)
  · have stopped : Outcome.untilFault pullPending merge.lanes =
        ⟨.error fault, before.map refilled ++ refilled lane :: after, _⟩ :=
      split ▸ Outcome.untilFault_of_fault pulled failed
    obtain ⟨answer, state⟩ := advance_of_fault (congrArg Outcome.answer stopped)
    rw [answer, state, stopped]
    exact .fails split pulled failed

/-- A row that is emitted leads the lanes on both sides, as the pulls have left them. -/
theorem leads_of_emitted [Std.TransCmp merge.order] (indexed : Indexed merge.lanes)
    {before after : List (Lane σ)} {lane : Lane σ} {row : Row}
    (split : merge.lanes = before ++ lane :: after) (held : (refilled lane).lookahead = .buffered row)
    (won : { merge with lanes := merge.lanes.map refilled }.winner = some before.length) :
    Leads merge.order (before.map refilled) row (after.map refilled) := by
  let full : Merge σ := { merge with lanes := merge.lanes.map refilled }
  have split' : full.lanes = before.map refilled ++ refilled lane :: after.map refilled := by
    simp [full, split]
  have won' : full.winner = some (before.map refilled).length := by rw [List.length_map, won]
  change Leads full.order (before.map refilled) row (after.map refilled)
  exact leads_of_winner indexed.refilled split' held won'

/-- An advance keeps the numbers of the lanes, the order, and the memo of the row count. -/
theorem advance_keeps (indexed : Indexed merge.lanes) :
    merge.advance.state.lanes.map Lane.index = merge.lanes.map Lane.index ∧
      merge.advance.state.order = merge.order ∧ merge.advance.state.count = merge.count := by
  have step := advances indexed
  generalize merge.advance.answer = answer, merge.advance.state = next at step ⊢
  cases step with
  | fails split _ _ => exact ⟨by simp [split, Function.comp_def], rfl, rfl⟩
  | ends _ _ => exact ⟨by simp [Function.comp_def], rfl, rfl⟩
  | emits split _ _ _ => exact ⟨by simp [split, Function.comp_def], rfl, rfl⟩

theorem Indexed.advance (indexed : Indexed merge.lanes) : Indexed merge.advance.state.lanes :=
  indexed.of_map_index (advance_keeps indexed).1

/-- An advance that fails keeps the current row. -/
theorem current_advance_of_error (indexed : Indexed merge.lanes) {fault : Fault}
    (failed : merge.advance.answer = .error fault) : merge.advance.state.current = merge.current := by
  have step := advances indexed
  rw [failed] at step
  generalize merge.advance.state = next at step ⊢
  cases step
  rfl

/-! ## Reset -/

/-- A lane as a reset that succeeds leaves it. -/
def rewound (lane : Lane σ) : Lane σ := .ofSource lane.index (Cursor.reset lane.source).state

theorem answer_reset_lane (lane : Lane σ) :
    lane.reset.answer = (Cursor.reset lane.source).answer := by
  simp only [Lane.reset, Outcome.answer_bind]
  split <;> simp [*]

theorem events_reset_lane (lane : Lane σ) : lane.reset.events = (Cursor.reset lane.source).events := by
  simp only [Lane.reset, Outcome.events_bind]
  split <;> simp

theorem state_reset_lane_of_ok {lane : Lane σ} (ok : (Cursor.reset lane.source).answer = .ok ()) :
    lane.reset.state = rewound lane := by
  simp [Lane.reset, ok, rewound, Lane.ofSource]

theorem state_reset_lane_of_error {lane : Lane σ} {fault : Fault}
    (failed : (Cursor.reset lane.source).answer = .error fault) :
    lane.reset.state = { lane with source := (Cursor.reset lane.source).state } := by
  simp [Lane.reset, failed]

/-- The ways for a reset to end, with its answer and the state after it. -/
inductive Resets (merge : Merge σ) : Except Fault Unit → Merge σ → Prop
  /-- The lanes before the one that fails are rewound, and the current row stays. -/
  | fails {before after : List (Lane σ)} {lane : Lane σ} {fault : Fault}
      (split : merge.lanes = before ++ lane :: after)
      (ok : ∀ l ∈ before, (Cursor.reset l.source).answer = .ok ())
      (failed : (Cursor.reset lane.source).answer = .error fault) :
      Resets merge (.error fault)
        { merge with
          lanes := before.map rewound ++
            { lane with source := (Cursor.reset lane.source).state } :: after }
  | rewinds (ok : ∀ l ∈ merge.lanes, (Cursor.reset l.source).answer = .ok ()) :
      Resets merge (.ok ())
        { merge with lanes := merge.lanes.map rewound, current := none, currentLane := none }

theorem resets (merge : Merge σ) : Resets merge merge.reset.answer merge.reset.state := by
  rcases Outcome.fault_or_ok Lane.reset merge.lanes with
    ok | ⟨before, lane, after, fault, split, ok, failed⟩
  · have through := Outcome.untilFault_of_ok ok
    simp only [answer_reset_lane] at ok
    have lanes : merge.lanes.map (fun l => l.reset.state) = merge.lanes.map rewound :=
      List.map_congr_left fun l member => state_reset_lane_of_ok (ok l member)
    simpa [reset, through, lanes] using Resets.rewinds ok
  · have stopped : Outcome.untilFault Lane.reset (before ++ lane :: after) = _ :=
      Outcome.untilFault_of_fault ok failed
    simp only [answer_reset_lane] at ok failed
    have lanes : before.map (fun l => l.reset.state) = before.map rewound :=
      List.map_congr_left fun l member => state_reset_lane_of_ok (ok l member)
    simpa [reset, split, stopped, lanes, state_reset_lane_of_error failed] using
      Resets.fails split ok failed

theorem reset_of_ok (ok : ∀ l ∈ merge.lanes, (Cursor.reset l.source).answer = .ok ()) :
    merge.reset.answer = .ok () ∧
      merge.reset.state =
        { merge with lanes := merge.lanes.map rewound, current := none, currentLane := none } := by
  have step := resets merge
  generalize merge.reset.answer = answer, merge.reset.state = next at step ⊢
  cases step with
  | fails split _ failed =>
    have passed := ok _ (split ▸ List.mem_append_right _ List.mem_cons_self)
    cases failed.symm.trans passed
  | rewinds _ => exact ⟨rfl, rfl⟩

/-! ## Close -/

/-- A lane as a close leaves it, whatever its source answered. -/
def closed (lane : Lane σ) : Lane σ := { lane with source := (Cursor.close lane.source).state }

/-- The first fault among answers. -/
def firstFault : List (Except Fault Unit) → Except Fault Unit
  | [] => .ok ()
  | .error fault :: _ => .error fault
  | .ok () :: rest => firstFault rest

theorem firstFault_append (front back : List (Except Fault Unit)) :
    firstFault (front ++ back) =
      match firstFault front with
      | .error fault => .error fault
      | .ok () => firstFault back := by
  induction front with
  | nil => rfl
  | cons answer rest ih =>
    cases answer with
    | error fault => rfl
    | ok _ => exact ih

theorem firstFault_eq_ok_iff {answers : List (Except Fault Unit)} :
    firstFault answers = .ok () ↔ ∀ answer ∈ answers, answer = .ok () := by
  induction answers with
  | nil => simp [firstFault]
  | cons answer rest ih => cases answer <;> simp [firstFault, ih]

theorem closeAll_eq (lanes : List (Lane σ)) :
    (closeAll lanes).answer = firstFault (lanes.map fun l => (Cursor.close l.source).answer) ∧
      (closeAll lanes).state = lanes.map closed := by
  induction lanes with
  | nil => exact ⟨rfl, rfl⟩
  | cons lane rest ih =>
    cases answer : (Cursor.close lane.source).answer <;>
      simp [closeAll, Lane.close, answer, firstFault, ih, closed]

theorem state_close (merge : Merge σ) :
    merge.close.state =
      { merge with lanes := merge.lanes.map closed, current := none, currentLane := none } := by
  simp [close, (closeAll_eq merge.lanes).2]

/-! ## Row count -/

/-- A lane whose source has been asked for its row count. -/
def asked (lane : Lane σ) : Lane σ := { lane with source := (Cursor.rowCount lane.source).state }

/-- The row counts that the sources of lanes declare, added to a total. -/
def tally (total : Nat) (lanes : List (Lane σ)) : Option Nat :=
  (lanes.map fun lane => (Cursor.rowCount lane.source).answer).foldlM addCount total

theorem tally_cons (total : Nat) (lane : Lane σ) (rest : List (Lane σ)) :
    tally total (lane :: rest) =
      (addCount total (Cursor.rowCount lane.source).answer).bind fun sum => tally sum rest := by
  simp [tally]

theorem answer_sumCounts (total : Nat) (lanes : List (Lane σ)) :
    (sumCounts total lanes).answer = tally total lanes := by
  induction lanes generalizing total with
  | nil => rfl
  | cons lane rest ih =>
    rw [tally_cons]
    cases added : addCount total (Cursor.rowCount lane.source).answer with
    | none => simp [sumCounts, Lane.rowCount, added]
    | some sum => simp [sumCounts, Lane.rowCount, added, ih]

/-- The lanes that a running total asks: up to the first that leaves it unknown. -/
structure Walk (total : Nat) (front back : List (Lane σ)) : Prop where
  /-- What was declared before a lane that is asked has a total. -/
  known : ∀ before lane after, front = before ++ lane :: after → ∃ sum, tally total before = some sum
  /-- Only where the lanes that are asked have no total are there lanes that are not asked. -/
  stops : back = [] ∨ tally total front = none

theorem sumCounts_walk (total : Nat) (lanes : List (Lane σ)) :
    ∃ front back, Walk total front back ∧ lanes = front ++ back ∧
      (sumCounts total lanes).state = front.map asked ++ back ∧
      (sumCounts total lanes).events =
        front.flatMap fun lane => (Cursor.rowCount lane.source).events := by
  induction lanes generalizing total with
  | nil => exact ⟨[], [], ⟨by simp, .inl rfl⟩, rfl, rfl, rfl⟩
  | cons lane rest ih =>
    have start : ∃ sum, tally total ([] : List (Lane σ)) = some sum := ⟨total, rfl⟩
    cases added : addCount total (Cursor.rowCount lane.source).answer with
    | none =>
      refine ⟨[lane], rest, ⟨?_, .inr ?_⟩, rfl, ?_, ?_⟩
      · intro before other after split
        -- no other lane stands before the only one
        cases before with
        | nil => exact start
        | cons _ before => simp at split
      · rw [tally_cons, added]
        rfl
      · simp [sumCounts, Lane.rowCount, added, asked]
      · simp [sumCounts, Lane.rowCount, added]
    | some sum =>
      obtain ⟨front, back, walk, rfl, state, events⟩ := ih sum
      have later : ∀ lanes : List (Lane σ), tally total (lane :: lanes) = tally sum lanes := by
        intro lanes
        rw [tally_cons, added]
        rfl
      refine ⟨lane :: front, back, ⟨?_, ?_⟩, rfl, ?_, ?_⟩
      · intro before other after split
        cases before with
        | nil => exact start
        | cons _ before =>
          obtain ⟨rfl, behind⟩ := List.cons.inj split
          rw [later]
          exact walk.known before other after behind
      · rw [later]
        exact walk.stops
      · simp [sumCounts, Lane.rowCount, added, state, asked]
      · simp [sumCounts, Lane.rowCount, added, events]

/-- What is remembered is answered again, and no lane is asked. -/
theorem rowCount_of_remembered {count? : Option Nat} (remembered : merge.count = .ofCount count?) :
    merge.rowCount = .silent count? merge := by
  cases count? <;> simp [rowCount, remembered, CountMemo.ofCount]

/-- Asking for the row count sets the memo and asks some of the lanes, from the first one on. -/
theorem state_rowCount (merge : Merge σ) :
    ∃ front back, merge.lanes = front ++ back ∧
      merge.rowCount.state = { merge with
        lanes := front.map asked ++ back
        count := .ofCount merge.rowCount.answer } := by
  have again : ∀ count?, merge.count = .ofCount count? →
      merge.rowCount.state = { merge with count := .ofCount merge.rowCount.answer } := by
    intro count? remembered
    rw [rowCount_of_remembered remembered, Outcome.state_silent, Outcome.answer_silent, ← remembered]
  cases memo : merge.count with
  | known count => exact ⟨[], merge.lanes, rfl, again (some count) memo⟩
  | unknown => exact ⟨[], merge.lanes, rfl, again none memo⟩
  | uncomputed =>
    obtain ⟨front, back, -, split, state, -⟩ := sumCounts_walk 0 merge.lanes
    exact ⟨front, back, split, by simp [rowCount, memo, state]⟩

end RowMerge.Merge
