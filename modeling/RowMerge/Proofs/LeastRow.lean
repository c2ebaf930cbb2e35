import RowMerge.Proofs.Consistency

/-!
# The emitted row is the least

An advance that emits a row has compared it with the rows in all buffers, whether the sources are sorted
or not. Under a total preorder no row that is left in a buffer is less, and none of a lower lane is tied.
Under any order at all the advance emits a row as soon as the pulls have left one in a buffer, for the
selection passes over lanes without a row and never over the last one that has a row.
-/
namespace RowMerge.Merge

variable {σ : Type} {merge : Merge σ}

/-- What a row leads it is not greater than, and less than at every place before the lane left out. -/
theorem Leads.compare_at {order : Row → Row → Ordering} {front back : List (Lane σ)} {lane : Lane σ}
    {row : Row} (leads : Leads order front row back) (due : lane.lookahead = .pending) {place : Nat}
    {l : Lane σ} (found : (front ++ lane :: back)[place]? = some l) {other : Row}
    (held : l.lookahead = .buffered other) :
    order row other ≠ .gt ∧ (place < front.length → order row other = .lt) := by
  have content : l.currentRow = some other := Lane.currentRow_eq_some_iff.mpr held
  by_cases early : place < front.length
  · rw [List.getElem?_append_left early] at found
    have less := leads.less l (List.mem_of_getElem? found) other content
    simp [less]
  · -- the lane itself has no row
    have later : l ∈ back := by
      rw [List.getElem?_append_right (Nat.le_of_not_lt early)] at found
      rcases List.mem_cons.mp (List.mem_of_getElem? found) with rfl | later
      · rw [due] at held
        cases held
      · exact later
    exact ⟨Ordering.isLE_iff_ne_gt.mp (leads.least l later other content), fun less => absurd less early⟩

variable [Cursor σ]

/-- The emitted row leads the lanes on both sides of the one that it came from, which is due. -/
theorem leads_of_advance [Std.TransCmp merge.order] (indexed : Indexed merge.lanes)
    (answer : merge.advance.answer = .ok true) :
    ∃ front lane back row, merge.advance.state.lanes = front ++ lane :: back ∧
      merge.advance.state.current = some row ∧
      merge.advance.state.currentLane = some front.length ∧ lane.lookahead = .pending ∧
      Leads merge.order front row back := by
  have step := advances indexed
  rw [answer] at step
  generalize merge.advance.state = next at step ⊢
  cases step with
  | @emits before after lane row split pulled held won =>
    refine ⟨before.map refilled, (refilled lane).release, after.map refilled, row, rfl, rfl,
      by simp, ?_, leads_of_emitted indexed split held won⟩
    rw [Lane.release_of_buffered held]

theorem advance_emits_iff (indexed : Indexed merge.lanes)
    (pulled : ∀ lane ∈ merge.lanes, (pullPending lane).answer = .ok ()) :
    merge.advance.answer = .ok true ↔
      ∃ lane ∈ merge.lanes, ∃ row, (refilled lane).lookahead = .buffered row := by
  have step := advances indexed
  generalize merge.advance.answer = answer, merge.advance.state = next at step ⊢
  cases step with
  | @fails before after lane fault split _ failed =>
    have passed := pulled lane (by simp [split])
    cases passed.symm.trans failed
  | ends _ exhausted =>
    refine iff_of_false (by simp) ?_
    rintro ⟨lane, member, row, held⟩
    cases held.symm.trans (exhausted lane member)
  | @emits before after lane row split _ held _ =>
    exact iff_of_true rfl ⟨lane, by simp [split], row, held⟩

/-- From any state that requests have brought a merge to, over any sources: the row that an advance emits
is not greater than any row left in a buffer, and less than those of the lanes before the one it came
from, if the order is a total preorder. For any order, if the lanes that are due are pulled without a
fault, the advance emits a row exactly if a lane then has one in its buffer. -/
theorem emitted_row_least (reached : Reachable merge) :
    (Std.TransCmp merge.order → merge.advance.answer = .ok true →
      ∃ row number, merge.advance.state.current = some row ∧
        merge.advance.state.currentLane = some number ∧
        ∀ (place : Nat) (lane : Lane σ) (other : Row),
          merge.advance.state.lanes[place]? = some lane → lane.lookahead = .buffered other →
          merge.order row other ≠ .gt ∧ (place < number → merge.order row other = .lt)) ∧
    ((∀ lane ∈ merge.lanes, lane.lookahead = .pending → (pullPending lane).answer = .ok ()) →
      (merge.advance.answer = .ok true ↔
        ∃ lane ∈ merge.lanes, ∃ row, (refilled lane).lookahead = .buffered row)) := by
  have indexed := reached.consistent.indexed
  constructor
  · intro _ answer
    obtain ⟨front, lane, back, row, lanes, current, number, due, leads⟩ :=
      leads_of_advance indexed answer
    refine ⟨row, front.length, current, number, ?_⟩
    rw [lanes]
    exact fun place l other found held => leads.compare_at due found held
  · intro pulled
    apply advance_emits_iff indexed
    intro lane member
    by_cases due : lane.lookahead = .pending
    · exact pulled lane member due
    · rw [pullPending_of_settled due]
      rfl

/-- Three lanes have a row each: one with two columns, and two rows with one column, which are tied. The row
of the second lane is emitted. By an order that finds every row greater than every other, itself included,
a row is emitted as well. -/
theorem emitted_row_least_of_tied_scans :
    let narrow : Row := ⟨[.integer 2]⟩
    let other : Row := ⟨[.integer 1]⟩
    let wide : Row := ⟨[.integer 0, .integer 0]⟩
    let scans := [wide, narrow, other].map fun row => Scan.ofRows .empty [row]
    let merge := fresh (compareOn Row.arity) scans
    merge.advance.state.current = some narrow ∧ merge.advance.state.currentLane = some 1 ∧
      compareOn Row.arity narrow wide = .lt ∧ compareOn Row.arity narrow other ≠ .gt ∧
      (fresh (fun _ _ => .gt) scans).advance.answer = .ok true := by
  intro narrow other wide scans merge
  have reached : Reachable merge := ⟨{}, compareOn Row.arity, scans, _, [], rfl, rfl⟩
  have lawful : Std.TransCmp merge.order := inferInstanceAs (Std.TransCmp (compareOn Row.arity))
  have emitted : merge.advance.answer = .ok true := rfl
  let moved (row : Row) : Scan := ⟨.empty, [row], some 0, false⟩
  have state : merge.advance.state = { merge with
      lanes := [⟨0, moved wide, .buffered wide⟩, ⟨1, moved narrow, .pending⟩,
        ⟨2, moved other, .buffered other⟩]
      current := some narrow
      currentLane := some 1 } := rfl
  obtain ⟨row, number, current, lane, least⟩ := (emitted_row_least reached).1 lawful emitted
  rw [state] at current lane least ⊢
  cases current
  cases lane
  have below := least 0 _ wide rfl rfl
  have beside := least 2 _ other rfl rfl
  refine ⟨rfl, rfl, below.2 (by decide), beside.1, ?_⟩
  have lawless : Reachable (fresh (fun _ _ => .gt) scans) := ⟨{}, _, scans, _, [], rfl, rfl⟩
  refine ((emitted_row_least lawless).2 ?_).mpr ⟨_, List.mem_cons_self, wide, rfl⟩
  intro l member _
  exact Outcome.untilFault_ok_iff.mp rfl l member

end RowMerge.Merge
