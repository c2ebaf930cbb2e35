import RowMerge.Proofs.Counts
import RowMerge.Proofs.Runs
import Mathlib.Algebra.GroupWithZero.Nat

/-!
# The row count of a merge

The first request for the row count asks the lanes one after the other and adds up what they declare,
with a check at every step. The total so found is the exact sum of all counts if each is known and the
sum is below the limit, and unknown otherwise: counts are not negative, so a running total that passes
the limit at one lane belongs to a sum that is past it. Whatever the answer is, it is remembered, and no
later request changes it or asks the lanes again.
-/
namespace RowMerge.Merge

/-! ## Exact sums -/

/-- All counts are known, and they add up to a sum of 64 bits. -/
structure SumsTo (counts : List (Option Nat)) (sum : Nat) : Prop where
  known : none ∉ counts
  total : (counts.filterMap id).sum = sum
  fits : sum < 2 ^ 64

theorem SumsTo.perm {counts others : List (Option Nat)} {sum : Nat} (sums : SumsTo counts sum)
    (same : counts.Perm others) : SumsTo others sum where
  known member := sums.known (same.mem_iff.mpr member)
  total := (same.filterMap id).sum_nat.symm.trans sums.total
  fits := sums.fits

/-- Running totals are exact. -/
theorem foldlM_addCount_eq_some_iff {total sum : Nat} {counts : List (Option Nat)}
    (below : total < countLimit) :
    counts.foldlM addCount total = some sum ↔
      none ∉ counts ∧ total + (counts.filterMap id).sum = sum ∧ sum < countLimit := by
  induction counts generalizing total with
  | nil =>
    simp only [List.foldlM_nil, pure, Option.some.injEq, List.not_mem_nil, not_false_eq_true,
      List.filterMap_nil, List.sum_nil, Nat.add_zero, true_and]
    exact ⟨fun same => ⟨same, same ▸ below⟩, And.left⟩
  | cons count? rest ih =>
    rw [List.foldlM_cons]
    cases count? with
    | none => simp [addCount]
    | some count =>
      by_cases fits : total + count < countLimit
      · have added : addCount total (some count) = some (total + count) :=
          addCount_eq_some_iff.mpr ⟨count, rfl, fits, rfl⟩
        simp [added, ih fits, Nat.add_assoc]
      · -- a total that is past the limit here stays past it
        have full : addCount total (some count) = none := by simp [addCount, fits]
        simp only [full, Option.bind_eq_bind, Option.bind_none, reduceCtorEq, false_iff, not_and,
          List.filterMap_cons, id_eq, List.sum_cons]
        omega

variable {σ : Type} [Cursor σ] {merge : Merge σ}

/-- What the sources of lanes would answer if they were asked for their row counts. -/
def declared (lanes : List (Lane σ)) : List (Option Nat) :=
  lanes.map fun lane => (Cursor.rowCount lane.source).answer

theorem tally_eq_some_iff {lanes : List (Lane σ)} {sum : Nat} :
    tally 0 lanes = some sum ↔ SumsTo (declared lanes) sum := by
  refine (foldlM_addCount_eq_some_iff countLimit_pos).trans ?_
  rw [Nat.zero_add]
  exact ⟨fun ⟨known, total, fits⟩ => ⟨known, total, fits⟩, fun ⟨known, total, fits⟩ => ⟨known, total, fits⟩⟩

/-! ## The first request -/

/-- A request for the row count reaches the sources of the first lanes, each once and from the first
lane on, up to the one whose count is unknown or carries the sum past the limit. Besides these sources
only the memo changes. -/
structure Asks (merge : Merge σ) (front back : List (Lane σ)) : Prop where
  split : merge.lanes = front ++ back
  events : merge.rowCount.events = front.flatMap fun lane => (Cursor.rowCount lane.source).events
  state : merge.rowCount.state = { merge with
    lanes := front.map asked ++ back
    count := .ofCount merge.rowCount.answer }
  known : ∀ before lane after, front = before ++ lane :: after → ∃ sum, SumsTo (declared before) sum
  stops : back ≠ [] → ¬ ∃ sum, SumsTo (declared front) sum

theorem exists_asks (uncomputed : merge.count = .uncomputed) : ∃ front back, Asks merge front back := by
  obtain ⟨front, back, walk, split, state, events⟩ := sumCounts_walk 0 merge.lanes
  refine ⟨front, back, split, ?_, ?_, ?_, ?_⟩
  · simp [rowCount, uncomputed, events]
  · simp [rowCount, uncomputed, state]
  · simpa only [tally_eq_some_iff] using walk.known
  · rintro more ⟨sum, sums⟩
    rcases walk.stops with none | unknown
    · exact more none
    · cases unknown.symm.trans (tally_eq_some_iff.mpr sums)

theorem rowCount_eq_some_iff (uncomputed : merge.count = .uncomputed) {sum : Nat} :
    merge.rowCount.answer = some sum ↔ SumsTo (declared merge.lanes) sum := by
  have answer : merge.rowCount.answer = tally 0 merge.lanes := by
    simp [rowCount, uncomputed, answer_sumCounts]
  rw [answer, tally_eq_some_iff]

/-- The order of the lanes does not matter. -/
theorem rowCount_of_perm {other : Merge σ} (uncomputed : merge.count = .uncomputed)
    (uncomputed' : other.count = .uncomputed)
    (same : (declared merge.lanes).Perm (declared other.lanes)) :
    other.rowCount.answer = merge.rowCount.answer := by
  refine Option.ext fun sum => ?_
  rw [rowCount_eq_some_iff uncomputed, rowCount_eq_some_iff uncomputed']
  exact ⟨fun sums => sums.perm same.symm, fun sums => sums.perm same⟩

/-! ## The memo -/

theorem remembered_rowCount (merge : Merge σ) :
    merge.rowCount.state.count = .ofCount merge.rowCount.answer := by
  obtain ⟨front, back, -, state⟩ := state_rowCount merge
  rw [state]

/-- Only a request for the row count changes what is remembered of it. -/
theorem count_perform {request : Request} (other : request ≠ .rowCount) :
    (Cursor.perform merge request).state.count = merge.count := by
  cases request with
  | advance =>
    change merge.advance.state.count = merge.count
    cases through : (Outcome.untilFault pullPending merge.lanes).answer with
    | error fault => rw [(advance_of_fault through).2]
    | ok _ =>
      rw [(advance_of_pulled through).2]
      exact (select_keeps _).2
  | reset =>
    change merge.reset.state.count = merge.count
    have step := resets merge
    generalize merge.reset.answer = answer, merge.reset.state = next at step ⊢
    cases step <;> rfl
  | close =>
    change merge.close.state.count = merge.count
    rw [state_close]
  | rowCount => exact absurd rfl other
  | currentRow | needsClose | schema => rfl

theorem count_run {requests : List Request} (uncounted : .rowCount ∉ requests) :
    (Cursor.run merge requests).state.count = merge.count := by
  refine Cursor.run_invariant_among (P := fun m : Merge σ => m.count = merge.count) ?_ rfl
  rintro m request member same
  have other : request ≠ .rowCount := by
    rintro rfl
    exact uncounted member
  exact (count_perform other).trans same

/-- What is remembered is remembered for good. -/
theorem remembered_run {count? : Option Nat} (remembered : merge.count = .ofCount count?)
    (requests : List Request) : (Cursor.run merge requests).state.count = .ofCount count? := by
  refine Cursor.run_invariant (P := fun m : Merge σ => m.count = .ofCount count?) ?_ remembered
    requests
  rintro m request remembered
  -- a request for the count finds the memo, and the others leave it alone
  by_cases counting : request = .rowCount
  · subst counting
    change m.rowCount.state.count = _
    rw [rowCount_of_remembered remembered]
    exact remembered
  · exact (count_perform counting).trans remembered

end RowMerge.Merge
