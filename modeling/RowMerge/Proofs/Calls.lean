import RowMerge.Merge

/-!
# Calls up to the first fault

Two walks over the lanes of a merge end at the first fault: the pulls of an advance, and a reset. A
walk either gets through, and then every member has made its step, or it stops at one member, and
then the members before it have made theirs and the members behind it are as they were.
-/
namespace RowMerge

namespace Outcome

variable {σ τ α : Type} {step : σ → Outcome σ (Except Fault Unit)}

theorem untilFault_of_ok {members : List σ} (ok : ∀ member ∈ members, (step member).answer = .ok ()) :
    untilFault step members = ⟨.ok (), members.map fun member => (step member).state,
      members.flatMap fun member => (step member).events⟩ := by
  induction members with
  | nil => rfl
  | cons member rest ih =>
    have first := ok member List.mem_cons_self
    have later := ih fun m mem => ok m (List.mem_cons_of_mem _ mem)
    simp [untilFault, bind, first, later, mapState]

theorem untilFault_of_fault {before after : List σ} {member : σ} {fault : Fault}
    (ok : ∀ m ∈ before, (step m).answer = .ok ()) (failed : (step member).answer = .error fault) :
    untilFault step (before ++ member :: after) =
      ⟨.error fault, before.map (fun m => (step m).state) ++ (step member).state :: after,
        before.flatMap (fun m => (step m).events) ++ (step member).events⟩ := by
  induction before with
  | nil => simp [untilFault, bind, failed, silent]
  | cons first rest ih =>
    have passed := ok first List.mem_cons_self
    have later := ih fun m mem => ok m (List.mem_cons_of_mem _ mem)
    simp [untilFault, bind, passed, later, mapState]

/-- A walk gets through or has a first fault. -/
theorem fault_or_ok (step : σ → Outcome σ (Except Fault Unit)) (members : List σ) :
    (∀ member ∈ members, (step member).answer = .ok ()) ∨
    ∃ before member after fault, members = before ++ member :: after ∧
      (∀ m ∈ before, (step m).answer = .ok ()) ∧ (step member).answer = .error fault := by
  induction members with
  | nil => exact .inl (by simp)
  | cons first rest ih =>
    -- a fault of the first member is the first fault; else that of the rest is
    cases answer : (step first).answer with
    | error fault => exact .inr ⟨[], first, rest, fault, rfl, by simp, answer⟩
    | ok _ =>
      rcases ih with ok | ⟨before, member, after, fault, rfl, ok, failed⟩
      · exact .inl (List.forall_mem_cons.mpr ⟨answer, ok⟩)
      · exact .inr ⟨first :: before, member, after, fault, rfl,
          List.forall_mem_cons.mpr ⟨answer, ok⟩, failed⟩

theorem untilFault_ok_iff {members : List σ} :
    (untilFault step members).answer = .ok () ↔
      ∀ member ∈ members, (step member).answer = .ok () := by
  constructor
  · intro through
    rcases fault_or_ok step members with ok | ⟨before, member, after, fault, rfl, ok, failed⟩
    · exact ok
    · rw [untilFault_of_fault ok failed] at through
      cases through
  · intro ok
    rw [untilFault_of_ok ok]

theorem untilFault_singleton (step : σ → Outcome σ (Except Fault Unit)) (member : σ) :
    untilFault step [member] = (step member).mapState ([·]) := by
  cases answer : (step member).answer <;>
    simp [untilFault, bind, answer, silent, mapState]

theorem untilFault_append (front back : List σ) :
    untilFault step (front ++ back) = (untilFault step front).bind fun answer front =>
      match answer with
      | .error fault => silent (.error fault) (front ++ back)
      | .ok () => (untilFault step back).mapState (front ++ ·) := by
  induction front with
  | nil => simp [untilFault, bind, silent, mapState]
  | cons member rest ih =>
    cases answer : (step member).answer with
    | error fault => simp [untilFault, bind, answer, silent]
    | ok _ =>
      -- the walk over the rest of the front may still fail
      simp only [List.cons_append, untilFault, bind, answer, ih, mapState]
      cases (untilFault step rest).answer <;> simp [silent]

/-- What no step changes is the same after the walk. -/
theorem map_untilFault {members : List σ} {f : σ → α}
    (kept : ∀ member ∈ members, f (step member).state = f member) :
    (untilFault step members).state.map f = members.map f := by
  induction members with
  | nil => rfl
  | cons member rest ih =>
    have first := kept member List.mem_cons_self
    have later := ih fun m present => kept m (List.mem_cons_of_mem _ present)
    cases answer : (step member).answer <;> simp [untilFault, answer, first, later]

end Outcome

/-! ## Pulls -/

namespace Lane

variable {σ : Type} {lane : Lane σ}

theorem isPending_iff : lane.isPending = true ↔ lane.lookahead = .pending := by
  unfold isPending
  split <;> simp_all

theorem isPending_eq_false_iff : lane.isPending = false ↔ lane.lookahead ≠ .pending := by
  rw [← Bool.not_eq_true, not_congr isPending_iff]

theorem currentRow_eq_some_iff {row : Row} :
    lane.currentRow = some row ↔ lane.lookahead = .buffered row := by
  unfold currentRow Lookahead.row?
  split <;> simp_all

/-- A lane that is not due for a pull and has no row is exhausted. -/
theorem exhausted_of_currentRow_eq_none (settled : lane.lookahead ≠ .pending)
    (none : lane.currentRow = none) : lane.lookahead = .exhausted := by
  cases content : lane.lookahead with
  | pending => exact absurd content settled
  | buffered row => rw [currentRow_eq_some_iff.mpr content] at none; cases none
  | exhausted => rfl

@[simp] theorem currentRow_of_exhausted (exhausted : lane.lookahead = .exhausted) :
    lane.currentRow = none := by
  simp [currentRow, exhausted, Lookahead.row?]

theorem release_of_buffered {row : Row} (held : lane.lookahead = .buffered row) :
    lane.release = { lane with lookahead := .pending } := by
  simp [release, held]

end Lane

namespace Merge

variable {σ : Type} [Cursor σ] {lane : Lane σ}

/-- A lane as a pull leaves it; nothing is pulled from a lane that is not due for it. -/
def refilled (lane : Lane σ) : Lane σ := (pullPending lane).state

/-- What a pull of a lane that is due for one does, by the answer of its source. A source that moves
without showing a row counts as failing. -/
inductive Pull (lane : Lane σ) : Except Fault Unit → Lane σ → Prop
  | failed {fault : Fault} (answer : (Cursor.advance lane.source).answer = .error fault) :
      Pull lane (.error fault) { lane with source := (Cursor.advance lane.source).state }
  | rowless (answer : (Cursor.advance lane.source).answer = .ok true)
      (absent : Cursor.currentRow (Cursor.advance lane.source).state = none) :
      Pull lane (.error (.noCurrentRow lane.index))
        { lane with source := (Cursor.advance lane.source).state }
  | ended (answer : (Cursor.advance lane.source).answer = .ok false) :
      Pull lane (.ok ())
        { lane with source := (Cursor.advance lane.source).state, lookahead := .exhausted }
  | row {row : Row} (answer : (Cursor.advance lane.source).answer = .ok true)
      (shown : Cursor.currentRow (Cursor.advance lane.source).state = some row) :
      Pull lane (.ok ())
        { lane with source := (Cursor.advance lane.source).state, lookahead := .buffered row }

theorem pull_of_fault (pending : lane.lookahead = .pending) {fault : Fault}
    (answer : (Cursor.advance lane.source).answer = .error fault) :
    (pullPending lane).answer = .error fault ∧
      refilled lane = { lane with source := (Cursor.advance lane.source).state } := by
  have due : lane.isPending = true := Lane.isPending_iff.mpr pending
  simp [refilled, pullPending, due, Lane.pull, answer, Except.map]

theorem pull_of_end (pending : lane.lookahead = .pending)
    (answer : (Cursor.advance lane.source).answer = .ok false) :
    (pullPending lane).answer = .ok () ∧ refilled lane =
      { lane with source := (Cursor.advance lane.source).state, lookahead := .exhausted } := by
  have due : lane.isPending = true := Lane.isPending_iff.mpr pending
  simp [refilled, pullPending, due, Lane.pull, answer, Except.map]

theorem pull_of_row (pending : lane.lookahead = .pending) {row : Row}
    (answer : (Cursor.advance lane.source).answer = .ok true)
    (shown : Cursor.currentRow (Cursor.advance lane.source).state = some row) :
    (pullPending lane).answer = .ok () ∧ refilled lane =
      { lane with source := (Cursor.advance lane.source).state, lookahead := .buffered row } := by
  have due : lane.isPending = true := Lane.isPending_iff.mpr pending
  simp [refilled, pullPending, due, Lane.pull, answer, shown, Except.map]

theorem pull_of_pending (pending : lane.lookahead = .pending) :
    Pull lane (pullPending lane).answer (refilled lane) := by
  -- the ways of a pull are the answers of the source
  cases answer : (Cursor.advance lane.source).answer with
  | error fault =>
    obtain ⟨result, next⟩ := pull_of_fault pending answer
    rw [result, next]
    exact .failed answer
  | ok more =>
    cases more with
    | false =>
      obtain ⟨result, next⟩ := pull_of_end pending answer
      rw [result, next]
      exact .ended answer
    | true =>
      cases shown : Cursor.currentRow (Cursor.advance lane.source).state with
      | none =>
        have due : lane.isPending = true := Lane.isPending_iff.mpr pending
        simpa [refilled, pullPending, due, Lane.pull, answer, shown, Except.map] using
          Pull.rowless answer shown
      | some row =>
        obtain ⟨result, next⟩ := pull_of_row pending answer shown
        rw [result, next]
        exact .row answer shown

theorem pullPending_of_settled (settled : lane.lookahead ≠ .pending) :
    pullPending lane = .silent (.ok ()) lane := by
  -- only a lane that is due is pulled
  have skipped : lane.isPending = false := Lane.isPending_eq_false_iff.mpr settled
  simp [pullPending, skipped]

/-- Where no lane is due for a pull, the pulls of an advance do nothing. -/
theorem untilFault_pullPending_of_settled {lanes : List (Lane σ)}
    (settled : ∀ lane ∈ lanes, lane.lookahead ≠ .pending) :
    Outcome.untilFault pullPending lanes = .silent (.ok ()) lanes := by
  induction lanes with
  | nil => rfl
  | cons lane rest ih =>
    have first := pullPending_of_settled (settled lane List.mem_cons_self)
    have later := ih fun l member => settled l (List.mem_cons_of_mem _ member)
    simp [Outcome.untilFault, first, later, Outcome.silent, Outcome.bind, Outcome.mapState]

theorem refilled_of_settled (settled : lane.lookahead ≠ .pending) : refilled lane = lane := by
  rw [refilled, pullPending_of_settled settled]
  rfl

@[simp] theorem index_refilled (lane : Lane σ) : (refilled lane).index = lane.index := by
  by_cases pending : lane.lookahead = .pending
  · have pull := pull_of_pending pending
    generalize (pullPending lane).answer = answer, refilled lane = after at pull ⊢
    cases pull <;> rfl
  · rw [refilled_of_settled pending]

theorem source_refilled_of_pending (pending : lane.lookahead = .pending) :
    (refilled lane).source = (Cursor.advance lane.source).state := by
  have pull := pull_of_pending pending
  generalize (pullPending lane).answer = answer, refilled lane = after at pull ⊢
  cases pull <;> rfl

/-- A pull fails exactly if it leaves the lane due for another one. -/
theorem pullPending_ok_iff (lane : Lane σ) :
    (pullPending lane).answer = .ok () ↔ (refilled lane).lookahead ≠ .pending := by
  by_cases pending : lane.lookahead = .pending
  · have pull := pull_of_pending pending
    generalize (pullPending lane).answer = answer, refilled lane = after at pull ⊢
    cases pull with
    | failed => simp [pending]
    | rowless => simp [pending]
    | ended => simp
    | row => simp
  · simp [refilled_of_settled pending, pullPending_of_settled pending, pending]

/-- A lane whose pull fails was due for it and still is. -/
theorem pending_of_fault {fault : Fault} (failed : (pullPending lane).answer = .error fault) :
    lane.lookahead = .pending ∧ (refilled lane).lookahead = .pending := by
  have unsettled : (refilled lane).lookahead = .pending := by
    refine Classical.byContradiction fun settled => ?_
    rw [(pullPending_ok_iff lane).mpr settled] at failed
    cases failed
  refine ⟨Classical.byContradiction fun settled => ?_, unsettled⟩
  rw [pullPending_of_settled settled] at failed
  cases failed

/-- After pulls that all succeed no lane is due for another one. -/
theorem settled_of_untilFault {lanes : List (Lane σ)}
    (through : (Outcome.untilFault pullPending lanes).answer = .ok ()) :
    ∀ lane ∈ (Outcome.untilFault pullPending lanes).state, lane.lookahead ≠ .pending := by
  have pulled := Outcome.untilFault_ok_iff.mp through
  rw [Outcome.untilFault_of_ok pulled]
  intro lane member
  obtain ⟨old, place, rfl⟩ := List.mem_map.mp member
  exact (pullPending_ok_iff old).mp (pulled old place)

end Merge

end RowMerge
