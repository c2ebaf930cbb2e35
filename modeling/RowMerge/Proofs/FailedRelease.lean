import RowMerge.Proofs.ClosedTrees
import RowMerge.Proofs.Transcripts

/-!
# After a close that fails

A remote scan whose pager fails to be released stays open and may be advanced further. It has dropped the
rows on its page by then, and the number of rows received, from which it goes on, counts them: so they are
skipped, and nothing else is. Before and after the close each advance takes the first row of what is left,
and the close takes away as many rows as were received and not delivered. No row is lost just where the
close finds the page empty.
-/
namespace RowMerge

open Cursor (stepOf transcript)

variable {φ : Type} [Pager φ]

/-! ## Pagers of a list -/

namespace Pager

/-- A pager that answers, whatever was asked of it before, with rows of a list from the offset on, as many
as are asked for or left or more, whenever a fetch does not fail. -/
def Pages (rows : List Row) (pager : φ) : Prop :=
  ∀ later, Reaches True pager later → ∀ offset limit page,
    (Pager.fetch later offset limit).answer = .ok page → PageOf rows offset limit page

theorem Pages.of_reaches {rows : List Row} {pager later : φ} (pages : Pages rows pager)
    (reached : Reaches True pager later) : Pages rows later :=
  fun _ on => pages _ (reached.trans on)

end Pager

/-! ## Scans under way -/

/-- The step is an advance that does not fail. -/
def Step.advanced {σ : Type} (step : Step σ) : Bool :=
  match step.answer with
  | .moved (.ok _) => true
  | _ => false

namespace Remote

/-- An open scan over a pager of a list, with the rows that it still has to deliver. -/
structure Underway (rows rest : List Row) (scan : Remote φ) : Prop where
  ahead : Ahead rows rest scan
  pages : Pager.Pages rows scan.pager

namespace Underway

variable {rows rest : List Row} {scan : Remote φ}

theorem ofPager {pager : φ} (pages : Pager.Pages rows pager) (schema : Schema) (pageSize : Nat) :
    Underway rows rows (Remote.ofPager schema pager pageSize) :=
  ⟨.ofPager rows schema pager pageSize, pages⟩

/-- An advance fails with its pager, or takes the first row of those that are left. -/
theorem advance (underway : Underway rows rest scan) :
    (∃ fault, scan.asked.answer = .error fault ∧ scan.advance.answer = .error fault ∧
      (stepOf scan .advance).row? = none ∧ Underway rows rest scan.advance.state) ∨
    scan.advance.answer = .ok rest.head?.isSome ∧ (stepOf scan .advance).row? = rest.head? ∧
      Underway rows rest.tail scan.advance.state := by
  have pages : Pager.Pages rows scan.advance.state.pager :=
    scan.keeps_advance.pager_of underway.pages (underway.pages.of_reaches (.fetch .start _ _))
  rcases underway.ahead.advance (underway.pages _ .start scan.received scan.pageSize) with
    ⟨fault, refused, answer, ahead⟩ | ⟨answer, current, ahead⟩
  · exact .inl ⟨fault, refused, answer, Cursor.row?_of_fault answer, ahead, pages⟩
  · have shown : Cursor.currentRow (Cursor.advance scan).state = rest.head? := current
    have row := Cursor.row?_of_advance answer (by rw [shown])
    exact .inr ⟨answer, row.trans shown, ahead, pages⟩

theorem rewound (underway : Underway rows rest scan) : Underway rows rows scan.rewound :=
  ⟨⟨underway.ahead.isOpen, underway.ahead.pageSize_pos, rfl, nofun⟩, underway.pages⟩

/-- What has been delivered since the last reset and what is left make up the list. -/
theorem perform {steps : List (Step (Remote φ))} (underway : Underway rows rest scan)
    (whole : delivered (sinceReset steps) ++ rest = rows) {request : Request}
    (unclosed : request ≠ .close) :
    ∃ rest', Underway rows rest' (Cursor.perform scan request).state ∧
      delivered (sinceReset (steps ++ [stepOf scan request])) ++ rest' = rows := by
  have step := performs underway.ahead.isOpen unclosed
  generalize (Cursor.perform scan request).state = next at step ⊢
  cases step with
  | advances =>
    rw [sinceReset_of_other (nofun : (stepOf scan .advance).request ≠ .reset), delivered_append,
      delivered_singleton]
    rcases underway.advance with ⟨fault, -, -, row, next⟩ | ⟨-, row, next⟩
    · exact ⟨rest, next, by simpa [row] using whole⟩
    · -- the row goes from what is left to what has been delivered
      refine ⟨rest.tail, next, ?_⟩
      rw [row, List.append_assoc]
      cases rest <;> simpa using whole
  | rewinds =>
    rw [sinceReset_of_reset (rfl : (stepOf scan .reset).request = .reset)]
    exact ⟨rows, underway.rewound, rfl⟩
  | stays waits forward =>
    rw [sinceReset_of_other (show (stepOf scan request).request ≠ .reset from forward),
      delivered_append, delivered_singleton, Cursor.row?_of_other scan waits]
    exact ⟨rest, underway, by simpa using whole⟩

end Underway

/-! ## Advances one after the other -/

/-- Steps that deliver what is left from its first row on, a row for each advance that does not fail; they
fail with the pager alone, and an advance finds no row only when all has been delivered. -/
structure Drains (rest : List Row) (later : List (Step (Remote φ))) : Prop where
  rows : delivered later = rest.take (later.countP Step.advanced)
  faults : ∀ step ∈ later, ∀ fault, step.answer = .moved (.error fault) →
    step.before.asked.answer = .error fault
  ended : (∃ step ∈ later, step.answer = .moved (.ok false)) → delivered later = rest

namespace Drains

variable {rest : List Row} {step : Step (Remote φ)} {later : List (Step (Remote φ))}

theorem nil (rest : List Row) : Drains rest ([] : List (Step (Remote φ))) :=
  ⟨by simp, by simp, by simp⟩

theorem cons_of_fault {fault : Fault} (answer : step.answer = .moved (.error fault))
    (row : step.row? = none) (refused : step.before.asked.answer = .error fault)
    (drains : Drains rest later) : Drains rest (step :: later) where
  rows := by
    have failed : step.advanced = false := by simp [Step.advanced, answer]
    simpa [row, failed] using drains.rows
  faults := by
    refine List.forall_mem_cons.mpr ⟨?_, drains.faults⟩
    intro other same
    cases answer.symm.trans same
    exact refused
  ended := by
    rintro ⟨last, member, ended⟩
    rcases List.mem_cons.mp member with rfl | member
    · cases answer.symm.trans ended
    · simpa [row] using drains.ended ⟨last, member, ended⟩

theorem cons_of_row (answer : step.answer = .moved (.ok rest.head?.isSome))
    (row : step.row? = rest.head?) (drains : Drains rest.tail later) :
    Drains rest (step :: later) where
  rows := by
    have moved : step.advanced = true := by simp [Step.advanced, answer]
    rw [delivered_cons, row, drains.rows, List.countP_cons_of_pos moved]
    cases rest <;> simp
  faults := by
    refine List.forall_mem_cons.mpr ⟨?_, drains.faults⟩
    intro other same
    cases answer.symm.trans same
  ended := by
    rintro ⟨last, member, ended⟩
    rw [delivered_cons, row]
    rcases List.mem_cons.mp member with rfl | member
    · -- nothing was left, so nothing is delivered
      have none : rest = [] := by simpa [answer] using ended
      subst none
      simpa using drains.rows
    · rw [drains.ended ⟨last, member, ended⟩]
      cases rest <;> simp

end Drains

theorem Underway.drains {rows rest : List Row} {scan : Remote φ} (underway : Underway rows rest scan)
    (count : Nat) : Drains rest (transcript scan (List.replicate count .advance)) := by
  induction count generalizing scan rest with
  | zero => exact .nil rest
  | succ count ih =>
    rw [List.replicate_succ]
    rcases underway.advance with ⟨fault, refused, answer, row, next⟩ | ⟨answer, row, next⟩
    · exact .cons_of_fault (congrArg Answer.moved answer) row refused (ih next)
    · exact .cons_of_row (congrArg Answer.moved answer) row (ih next)

/-! ## The close -/

theorem close_of_refusal {scan : Remote φ} (isOpen : scan.closed = false) {fault : Fault}
    (refused : (Pager.release scan.pager).answer = .error fault) :
    scan.close.answer = .error fault ∧ scan.close.state =
      { scan with pager := (Pager.release scan.pager).state, page := [], current := none } := by
  simp [close, isOpen, refused]

/-- The rows on the page are no longer left. -/
theorem Underway.close {rows rest : List Row} {scan : Remote φ} (underway : Underway rows rest scan)
    {fault : Fault} (refused : (Pager.release scan.pager).answer = .error fault) :
    Underway rows (rows.drop scan.received) scan.close.state := by
  obtain ⟨-, state⟩ := close_of_refusal underway.ahead.isOpen refused
  rw [state]
  exact ⟨⟨underway.ahead.isOpen, underway.ahead.pageSize_pos, rfl, underway.ahead.drained⟩,
    underway.pages.of_reaches (.release trivial .start)⟩

/-- What has been delivered by a new scan since it was last reset, and what it has still to deliver. -/
theorem exists_underway {rows : List Row} {pager : φ} (pages : Pager.Pages rows pager)
    (schema : Schema) (pageSize : Nat) {requests : List Request} (unclosed : .close ∉ requests) :
    let start := ofPager schema pager pageSize
    ∃ rest, Underway rows rest (Cursor.run start requests).state ∧
      delivered (sinceReset (transcript start requests)) ++ rest = rows := by
  intro start
  refine Cursor.transcript_invariant (P := fun scan steps =>
    ∃ rest, Underway rows rest scan ∧ delivered (sinceReset steps) ++ rest = rows) ?_ ?_
  · rintro scan steps request member ⟨rest, underway, whole⟩
    exact underway.perform whole fun closes => unclosed (closes ▸ member)
  · exact ⟨rows, .ofPager pages schema pageSize, rfl⟩

/-- A new scan over a pager of a list, after any advances and resets, is closed and its pager is not
released. The close answers with the fault, the scan is still open, and the advances that follow deliver
the list from behind the rows that were on the page. Once they have come to the end, what they have
delivered is all that had not been delivered before the close just in case the page was empty. -/
theorem delivered_after_refusal {rows : List Row} {pager : φ} (pages : Pager.Pages rows pager)
    (schema : Schema) (pageSize : Nat) {requests : List Request} (unclosed : .close ∉ requests)
    {fault : Fault} :
    let start := ofPager schema pager pageSize
    let scan := (Cursor.run start requests).state
    let seen := delivered (sinceReset (transcript start requests))
    (Pager.release scan.pager).answer = .error fault →
      (Cursor.close scan).answer = .error fault ∧
      Cursor.needsClose (Cursor.close scan).state = true ∧
      seen ++ scan.page <+: rows ∧
      ∀ count,
        let later := transcript (Cursor.close scan).state (List.replicate count .advance)
        Drains (rows.drop (seen ++ scan.page).length) later ∧
        ((∃ step ∈ later, step.answer = .moved (.ok false)) →
          (delivered later = rows.drop seen.length ↔ scan.page = [])) := by
  intro start scan seen refused
  obtain ⟨rest, underway, whole⟩ := exists_underway pages schema pageSize unclosed
  change Underway rows rest scan at underway
  change seen ++ rest = rows at whole
  obtain ⟨answer, state⟩ := close_of_refusal underway.ahead.isOpen refused
  have still : Cursor.needsClose (Cursor.close scan).state = true := by
    change (!scan.close.state.closed) = true
    rw [state]
    simp [underway.ahead.isOpen]
  -- delivered, on the page, and behind it
  have split : seen ++ scan.page ++ rows.drop scan.received = rows := by
    rw [List.append_assoc, underway.ahead.left, whole]
  have behind : rows.drop (seen ++ scan.page).length = rows.drop scan.received := by
    conv_lhs => rw [← split, List.drop_left]
  refine ⟨answer, still, ⟨_, split⟩, ?_⟩
  intro count later
  have drains : Drains (rows.drop scan.received) later := (underway.close refused).drains count
  rw [behind]
  refine ⟨drains, ?_⟩
  intro ended
  have unseen : rows.drop seen.length = scan.page ++ rows.drop scan.received := by
    conv_lhs => rw [← split, List.append_assoc, List.drop_left]
  rw [drains.ended ended, unseen]
  exact List.self_eq_append_left

end Remote

/-! ## A pager that is not released at once -/

namespace Pager.Clinging

theorem rows_of_reaches {pager later : Clinging} (reached : Reaches True pager later) :
    later.rows = pager.rows := by
  refine reached.keeps (P := fun later : Clinging => later.rows = pager.rows)
    (fun _ _ _ same => same) ?_ rfl
  intro later _ same
  rw [← same]
  cases failures : later.failures <;> simp [Pager.release, failures]

theorem pages (pager : Clinging) : Pages pager.rows pager := by
  intro later reached offset limit page answer
  rw [← rows_of_reaches reached]
  cases answer
  exact ⟨limit, rfl, Nat.min_le_left _ _⟩

/-- One row of a page of two has been delivered since the reset when the release fails. The advances that
follow go on with the row behind this page, so the other row on it is what they do not deliver. -/
theorem delivered_after_refusal_of_half_page :
    let row (n : Int64) : Row := ⟨[.integer n]⟩
    let pager : Clinging := ⟨[row 1, row 2, row 3], 1⟩
    let requests := [.advance, .reset, .advance]
    let scan := (Cursor.run (Remote.ofPager .empty pager 2) requests).state
    let later := transcript (Cursor.close scan).state (List.replicate 2 .advance)
    (Pager.release scan.pager).answer = .error stuck ∧ scan.page = [row 2] ∧
      (Cursor.close scan).answer = .error stuck ∧ Cursor.needsClose (Cursor.close scan).state = true ∧
      Remote.Drains [row 3] later ∧ ¬ delivered later = [row 2, row 3] := by
  intro row pager requests scan later
  have refused : (Pager.release scan.pager).answer = .error stuck := rfl
  have page : scan.page = [row 2] := rfl
  have seen : delivered (sinceReset (transcript (Remote.ofPager .empty pager 2) requests)) =
      [row 1] := rfl
  obtain ⟨answer, still, -, behind⟩ := Remote.delivered_after_refusal (pages pager) .empty 2
    (by decide : .close ∉ requests) refused
  obtain ⟨drains, lost⟩ := behind 2
  rw [seen, page] at drains lost
  refine ⟨refused, page, answer, still, drains, ?_⟩
  have left : (Cursor.close scan).state =
      { Remote.ofPager .empty pager 2 with pager := ⟨pager.rows, 0⟩, received := 2 } := rfl
  have ended : ∃ step ∈ later, step.answer = .moved (.ok false) := by
    unfold later
    rw [left]
    exact ⟨_, List.mem_cons_of_mem _ List.mem_cons_self, rfl⟩
  intro continued
  have empty := (lost ended).mp continued
  simp at empty

/-- After the first row of a page of two the release fails. The row that has not been delivered is the
second one, and the advances after the close deliver the third one and end. -/
theorem close_skips_row :
    let row (n : Int64) : Row := ⟨[.integer n]⟩
    let rows := [row 1, row 2, row 3]
    let start : Remote Clinging := Remote.ofPager .empty ⟨rows, 1⟩ 2
    let failed := Cursor.close (Cursor.run start [.advance]).state
    let seen := delivered (transcript start [.advance])
    let later := transcript failed.state [.advance, .advance]
    seen = [row 1] ∧ failed.answer = .error stuck ∧ Cursor.needsClose failed.state = true ∧
      delivered later = [row 3] ∧
      later.map Step.answer = [.moved (.ok true), .moved (.ok false)] ∧
      ¬ delivered later = rows.drop seen.length := by
  intro row rows start failed seen later
  have before : seen = [row 1] := rfl
  -- the page is gone, and the row that was on it counts as received
  have left : failed.state = { start with pager := ⟨rows, 0⟩, received := 2 } := rfl
  have came : delivered later = [row 3] := by
    unfold later
    rw [left]
    rfl
  have answers : later.map Step.answer = [.moved (.ok true), .moved (.ok false)] := by
    unfold later
    rw [left]
    rfl
  have stands : Cursor.needsClose failed.state = true := by
    rw [left]
    rfl
  refine ⟨before, rfl, stands, came, answers, ?_⟩
  rw [came, before]
  simp [rows]

end Pager.Clinging

end RowMerge
