import RowMerge.Proofs.PartialCalls
import RowMerge.Proofs.Rewinding

/-!
# Where the faults of a merge come from

A request that a merge answers with a fault has failed at one lane: the source of that lane has answered this
request with this fault, or it has moved without showing a row. A source stands where requests of the merge
have taken it, so whatever fault a run of requests gets from a merge, some run gets from one of the sources.
-/
namespace RowMerge

/-- The fault that an answer tells of. -/
def Answer.fault? : Answer → Option Fault
  | .moved (.error fault) => some fault
  | .done (.error fault) => some fault
  | _ => none

namespace Cursor

variable {σ : Type} [Cursor σ] {s : σ} {request : Request} {fault : Fault}

/-- Some run of requests gets the fault from the cursor. -/
def CanFail (s : σ) (fault : Fault) : Prop :=
  ∃ requests, ∃ answer ∈ (run s requests).answer, answer.fault? = some fault

theorem canFail_of_answer (failed : (perform s request).answer.fault? = some fault) : CanFail s fault :=
  ⟨[request], _, List.mem_cons_self, failed⟩

theorem CanFail.of_perform (later : CanFail (perform s request).state fault) : CanFail s fault := by
  obtain ⟨requests, answer, member, failed⟩ := later
  exact ⟨request :: requests, answer, List.mem_cons_of_mem _ member, failed⟩

end Cursor

namespace Merge

variable {σ : Type} [Cursor σ] {merge : Merge σ} {request : Request} {fault : Fault}

theorem exists_of_firstFault {answers : List (Except Fault Unit)}
    (failed : firstFault answers = .error fault) : .error fault ∈ answers := by
  induction answers with
  | nil => cases failed
  | cons answer rest ih =>
    cases answer with
    | error first =>
      cases failed
      exact List.mem_cons_self
    | ok _ => exact List.mem_cons_of_mem _ (ih failed)

/-- The lane at which a request fails. -/
theorem exists_lane_of_fault (failed : (Cursor.perform merge request).answer.fault? = some fault) :
    ∃ lane ∈ merge.lanes, (Cursor.perform lane.source request).answer.fault? = some fault ∨
      fault = .noCurrentRow lane.index := by
  cases request with
  | advance =>
    change (Answer.moved merge.advance.answer).fault? = some fault at failed
    rcases Outcome.fault_or_ok pullPending merge.lanes with
      pulled | ⟨front, lane, back, own, split, pulled, refused⟩
    · rw [(advance_of_pulled (Outcome.untilFault_ok_iff.mpr pulled)).1] at failed
      cases failed
    · -- the lanes behind the one that refuses have no part in the answer
      have stopped := congrArg Outcome.answer (advance_of_front merge pulled refused back)
      rw [← split] at stopped
      rw [stopped] at failed
      cases failed
      refine ⟨lane, split ▸ List.mem_append_right front List.mem_cons_self, ?_⟩
      rcases (refilled_of_fault refused).1 with answer | ⟨-, -, rowless⟩
      · exact .inl (congrArg (Answer.fault? ∘ Answer.moved) answer)
      · exact .inr rowless
  | reset =>
    change (Answer.done merge.reset.answer).fault? = some fault at failed
    have step := resets merge
    generalize merge.reset.answer = answer, merge.reset.state = next at step failed
    cases step with
    | rewinds _ => cases failed
    | @fails front back lane own split _ refused =>
      cases failed
      refine ⟨lane, split ▸ List.mem_append_right front List.mem_cons_self, .inl ?_⟩
      exact congrArg (Answer.fault? ∘ Answer.done) refused
  | close =>
    change (Answer.done (closeAll merge.lanes).answer).fault? = some fault at failed
    rw [(closeAll_eq merge.lanes).1] at failed
    cases answer : firstFault (merge.lanes.map fun l => (Cursor.close l.source).answer) with
    | ok _ =>
      rw [answer] at failed
      cases failed
    | error own =>
      rw [answer] at failed
      cases failed
      obtain ⟨lane, member, refused⟩ := List.mem_map.mp (exists_of_firstFault answer)
      exact ⟨lane, member, .inl (congrArg (Answer.fault? ∘ Answer.done) refused)⟩
  | currentRow | rowCount | needsClose | schema => cases failed

/-- A fault that a merge answers at some time is one that a source answers at some time, or that of a
source without a row. -/
theorem canFail_lane (fails : Cursor.CanFail merge fault) :
    ∃ lane ∈ merge.lanes, Cursor.CanFail lane.source fault ∨ fault = .noCurrentRow lane.index := by
  obtain ⟨requests, answer, member, told⟩ := fails
  induction requests generalizing merge with
  | nil => cases member
  | cons request rest ih =>
    rcases List.mem_cons.mp member with rfl | later
    · obtain ⟨lane, place, origin⟩ := exists_lane_of_fault told
      exact ⟨lane, place, origin.imp_left Cursor.canFail_of_answer⟩
    · -- the lanes stand where the first request has left them
      obtain ⟨next, place, origin⟩ := ih later
      obtain ⟨lane, place, passed⟩ := exists_of_mem_right (passed_perform merge request).1 place
      refine ⟨lane, place, ?_⟩
      rw [passed.index] at origin
      refine origin.imp_left fun fails => ?_
      rcases passed.source with same | moved
      · rwa [same] at fails
      · rw [moved] at fails
        exact fails.of_perform

end Merge

end RowMerge
