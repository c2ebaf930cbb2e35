import RowMerge.Proofs.Runs
import Mathlib.Data.List.DropRight

/-!
# Transcripts

A transcript of a run has a step for each request, with the states around it. It tells what a client has
seen at any point of the run, and since the cursor was last reset: the rows delivered are those that the
cursor showed after the advances that moved it to a row. What a run keeps may be stated of a state and the
steps that led to it.
-/
namespace RowMerge

variable {σ : Type}

/-- One request of a run, with its answer and the states before and after it. -/
structure Step (σ : Type) where
  before : σ
  request : Request
  answer : Answer
  after : σ

/-! ## What the steps tell -/

/-- The steps behind the last reset. -/
def sinceReset (steps : List (Step σ)) : List (Step σ) :=
  steps.rtakeWhile fun step => step.request != .reset

@[simp] theorem sinceReset_nil : sinceReset ([] : List (Step σ)) = [] := rfl

theorem sinceReset_of_reset {step : Step σ} (reset : step.request = .reset) (steps : List (Step σ)) :
    sinceReset (steps ++ [step]) = [] := by
  apply List.rtakeWhile_concat_neg
  simp [reset]

theorem sinceReset_of_other {step : Step σ} (other : step.request ≠ .reset) (steps : List (Step σ)) :
    sinceReset (steps ++ [step]) = sinceReset steps ++ [step] := by
  apply List.rtakeWhile_concat_pos
  simp [other]

/-- Steps without a reset go on from the last reset before them. -/
theorem sinceReset_append {later : List (Step σ)} (forward : ∀ step ∈ later, step.request ≠ .reset)
    (steps : List (Step σ)) : sinceReset (steps ++ later) = sinceReset steps ++ later := by
  induction later generalizing steps with
  | nil => simp
  | cons step rest ih =>
    obtain ⟨other, forward⟩ := List.forall_mem_cons.mp forward
    rw [List.append_cons, ih forward, sinceReset_of_other other, ← List.append_cons]

variable [Cursor σ]

/-- The row that a step delivers. -/
def Step.row? (step : Step σ) : Option Row :=
  match step.answer with
  | .moved (.ok true) => Cursor.currentRow step.after
  | _ => none

def delivered (steps : List (Step σ)) : List Row := steps.filterMap Step.row?

@[simp] theorem delivered_nil : delivered ([] : List (Step σ)) = [] := rfl

@[simp] theorem delivered_append (front back : List (Step σ)) :
    delivered (front ++ back) = delivered front ++ delivered back :=
  List.filterMap_append

@[simp] theorem delivered_cons (step : Step σ) (steps : List (Step σ)) :
    delivered (step :: steps) = step.row?.toList ++ delivered steps := by
  cases row : step.row? <;> simp [delivered, row]

theorem delivered_singleton (step : Step σ) : delivered [step] = step.row?.toList := by simp

namespace Cursor

/-! ## The steps of a run -/

def stepOf (cursor : σ) (request : Request) : Step σ :=
  ⟨cursor, request, (perform cursor request).answer, (perform cursor request).state⟩

theorem row?_of_advance {cursor : σ} {moved : Bool} (answer : (advance cursor).answer = .ok moved)
    (shown : moved = (currentRow (advance cursor).state).isSome) :
    (stepOf cursor .advance).row? = currentRow (advance cursor).state := by
  have told : (stepOf cursor .advance).answer = .moved (.ok moved) := congrArg Answer.moved answer
  unfold Step.row?
  rw [told]
  cases moved with
  | true => rfl
  | false =>
    symm
    simpa using shown.symm

theorem row?_of_fault {cursor : σ} {fault : Fault} (failed : (advance cursor).answer = .error fault) :
    (stepOf cursor .advance).row? = none := by
  have told : (stepOf cursor .advance).answer = .moved (.error fault) := congrArg Answer.moved failed
  unfold Step.row?
  rw [told]

/-- No other request delivers a row. -/
theorem row?_of_other (cursor : σ) {request : Request} (other : request ≠ .advance) :
    (stepOf cursor request).row? = none := by
  cases request with
  | advance => exact absurd rfl other
  | currentRow | rowCount | reset | close | needsClose | schema => rfl

def transcript (cursor : σ) : List Request → List (Step σ)
  | [] => []
  | request :: rest => stepOf cursor request :: transcript (perform cursor request).state rest

theorem transcript_append (s : σ) (front back : List Request) :
    transcript s (front ++ back) = transcript s front ++ transcript (run s front).state back := by
  induction front generalizing s with
  | nil => rfl
  | cons request rest ih =>
    simp only [List.cons_append, transcript, ih]
    rfl

/-- Every step of a transcript is the step of its request in the state that the steps before it led
to. -/
theorem transcript_split {cursor : σ} {requests : List Request} {earlier later : List (Step σ)}
    {step : Step σ} (split : transcript cursor requests = earlier ++ step :: later) :
    ∃ front request back, requests = front ++ request :: back ∧
      earlier = transcript cursor front ∧ step = stepOf (run cursor front).state request ∧
      later = transcript step.after back := by
  induction earlier generalizing cursor requests with
  | nil =>
    cases requests with
    | nil => cases split
    | cons request back =>
      obtain ⟨rfl, rfl⟩ := List.cons.inj split
      exact ⟨[], request, back, rfl, rfl, rfl, rfl⟩
  | cons first rest ih =>
    cases requests with
    | nil => cases split
    | cons request back =>
      obtain ⟨rfl, tail⟩ := List.cons.inj split
      obtain ⟨front, other, back, rfl, rfl, place, behind⟩ := ih tail
      exact ⟨request :: front, other, back, rfl, rfl, place, behind⟩

/-- What every request of a run keeps of the state and the steps so far holds after the run. -/
theorem transcript_invariant {P : σ → List (Step σ) → Prop} {requests : List Request}
    (kept : ∀ cursor steps, ∀ request ∈ requests, P cursor steps →
      P (perform cursor request).state (steps ++ [stepOf cursor request]))
    {cursor : σ} (initial : P cursor []) :
    P (run cursor requests).state (transcript cursor requests) := by
  -- the induction goes on from any steps, of which there are none at first
  have after : ∀ steps, P cursor steps →
      P (run cursor requests).state (steps ++ transcript cursor requests) := by
    clear initial
    induction requests generalizing cursor with
    | nil =>
      intro steps initial
      rw [transcript, List.append_nil]
      exact initial
    | cons request rest ih =>
      intro steps initial
      have first := kept cursor steps request List.mem_cons_self initial
      have later := ih (fun cursor steps other member =>
        kept cursor steps other (List.mem_cons_of_mem request member)) _ first
      rw [List.append_assoc] at later
      exact later
  exact after [] initial

end Cursor

end RowMerge
