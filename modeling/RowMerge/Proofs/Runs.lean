import RowMerge.Cursor.Request

/-!
# Runs of requests

A run goes on from where another one has led, and what each request keeps, a run of requests keeps. The
answers to the requests other than for the row count are told apart from the row counts.
-/
namespace RowMerge

namespace Cursor

variable {σ : Type} [Cursor σ]

theorem run_append (s : σ) (front back : List Request) :
    run s (front ++ back) = (run s front).bind fun answers s => (run s back).map (answers ++ ·) := by
  induction front generalizing s with
  | nil => rfl
  | cons request rest ih =>
    simp only [List.cons_append, run, ih, Outcome.bind, Outcome.map, List.append_assoc]

/-- What every request of a run keeps holds after the run if it held before. -/
theorem run_invariant_among {P : σ → Prop} {requests : List Request}
    (kept : ∀ cursor, ∀ request ∈ requests, P cursor → P (perform cursor request).state)
    {cursor : σ} (initial : P cursor) : P (run cursor requests).state := by
  induction requests generalizing cursor with
  | nil => exact initial
  | cons request rest ih =>
    have first := kept cursor request List.mem_cons_self initial
    exact ih (fun cursor later member => kept cursor later (List.mem_cons_of_mem _ member)) first

theorem run_invariant {P : σ → Prop}
    (kept : ∀ cursor request, P cursor → P (perform cursor request).state)
    {cursor : σ} (initial : P cursor) (requests : List Request) : P (run cursor requests).state :=
  run_invariant_among (fun cursor request _ => kept cursor request) initial

end Cursor

/-! ## Requests other than for the row count -/

def Answer.isCount : Answer → Bool
  | .count _ => true
  | _ => false

/-- The requests other than for the row count. -/
def Request.aside (requests : List Request) : List Request := requests.filter (· ≠ .rowCount)

namespace Cursor

variable {σ : Type} [Cursor σ]

/-- The answers of a run to the requests other than for the row count. -/
def answersAside (s : σ) (requests : List Request) : List Answer :=
  (run s requests).answer.filter fun answer => !answer.isCount

/-- Asking for the row count does not affect other answers. -/
def CountsAside (s : σ) : Prop :=
  ∀ requests, answersAside s requests = (run s (Request.aside requests)).answer

theorem answersAside_rowCount (s : σ) (rest : List Request) :
    answersAside s (.rowCount :: rest) = answersAside (rowCount s).state rest := by
  simp [answersAside, run, perform, Answer.isCount]

theorem answersAside_cons (s : σ) {request : Request} (other : request ≠ .rowCount)
    (rest : List Request) : answersAside s (request :: rest) =
      (perform s request).answer :: answersAside (perform s request).state rest := by
  have shown : (perform s request).answer.isCount = false := by
    cases request with
    | rowCount => exact absurd rfl other
    | _ => rfl
  simp [answersAside, run, shown]

theorem answersAside_append (s : σ) (front back : List Request) :
    answersAside s (front ++ back) = answersAside s front ++ answersAside (run s front).state back := by
  simp [answersAside, run_append]

end Cursor

end RowMerge
