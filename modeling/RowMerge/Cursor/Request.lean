import RowMerge.Cursor.Basic
/-!
# Requests

The calls of a cursor as data, so that a client is a list of requests and what it sees is the list
of their answers.
-/
namespace RowMerge

inductive Request where
  | advance
  | currentRow
  | rowCount
  | reset
  | close
  | needsClose
  | schema
  deriving DecidableEq

inductive Answer where
  | moved (result : Except Fault Bool)
  | row (row? : Option Row)
  | count (count? : Option Nat)
  | done (result : Except Fault Unit)
  | held (needsClose : Bool)
  | columns (schema : Schema)

namespace Cursor

variable {σ : Type} [Cursor σ]

def perform (cursor : σ) : Request → Outcome σ Answer
  | .advance => (advance cursor).map .moved
  | .currentRow => .silent (.row (currentRow cursor)) cursor
  | .rowCount => (rowCount cursor).map .count
  | .reset => (reset cursor).map .done
  | .close => (close cursor).map .done
  | .needsClose => .silent (.held (needsClose cursor)) cursor
  | .schema => .silent (.columns (schema cursor)) cursor

section Sum

variable {τ : Type} [Cursor τ]

theorem perform_inl (s : σ) (request : Request) :
    perform (.inl s : σ ⊕ τ) request = (perform s request).mapState .inl := by
  cases request <;> rfl

theorem perform_inr (t : τ) (request : Request) :
    perform (.inr t : σ ⊕ τ) request = (perform t request).mapState .inr := by
  cases request <;> rfl

end Sum

def run (cursor : σ) : List Request → Outcome σ (List Answer)
  | [] => .silent [] cursor
  | request :: rest => (perform cursor request).bind fun answer cursor =>
    (run cursor rest).map (answer :: ·)

end Cursor

end RowMerge
