import RowMerge.Proofs.Views

/-!
# Pagers on record

A pager may be given a record of its use: each call that reaches it is added to the record with its answer,
first to last. The record does not show, so that a remote scan over the pager on record does what the scan
over the pager itself does, and what the pager was asked for in a run may be read off the record that the
run has left behind. The fetches and the attempts to release the pager are two readings of one record.
-/
namespace RowMerge

variable {φ α : Type}

/-- A fetch and its answer. -/
structure Exchange where
  offset : Nat
  limit : Nat
  answer : Except Fault (List Row)

def Exchange.page? (exchange : Exchange) : Option (List Row) := exchange.answer.toOption

namespace Pager

/-- A call of a pager with its answer. -/
inductive Use where
  | fetch (exchange : Exchange)
  | release (answer : Except Fault Unit)

def Use.exchange? : Use → Option Exchange
  | fetch exchange => some exchange
  | release _ => none

def Use.release? : Use → Option (Except Fault Unit)
  | fetch _ => none
  | release answer => some answer

end Pager

/-- A pager with a record of its use. -/
structure OnRecord (φ : Type) where
  inner : φ
  uses : List Pager.Use

namespace OnRecord

def start (inner : φ) : OnRecord φ := ⟨inner, []⟩

def fetches (pager : OnRecord φ) : List Exchange := pager.uses.filterMap Pager.Use.exchange?

/-- The answers of the attempts to release the pager. -/
def releases (pager : OnRecord φ) : List (Except Fault Unit) := pager.uses.filterMap Pager.Use.release?

/-- A call is passed on, and noted once there is an answer. -/
def call (pager : OnRecord φ) (use : α → Pager.Use) (run : φ → Outcome φ α) :
    Outcome (OnRecord φ) α :=
  let outcome := run pager.inner
  outcome.mapState fun inner => ⟨inner, pager.uses ++ [use outcome.answer]⟩

variable [Pager φ]

instance : Pager (OnRecord φ) where
  fetch pager offset limit :=
    pager.call (fun answer => .fetch ⟨offset, limit, answer⟩) fun inner =>
      Pager.fetch inner offset limit
  rowCount pager := Pager.rowCount pager.inner
  release pager := pager.call .release Pager.release

theorem view_inner : Pager.View (OnRecord.inner (φ := φ)) where
  fetch _ _ _ := rfl
  rowCount _ := rfl
  release _ := rfl

@[simp] theorem fetches_fetch (pager : OnRecord φ) (offset limit : Nat) :
    (Pager.fetch pager offset limit).state.fetches =
      pager.fetches ++ [⟨offset, limit, (Pager.fetch pager offset limit).answer⟩] := by
  simp [Pager.fetch, call, fetches, Pager.Use.exchange?]

@[simp] theorem releases_fetch (pager : OnRecord φ) (offset limit : Nat) :
    (Pager.fetch pager offset limit).state.releases = pager.releases := by
  simp [Pager.fetch, call, releases, Pager.Use.release?]

@[simp] theorem releases_release (pager : OnRecord φ) :
    (Pager.release pager).state.releases = pager.releases ++ [(Pager.release pager).answer] := by
  simp [Pager.release, call, releases, Pager.Use.release?]

end OnRecord

end RowMerge
