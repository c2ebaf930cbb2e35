import RowMerge.Proofs.FailedRelease
import RowMerge.Proofs.PagerUses

/-!
# The release of a pager

A remote scan asks its pager for release when it is closed, and then only, and takes no answer but success
for the end of it. A scan stands in one of two ways: it is open, and its pager, which is on record, has
refused each close so far, or it is closed for good, and its pager was released by the last call that
reached it. No request leads back from the second to the first, for a closed scan never moves.
-/
namespace RowMerge

variable {φ : Type}

/-! ## The closes of a run -/

/-- The answer of a step that closes. -/
def Step.close? {σ : Type} (step : Step σ) : Option (Except Fault Unit) :=
  match step.request, step.answer with
  | .close, .done result => some result
  | _, _ => none

def closes {σ : Type} (steps : List (Step σ)) : List (Except Fault Unit) :=
  steps.filterMap Step.close?

namespace Remote

open Cursor (stepOf transcript)

variable [Pager φ]

theorem closes_of_close {σ : Type} [Cursor σ] (steps : List (Step σ)) (cursor : σ) :
    closes (steps ++ [stepOf cursor .close]) = closes steps ++ [(Cursor.close cursor).answer] :=
  List.filterMap_append

theorem closes_of_other {σ : Type} [Cursor σ] (steps : List (Step σ)) (cursor : σ) {request : Request}
    (other : request ≠ .close) : closes (steps ++ [stepOf cursor request]) = closes steps := by
  have none : (stepOf cursor request).close? = none := by
    cases request with
    | close => exact absurd rfl other
    | advance | currentRow | rowCount | reset | needsClose | schema => rfl
  simp [closes, none]

/-! ## Open or closed for good -/

/-- A scan that holds nothing, refuses to be advanced or reset, and is left by any requests as it is. -/
structure Spent (scan : Remote φ) : Prop where
  needsClose : Cursor.needsClose scan = false
  currentRow : Cursor.currentRow scan = none
  advance : Cursor.advance scan = .silent (.error advancedWhenClosed) scan
  reset : Cursor.reset scan = .silent (.error resetWhenClosed) scan
  close : Cursor.close scan = .silent (.ok ()) scan
  stays : ∀ later, (Cursor.run scan later).state = scan

theorem Lapsed.spent {scan : Remote φ} (lapsed : Lapsed scan) : Spent scan where
  needsClose := by simp [Cursor.needsClose, lapsed.closed]
  currentRow := lapsed.current
  advance := by simp [Cursor.advance, Remote.advance, lapsed.closed]
  reset := by simp [Cursor.reset, Remote.reset, lapsed.closed]
  close := by simp [Cursor.close, Remote.close, lapsed.closed]
  stays later := Cursor.run_invariant (P := fun next => next = scan)
    (fun _ request same => same ▸ lapsed.stays request) rfl later

/-- How a scan stands after closes with these answers. -/
inductive Standing (scan : Remote (OnRecord φ)) : List (Except Fault Unit) → Prop
  | held {refused : List (Except Fault Unit)} (isOpen : scan.closed = false)
      (releases : scan.pager.releases = refused) (failed : .ok () ∉ refused) : Standing scan refused
  | released {refused later : List (Except Fault Unit)} (lapsed : Lapsed scan)
      (releases : scan.pager.releases = refused ++ [.ok ()]) (failed : .ok () ∉ refused)
      (idle : ∀ answer ∈ later, answer = .ok ()) : Standing scan (refused ++ .ok () :: later)

namespace Standing

variable {scan : Remote (OnRecord φ)} {steps : List (Step (Remote (OnRecord φ)))}

/-- The close of an open scan answers as its pager does. -/
theorem close {refused : List (Except Fault Unit)} (isOpen : scan.closed = false)
    (releases : scan.pager.releases = refused) (failed : .ok () ∉ refused) :
    Standing scan.close.state (refused ++ [scan.close.answer]) := by
  cases answer : (Pager.release scan.pager).answer with
  | error fault =>
    obtain ⟨told, state⟩ := close_of_refusal isOpen answer
    rw [told, state]
    exact .held isOpen (by simp [releases, answer]) (by simp [failed])
  | ok _ =>
    have told : scan.close.answer = .ok () := by simp [Remote.close, isOpen, answer]
    have pager : scan.close.state.pager = (Pager.release scan.pager).state := by
      simp [Remote.close, isOpen, answer]
    have lapsed := lapsed_close (fun shut => by simp [isOpen] at shut) (closed_of_close told)
    rw [told]
    exact .released lapsed (by simp [pager, releases, answer]) failed (List.forall_mem_nil _)

theorem perform (standing : Standing scan (closes steps)) (request : Request) :
    Standing (Cursor.perform scan request).state (closes (steps ++ [stepOf scan request])) := by
  -- a close adds its answer to the history, any other request leaves the history as it is
  by_cases closing : request = .close
  · subst closing
    rw [closes_of_close]
    generalize closes steps = ended at standing ⊢
    cases standing with
    | held isOpen releases failed => exact close isOpen releases failed
    | released lapsed releases failed idle =>
      -- a closed scan answers itself, so the record of its pager stays as it was
      rw [lapsed.spent.close, lapsed.stays, List.append_assoc, List.cons_append]
      refine .released lapsed releases failed ?_
      exact List.forall_mem_append.mpr ⟨idle, List.forall_mem_singleton.mpr rfl⟩
  · rw [closes_of_other steps scan closing]
    generalize closes steps = ended at standing ⊢
    cases standing with
    | held isOpen releases failed =>
      -- what is not a close leaves the pager alone or fetches from it
      have keeps := scan.keeps_perform closing
      refine .held (keeps.closed.trans isOpen) ?_ failed
      exact keeps.pager_of (P := fun pager => pager.releases = ended) releases
        ((OnRecord.releases_fetch _ _ _).trans releases)
    | released lapsed releases failed idle =>
      rw [lapsed.stays]
      exact .released lapsed releases failed idle

theorem of_run (schema : Schema) (pager : φ) (pageSize : Nat) (requests : List Request) :
    let scan := ofPager schema (OnRecord.start pager) pageSize
    Standing (Cursor.run scan requests).state (closes (transcript scan requests)) :=
  Cursor.transcript_invariant (P := fun scan steps => Standing scan (closes steps))
    (fun _ _ request _ standing => standing.perform request) (.held rfl rfl List.not_mem_nil)

end Standing

/-- A run of a new scan over any pager; the record that the pager is given does not show. As long as no
close has succeeded the scan holds its pager, and the answers of the pager to attempts to release it are
the answers of the closes, one for each. Once a close has succeeded all later ones do, and no attempt to
release the pager comes after the one that made it succeed; the scan is spent, so that nothing
reaches its pager any more. -/
theorem pager_released_once (schema : Schema) (pager : φ) (pageSize : Nat) (requests : List Request) :
    let scan := ofPager schema (OnRecord.start pager) pageSize
    let used := (Cursor.run scan requests).state
    let ended := closes (transcript scan requests)
    Cursor.run (ofPager schema pager pageSize) requests =
        (Cursor.run scan requests).mapState (map OnRecord.inner) ∧
      (.ok () ∉ ended → Cursor.needsClose used = true ∧ used.pager.releases = ended) ∧
      (.ok () ∈ ended → Spent used ∧
        ∃ refused later, ended = refused ++ .ok () :: later ∧ .ok () ∉ refused ∧
          (∀ answer ∈ later, answer = .ok ()) ∧ used.pager.releases = refused ++ [.ok ()]) := by
  intro scan used ended
  refine ⟨(view_map OnRecord.view_inner).run scan requests, ?_⟩
  have standing : Standing used ended := Standing.of_run schema pager pageSize requests
  generalize ended = answers at standing ⊢
  cases standing with
  | held isOpen releases failed =>
    refine ⟨fun _ => ⟨?_, releases⟩, fun present => absurd present failed⟩
    simp [Cursor.needsClose, isOpen]
  | @released refused later lapsed releases failed idle =>
    refine ⟨fun absent => absurd (by simp) absent, fun _ => ⟨lapsed.spent, ?_⟩⟩
    exact ⟨refused, later, rfl, failed, idle, releases⟩

/-- The first close fails between two fetches, the second succeeds, and the third is not passed on. -/
theorem pager_released_once_of_clinging :
    let row (n : Int64) : Row := ⟨[.integer n]⟩
    let pager : Pager.Clinging := ⟨[row 1, row 2], 1⟩
    let scan := ofPager .empty (OnRecord.start pager) 1
    let first := [.advance, .close, .reset, .advance]
    let used := (Cursor.run scan (first ++ [.close, .advance, .close])).state
    let refused : Except Fault Unit := .error Pager.Clinging.stuck
    closes (transcript scan first) = [refused] ∧ Cursor.needsClose (Cursor.run scan first).state = true ∧
      closes (transcript scan (first ++ [.close, .advance, .close])) = [refused, .ok (), .ok ()] ∧
      Spent used ∧ used.pager.releases = [refused, .ok ()] := by
  intro row pager scan first used refused
  have early : closes (transcript scan first) = [refused] := rfl
  have late : closes (transcript scan (first ++ [.close, .advance, .close])) =
      [refused, .ok (), .ok ()] := rfl
  obtain ⟨-, held, -⟩ := pager_released_once .empty pager 1 first
  obtain ⟨-, -, released⟩ := pager_released_once .empty pager 1 (first ++ [.close, .advance, .close])
  have failed : .ok () ∉ closes (transcript scan first) := by
    rw [early]
    simp [refused]
  have succeeded : .ok () ∈ closes (transcript scan (first ++ [.close, .advance, .close])) := by
    rw [late]
    simp
  exact ⟨early, (held failed).1, late, (released succeeded).1, rfl⟩

end Remote

end RowMerge
