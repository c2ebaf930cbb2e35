import RowMerge.Proofs.Advanced
import RowMerge.Proofs.Runs
import RowMerge.Cursor.Watched
import RowMerge.Cursor.Scan

/-!
# Cursors that requests cannot tell apart

Two cursors are alike if every list of requests gets the same answers from both and reaches the same
objects with an advance. A steady cursor shows a row whenever it moves to one, and declares one row count
for good. If nothing else that is seen of it depends on whether it was asked for that count, then after it
was asked it cannot be told apart from what it was before: it is regular.
-/
namespace RowMerge

namespace Cursor

variable {σ : Type} [Cursor σ] {s t u : σ}

/-! ## Alike cursors -/

def Alike (s t : σ) : Prop :=
  ∀ requests, (run s requests).answer = (run t requests).answer ∧
    Event.advanced (run s requests).events = Event.advanced (run t requests).events

theorem Alike.refl (s : σ) : Alike s s := fun _ => ⟨rfl, rfl⟩

theorem Alike.symm (alike : Alike s t) : Alike t s :=
  fun requests => ⟨(alike requests).1.symm, (alike requests).2.symm⟩

theorem Alike.trans (first : Alike s t) (second : Alike t u) : Alike s u :=
  fun requests => ⟨(first requests).1.trans (second requests).1,
    (first requests).2.trans (second requests).2⟩

/-- One request gets one answer from both, and they stay alike. -/
theorem Alike.perform (alike : Alike s t) (request : Request) :
    (perform s request).answer = (perform t request).answer ∧
      Event.advanced (perform s request).events = Event.advanced (perform t request).events ∧
      Alike (perform s request).state (perform t request).state := by
  have events : Event.advanced (Cursor.perform s request).events =
      Event.advanced (Cursor.perform t request).events := by
    simpa [run] using (alike [request]).2
  refine ⟨by simpa [run] using (alike [request]).1, events, ?_⟩
  intro later
  -- what follows is what the longer run goes on with
  have whole := alike (request :: later)
  simp only [run, Outcome.answer_bind, Outcome.answer_map, Outcome.events_bind, Outcome.events_map,
    Event.advanced_append, events] at whole
  exact ⟨(List.cons.inj whole.1).2, List.append_cancel_left whole.2⟩

/-! ## Steady cursors -/

/-- A row for every move, and one row count, whatever requests come. -/
structure Steady (s : σ) : Prop where
  /-- An advance that answers `true` shows a row. -/
  shows : ∀ requests, (advance (run s requests).state).answer = .ok true →
    (currentRow (advance (run s requests).state).state).isSome
  /-- The declared row count stays the same. -/
  counts : ∀ requests, (rowCount (run s requests).state).answer = (rowCount s).answer

/-- Nothing else that is seen of a cursor depends on requests for the row count. -/
structure Inert (s : σ) : Prop where
  /-- They do not affect other answers. -/
  answers : CountsAside s
  /-- Nor do they affect the advances that are reported. -/
  advances : ∀ requests, Event.advanced (run s requests).events =
    Event.advanced (run s (Request.aside requests)).events

/-- A cursor is steady if an invariant of its requests keeps the row count. -/
theorem steady_of_invariant {P : σ → Prop}
    (kept : ∀ s request, P s → P (Cursor.perform s request).state)
    (shows : ∀ s, P s → (advance s).answer = .ok true → (currentRow (advance s).state).isSome)
    (count : Option Nat) (counts : ∀ s, P s → (rowCount s).answer = count) (initial : P s) :
    Steady s := by
  -- the invariant holds wherever requests lead
  have always : ∀ requests, P (run s requests).state := run_invariant kept initial
  constructor
  · exact fun requests => shows _ (always requests)
  · exact fun requests => (counts _ (always requests)).trans (counts s initial).symm

/-- A cursor is inert if asking for the row count leaves every state as it is and advances nothing. -/
theorem inert_of_unchanged
    (asks : ∀ s : σ, (rowCount s).state = s ∧ Event.advanced (rowCount s).events = []) (s : σ) :
    Inert s := by
  have same : ∀ requests, answersAside s requests = (run s (Request.aside requests)).answer ∧
      Event.advanced (run s requests).events =
        Event.advanced (run s (Request.aside requests)).events := by
    intro requests
    induction requests generalizing s with
    | nil => exact ⟨rfl, rfl⟩
    | cons request rest ih =>
      by_cases counting : request = .rowCount
      · subst counting
        obtain ⟨unchanged, quiet⟩ := asks s
        rw [answersAside_rowCount, unchanged]
        simpa [Request.aside, run, perform, unchanged, quiet] using ih s
      · obtain ⟨answers, advances⟩ := ih (perform s request).state
        rw [answersAside_cons s counting, answers]
        simpa [Request.aside, run, counting] using advances
  exact ⟨fun requests => (same requests).1, fun requests => (same requests).2⟩

/-! ## Regular cursors -/

/-- A steady cursor for which asking for the row count is no more than looking. -/
structure Regular (s : σ) : Prop extends Steady s where
  asks : ∀ requests, Alike (rowCount (run s requests).state).state (run s requests).state ∧
    Event.advanced (rowCount (run s requests).state).events = []

theorem Regular.perform (regular : Regular s) (request : Request) :
    Regular (perform s request).state where
  shows requests := regular.shows (request :: requests)
  counts requests := (regular.counts (request :: requests)).trans (regular.counts [request]).symm
  asks requests := regular.asks (request :: requests)

/-- Where the row count is always the same, the other answers make up all of them. -/
theorem answer_eq_of_aside {count : Option Nat}
    (counts : ∀ requests, (rowCount (run s requests).state).answer = count)
    (counts' : ∀ requests, (rowCount (run t requests).state).answer = count) {requests : List Request}
    (same : answersAside s requests = answersAside t requests) :
    (run s requests).answer = (run t requests).answer := by
  induction requests generalizing s t with
  | nil => rfl
  | cons request rest ih =>
    have later := ih (fun requests => counts (request :: requests))
      (fun requests => counts' (request :: requests))
    by_cases counting : request = .rowCount
    · subst counting
      rw [answersAside_rowCount, answersAside_rowCount] at same
      have here : (rowCount s).answer = (rowCount t).answer := (counts []).trans (counts' []).symm
      simpa [run, perform, here] using later same
    · rw [answersAside_cons s counting, answersAside_cons t counting] at same
      obtain ⟨here, behind⟩ := List.cons.inj same
      simpa [run, here] using later behind

theorem Steady.regular (steady : Steady s) (inert : Inert s) : Regular s where
  toSteady := steady
  asks requests := by
    -- runs that go on with the request for the row count and without it are the same aside from it
    have aside : ∀ later, Request.aside (requests ++ .rowCount :: later) =
        Request.aside (requests ++ later) := by
      simp [Request.aside]
    have advances : ∀ later, Event.advanced (run s (requests ++ .rowCount :: later)).events =
        Event.advanced (run s (requests ++ later)).events := by
      intro later
      rw [inert.advances, inert.advances (requests ++ later), aside]
    have answers : ∀ later, answersAside s (requests ++ .rowCount :: later) =
        answersAside s (requests ++ later) := by
      intro later
      rw [inert.answers, inert.answers (requests ++ later), aside]
    have counts : ∀ later, (rowCount (run (run s requests).state later).state).answer =
        (rowCount s).answer := by
      intro later
      simpa [run_append] using steady.counts (requests ++ later)
    have quiet : Event.advanced (rowCount (run s requests).state).events = [] := by
      simpa [run_append, run, Cursor.perform] using advances []
    refine ⟨fun later => ⟨?_, ?_⟩, quiet⟩
    · have whole := answers later
      rw [answersAside_append, answersAside_append, answersAside_rowCount] at whole
      exact answer_eq_of_aside (fun more => counts (.rowCount :: more)) counts
        (List.append_cancel_left whole)
    · simpa [run_append, run, Cursor.perform, quiet] using advances later

/-! ## Twins -/

/-- Two regular cursors that are alike. -/
structure Twins (s t : σ) : Prop where
  left : Regular s
  right : Regular t
  alike : Alike s t

theorem Regular.twins (regular : Regular s) : Twins s s := ⟨regular, regular, .refl s⟩

theorem Twins.trans (first : Twins s t) (second : Twins t u) : Twins s u :=
  ⟨first.left, second.right, first.alike.trans second.alike⟩

theorem Twins.perform (twins : Twins s t) (request : Request) :
    Twins (perform s request).state (perform t request).state :=
  ⟨twins.left.perform request, twins.right.perform request, (twins.alike.perform request).2.2⟩

theorem Regular.twins_rowCount (regular : Regular s) : Twins s (rowCount s).state :=
  ⟨regular, regular.perform .rowCount, (regular.asks []).1.symm⟩

theorem Twins.symm (twins : Twins s t) : Twins t s := ⟨twins.right, twins.left, twins.alike.symm⟩

/-- The row count of twins is the same, and no request changes it. -/
theorem Twins.rowCount (twins : Twins s t) : (rowCount s).answer = (rowCount t).answer :=
  Answer.count.inj (twins.alike.perform .rowCount).1

theorem Twins.advance (twins : Twins s t) : (advance s).answer = (advance t).answer :=
  Answer.moved.inj (twins.alike.perform .advance).1

theorem Twins.reset (twins : Twins s t) : (reset s).answer = (reset t).answer :=
  Answer.done.inj (twins.alike.perform .reset).1

theorem Twins.close (twins : Twins s t) : (close s).answer = (close t).answer :=
  Answer.done.inj (twins.alike.perform .close).1

theorem Twins.currentRow (twins : Twins s t) : currentRow s = currentRow t :=
  Answer.row.inj (twins.alike.perform .currentRow).1

theorem Twins.needsClose (twins : Twins s t) : needsClose s = needsClose t :=
  Answer.held.inj (twins.alike.perform .needsClose).1

theorem Twins.schema (twins : Twins s t) : schema s = schema t :=
  Answer.columns.inj (twins.alike.perform .schema).1

end Cursor

/-! ## Watched scans -/

theorem Scan.isSome_of_advance {scan : Scan} (moved : (advance scan).answer = .ok true) :
    (advance scan).state.currentRow.isSome := by
  unfold advance at moved ⊢
  by_cases shut : scan.closed = true
  · simp [shut] at moved
  · by_cases within : scan.nextPosition < scan.rows.length
    · simp [shut, within, currentRow]
    · simp [shut, within] at moved

theorem Scan.rows_perform (scan : Scan) (request : Request) :
    (Cursor.perform scan request).state.rows = scan.rows := by
  cases request with
  | advance =>
    change (advance scan).state.rows = _
    unfold advance
    by_cases shut : scan.closed = true
    · simp [shut]
    · by_cases within : scan.nextPosition < scan.rows.length <;> simp [shut, within]
  | reset =>
    change (reset scan).state.rows = _
    unfold reset
    by_cases shut : scan.closed = true <;> simp [shut]
  | _ => rfl

theorem Watched.perform_inner {σ : Type} [Cursor σ] (source : Watched σ) (request : Request)
    (undeclared : source.declared = none) :
    (Cursor.perform source request).state.inner = (Cursor.perform source.inner request).state ∧
      (Cursor.perform source request).state.declared = none := by
  cases request with
  | rowCount =>
    obtain ⟨name, declared, inner⟩ := source
    cases undeclared
    exact ⟨rfl, rfl⟩
  | _ => exact ⟨rfl, undeclared⟩

/-- A scan keeps its rows whatever happens, and so the row count it declares. -/
theorem Watched.steady_scan (name : String) (scan : Scan) :
    Cursor.Steady (⟨name, none, scan⟩ : Watched Scan) := by
  -- the rows stay, and no other row count is declared
  let Kept (source : Watched Scan) : Prop :=
    source.declared = none ∧ source.inner.rows = scan.rows
  refine Cursor.steady_of_invariant (P := Kept) ?_ ?_ (some scan.rows.length) ?_ ⟨rfl, rfl⟩
  · rintro source request ⟨undeclared, rows⟩
    obtain ⟨inner, declared⟩ := source.perform_inner request undeclared
    exact ⟨declared, by rw [inner, Scan.rows_perform, rows]⟩
  · intro source _ moved
    exact Scan.isSome_of_advance moved
  · rintro ⟨name, declared, inner⟩ ⟨undeclared, rows⟩
    cases undeclared
    exact congrArg (fun rows => some (List.length rows)) rows

theorem Watched.inert_scan (source : Watched Scan) : Cursor.Inert source := by
  refine Cursor.inert_of_unchanged ?_ source
  rintro ⟨name, declared, inner⟩
  cases declared <;> exact ⟨rfl, rfl⟩

end RowMerge
