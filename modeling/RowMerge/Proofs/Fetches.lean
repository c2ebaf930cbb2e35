import RowMerge.Proofs.PagerUses
import RowMerge.Proofs.RemoteSteps
import RowMerge.Proofs.Transcripts

/-!
# What a remote scan fetches

A pager is asked for a page when a row is wanted, all rows received have been delivered and no page was
short. It is asked from the number of rows received on, so a request that failed is made again with the
next advance. All counts are kept twice, by the scan and by the steps of its run: the pager keeps a record
of its fetches, which does not show, and the client sees the rows delivered. The two agree because the rows
delivered and those on the page are always the rows received, and since the last reset nothing else counts.
-/
namespace RowMerge

variable {φ : Type}

/-! ## The fetches of a run -/

/-- What the pager was asked during a step. -/
def Step.fetches (step : Step (Remote (OnRecord φ))) : List Exchange :=
  step.after.pager.fetches.drop step.before.pager.fetches.length

theorem Step.fetches_of_record {step : Step (Remote (OnRecord φ))} {added : List Exchange}
    (record : step.after.pager.fetches = step.before.pager.fetches ++ added) : step.fetches = added := by
  rw [fetches, record, List.drop_left]

/-- The pages that came during some steps. -/
def pagesOf (steps : List (Step (Remote (OnRecord φ)))) : List (List Row) :=
  steps.flatMap fun step => step.fetches.filterMap Exchange.page?

def receivedRows (steps : List (Step (Remote (OnRecord φ)))) : List Row := (pagesOf steps).flatten

@[simp] theorem pagesOf_nil : pagesOf ([] : List (Step (Remote (OnRecord φ)))) = [] := rfl

@[simp] theorem pagesOf_append (front back : List (Step (Remote (OnRecord φ)))) :
    pagesOf (front ++ back) = pagesOf front ++ pagesOf back :=
  List.flatMap_append

@[simp] theorem pagesOf_singleton (step : Step (Remote (OnRecord φ))) :
    pagesOf [step] = step.fetches.filterMap Exchange.page? := by
  simp [pagesOf]

namespace Remote

open Cursor (stepOf transcript)

variable [Pager φ] {scan : Remote (OnRecord φ)}

theorem fetches_of_other {request : Request} (other : request ≠ .advance)
    (unclosed : request ≠ .close) : (stepOf scan request).fetches = [] := by
  apply Step.fetches_of_record
  have same : (Cursor.perform scan request).state.pager = scan.pager := by
    rcases (scan.keeps_perform unclosed).pager with same | ⟨moving, -⟩
    · exact same
    · exact absurd moving other
  rw [List.append_nil]
  exact congrArg OnRecord.fetches same

theorem fetches_stepOf (isOpen : scan.closed = false) {request : Request}
    (unclosed : request ≠ .close) : (stepOf scan request).fetches =
      if request = .advance ∧ scan.needsPage = true then
        [⟨scan.received, scan.pageSize, scan.asked.answer⟩]
      else [] := by
  by_cases moving : request = .advance
  · subst moving
    apply Step.fetches_of_record
    change scan.advance.state.pager.fetches = scan.pager.fetches ++ _
    have step := advances isOpen
    generalize scan.advance.answer = answer, scan.advance.state = next at step ⊢
    cases step with
    | delivers stocked => simp [stocked, deliver]
    | fails needed refused =>
      rw [if_pos ⟨rfl, needed⟩]
      exact scan.pager.fetches_fetch scan.received scan.pageSize
    | receives needed came =>
      rw [if_pos ⟨rfl, needed⟩]
      exact scan.pager.fetches_fetch scan.received scan.pageSize
  · rw [fetches_of_other moving unclosed, if_neg fun both => moving both.1]

theorem row?_advance (isOpen : scan.closed = false) : (stepOf scan .advance).row? =
    match scan.advance.answer with
    | .ok _ => scan.advance.state.current
    | .error _ => none := by
  have step := advances isOpen
  cases answer : scan.advance.answer with
  | error fault => exact Cursor.row?_of_fault answer
  | ok moved =>
    apply Cursor.row?_of_advance answer
    change moved = scan.advance.state.current.isSome
    rw [answer] at step
    generalize scan.advance.state = next at step ⊢
    cases step with
    | delivers stocked => rfl
    | receives needed came => rfl

/-! ## The counts of a scan -/

/-- The counts of an open scan agree with the steps since it was last reset. -/
structure Agrees (limit : Nat) (scan : Remote (OnRecord φ)) (since : List (Step (Remote (OnRecord φ)))) :
    Prop where
  isOpen : scan.closed = false
  pageSize : scan.pageSize = limit
  received : scan.received = (receivedRows since).length
  rows : delivered since ++ scan.page = receivedRows since
  drained_iff : scan.drained = true ↔ ∃ page ∈ pagesOf since, page.length < limit

theorem agrees_of_start {limit : Nat} (isOpen : scan.closed = false) (pageSize : scan.pageSize = limit)
    (received : scan.received = 0) (page : scan.page = []) (undrained : scan.drained = false) :
    Agrees limit scan [] where
  isOpen := isOpen
  pageSize := pageSize
  received := received
  rows := page
  drained_iff := by simp [undrained]

namespace Agrees

variable {limit : Nat} {since : List (Step (Remote (OnRecord φ)))} (agrees : Agrees limit scan since)
include agrees

/-- A page is needed when all rows have been delivered and none of the pages was short. -/
theorem needsPage_iff : scan.needsPage = true ↔
    delivered since = receivedRows since ∧ ∀ page ∈ pagesOf since, limit ≤ page.length := by
  have empty : scan.page = [] ↔ delivered since = receivedRows since := by
    rw [← agrees.rows]
    simp
  have undrained : scan.drained = false ↔ ∀ page ∈ pagesOf since, limit ≤ page.length := by
    rw [← Bool.not_eq_true, agrees.drained_iff]
    simp
  rw [Remote.needsPage_iff, empty, undrained]

/-- What a step adds to the counts, with the pages that came during it. -/
theorem add {next : Remote (OnRecord φ)} {step : Step (Remote (OnRecord φ))} (came : List (List Row))
    (fetched : step.fetches.filterMap Exchange.page? = came) (isOpen : next.closed = scan.closed)
    (pageSize : next.pageSize = scan.pageSize)
    (received : next.received = scan.received + came.flatten.length)
    (rows : step.row?.toList ++ next.page = scan.page ++ came.flatten)
    (drained : next.drained = true ↔
      scan.drained = true ∨ ∃ page ∈ came, page.length < scan.pageSize) :
    Agrees limit next (since ++ [step]) where
  isOpen := isOpen.trans agrees.isOpen
  pageSize := pageSize.trans agrees.pageSize
  received := by
    rw [received, agrees.received]
    simp [receivedRows, fetched]
  rows := by
    have before := agrees.rows
    rw [receivedRows] at before
    rw [receivedRows, delivered_append, delivered_singleton, List.append_assoc, rows,
      ← List.append_assoc, before]
    simp [fetched]
  drained_iff := by
    rw [drained, agrees.drained_iff, agrees.pageSize]
    simp [fetched, or_and_right, exists_or]

theorem advance : Agrees limit scan.advance.state (since ++ [stepOf scan .advance]) := by
  have fetches := fetches_stepOf agrees.isOpen (nofun : Request.advance ≠ .close)
  have row := row?_advance agrees.isOpen
  have step := advances agrees.isOpen
  generalize scan.advance.answer = answer, scan.advance.state = next at step row ⊢
  cases step with
  | delivers stocked =>
    -- a row goes from the page to the rows delivered
    refine agrees.add [] (by simp [fetches, stocked]) rfl rfl rfl ?_ (by simp [deliver])
    rw [row]
    cases page : scan.page <;> simp [deliver, page]
  | fails needed refused =>
    -- the record grows by an exchange without a page
    refine agrees.add [] (by simp [fetches, needed, refused, Exchange.page?, Except.toOption]) rfl rfl
      rfl ?_ (by simp [afterAsking])
    rw [row]
    simp [afterAsking]
  | @receives page needed came =>
    -- the page before it was empty, so the first row of the new one is delivered at once
    obtain ⟨empty, -⟩ := Remote.needsPage_iff.mp needed
    have short : (scan.afterAsking.receive page).deliver.drained = true ↔
        scan.drained = true ∨ page.length < scan.pageSize := by
      rw [← decide_eq_true_iff (p := page.length < scan.pageSize), ← Bool.or_eq_true]
      exact Iff.rfl
    refine agrees.add [page] (by simp [fetches, needed, came, Exchange.page?, Except.toOption]) rfl rfl
      (by simp [deliver, receive, afterAsking]) ?_ (by simpa using short)
    rw [row]
    cases page <;> simp [deliver, receive, afterAsking, empty]

theorem still {request : Request} (other : request ≠ .advance) (unclosed : request ≠ .close) :
    Agrees limit scan (since ++ [stepOf scan request]) := by
  refine agrees.add [] ?_ rfl rfl rfl ?_ (by simp)
  · rw [fetches_of_other other unclosed]
    rfl
  · rw [Cursor.row?_of_other scan other]
    simp

end Agrees

theorem Agrees.perform {limit : Nat} {steps : List (Step (Remote (OnRecord φ)))}
    (agrees : Agrees limit scan (sinceReset steps)) {request : Request} (unclosed : request ≠ .close) :
    Agrees limit (Cursor.perform scan request).state
      (sinceReset (steps ++ [stepOf scan request])) := by
  have step := performs agrees.isOpen unclosed
  generalize (Cursor.perform scan request).state = next at step ⊢
  cases step with
  | advances =>
    rw [sinceReset_of_other (nofun : (stepOf scan .advance).request ≠ .reset)]
    exact agrees.advance
  | rewinds =>
    rw [sinceReset_of_reset (rfl : (stepOf scan .reset).request = .reset)]
    exact agrees_of_start agrees.isOpen agrees.pageSize rfl rfl rfl
  | stays waits forward =>
    rw [sinceReset_of_other (show (stepOf scan request).request ≠ .reset from forward)]
    exact agrees.still waits unclosed

/-! ## How a step follows others -/

/-- What a step may fetch and deliver after other steps. -/
structure Orderly (limit : Nat) (earlier : List (Step (Remote (OnRecord φ))))
    (step : Step (Remote (OnRecord φ))) : Prop where
  /-- A page is asked for just when an advance finds all rows delivered and no page short. -/
  asks_iff : step.fetches ≠ [] ↔ step.request = .advance ∧
    delivered (sinceReset earlier) = receivedRows (sinceReset earlier) ∧
    ∀ page ∈ pagesOf (sinceReset earlier), limit ≤ page.length
  /-- It is asked for once, from the number of rows received on. -/
  asks : ∀ exchange ∈ step.fetches, step.fetches = [exchange] ∧
    exchange.offset = (receivedRows (sinceReset earlier)).length ∧ exchange.limit = limit
  /-- A fault of the pager is the answer, and the current row stays. -/
  faults : ∀ exchange ∈ step.fetches, ∀ fault, exchange.answer = .error fault →
    step.answer = .moved (.error fault) ∧ Cursor.currentRow step.after = Cursor.currentRow step.before
  /-- The rows delivered are the first of those received. -/
  in_order : delivered (sinceReset (earlier ++ [step])) <+:
    receivedRows (sinceReset (earlier ++ [step]))
  /-- Where there is no further row, all of them have been delivered. -/
  whole : step.answer = .moved (.ok false) →
    delivered (sinceReset (earlier ++ [step])) = receivedRows (sinceReset (earlier ++ [step]))

omit [Pager φ] in
theorem page_of_deliver (none : scan.deliver.current.isSome = false) : scan.deliver.page = [] := by
  cases page : scan.page with
  | nil => simp [deliver, page]
  | cons row more => simp [deliver, page] at none

/-- An advance that finds no row leaves none on the page. -/
theorem page_of_false (isOpen : scan.closed = false) (answer : scan.advance.answer = .ok false) :
    scan.advance.state.page = [] := by
  have step := advances isOpen
  generalize scan.advance.answer = result, scan.advance.state = next at step answer ⊢
  cases step with
  | delivers stocked => exact page_of_deliver (Except.ok.inj answer)
  | fails needed refused => cases answer
  | receives needed came => exact page_of_deliver (Except.ok.inj answer)

theorem Agrees.orderly {limit : Nat} {earlier : List (Step (Remote (OnRecord φ)))}
    (agrees : Agrees limit scan (sinceReset earlier)) {request : Request}
    (unclosed : request ≠ .close) : Orderly limit earlier (stepOf scan request) := by
  have fetches := fetches_stepOf agrees.isOpen unclosed
  have after := agrees.perform unclosed
  constructor
  · rw [fetches, ← agrees.needsPage_iff]
    simp [stepOf]
  · intro exchange member
    rw [fetches] at member ⊢
    split at member
    case isTrue asks =>
      obtain rfl := List.mem_singleton.mp member
      exact ⟨if_pos asks, agrees.received, agrees.pageSize⟩
    case isFalse => cases member
  · intro exchange member fault failed
    rw [fetches] at member
    split at member
    case isTrue asks =>
      obtain rfl := List.mem_singleton.mp member
      obtain ⟨rfl, needed⟩ := asks
      obtain ⟨answer, state⟩ := advance_of_fault agrees.isOpen needed failed
      have kept : scan.advance.state.current = scan.current := by
        rw [state]
        rfl
      exact ⟨congrArg Answer.moved answer, kept⟩
    case isFalse => cases member
  · rw [← after.rows]
    exact List.prefix_append _ _
  · intro ended
    have moved : request = .advance := by
      cases request with
      | advance => rfl
      | currentRow | rowCount | reset | close | needsClose | schema => cases ended
    subst moved
    have answer : scan.advance.answer = .ok false := Answer.moved.inj ended
    have empty : (Cursor.perform scan .advance).state.page = [] := page_of_false agrees.isOpen answer
    rw [← after.rows, empty, List.append_nil]

/-- A step of the transcript of a new scan has the counts of the steps before it. -/
theorem orderly_of_transcript {schema : Schema} {pager : φ} {pageSize : Nat} {requests : List Request}
    (unclosed : .close ∉ requests) {earlier later : List (Step (Remote (OnRecord φ)))}
    {step : Step (Remote (OnRecord φ))}
    (split : transcript (ofPager schema (OnRecord.start pager) pageSize) requests =
      earlier ++ step :: later) : Orderly (max pageSize 1) earlier step := by
  obtain ⟨front, request, back, rfl, rfl, rfl, -⟩ := Cursor.transcript_split split
  simp only [List.mem_append, List.mem_cons, not_or] at unclosed
  obtain ⟨before, here, -⟩ := unclosed
  have counted : Agrees (max pageSize 1)
      (Cursor.run (ofPager schema (OnRecord.start pager) pageSize) front).state
      (sinceReset (transcript (ofPager schema (OnRecord.start pager) pageSize) front)) := by
    refine Cursor.transcript_invariant (P := fun scan steps =>
      Agrees (max pageSize 1) scan (sinceReset steps)) ?_ ?_
    · intro scan steps request member agrees
      exact agrees.perform fun closes => before (closes ▸ member)
    · exact agrees_of_start rfl rfl rfl rfl rfl
  exact counted.orderly (Ne.symm here)

/-- Requests other than to advance neither deliver nor fetch. -/
theorem counts_of_idle {requests : List Request} (unclosed : .close ∉ requests)
    {idle : List (Step (Remote (OnRecord φ)))} (among : ∀ s ∈ idle, s ∈ transcript scan requests)
    (other : ∀ s ∈ idle, s.request ≠ .advance) : delivered idle = [] ∧ pagesOf idle = [] := by
  have still : ∀ s ∈ idle, s.row? = none ∧ s.fetches = [] := by
    intro s member
    obtain ⟨before, after, split⟩ := List.append_of_mem (among s member)
    obtain ⟨front, request, back, rfl, -, rfl, -⟩ := Cursor.transcript_split split
    have waits : request ≠ .advance := other _ member
    have opens : request ≠ .close := by
      rintro rfl
      exact unclosed (by simp)
    exact ⟨Cursor.row?_of_other _ waits, fetches_of_other waits opens⟩
  constructor
  · exact List.filterMap_eq_nil_iff.mpr fun s member => (still s member).1
  · apply List.flatMap_eq_nil_iff.mpr
    intro s member
    rw [(still s member).2]
    rfl

/-- A request that fails changes no count, and neither do idle steps behind it. -/
theorem Orderly.counts_of_fault {limit : Nat} {earlier idle : List (Step (Remote (OnRecord φ)))}
    {step : Step (Remote (OnRecord φ))} (orderly : Orderly limit earlier step) {exchange : Exchange}
    (member : exchange ∈ step.fetches) {fault : Fault} (failed : exchange.answer = .error fault)
    (forward : ∀ s ∈ idle, s.request ≠ .reset) (rows : delivered idle = [])
    (pages : pagesOf idle = []) :
    delivered (sinceReset (earlier ++ step :: idle)) = delivered (sinceReset earlier) ∧
      pagesOf (sinceReset (earlier ++ step :: idle)) = pagesOf (sinceReset earlier) := by
  have moving : step.request ≠ .reset := by
    rw [(orderly.asks_iff.mp (List.ne_nil_of_mem member)).1]
    exact nofun
  have row : step.row? = none := by
    unfold Step.row?
    rw [(orderly.faults exchange member fault failed).1]
  have page : step.fetches.filterMap Exchange.page? = [] := by
    rw [(orderly.asks exchange member).1]
    simp [Exchange.page?, failed, Except.toOption]
  rw [sinceReset_append (List.forall_mem_cons.mpr ⟨moving, forward⟩), List.append_cons,
    delivered_append, pagesOf_append, rows, pages]
  simp [row, page]

/-- A run of a new scan over any pager, up to where it is closed. The record that is kept of the pager does
not show. A page is asked for by an advance alone, once, when all rows received since the last reset have
been delivered and none of the pages since then was short, and it is asked for from the number of these
rows on and with the size of a page as the limit. A fault is answered as it is, leaves the current row, and
the next advance makes the same request again. The rows delivered since the last reset are always the first
ones of those received, and all of them once an advance has answered `false`. -/
theorem transcript_orderly (schema : Schema) (pager : φ) (pageSize : Nat) {requests : List Request}
    (unclosed : .close ∉ requests) :
    let scan := ofPager schema (OnRecord.start pager) pageSize
    let steps := transcript scan requests
    Cursor.run (ofPager schema pager pageSize) requests =
      (Cursor.run scan requests).mapState (map OnRecord.inner) ∧
    (∀ earlier step later, steps = earlier ++ step :: later →
      Orderly (max pageSize 1) earlier step) ∧
    ∀ earlier step between next later, steps = earlier ++ step :: between ++ next :: later →
      next.request = .advance → (∀ s ∈ between, s.request ≠ .advance ∧ s.request ≠ .reset) →
      ∀ exchange ∈ step.fetches, ∀ fault, exchange.answer = .error fault →
        ∃ answer, next.fetches = [{ exchange with answer }] := by
  intro scan steps
  refine ⟨(view_map OnRecord.view_inner).run scan requests,
    fun _ _ _ => orderly_of_transcript unclosed, ?_⟩
  intro earlier step between next later split moving idle exchange member fault failed
  -- the two requests are compared by the counts of the steps before them
  have first : Orderly (max pageSize 1) earlier step :=
    orderly_of_transcript unclosed (by simpa [steps] using split)
  have second : Orderly (max pageSize 1) (earlier ++ step :: between) next :=
    orderly_of_transcript unclosed split
  obtain ⟨-, whole, long⟩ := first.asks_iff.mp (List.ne_nil_of_mem member)
  obtain ⟨-, offset, limit⟩ := first.asks exchange member
  have among : ∀ s ∈ between, s ∈ transcript scan requests := by
    intro s member
    change s ∈ steps
    simp [split, member]
  obtain ⟨rows, pages⟩ := counts_of_idle unclosed among fun s member => (idle s member).1
  obtain ⟨rows, pages⟩ :=
    first.counts_of_fault member failed (fun s member => (idle s member).2) rows pages
  -- so what made the first of them necessary still holds
  have again : next.fetches ≠ [] := by
    apply second.asks_iff.mpr
    rw [receivedRows, rows, pages]
    exact ⟨moving, whole, long⟩
  obtain ⟨other, present⟩ := List.exists_mem_of_ne_nil _ again
  obtain ⟨alone, offset', limit'⟩ := second.asks other present
  rw [receivedRows, pages] at offset'
  have same : other = { exchange with answer := other.answer } := by
    rw [offset, limit, receivedRows, ← offset', ← limit']
  rw [alone]
  exact ⟨other.answer, congrArg (fun exchange => [exchange]) same⟩

end Remote

/-- A pager that gives prepared answers, one after the other, and empty pages after that. -/
structure Pager.Scripted where
  answers : List (Except Fault (List Row))

instance : Pager Pager.Scripted where
  fetch pager _ _ :=
    match pager.answers with
    | [] => .silent (.ok []) pager
    | answer :: rest => .silent answer ⟨rest⟩

namespace Remote

open Cursor (transcript)

/-- Two rows come with the first page, the second request fails and is made again after a look at the
current row, and a short page ends the scan. -/
theorem transcript_orderly_past_fault :
    let row (n : Nat) : Row := ⟨List.replicate n .null⟩
    let busy : Fault := .source "busy"
    let pager : Pager.Scripted := ⟨[.ok [row 1, row 2], .error busy, .ok [row 3]]⟩
    let scan := ofPager .empty (OnRecord.start pager) 2
    let requests := [.advance, .advance, .advance, .currentRow, .advance, .advance]
    ∃ first second failed look again last,
      transcript scan requests = [first, second] ++ failed :: [look] ++ again :: [last] ∧
      failed.fetches = [⟨2, 2, .error busy⟩] ∧ Orderly 2 [first, second] failed ∧
      (∃ answer, again.fetches = [⟨2, 2, answer⟩]) ∧
      delivered [first, second, failed, look, again, last] = [row 1, row 2, row 3] := by
  intro row busy pager scan requests
  obtain ⟨-, orderly, repeats⟩ :=
    transcript_orderly .empty pager 2 (by decide : .close ∉ requests)
  let step (place : Nat) (request : Request) :=
    Cursor.stepOf (Cursor.run scan (requests.take place)).state request
  have split : transcript scan requests = [step 0 .advance, step 1 .advance] ++
      step 2 .advance :: [step 3 .currentRow] ++ step 4 .advance :: [step 5 .advance] := rfl
  have refused : (step 2 .advance).fetches = [⟨2, 2, .error busy⟩] := rfl
  refine ⟨step 0 .advance, step 1 .advance, step 2 .advance, step 3 .currentRow, step 4 .advance,
    step 5 .advance, split, refused, orderly _ _ _ split, ?_, ?_⟩
  · have idle : ∀ s ∈ [step 3 .currentRow], s.request ≠ .advance ∧ s.request ≠ .reset := by
      simp [step, Cursor.stepOf]
    exact repeats _ _ _ _ _ split rfl idle ⟨2, 2, .error busy⟩ (by simp [refused]) busy rfl
  · rfl

end Remote

end RowMerge
