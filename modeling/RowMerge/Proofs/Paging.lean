import RowMerge.Proofs.RemoteSteps
import RowMerge.Proofs.Simulation
import RowMerge.Cursor.Broken

/-!
# Local and remote scans

A remote scan whose pager serves a list of rows cannot be told from a local scan of this list, whatever
the size of a page is: short pages, pages that end with the list, and pages longer than asked for all
come to the same rows. Both scans are read as the list of the rows that they still have; for the
remote one these are the rows on its page and those past the ones it has received. So a tree of merges
answers the same when local scans among its leaves are replaced by remote ones, all but the words of
the faults of closed scans.
-/
namespace RowMerge

/-! ## Pagers of a list -/

namespace Pager

variable {φ : Type} [Pager φ]

/-- A pager that never fails and answers, whatever was fetched before, with rows of a list from the
offset on: with as many as are asked for or left, or with more. -/
structure Serves (rows : List Row) (pager : φ) : Prop where
  fetch : ∀ later, Reaches False pager later → ∀ offset limit, ∃ size,
    (Pager.fetch later offset limit).answer = .ok ((rows.drop offset).take size) ∧
      min limit (rows.length - offset) ≤ size
  release : ∀ later, Reaches False pager later → (Pager.release later).answer = .ok ()

theorem Serves.after_fetch {rows : List Row} {pager : φ} (serves : Serves rows pager)
    (offset limit : Nat) : Serves rows (Pager.fetch pager offset limit).state :=
  ⟨fun later reached => serves.fetch later reached.of_fetch,
    fun later reached => serves.release later reached.of_fetch⟩

/-- A pager over rows at hand, which gives one row more than it is asked for at the second fetch, two
more at the third, and so on. -/
structure Generous where
  rows : List Row
  fetches : Nat

namespace Generous

instance : Pager Generous where
  fetch pager offset limit :=
    .silent (.ok ((pager.rows.drop offset).take (limit + pager.fetches)))
      { pager with fetches := pager.fetches + 1 }

theorem serves (pager : Generous) : Serves pager.rows pager := by
  constructor
  · intro later reached offset limit
    have kept : later.rows = pager.rows :=
      reached.keeps (P := fun later : Generous => later.rows = pager.rows) (fun _ _ _ same => same)
        nofun rfl
    refine ⟨limit + later.fetches, by rw [← kept]; rfl, ?_⟩
    exact Nat.le_trans (Nat.min_le_left _ _) (Nat.le_add_right _ _)
  · intro later _
    rfl

end Generous

end Pager

/-! ## Remote scans -/

namespace Remote

variable {φ : Type} [Pager φ]

/-- An open remote scan of a list of rows that still has the rows of another list to deliver. -/
structure Reading (schema : Schema) (rows rest : List Row) (scan : Remote φ) : Prop where
  columns : scan.schema = schema
  isOpen : scan.closed = false
  pageSize_pos : 0 < scan.pageSize
  serves : Pager.Serves rows scan.pager
  left : scan.page ++ rows.drop scan.received = rest
  drained : scan.drained = true → rows.drop scan.received = []

namespace Reading

variable {schema : Schema} {rows rest : List Row} {scan : Remote φ}

theorem ofPager {pager : φ} (serves : Pager.Serves rows pager) (pageSize : Nat) :
    Reading schema rows rows (Remote.ofPager schema pager pageSize) where
  columns := rfl
  isOpen := rfl
  pageSize_pos := Nat.lt_of_lt_of_le Nat.zero_lt_one (Nat.le_max_right pageSize 1)
  serves := serves
  left := rfl
  drained := nofun

theorem ahead (reading : Reading schema rows rest scan) : Ahead rows rest scan :=
  ⟨reading.isOpen, reading.pageSize_pos, reading.left, reading.drained⟩

theorem advance (reading : Reading schema rows rest scan) :
    scan.advance.answer = .ok rest.head?.isSome ∧ scan.advance.state.current = rest.head? ∧
      Reading schema rows rest.tail scan.advance.state := by
  obtain ⟨size, served, enough⟩ := reading.serves.fetch _ .start scan.received scan.pageSize
  have asked : scan.asked.answer = .ok ((rows.drop scan.received).take size) := served
  have paged : ∀ page, scan.asked.answer = .ok page →
      Pager.PageOf rows scan.received scan.pageSize page := by
    intro page came
    cases asked.symm.trans came
    exact ⟨size, rfl, enough⟩
  rcases reading.ahead.advance paged with ⟨fault, refused, -, -⟩ | ⟨answer, current, next⟩
  · cases asked.symm.trans refused
  · have keeps := scan.keeps_advance
    have serves := keeps.pager_of reading.serves (reading.serves.after_fetch _ _)
    exact ⟨answer, current, keeps.schema.trans reading.columns, next.isOpen, next.pageSize_pos, serves,
      next.left, next.drained⟩

theorem reset (reading : Reading schema rows rest scan) :
    scan.reset.answer = .ok () ∧ scan.reset.state.current = none ∧
      Reading schema rows rows scan.reset.state := by
  have rewound : scan.reset = .silent (.ok ()) scan.rewound := reset_of_open reading.isOpen
  rw [rewound]
  exact ⟨rfl, rfl, reading.columns, reading.isOpen, reading.pageSize_pos, reading.serves, rfl, nofun⟩

theorem close (reading : Reading schema rows rest scan) :
    scan.close.answer = .ok () ∧ scan.close.state.current = none ∧
      scan.close.state.closed = true ∧ scan.close.state.schema = schema := by
  have released := reading.serves.release _ .start
  simp [Remote.close, reading.isOpen, released, reading.columns]

end Reading

end Remote

/-! ## Local scans -/

namespace Scan

/-- The rows that a scan has still before it. -/
def left (scan : Scan) : List Row := scan.rows.drop scan.nextPosition

variable {scan : Scan}

theorem advance_of_open (isOpen : scan.closed = false) :
    ∃ next : Scan, scan.advance = .silent (.ok scan.left.head?.isSome) next ∧
      next.currentRow = scan.left.head? ∧ next.left = scan.left.tail ∧
      next.rows = scan.rows ∧ next.schema = scan.schema ∧ next.closed = false := by
  by_cases within : scan.nextPosition < scan.rows.length
  · have here : scan.left.head? = some scan.rows[scan.nextPosition] := by
      simp [left, within]
    refine ⟨{ scan with position := some scan.nextPosition }, ?_, ?_, ?_, rfl, rfl, isOpen⟩
    · simp [advance, isOpen, within, here]
    · simp [currentRow, within, here]
    · simp [left, nextPosition, List.tail_drop]
  · have none : scan.left = [] := List.drop_eq_nil_of_le (Nat.le_of_not_lt within)
    refine ⟨{ scan with position := some scan.rows.length }, ?_, ?_, ?_, rfl, rfl, isOpen⟩
    · simp [advance, isOpen, within, none]
    · simp [currentRow, none]
    · rw [none]
      simp [left, nextPosition]

end Scan

/-! ## One in place of the other -/

/-- The same fault, or that of a closed local scan beside that of a closed remote one. -/
inductive Fault.Reworded : Fault → Fault → Prop
  | same (fault : Fault) : Reworded fault fault
  | advanced : Reworded Scan.advancedWhenClosed Remote.advancedWhenClosed
  | reset : Reworded Scan.resetWhenClosed Remote.resetWhenClosed

section Replacement

variable {φ : Type} [Pager φ]

/-- A remote scan at the same place of the same rows as a local one. -/
inductive Follows : Scan → Remote φ → Prop
  | opened {scan : Scan} {remote : Remote φ} (isOpen : scan.closed = false)
      (current : remote.current = scan.currentRow)
      (reading : Remote.Reading scan.schema scan.rows scan.left remote) : Follows scan remote
  | closed {scan : Scan} {remote : Remote φ} (shut : scan.closed = true)
      (shut' : remote.closed = true) (position : scan.position = none)
      (current : remote.current = none) (columns : remote.schema = scan.schema) :
      Follows scan remote

theorem Follows.ofRows {rows : List Row} {pager : φ} (serves : Pager.Serves rows pager)
    (schema : Schema) (pageSize : Nat) :
    Follows (Scan.ofRows schema rows) (Remote.ofPager schema pager pageSize) :=
  .opened rfl rfl (Remote.Reading.ofPager serves pageSize)

theorem Follows.advance {scan : Scan} {remote : Remote φ} (follows : Follows scan remote) :
    SameResult Fault.Reworded scan.advance.answer remote.advance.answer ∧
      Follows scan.advance.state remote.advance.state := by
  cases follows with
  | opened isOpen current reading =>
    obtain ⟨next, moved, shown, left, rows, schema, isOpen⟩ := Scan.advance_of_open isOpen
    obtain ⟨answer, shown', reading⟩ := reading.advance
    rw [moved, answer]
    refine ⟨.ok _, .opened isOpen (shown'.trans shown.symm) ?_⟩
    rw [Outcome.state_silent, rows, schema, left]
    exact reading
  | closed shut shut' position current columns =>
    simp only [Scan.advance, Remote.advance, shut, shut', if_true]
    exact ⟨.error .advanced, .closed shut shut' position current columns⟩

theorem Follows.reset {scan : Scan} {remote : Remote φ} (follows : Follows scan remote) :
    SameResult Fault.Reworded scan.reset.answer remote.reset.answer ∧
      Follows scan.reset.state remote.reset.state := by
  cases follows with
  | opened isOpen current reading =>
    have rewound : scan.reset = .silent (.ok ()) { scan with position := none } := by
      simp [Scan.reset, isOpen]
    obtain ⟨answer, current, reading⟩ := reading.reset
    rw [rewound, answer]
    exact ⟨.ok (), .opened isOpen current reading⟩
  | closed shut shut' position current columns =>
    simp only [Scan.reset, Remote.reset, shut, shut', if_true]
    exact ⟨.error .reset, .closed shut shut' position current columns⟩

theorem Follows.close {scan : Scan} {remote : Remote φ} (follows : Follows scan remote) :
    SameResult Fault.Reworded scan.close.answer remote.close.answer ∧
      Follows scan.close.state remote.close.state := by
  cases follows with
  | opened isOpen current reading =>
    obtain ⟨answer, current, shut, columns⟩ := reading.close
    rw [answer]
    exact ⟨.ok (), .closed rfl shut rfl current columns⟩
  | closed shut shut' position current columns =>
    have kept : remote.close = .silent (.ok ()) remote := by simp [Remote.close, shut']
    rw [kept]
    exact ⟨.ok (), .closed rfl shut' rfl current columns⟩

theorem Follows.looks {scan : Scan} {remote : Remote φ} (follows : Follows scan remote) :
    remote.current = scan.currentRow ∧ remote.closed = scan.closed ∧
      remote.schema = scan.schema := by
  cases follows with
  | opened isOpen current reading => exact ⟨current, reading.isOpen.trans isOpen.symm, reading.columns⟩
  | closed shut shut' position current columns =>
    exact ⟨by rw [current, Scan.currentRow, position]; rfl, shut'.trans shut.symm, columns⟩

/-- Requests other than for the row count cannot tell a remote scan from a local one, but for the words
of the faults once both are closed. -/
theorem Follows.simulation :
    Cursor.Simulation (· ≠ .rowCount) Fault.Reworded (Follows (φ := φ)) := by
  constructor
  intro scan remote follows request counted
  obtain ⟨current, closed, columns⟩ := follows.looks
  cases request with
  | advance => exact ⟨.moved follows.advance.1, follows.advance.2⟩
  | reset => exact ⟨.done follows.reset.1, follows.reset.2⟩
  | close => exact ⟨.done follows.close.1, follows.close.2⟩
  | rowCount => exact absurd rfl counted
  | currentRow => exact ⟨SameAnswer.row_iff.mpr current, follows⟩
  | needsClose =>
    exact ⟨SameAnswer.held_iff.mpr (congrArg (! ·) closed), follows⟩
  | schema => exact ⟨SameAnswer.columns_iff.mpr columns, follows⟩

variable {σ : Type} [Cursor σ]

/-- A leaf that is kept, whatever it is, or a new local scan with a new remote one in its place. -/
inductive Replaced : Scan ⊕ σ → Remote φ ⊕ (Scan ⊕ σ) → Prop
  | kept (leaf : Scan ⊕ σ) : Replaced leaf (.inr leaf)
  | paged {rows : List Row} {pager : φ} (serves : Pager.Serves rows pager) (schema : Schema)
      (pageSize : Nat) :
      Replaced (.inl (.ofRows schema rows)) (.inl (.ofPager schema pager pageSize))

/-- A leaf beside the one in its place, wherever requests have led them. -/
inductive Placed : Scan ⊕ σ → Remote φ ⊕ (Scan ⊕ σ) → Prop
  | kept (leaf : Scan ⊕ σ) : Placed leaf (.inr leaf)
  | follows {scan : Scan} {remote : Remote φ} (follows : Follows scan remote) :
      Placed (.inl scan) (.inl remote)

omit [Cursor σ] in
theorem Replaced.placed {leaf : Scan ⊕ σ} {other : Remote φ ⊕ (Scan ⊕ σ)}
    (replaced : Replaced leaf other) : Placed leaf other := by
  cases replaced with
  | kept => exact .kept leaf
  | paged serves schema pageSize => exact .follows (.ofRows serves schema pageSize)

theorem Placed.simulation :
    Cursor.Simulation (· ≠ .rowCount) Fault.Reworded (Placed (φ := φ) (σ := σ)) := by
  constructor
  intro leaf other placed request counted
  cases placed with
  | kept =>
    have answer := SameAnswer.refl Fault.Reworded.same (Cursor.perform leaf request).answer
    cases request <;> exact ⟨answer, .kept _⟩
  | follows follows =>
    obtain ⟨answer, next⟩ := Follows.simulation.perform follows counted
    cases request <;> exact ⟨answer, .follows next⟩

/-- Trees of merges of any shape and by any orders that differ in some leaves, which are local scans in
the one and in the other remote scans, with pages of any size, of the rows of the local ones. Requests
other than for the row count get the same answers from both, but for the words of the faults of closed
scans, and the current rows come from the same lanes of the roots. -/
theorem run_of_replaced {depth : Nat} {tree : MergeTree (Scan ⊕ σ) depth}
    {paged : MergeTree (Remote φ ⊕ (Scan ⊕ σ)) depth}
    (replaced : MergeTree.BuiltBeside Replaced depth tree paged) {requests : List Request}
    (uncounted : .rowCount ∉ requests) :
    List.Forall₂ (SameAnswer Fault.Reworded) (Cursor.run tree requests).answer
        (Cursor.run paged requests).answer ∧
      (Cursor.run paged requests).state.currentLane =
        (Cursor.run tree requests).state.currentLane := by
  have simulation := MergeTree.simulation (Placed.simulation (φ := φ) (σ := σ))
    (fun _ => nofun) (fun counted => counted rfl) Fault.Reworded.same depth
  have beside := replaced.beside fun _ _ => Replaced.placed
  have allowed : ∀ request ∈ requests, request ≠ .rowCount := by
    rintro request member rfl
    exact uncounted member
  obtain ⟨answers, final⟩ := simulation.run beside allowed
  exact ⟨answers, final.currentLane⟩

/-- Two of the three scans of a tree of two levels are replaced, with pages of one row and of two. The
tree fails once, is reset half way and read again until the rows come from its second lane, then closed,
and advanced and reset in vain. -/
theorem run_of_replaced_with_generous_pagers :
    let order := compareOn Row.arity
    let rows : List Row := [⟨[.integer 1, .integer 2]⟩, ⟨[.integer 3]⟩, ⟨[]⟩]
    let others : List Row := [⟨[.integer 4]⟩]
    let scan (rows : List Row) : Scan ⊕ Broken := .inl (.ofRows .empty rows)
    let remote (rows : List Row) (pageSize : Nat) : Remote Pager.Generous ⊕ (Scan ⊕ Broken) :=
      .inl (.ofPager .empty ⟨rows, 0⟩ pageSize)
    let broken : Scan ⊕ Broken := .inr (.onAdvance .empty (.source "no such file"))
    let inner : MergeTree (Scan ⊕ Broken) 1 := .ofMerge (Merge.fresh order [scan rows, scan others])
    let tree : MergeTree (Scan ⊕ Broken) 2 :=
      .ofMerge (Merge.fresh order [inner, .leaf (scan rows) 1, .leaf broken 1])
    let inner' : MergeTree (Remote Pager.Generous ⊕ (Scan ⊕ Broken)) 1 :=
      .ofMerge (Merge.fresh order [remote rows 0, .inr (scan others)])
    let paged : MergeTree (Remote Pager.Generous ⊕ (Scan ⊕ Broken)) 2 :=
      .ofMerge (Merge.fresh order [inner', .leaf (remote rows 2) 1, .leaf (.inr broken) 1])
    let early := [.advance, .advance, .advance, .currentRow, .reset, .advance, .advance, .advance,
      .advance, .advance, .currentRow]
    let late := [.close, .advance, .reset, .needsClose, .schema]
    (Cursor.run tree (early ++ late)).answer =
        [.moved (.error (.source "no such file")), .moved (.ok true), .moved (.ok true),
          .row (some ⟨[.integer 1, .integer 2]⟩), .done (.ok ()), .moved (.ok true), .moved (.ok true),
          .moved (.ok true), .moved (.ok true), .moved (.ok true),
          .row (some ⟨[.integer 1, .integer 2]⟩), .done (.ok ()),
          .moved (.error Scan.advancedWhenClosed), .done (.error Scan.resetWhenClosed), .held false,
          .columns .empty] ∧
      List.Forall₂ (SameAnswer Fault.Reworded) (Cursor.run tree (early ++ late)).answer
        (Cursor.run paged (early ++ late)).answer ∧
      (Cursor.run tree early).state.currentLane = some 1 ∧
      (Cursor.run paged early).state.currentLane = some 1 := by
  intro order rows others scan remote broken inner tree inner' paged early late
  have served : Pager.Serves rows (⟨rows, 0⟩ : Pager.Generous) := Pager.Generous.serves ⟨rows, 0⟩
  have below : MergeTree.BuiltBeside Replaced 1 inner inner' := by
    refine .inr ⟨order, [scan rows, scan others], [remote rows 0, .inr (scan others)], ?_,
      ⟨{}, _, rfl, rfl⟩, ⟨{}, _, rfl, rfl⟩⟩
    exact .cons (.paged served .empty 0) (.cons (.kept (scan others)) .nil)
  have replaced : MergeTree.BuiltBeside Replaced 2 tree paged := by
    refine .inr ⟨order, [inner, .leaf (scan rows) 1, .leaf broken 1],
      [inner', .leaf (remote rows 2) 1, .leaf (.inr broken) 1], ?_,
      ⟨{}, _, rfl, rfl⟩, ⟨{}, _, rfl, rfl⟩⟩
    exact .cons below (.cons (.inl (.paged served .empty 2)) (.cons (.inl (.kept broken)) .nil))
  obtain ⟨same, -⟩ := run_of_replaced replaced (by decide : .rowCount ∉ early ++ late)
  obtain ⟨-, lane⟩ := run_of_replaced replaced (by decide : .rowCount ∉ early)
  have shown : (Cursor.run tree early).state.currentLane = some 1 := by cbv
  refine ⟨?_, same, shown, lane.trans shown⟩
  cbv

end Replacement

end RowMerge
