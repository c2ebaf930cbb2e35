import RowMerge.Proofs.Rewinding
import RowMerge.Proofs.Paging

/-!
# Reading a tree again after a reset

A local scan can be read again after a reset, and so can a remote one if its pager answers by the offset
and the limit alone. A tree of merges over such leaves gives the rows that a new tree gives, from the
same lanes and with the same faults, once a reset of its root has succeeded.
-/
namespace RowMerge

/-! ## Reading again -/

/-- A request that only reads on: for the next row, or for the current one. -/
def Request.Reads (request : Request) : Prop := request = .advance ∨ request = .currentRow

namespace Cursor

variable {σ τ : Type} [Cursor σ] [Cursor τ] {s : σ} {t : τ}

/-- Requests that only read on get the same answers from both. -/
def ReadsAlike (s : σ) (t : τ) : Prop :=
  ∀ requests : List Request, (∀ request ∈ requests, request.Reads) →
    (run t requests).answer = (run s requests).answer

theorem Simulation.readsAlike {R : σ → τ → Prop} (simulation : Simulation Request.Reads Eq R)
    (related : R s t) : ReadsAlike s t := by
  intro requests reads
  have answers := (simulation.run related reads).1.imp fun _ _ => SameAnswer.eq_iff.mp
  exact List.forall₂_eq_eq_eq ▸ answers.flip

theorem readsAlike_simulation : Simulation Request.Reads Eq (ReadsAlike (σ := σ) (τ := τ)) := by
  constructor
  intro s t alike request reads
  constructor
  · have answers := alike [request] (by simpa using reads)
    exact SameAnswer.eq_iff.mpr (by simpa [run] using answers)
  · intro later all
    -- what follows is what the longer run goes on with
    have answers := alike (request :: later) (List.forall_mem_cons.mpr ⟨reads, all⟩)
    exact (List.cons.inj answers).2

/-- Leaves of two kinds in one tree can be read again if those of each kind can. -/
theorem Rewinds.sum_readsAlike {σ' τ' : Type} [Cursor σ'] [Cursor τ'] {s : σ ⊕ σ'} {t : τ ⊕ τ'}
    (related : Sum.LiftRel (Rewinds ReadsAlike) (Rewinds ReadsAlike) s t) : Rewinds ReadsAlike s t :=
  (Rewinds.sum related).mono fun _ _ => (readsAlike_simulation.sum readsAlike_simulation).readsAlike

end Cursor

/-! ## Leaves that go back -/

/-- A request other than to close moves a scan and does nothing else to it. -/
theorem Scan.exists_position_of_perform (scan : Scan) {request : Request}
    (unclosed : request ≠ .close) :
    ∃ position, (Cursor.perform scan request).state = { scan with position } := by
  cases request with
  | advance =>
    change ∃ position, scan.advance.state = _
    unfold Scan.advance
    split
    · exact ⟨_, rfl⟩
    · split <;> exact ⟨_, rfl⟩
  | reset =>
    change ∃ position, scan.reset.state = _
    unfold Scan.reset
    split <;> exact ⟨_, rfl⟩
  | close => exact absurd rfl unclosed
  | currentRow | rowCount | needsClose | schema => exact ⟨_, rfl⟩

theorem Scan.exists_position_of_run (scan : Scan) {requests : List Request}
    (unclosed : .close ∉ requests) :
    ∃ position, (Cursor.run scan requests).state = { scan with position } := by
  refine Cursor.run_invariant_unclosed (P := fun t : Scan => ∃ position, t = { scan with position })
    ?_ ⟨scan.position, rfl⟩ unclosed
  rintro _ request unclosed ⟨position, rfl⟩
  exact Scan.exists_position_of_perform { scan with position } unclosed

theorem Scan.reset_of_open {scan : Scan} (isOpen : scan.closed = false) (position : Option Nat) :
    Cursor.reset { scan with position } = .silent (.ok ()) (Scan.ofRows scan.schema scan.rows) := by
  simp [Cursor.reset, Scan.reset, isOpen, Scan.ofRows]

theorem Scan.goesBack {scan : Scan} (isOpen : scan.closed = false) : Cursor.GoesBack scan := by
  intro requests unclosed
  obtain ⟨position, led⟩ := scan.exists_position_of_run unclosed
  rw [led, Scan.reset_of_open isOpen]
  rfl

theorem Scan.rewinds {scan : Scan} (isOpen : scan.closed = false) :
    Cursor.Rewinds Cursor.ReadsAlike (Scan.ofRows scan.schema scan.rows) scan := by
  intro requests unclosed _
  obtain ⟨position, led⟩ := scan.exists_position_of_run unclosed
  rw [led, Scan.reset_of_open isOpen]
  exact fun _ _ => rfl

/-- A pager that answers by the offset and the limit alone, whatever was fetched before; a fault is an
answer too. -/
def Pager.Answers {φ : Type} [Pager φ] (pages : Nat → Nat → Except Fault (List Row)) (pager : φ) :
    Prop :=
  ∀ later, Pager.Reaches False pager later → ∀ offset limit,
    (Pager.fetch later offset limit).answer = pages offset limit

theorem Pager.Answers.after_fetch {φ : Type} [Pager φ] {pages : Nat → Nat → Except Fault (List Row)}
    {pager : φ} (answers : Pager.Answers pages pager) (offset limit : Nat) :
    Pager.Answers pages (Pager.fetch pager offset limit).state :=
  fun later reached => answers later reached.of_fetch

/-- A pager that is no more than a table of its answers. -/
structure Pager.Table where
  pages : Nat → Nat → Except Fault (List Row)

instance : Pager Pager.Table where
  fetch table offset limit := .silent (table.pages offset limit) table

theorem Pager.Table.answers (table : Pager.Table) : Pager.Answers table.pages table := by
  intro later reached offset limit
  obtain rfl : later = table :=
    reached.keeps (P := (· = table)) (fun _ _ _ same => same) nofun rfl
  rfl

namespace Remote

variable {φ ψ : Type} [Pager φ] [Pager ψ] {pages : Nat → Nat → Except Fault (List Row)}

/-- Two remote scans at the same point, over pagers that answer the same. -/
structure InStep (pages : Nat → Nat → Except Fault (List Row)) (s : Remote φ) (t : Remote ψ) :
    Prop where
  pageSize : t.pageSize = s.pageSize
  received : t.received = s.received
  page : t.page = s.page
  current : t.current = s.current
  drained : t.drained = s.drained
  closed : t.closed = s.closed
  answers : Pager.Answers pages s.pager
  answers' : Pager.Answers pages t.pager

namespace InStep

variable {s : Remote φ} {t : Remote ψ} (inStep : InStep pages s t)
include inStep

theorem fetchPage : t.fetchPage.answer = s.fetchPage.answer ∧
    InStep pages s.fetchPage.state t.fetchPage.state := by
  obtain ⟨pageSize, received, page, current, drained, closed, answers, answers'⟩ := inStep
  have fetched := answers _ .start s.received s.pageSize
  have fetched' := answers' _ .start s.received s.pageSize
  simp only [Remote.fetchPage, received, pageSize, fetched, fetched', Outcome.answer_bind,
    Outcome.state_bind]
  cases pages s.received s.pageSize with
  | error fault =>
    exact ⟨rfl, rfl, rfl, page, current, drained, closed, answers.after_fetch _ _,
      answers'.after_fetch _ _⟩
  | ok rows =>
    exact ⟨rfl, rfl, rfl, congrArg (· ++ rows) page, current,
      congrArg (· || decide (rows.length < s.pageSize)) drained, closed, answers.after_fetch _ _,
      answers'.after_fetch _ _⟩

theorem deliver : InStep pages s.deliver t.deliver := by
  obtain ⟨pageSize, received, page, current, drained, closed, answers, answers'⟩ := inStep
  exact ⟨pageSize, received, congrArg List.tail page, congrArg List.head? page, drained, closed,
    answers, answers'⟩

theorem advance : t.advance.answer = s.advance.answer ∧
    InStep pages s.advance.state t.advance.state := by
  have needed : t.needsPage = s.needsPage := by
    rw [needsPage, needsPage, inStep.page, inStep.drained]
  obtain ⟨answer, next⟩ := inStep.fetchPage
  simp only [Remote.advance, inStep.closed, needed]
  -- both scans fetch, or both deliver from the rows they have
  split
  · exact ⟨rfl, inStep⟩
  · split
    · simp only [Outcome.answer_bind, Outcome.state_bind, answer]
      cases s.fetchPage.answer with
      | error fault => exact ⟨rfl, next⟩
      | ok _ => exact ⟨by simp [next.deliver.current], next.deliver⟩
    · exact ⟨by simp [inStep.deliver.current], inStep.deliver⟩

end InStep

theorem inStep_simulation :
    Cursor.Simulation Request.Reads Eq (InStep (φ := φ) (ψ := ψ) pages) := by
  constructor
  intro s t inStep request reads
  obtain rfl | rfl := reads
  · obtain ⟨answer, next⟩ := inStep.advance
    exact ⟨SameAnswer.eq_iff.mpr (congrArg Answer.moved answer), next⟩
  · exact ⟨SameAnswer.row_iff.mpr inStep.current, inStep⟩

/-- A request other than to close leaves an open remote scan open, with the size of its pages, and with
a pager that fetches have led to. -/
theorem keeps_of_perform {scan : Remote ψ} (isOpen : scan.closed = false)
    (answers : Pager.Answers pages scan.pager) {request : Request} (unclosed : request ≠ .close) :
    (Cursor.perform scan request).state.closed = false ∧
      (Cursor.perform scan request).state.pageSize = scan.pageSize ∧
      Pager.Answers pages (Cursor.perform scan request).state.pager := by
  have keeps := scan.keeps_perform unclosed
  exact ⟨keeps.closed.trans isOpen, keeps.pageSize, keeps.pager_of answers (answers.after_fetch _ _)⟩

theorem keeps_of_run {scan : Remote ψ} (isOpen : scan.closed = false)
    (answers : Pager.Answers pages scan.pager) {requests : List Request}
    (unclosed : .close ∉ requests) :
    (Cursor.run scan requests).state.closed = false ∧
      (Cursor.run scan requests).state.pageSize = scan.pageSize ∧
      Pager.Answers pages (Cursor.run scan requests).state.pager := by
  refine Cursor.run_invariant_unclosed (P := fun t : Remote ψ => t.closed = false ∧
    t.pageSize = scan.pageSize ∧ Pager.Answers pages t.pager) ?_ ⟨isOpen, rfl, answers⟩ unclosed
  rintro t request unclosed ⟨isOpen, size, answers⟩
  obtain ⟨still, kept, answers⟩ := keeps_of_perform isOpen answers unclosed
  exact ⟨still, kept.trans size, answers⟩

theorem goesBack {scan : Remote ψ} (isOpen : scan.closed = false)
    (answers : Pager.Answers pages scan.pager) : Cursor.GoesBack scan := by
  intro requests unclosed
  rw [reset_of_open (keeps_of_run isOpen answers unclosed).1]
  rfl

theorem rewinds {pager : φ} {scan : Remote ψ} (answers : Pager.Answers pages pager)
    (answers' : Pager.Answers pages scan.pager) (isOpen : scan.closed = false)
    (pageSize_pos : 0 < scan.pageSize) :
    Cursor.Rewinds Cursor.ReadsAlike (Remote.ofPager scan.schema pager scan.pageSize) scan := by
  have simulation : Cursor.Simulation Request.Reads Eq (InStep (φ := φ) (ψ := ψ) pages) :=
    inStep_simulation
  intro requests unclosed _
  obtain ⟨isOpen, size, answers'⟩ := keeps_of_run isOpen answers' unclosed
  rw [reset_of_open isOpen]
  refine simulation.readsAlike ?_
  exact ⟨size.trans (Nat.max_eq_left pageSize_pos).symm, rfl, rfl, rfl, rfl, isOpen, answers,
    answers'⟩

end Remote

/-- A scan that refuses to go back a number of times. -/
structure Reluctant where
  scan : Scan
  refusals : Nat

namespace Reluctant

def refused : Fault := .source "the scan does not go back now"

instance : Cursor Reluctant where
  advance source := source.scan.advance.mapState fun scan => { source with scan }
  reset source :=
    match source.refusals with
    | 0 => source.scan.reset.mapState fun scan => { source with scan }
    | refusals + 1 => .silent (.error refused) { source with refusals }
  close source := source.scan.close.mapState fun scan => { source with scan }
  rowCount source := (Cursor.rowCount source.scan).mapState fun scan => { source with scan }
  currentRow source := source.scan.currentRow
  needsClose source := Cursor.needsClose source.scan
  schema source := source.scan.schema

theorem reads_simulation :
    Cursor.Simulation Request.Reads Eq fun (scan : Scan) (source : Reluctant) => source.scan = scan := by
  constructor
  rintro _ source rfl request reads
  obtain rfl | rfl := reads
  · exact ⟨SameAnswer.eq_iff.mpr rfl, rfl⟩
  · exact ⟨SameAnswer.eq_iff.mpr rfl, rfl⟩

theorem rewinds {source : Reluctant} (isOpen : source.scan.closed = false) :
    Cursor.Rewinds Cursor.ReadsAlike (Scan.ofRows source.scan.schema source.scan.rows) source := by
  refine Cursor.rewinds_of_invariant
    (P := fun t => ∃ position, t.scan = { source.scan with position }) ?_ ?_ ⟨source.scan.position, rfl⟩
  · rintro ⟨_, refusals⟩ request unclosed ⟨position, rfl⟩
    have moved := Scan.exists_position_of_perform { source.scan with position } unclosed
    -- a reset that is refused does not even reach the scan
    cases request with
    | reset =>
      cases refusals with
      | zero => exact moved
      | succ refusals => exact ⟨position, rfl⟩
    | _ => exact moved
  · rintro ⟨_, refusals⟩ ⟨position, rfl⟩ ok
    -- a reset succeeds only once all refusals are used up
    cases refusals with
    | succ refusals => cases ok
    | zero =>
      refine reads_simulation.readsAlike ?_
      exact congrArg Outcome.state (Scan.reset_of_open isOpen position)

end Reluctant

/-! ## Trees over leaves that go back -/

/-- Whatever requests other than to close have done to an open local scan, or to an open remote one whose
pager answers by the offset and the limit alone, a reset of it succeeds, and then it is read like a new
scan.

Take two new trees of one shape and by the same orders, where each leaf of the second is read like the
leaf of the first after a reset that succeeds; the second may be the first itself. Whatever requests
other than to close have done to the second, advances that fail and resets that fail half way among
them, a reset of its root succeeds exactly if a reset of every leaf does. Once one has succeeded, the
second is read like the first: with the same rows, the same faults and the same lanes. -/
theorem MergeTree.run_after_reset {σ τ : Type} [Cursor σ] [Cursor τ] :
    (∀ scan : Scan, scan.closed = false → Cursor.GoesBack scan ∧
      Cursor.Rewinds Cursor.ReadsAlike (Scan.ofRows scan.schema scan.rows) scan) ∧
    (∀ {φ ψ : Type} [Pager φ] [Pager ψ] (pages : Nat → Nat → Except Fault (List Row)) (pager : φ)
      (scan : Remote ψ), Pager.Answers pages pager → Pager.Answers pages scan.pager →
      scan.closed = false → 0 < scan.pageSize → Cursor.GoesBack scan ∧
      Cursor.Rewinds Cursor.ReadsAlike (Remote.ofPager scan.schema pager scan.pageSize) scan) ∧
    ∀ {depth : Nat} (fresh : MergeTree σ depth) (tree : MergeTree τ depth),
      BuiltBeside (Cursor.Rewinds Cursor.ReadsAlike) depth fresh tree →
      ∀ before : List Request, .close ∉ before →
      let used := (Cursor.run tree before).state
      let again := (Cursor.reset used).state
      ((Cursor.reset used).answer = .ok () ↔
        ∀ leaf ∈ leaves depth used, (Cursor.reset leaf).answer = .ok ()) ∧
      ((Cursor.reset used).answer = .ok () →
        ∀ later : List Request, (∀ request ∈ later, request.Reads) →
          (Cursor.run again later).answer = (Cursor.run fresh later).answer ∧
            (Cursor.run again later).state.currentLane =
              (Cursor.run fresh later).state.currentLane) := by
  refine ⟨?_, ?_, ?_⟩
  · intro scan isOpen
    exact ⟨Scan.goesBack isOpen, Scan.rewinds isOpen⟩
  · intro _ _ _ _ pages pager scan answers answers' isOpen pageSize_pos
    exact ⟨Remote.goesBack isOpen answers', Remote.rewinds answers answers' isOpen pageSize_pos⟩
  · intro depth fresh tree built before unclosed used again
    refine ⟨reset_ok_iff, ?_⟩
    intro ok later reads
    have beside : Beside Cursor.ReadsAlike depth fresh again := built.rewinds before unclosed ok
    have simulation := MergeTree.simulation (Cursor.readsAlike_simulation (σ := σ) (τ := τ))
      (fun _ => .inr rfl) (by simp [Request.Reads]) (fun _ => rfl) depth
    exact ⟨simulation.readsAlike beside later reads, (simulation.run beside reads).2.currentLane⟩

/-- The second page of a remote scan never comes, and a scan refuses to go back when the lanes before it
have gone back already. The next reset succeeds. -/
theorem MergeTree.run_after_reset_of_refusal :
    let order := compareOn Row.arity
    let one : Row := ⟨[.integer 1]⟩
    let two : Row := ⟨[.integer 1, .integer 2]⟩
    let table : Pager.Table :=
      ⟨fun offset _ => if offset = 0 then .ok [one] else .error (.source "no such page")⟩
    let scan := Scan.ofRows .empty [two, one]
    let remote := Remote.ofPager .empty table 1
    let inner : MergeTree (Scan ⊕ Scan ⊕ Remote Pager.Table) 1 :=
      .ofMerge (Merge.fresh order [.inr (.inr remote), .inl scan])
    let fresh : MergeTree (Scan ⊕ Scan ⊕ Remote Pager.Table) 2 :=
      .ofMerge (Merge.fresh order [.leaf (.inr (.inl scan)) 1, inner])
    let inner' : MergeTree (Reluctant ⊕ Scan ⊕ Remote Pager.Table) 1 :=
      .ofMerge (Merge.fresh order [.inr (.inr remote), .inl ⟨scan, 1⟩])
    let tree : MergeTree (Reluctant ⊕ Scan ⊕ Remote Pager.Table) 2 :=
      .ofMerge (Merge.fresh order [.leaf (.inr (.inl scan)) 1, inner'])
    let before := [.advance, .advance, .advance, .currentRow, .reset, .rowCount, .advance]
    let later := [.advance, .currentRow, .advance, .advance, .currentRow]
    let again := (Cursor.reset (Cursor.run tree before).state).state
    (Cursor.run again later).answer = (Cursor.run fresh later).answer ∧
      (Cursor.run again later).state.currentLane = (Cursor.run fresh later).state.currentLane := by
  intro order one two table scan remote inner fresh inner' tree before later again
  obtain ⟨scans, remotes, trees⟩ := run_after_reset (σ := Scan ⊕ Scan ⊕ Remote Pager.Table)
    (τ := Reluctant ⊕ Scan ⊕ Remote Pager.Table)
  have scan_rewinds : Cursor.Rewinds Cursor.ReadsAlike scan scan := (scans scan rfl).2
  have remote_rewinds : Cursor.Rewinds Cursor.ReadsAlike remote remote :=
    (remotes table.pages table remote table.answers table.answers rfl Nat.one_pos).2
  have reluctant_rewinds : Cursor.Rewinds Cursor.ReadsAlike scan (⟨scan, 1⟩ : Reluctant) :=
    Reluctant.rewinds rfl
  have below : BuiltBeside (Cursor.Rewinds Cursor.ReadsAlike) 1 inner inner' := by
    refine .inr ⟨order, [.inr (.inr remote), .inl scan], [.inr (.inr remote), .inl ⟨scan, 1⟩], ?_,
      ⟨{}, _, rfl, rfl⟩, ⟨{}, _, rfl, rfl⟩⟩
    exact .cons (.sum_readsAlike (.inr (.sum_readsAlike (.inr remote_rewinds))))
      (.cons (.sum_readsAlike (.inl reluctant_rewinds)) .nil)
  have built : BuiltBeside (Cursor.Rewinds Cursor.ReadsAlike) 2 fresh tree := by
    refine .inr ⟨order, [.leaf (.inr (.inl scan)) 1, inner], [.leaf (.inr (.inl scan)) 1, inner'], ?_,
      ⟨{}, _, rfl, rfl⟩, ⟨{}, _, rfl, rfl⟩⟩
    exact .cons (.inl (.sum_readsAlike (.inr (.sum_readsAlike (.inl scan_rewinds)))))
      (.cons below .nil)
  have ok : (Cursor.reset (Cursor.run tree before).state).answer = .ok () := by decide
  exact (trees fresh tree built before (by simp [before])).2 ok later
    (by simp [later, Request.Reads])

end RowMerge
