import RowMerge.Proofs.Closing
import RowMerge.Proofs.Replay

/-!
# Closed trees of merges

A local or remote scan that is closed refuses to be advanced and to go back, and shows no row. So a tree
of merges over such scans gives no row any more once a close of its root has succeeded.
-/
namespace RowMerge

/-! ## Leaves -/

namespace Scan

theorem closed_perform (scan : Scan) {request : Request} (other : request ≠ .close) :
    (Cursor.perform scan request).state.closed = scan.closed := by
  obtain ⟨position, moved⟩ := scan.exists_position_of_perform other
  rw [moved]

/-- A closed scan stands at no row and never moves. -/
structure Lapsed (scan : Scan) : Prop where
  closed : scan.closed = true
  position : scan.position = none

theorem Lapsed.stays {scan : Scan} (lapsed : Lapsed scan) (request : Request) :
    (Cursor.perform scan request).state = scan := by
  obtain ⟨schema, rows, position, closed⟩ := scan
  obtain ⟨rfl, rfl⟩ := lapsed
  cases request <;> rfl

theorem lapses : Cursor.Lapses (fun scan : Scan => scan.closed = true → Lapsed scan)
    (fun _ => True) Lapsed := by
  refine .of_leaf closed_perform (fun _ => rfl) (fun _ _ => ⟨rfl, rfl⟩) (fun lapsed => lapsed.stays)
    ?_ ?_
  · intro scan lapsed
    exact ⟨advancedWhenClosed, by simp [Cursor.advance, advance, lapsed.closed]⟩
  · intro scan lapsed
    simp [Cursor.currentRow, currentRow, lapsed.position]

end Scan

namespace Remote

variable {φ : Type} [Pager φ]

/-- A closed scan shows no row and never moves. -/
structure Lapsed (scan : Remote φ) : Prop where
  closed : scan.closed = true
  current : scan.current = none

theorem Lapsed.stays {scan : Remote φ} (lapsed : Lapsed scan) (request : Request) :
    (Cursor.perform scan request).state = scan := by
  cases request with
  | advance =>
    change scan.advance.state = scan
    simp [advance, lapsed.closed]
  | reset =>
    change scan.reset.state = scan
    simp [reset, lapsed.closed]
  | close =>
    change scan.close.state = scan
    simp [close, lapsed.closed]
  | currentRow | rowCount | needsClose | schema => rfl

/-- A close that succeeds drops the current row, and so does one that fails. -/
theorem lapsed_close {scan : Remote φ} (sound : scan.closed = true → Lapsed scan)
    (closed : scan.close.state.closed = true) : Lapsed scan.close.state := by
  cases already : scan.closed with
  | true =>
    have lapsed := sound already
    exact (lapsed.stays .close).symm ▸ lapsed
  | false =>
    refine ⟨closed, ?_⟩
    simp only [close, already, Bool.false_eq_true, if_false, Outcome.state_bind]
    split <;> rfl

theorem closed_of_close {scan : Remote φ} (ok : scan.close.answer = .ok ()) :
    scan.close.state.closed = true := by
  cases already : scan.closed with
  | true => simp [close, already]
  | false =>
    simp only [close, already, Bool.false_eq_true, if_false, Outcome.answer_bind,
      Outcome.state_bind] at ok ⊢
    cases released : (Pager.release scan.pager).answer with
    | ok _ => rfl
    | error fault => simp [released] at ok

theorem lapses : Cursor.Lapses (fun scan : Remote φ => scan.closed = true → Lapsed scan)
    (fun _ => True) Lapsed := by
  refine .of_leaf (fun scan _ other => (scan.keeps_perform other).closed) closed_of_close lapsed_close
    (fun lapsed => lapsed.stays) ?_ (fun lapsed => lapsed.current)
  intro scan lapsed
  exact ⟨advancedWhenClosed, by simp [Cursor.advance, advance, lapsed.closed]⟩

end Remote

/-- A pager that fails to be released a number of times. -/
structure Pager.Clinging where
  rows : List Row
  failures : Nat

namespace Pager.Clinging

def stuck : Fault := .source "the scanner does not answer"

instance : Pager Clinging where
  fetch pager offset limit := .silent (.ok ((pager.rows.drop offset).take limit)) pager
  release pager :=
    match pager.failures with
    | 0 => .silent (.ok ()) pager
    | failures + 1 => .silent (.error stuck) { pager with failures }

end Pager.Clinging

/-! ## Trees -/

namespace MergeTree

section Leaves

variable {σ : Type} [Cursor σ] {Sound Live Shut : σ → Prop} {depth : Nat} {tree : MergeTree σ depth}

def Waits (Live : σ → Prop) : (depth : Nat) → MergeTree σ depth → Prop
  | 0 => Live
  | depth + 1 => Sum.elim Live (Merge.Waits (Waits Live depth))

def Tended (Sound Live : σ → Prop) : (depth : Nat) → MergeTree σ depth → Prop
  | 0 => Sound
  | depth + 1 => Sum.elim Sound (Merge.Tended (Tended Sound Live depth) (Waits Live depth))

def Lapsed (Shut : σ → Prop) : (depth : Nat) → MergeTree σ depth → Prop
  | 0 => Shut
  | depth + 1 => Sum.elim Shut (Merge.Lapsed (Lapsed Shut depth))

theorem lapses (leaves : Cursor.Lapses Sound Live Shut) (depth : Nat) :
    Cursor.Lapses (Tended Sound Live depth) (Waits Live depth) (Lapsed Shut depth) := by
  induction depth with
  | zero => exact leaves
  | succ depth ih => exact leaves.sum ih.merge

omit [Cursor σ] in
theorem Lapsed.currentLane (lapsed : Lapsed Shut depth tree) : tree.currentLane = none := by
  cases depth with
  | zero => rfl
  | succ depth =>
    cases tree with
    | inl leaf => rfl
    | inr merge => exact Merge.Lapsed.currentLane lapsed

/-- A tree of merges that have all been built, each by an order of its own, and not been advanced. -/
def BuiltOver (P : σ → Prop) : (depth : Nat) → MergeTree σ depth → Prop
  | 0 => P
  | depth + 1 => Sum.elim P fun merge => ∃ order sources,
    (∀ source ∈ sources, BuiltOver P depth source) ∧ Merge.Built order sources merge

theorem BuiltOver.tended {P : σ → Prop} (sound : ∀ leaf, P leaf → Sound leaf)
    (live : ∀ leaf, P leaf → Live leaf) (built : BuiltOver P depth tree) :
    Tended Sound Live depth tree ∧ Waits Live depth tree := by
  induction depth with
  | zero => exact ⟨sound tree built, live tree built⟩
  | succ depth ih =>
    cases tree with
    | inl leaf => exact ⟨sound leaf built, live leaf built⟩
    | inr merge =>
      obtain ⟨order, sources, below, made⟩ := built
      obtain ⟨rfl, some_source⟩ := made.eq_fresh
      exact Merge.Tended.fresh order some_source (fun source member => (ih (below source member)).1)
        fun source member => (ih (below source member)).2

end Leaves

/-- A local or remote scan in any state that requests have brought it to. -/
inductive PartlyRead {φ : Type} [Pager φ] : Scan ⊕ Remote φ → Prop
  | scan (schema : Schema) (rows : List Row) (requests : List Request) :
      PartlyRead (.inl (Cursor.run (Scan.ofRows schema rows) requests).state)
  | remote (schema : Schema) (pager : φ) (pageSize : Nat) (requests : List Request) :
      PartlyRead (.inr (Cursor.run (Remote.ofPager schema pager pageSize) requests).state)

variable {φ : Type} [Pager φ]

theorem PartlyRead.sound {leaf : Scan ⊕ Remote φ} (read : PartlyRead leaf) :
    Sum.elim (fun scan : Scan => scan.closed = true → scan.Lapsed)
      (fun scan : Remote φ => scan.closed = true → scan.Lapsed) leaf := by
  cases read with
  | scan schema rows requests =>
    exact Cursor.run_invariant (P := fun scan : Scan => scan.closed = true → scan.Lapsed)
      (fun _ request sound => Scan.lapses.sound sound request) (by simp [Scan.ofRows]) requests
  | remote schema pager pageSize requests =>
    exact Cursor.run_invariant (P := fun scan : Remote φ => scan.closed = true → scan.Lapsed)
      (fun _ request sound => Remote.lapses.sound sound request) (by simp [Remote.ofPager]) requests

/-- A tree of merges of any shape and by any orders over local and remote scans, whose pagers may fail to
fetch and to be released. Whatever requests have done, once a close of the root has succeeded, no
requests lead to an advance that answers `true`, nor to a current row of the root or a lane of it. -/
theorem run_after_close {depth : Nat} {tree : MergeTree (Scan ⊕ Remote φ) depth}
    (built : BuiltOver PartlyRead depth tree) (before : List Request) :
    let used := (Cursor.run tree before).state
    (Cursor.close used).answer = .ok () → ∀ later : List Request,
      let final := (Cursor.run (Cursor.close used).state later).state
      (Cursor.advance final).answer ≠ .ok true ∧ Cursor.currentRow final = none ∧
        final.currentLane = none := by
  intro used ok later final
  have lapses := lapses (Scan.lapses.sum (Remote.lapses (φ := φ))) depth
  have live : ∀ leaf : Scan ⊕ Remote φ, Sum.elim (fun _ => True) (fun _ => True) leaf := by
    rintro (scan | remote) <;> exact trivial
  have start := (built.tended (fun _ read => read.sound) fun leaf _ => live leaf).1
  obtain ⟨sound, shut⟩ := lapses.run_of_close (lapses.run start before) ok later
  exact ⟨lapses.unmoved sound shut, lapses.rowless sound shut, shut.currentLane⟩

/-- The first close fails at the remote scan, the second one succeeds. A row of the remote scan waits in
its buffer all the while, and the lane over the inner merge has none left. -/
theorem run_after_close_of_waiting_row :
    let order := compareOn Row.arity
    let one : Row := ⟨[.integer 1]⟩
    let two : Row := ⟨[.integer 1, .integer 2]⟩
    let scan (row : Row) : Scan ⊕ Remote Pager.Clinging := .inl (.ofRows .empty [row])
    let remote : Remote Pager.Clinging := .ofPager .empty ⟨[two, two], 1⟩ 1
    let inner : MergeTree (Scan ⊕ Remote Pager.Clinging) 1 := .ofMerge (Merge.fresh order [scan one])
    let tree : MergeTree (Scan ⊕ Remote Pager.Clinging) 2 :=
      .ofMerge (Merge.fresh order [inner, .leaf (scan two) 1, .leaf (.inr remote) 1])
    let used := (Cursor.run tree [.advance, .advance, .close, .advance]).state
    (Cursor.close used).answer = .ok () ∧ ∀ later : List Request,
      let final := (Cursor.run (Cursor.close used).state later).state
      (Cursor.advance final).answer ≠ .ok true ∧ Cursor.currentRow final = none ∧
        final.currentLane = none := by
  intro order one two scan remote inner tree used
  have read : ∀ row, PartlyRead (scan row) := fun row => .scan .empty [row] []
  have read_remote : PartlyRead (.inr remote) := .remote .empty _ 1 []
  have below : BuiltOver PartlyRead 1 inner :=
    ⟨order, [scan one], List.forall_mem_singleton.mpr (read one), {}, _, rfl, rfl⟩
  have built : BuiltOver PartlyRead 2 tree := by
    refine ⟨order, [inner, .leaf (scan two) 1, .leaf (.inr remote) 1], ?_, {}, _, rfl, rfl⟩
    exact List.forall_mem_cons.mpr ⟨below, List.forall_mem_cons.mpr ⟨read two,
      List.forall_mem_singleton.mpr read_remote⟩⟩
  have ok : (Cursor.close used).answer = .ok () := by decide
  exact ⟨ok, run_after_close built _ ok⟩

end MergeTree

end RowMerge
