import RowMerge.Proofs.Trees

/-!
# Trees and flat merges

A tree of merges that has just been built stands for its leaves from left to right, as the flat merge over
them does, and the relation between the two is kept by all requests. What is asked of the leaves is that
they are steady, and that it does not show whether they were asked for their row counts: a flat merge asks
for them one by one until their sum is known or has no 64 bits, a tree asks for them branch by branch, so
that the two do not ask the same leaves.
-/
namespace RowMerge

/-! ## A leaf that shows that it was asked -/

/-- A scan that refuses to be advanced once it has been asked for its row count a number of times. -/
structure Impatient where
  scan : Scan
  declared : Nat
  /-- How many times it still lets itself be asked. -/
  patience : Nat

namespace Impatient

def tired : Fault := .source "asked for the row count too often"

def advance (source : Impatient) : Outcome Impatient (Except Fault Bool) :=
  match source.patience with
  | 0 => .silent (.error tired) source
  | _ + 1 => (Cursor.advance source.scan).mapState fun scan => { source with scan }

instance : Cursor Impatient where
  advance := advance
  reset source := (Cursor.reset source.scan).mapState fun scan => { source with scan }
  close source := (Cursor.close source.scan).mapState fun scan => { source with scan }
  rowCount source :=
    .silent (some source.declared) { source with patience := source.patience - 1 }
  currentRow source := Cursor.currentRow source.scan
  needsClose source := Cursor.needsClose source.scan
  schema source := Cursor.schema source.scan

theorem declared_perform (source : Impatient) (request : Request) :
    (Cursor.perform source request).state.declared = source.declared := by
  obtain ⟨scan, declared, patience⟩ := source
  cases request with
  | advance => cases patience <;> rfl
  | currentRow | rowCount | reset | close | needsClose | schema => rfl

theorem steady (source : Impatient) : Cursor.Steady source := by
  refine Cursor.steady_of_invariant (P := fun other => other.declared = source.declared) ?_ ?_
    (some source.declared) (fun _ => congrArg some) rfl
  · exact fun other request same => (other.declared_perform request).trans same
  · rintro ⟨scan, declared, patience⟩ - moved
    cases patience with
    | zero => cases moved
    | succ patience => exact Scan.isSome_of_advance moved

end Impatient

namespace MergeTree

variable {σ : Type} [Cursor σ] {order : Row → Row → Ordering}

/-! ## Runs of a tree -/

/-- A tree of merges of any shape by one total preorder answers every request as the flat merge over the
same leaves does, and the same advances are reported in the same order. The merges may have been built
with any limits that allow it. The leaves show a row whenever they move to one and declare one row count
for good, and that they were asked for it shows neither in their other answers nor in the advances that
they report. They may fail to advance and to close, and their rows need not be sorted; only a leaf that
fails to go back is left out. -/
theorem run_eq_run_flat [Std.TransCmp order] {depth : Nat} {root : Merge (MergeTree σ depth)}
    {flat : Merge σ} (grown : Built order (depth + 1) (ofMerge root))
    (made : Merge.Built order (leaves (depth + 1) (ofMerge root)) flat)
    (steady : ∀ leaf ∈ leaves (depth + 1) (ofMerge root), Cursor.Steady leaf)
    (inert : ∀ leaf ∈ leaves (depth + 1) (ofMerge root), Cursor.Inert leaf)
    {requests : List Request} (rewindable : flat.Rewindable requests) :
    (Cursor.run (ofMerge root) requests).answer = (Cursor.run flat requests).answer ∧
      Event.advanced (Cursor.run (ofMerge root) requests).events =
        Event.advanced (Cursor.run flat requests).events := by
  have regular : ∀ leaf ∈ leaves (depth + 1) (ofMerge root), Cursor.Regular leaf :=
    fun leaf member => (steady leaf member).regular (inert leaf member)
  rw [(view_ofMerge depth).run]
  exact (flattens_of_built grown made regular).run (grouping depth) rewindable

/-- A tree that the flat merge over its leaves does not follow. The flat merge finds that the counts of the
first two leaves have no sum of 64 bits and asks no further, while the branch of the tree asks its second
leaf, which then fails to advance. And where merges are limited to two lanes, each merge of the tree may be
built and advanced, and the flat one is refused. -/
theorem run_ne_run_flat_of_impatient_leaf :
    let order := compareOn Row.arity
    let source (number : Int64) (declared patience : Nat) : Impatient :=
      ⟨.ofRows .empty [⟨[.integer number]⟩], declared, patience⟩
    let a := source 1 1 2
    let b := source 2 1 1
    let c := source 3 (Merge.countLimit - 1) 2
    let inner : MergeTree Impatient 1 := ofMerge (Merge.fresh order [a, b])
    let root : Merge (MergeTree Impatient 1) := Merge.fresh order [leaf c 1, inner]
    let flat := Merge.fresh order [c, a, b]
    let requests := [.rowCount, .advance]
    let narrow : Config := { maxLanes := 2 }
    (Built order 2 (ofMerge root) ∧ Merge.Built order (leaves 2 (ofMerge root)) flat ∧
      (∀ leaf ∈ leaves 2 (ofMerge root), Cursor.Steady leaf) ∧ flat.Rewindable requests ∧
      (Cursor.run (ofMerge root) requests).answer =
        [.count none, .moved (.error Impatient.tired)] ∧
      (Cursor.run flat requests).answer = [.count none, .moved (.ok true)]) ∧
    (∃ built, Merge.build narrow order [a, b] = .ok built) ∧
    (∃ built, Merge.build narrow order [leaf c 1, inner] = .ok built ∧ built.state = root) ∧
    (Cursor.run (ofMerge root) [.advance]).answer = [.moved (.ok true)] ∧
    Merge.build narrow order (leaves 2 (ofMerge root)) = .error (.tooManySources 3 2) := by
  intro order source a b c inner root flat requests narrow
  have grown : Built order 2 (ofMerge root) := by
    refine ⟨[leaf c 1, inner], ?_, {}, _, rfl, rfl⟩
    refine List.forall_mem_cons.mpr ⟨trivial, List.forall_mem_singleton.mpr ?_⟩
    exact ⟨[a, b], fun _ _ => trivial, {}, _, rfl, rfl⟩
  have rewindable : flat.Rewindable requests := by
    simp only [requests, Merge.rewindable_cons]
    exact ⟨nofun, nofun, Merge.rewindable_nil _⟩
  exact ⟨⟨grown, ⟨{}, _, rfl, rfl⟩, fun leaf _ => leaf.steady, rewindable, rfl, rfl⟩, ⟨_, rfl⟩,
    ⟨_, rfl, rfl⟩, rfl, rfl⟩

/-- Scans under watch, one of them not sorted, in a tree of two levels that is reset half way and
closed in the end. The order is that of the number of columns, so that some rows are tied. -/
theorem run_eq_run_flat_of_watched_scans :
    let order := compareOn Row.arity
    let scan (name : String) (rows : List Row) : Watched Scan := ⟨name, none, .ofRows .empty rows⟩
    let a := scan "a" [⟨[.integer 1, .integer 2]⟩, ⟨[.integer 3]⟩]
    let b := scan "b" [⟨[.integer 4]⟩, ⟨[.integer 5]⟩]
    let c := scan "c" [⟨[.integer 6]⟩]
    let inner : MergeTree (Watched Scan) 1 := ofMerge (Merge.fresh order [a, b])
    let root : Merge (MergeTree (Watched Scan) 1) := Merge.fresh order [inner, leaf c 1]
    let flat := Merge.fresh order [a, b, c]
    let requests := [.rowCount, .advance, .reset, .advance, .advance, .currentRow, .close, .advance]
    (Cursor.run (ofMerge root) requests).answer = (Cursor.run flat requests).answer ∧
      (Cursor.run flat requests).answer =
        [.count (some 5), .moved (.ok true), .done (.ok ()), .moved (.ok true), .moved (.ok true),
          .row (some ⟨[.integer 5]⟩), .done (.ok ()), .moved (.error Scan.advancedWhenClosed)] ∧
      Event.advanced (Cursor.run (ofMerge root) requests).events =
        ["a", "b", "c", "a", "b", "c", "b", "b"] := by
  intro order scan a b c inner root flat requests
  have grown : Built order 2 (ofMerge root) := by
    refine ⟨[inner, leaf c 1], ?_, {}, _, rfl, rfl⟩
    refine List.forall_mem_cons.mpr ⟨?_, List.forall_mem_singleton.mpr trivial⟩
    exact ⟨[a, b], fun _ _ => trivial, {}, _, rfl, rfl⟩
  have steady : ∀ source ∈ leaves 2 (ofMerge root), Cursor.Steady source := by
    change ∀ source ∈ [a, b, c], Cursor.Steady source
    simp [a, b, c, scan, Watched.steady_scan]
  have inert : ∀ source ∈ leaves 2 (ofMerge root), Cursor.Inert source :=
    fun source _ => source.inert_scan
  have rewindable : flat.Rewindable requests := by
    have open_scans : ∀ lane ∈ (Cursor.run flat [.rowCount, .advance]).state.lanes,
        (Cursor.reset lane.source).answer = .ok () :=
      List.forall_iff_forall_mem.mp ⟨rfl, rfl, rfl⟩
    simp only [requests, Merge.rewindable_cons]
    exact ⟨nofun, nofun, fun _ => open_scans, nofun, nofun, nofun, nofun, nofun,
      Merge.rewindable_nil _⟩
  obtain ⟨answers, advances⟩ := run_eq_run_flat grown ⟨{}, _, rfl, rfl⟩ steady inert rewindable
  refine ⟨answers, ?_, ?_⟩
  · cbv
  · rw [advances]
    cbv

end MergeTree

end RowMerge
