import RowMerge.Cursor.Broken
import RowMerge.Cursor.Watched
import RowMerge.Proofs.Consistency
import RowMerge.Proofs.Rewinding

/-!
# Closing a whole tree

A close is a best effort: a merge closes all its lanes, whatever fails on the way, and answers the fault
of the first lane that failed. A lane may be over a merge itself, so a close of the root comes to every
leaf of the tree, from left to right, and what it answers is the fault of the first leaf that failed. The
merges on the way drop their current rows and keep everything else.

The proofs follow the tree. A leaf is all there is to close of itself, and what a merge does to its lanes
is put together from what is done to the leaves below each of them.
-/
namespace RowMerge

namespace Event

/-- The call that the event reports, beside the name of the object that it reaches. -/
def call? : Event → Option (String × Call)
  | .call object made => some (object, made)
  | .note _ => none

/-- The calls in the course of events, without the notes. -/
def calls (events : List Event) : List (String × Call) := events.filterMap call?

@[simp] theorem calls_nil : calls [] = [] := rfl

@[simp] theorem calls_append (first second : List Event) :
    calls (first ++ second) = calls first ++ calls second := List.filterMap_append

@[simp] theorem calls_note (note : Note) (events : List Event) :
    calls (.note note :: events) = calls events := rfl

end Event

namespace Merge

/-- A merge without its sources. -/
structure Shell where
  /-- The number and the lookahead of each lane. -/
  marks : List (Nat × Lookahead)
  order : Row → Row → Ordering
  current : Option Row
  currentLane : Option Nat
  count : CountMemo

def shell {σ : Type} (merge : Merge σ) : Shell :=
  ⟨merge.lanes.map mark, merge.order, merge.current, merge.currentLane, merge.count⟩

/-! ## First faults -/

theorem firstFault_flatMap {α : Type} (answers : α → List (Except Fault Unit)) (members : List α) :
    firstFault (members.flatMap answers) =
      firstFault (members.map fun member => firstFault (answers member)) := by
  induction members with
  | nil => rfl
  | cons member rest ih =>
    rw [List.flatMap_cons, firstFault_append, ih, List.map_cons]
    cases firstFault (answers member) <;> rfl

theorem firstFault_of_split {before after : List (Except Fault Unit)} {fault : Fault}
    (ok : ∀ answer ∈ before, answer = .ok ()) :
    firstFault (before ++ .error fault :: after) = .error fault := by
  rw [firstFault_append, firstFault_eq_ok_iff.mpr ok]
  rfl

/-! ## Lanes -/

/-- What a close of lanes calls is what the closes of their sources call, one after the other. -/
theorem calls_closeAll {σ : Type} [Cursor σ] (lanes : List (Lane σ)) :
    Event.calls (closeAll lanes).events =
      lanes.flatMap fun lane => Event.calls (Cursor.close lane.source).events := by
  induction lanes with
  | nil => rfl
  | cons lane rest ih =>
    -- a fault leaves a note, and the lanes behind are closed all the same
    cases answer : (Cursor.close lane.source).answer with
    | ok _ => simp [closeAll, Lane.close, answer, ih]
    | error fault => simp [closeAll, Lane.close, answer, ih]

end Merge

namespace MergeTree

open Merge (Shell firstFault)

variable {σ : Type}

/-- The merges of a tree without their sources, each before those in its lanes. -/
def shells : (depth : Nat) → MergeTree σ depth → List Shell
  | 0, _ => []
  | _ + 1, .inl _ => []
  | depth + 1, .inr merge => merge.shell :: merge.lanes.flatMap fun lane => shells depth lane.source

theorem shells_leaf (source : σ) (depth : Nat) : shells depth (leaf source depth) = [] := by
  cases depth <;> rfl

variable [Cursor σ]

/-! ## One close of the root -/

/-- A close of the tree is a close of each of its leaves, from left to right, and of nothing else. -/
structure ClosesThrough (depth : Nat) (tree : MergeTree σ depth) : Prop where
  /-- Each leaf is as one close leaves it. -/
  leaves : leaves depth (Cursor.close tree).state =
    (leaves depth tree).map fun leaf => (Cursor.close leaf).state
  /-- The calls are those that the closes of the leaves make, in the order of the leaves. -/
  calls : Event.calls (Cursor.close tree).events =
    (MergeTree.leaves depth tree).flatMap fun leaf => Event.calls (Cursor.close leaf).events
  answer : (Cursor.close tree).answer =
    firstFault ((MergeTree.leaves depth tree).map fun leaf => (Cursor.close leaf).answer)
  /-- A merge drops its current row; its lanes, its order and its memo are as before. -/
  shells : shells depth (Cursor.close tree).state =
    (shells depth tree).map fun shell => { shell with current := none, currentLane := none }

theorem close_leaf (source : σ) (depth : Nat) :
    Cursor.close (leaf source depth) = (Cursor.close source).mapState fun next => leaf next depth := by
  cases depth <;> rfl

theorem closesThrough_leaf (source : σ) (depth : Nat) : ClosesThrough depth (leaf source depth) := by
  constructor
  · rw [close_leaf, Outcome.state_mapState, leaves_leaf, leaves_leaf, List.map_singleton]
  · rw [close_leaf, Outcome.events_mapState, leaves_leaf, List.flatMap_singleton]
  · rw [close_leaf, Outcome.answer_mapState, leaves_leaf, List.map_singleton]
    cases (Cursor.close source).answer <;> rfl
  · rw [close_leaf, Outcome.state_mapState, shells_leaf, shells_leaf, List.map_nil]

theorem closesThrough_ofMerge {depth : Nat} {merge : Merge (MergeTree σ depth)}
    (below : ∀ lane ∈ merge.lanes, ClosesThrough depth lane.source) :
    ClosesThrough (depth + 1) (ofMerge merge) where
  leaves := by
    change leaves (depth + 1) (ofMerge merge.close.state) = _
    rw [Merge.state_close, leaves_ofMerge, leaves_ofMerge, List.map_flatMap, List.flatMap_map]
    exact List.flatMap_congr fun lane member => (below lane member).leaves
  calls := by
    change Event.calls (Merge.closeAll merge.lanes).events = _
    rw [Merge.calls_closeAll, leaves_ofMerge, List.flatMap_assoc]
    exact List.flatMap_congr fun lane member => (below lane member).calls
  answer := by
    change (Merge.closeAll merge.lanes).answer = _
    rw [(Merge.closeAll_eq merge.lanes).1, leaves_ofMerge, List.map_flatMap,
      Merge.firstFault_flatMap]
    apply congrArg firstFault
    exact List.map_congr_left fun lane member => (below lane member).answer
  shells := by
    change shells (depth + 1) (ofMerge merge.close.state) = _
    rw [Merge.state_close]
    simp only [MergeTree.shells, ofMerge, List.map_cons, List.map_flatMap, List.flatMap_map]
    apply congrArg₂ List.cons
    · simp [Merge.shell, Function.comp_def, Merge.mark, Merge.closed]
    · exact List.flatMap_congr fun lane member => (below lane member).shells

theorem closesThrough (depth : Nat) (tree : MergeTree σ depth) : ClosesThrough depth tree := by
  induction depth with
  | zero => exact closesThrough_leaf tree 0
  | succ depth ih =>
    rcases tree with source | merge
    · exact closesThrough_leaf source (depth + 1)
    · exact closesThrough_ofMerge fun lane _ => ih lane.source

/-! ## What is still held -/

theorem needsClose_leaf_iff (source : σ) (depth : Nat) :
    Cursor.needsClose (leaf source depth) = true ↔
      ∀ other ∈ leaves depth (leaf source depth), Cursor.needsClose other = true := by
  rw [leaves_leaf, List.forall_mem_singleton]
  cases depth <;> rfl

/-- A tree holds something as long as all of its leaves do. -/
theorem needsClose_iff (depth : Nat) (tree : MergeTree σ depth) :
    Cursor.needsClose tree = true ↔ ∀ leaf ∈ leaves depth tree, Cursor.needsClose leaf = true := by
  induction depth with
  | zero => exact needsClose_leaf_iff tree 0
  | succ depth ih =>
    rcases tree with source | merge
    · exact needsClose_leaf_iff source (depth + 1)
    · change merge.lanes.all Lane.needsClose = true ↔ _
      rw [List.all_eq_true]
      constructor
      · intro held leaf member
        obtain ⟨lane, place, below⟩ := List.mem_flatMap.mp member
        exact (ih lane.source).mp (held lane place) leaf below
      · intro held lane place
        apply (ih lane.source).mpr
        intro leaf below
        exact held leaf (List.mem_flatMap.mpr ⟨lane, place, below⟩)

/-! ## Every state of a tree -/

theorem perform_leaf (source : σ) (depth : Nat) (request : Request) :
    (Cursor.perform (leaf source depth) request).state =
      leaf (Cursor.perform source request).state depth := by
  cases depth with
  | zero => rfl
  | succ depth =>
    change (Cursor.perform (.inl source : σ ⊕ Merge (MergeTree σ depth)) request).state = _
    rw [Cursor.perform_inl]
    rfl

/-- No request adds a leaf to a tree or takes one away. -/
theorem length_leaves_perform (depth : Nat) (tree : MergeTree σ depth) (request : Request) :
    (leaves depth (Cursor.perform tree request).state).length = (leaves depth tree).length := by
  induction depth generalizing request with
  | zero => rfl
  | succ depth ih =>
    rcases tree with source | merge
    · change (leaves (depth + 1) (Cursor.perform (leaf source (depth + 1)) request).state).length = _
      rw [perform_leaf, leaves_leaf]
      rfl
    · have moved : (Cursor.perform (ofMerge merge) request).state =
          ofMerge (Cursor.perform merge request).state := by
        change (Cursor.perform (.inr merge : σ ⊕ Merge (MergeTree σ depth)) request).state = _
        rw [Cursor.perform_inr]
        rfl
      change (leaves (depth + 1) (Cursor.perform (ofMerge merge) request).state).length = _
      rw [moved, leaves_ofMerge, List.length_flatMap]
      change _ = (merge.lanes.flatMap fun lane => leaves depth lane.source).length
      rw [List.length_flatMap]
      apply congrArg List.sum
      -- a lane is over the tree it was over, or over what the request made of it
      apply Eq.symm
      apply map_eq_map_of_forall₂
      refine (Merge.passed_perform merge request).1.imp fun lane next passed => ?_
      rcases passed.source with same | moved
      · rw [same]
      · rw [moved, ih]

theorem length_leaves_run (depth : Nat) (tree : MergeTree σ depth) (requests : List Request) :
    (leaves depth (Cursor.run tree requests).state).length = (leaves depth tree).length := by
  refine Cursor.run_invariant
    (P := fun next : MergeTree σ depth => (leaves depth next).length = (leaves depth tree).length)
    ?_ rfl requests
  intro next request same
  exact (length_leaves_perform depth next request).trans same

/-- The trees that there can be: leaves in any state, merges that are built over trees, by any order and
with any limits, and whatever requests make of either. -/
inductive Grown : (depth : Nat) → MergeTree σ depth → Prop
  | leaf (source : σ) (depth : Nat) : Grown depth (leaf source depth)
  | merge {depth : Nat} {order : Row → Row → Ordering} {sources : List (MergeTree σ depth)}
      {merge : Merge (MergeTree σ depth)} (grown : ∀ source ∈ sources, Grown depth source)
      (built : Merge.Built order sources merge) : Grown (depth + 1) (ofMerge merge)
  | run {depth : Nat} {tree : MergeTree σ depth} (grown : Grown depth tree)
      (requests : List Request) : Grown depth (Cursor.run tree requests).state

theorem Grown.leaves_ne_nil {depth : Nat} {tree : MergeTree σ depth} (grown : Grown depth tree) :
    leaves depth tree ≠ [] := by
  induction grown with
  | leaf source depth =>
    rw [leaves_leaf]
    exact List.cons_ne_nil source []
  | @merge depth order sources merge _ built ih =>
    obtain ⟨rfl, some_source⟩ := built.eq_fresh
    obtain ⟨first, rest, rfl⟩ := List.exists_cons_of_ne_nil some_source
    -- the leaves of the first lane are among those of the tree
    intro empty
    apply ih first List.mem_cons_self
    apply List.flatMap_eq_nil_iff.mp empty (.ofSource 0 first)
    simp [Merge.fresh, Merge.lanesOf]
  | @run depth tree _ requests ih =>
    intro empty
    have length := length_leaves_run depth tree requests
    rw [empty] at length
    exact ih (List.eq_nil_of_length_eq_zero length.symm)

/-- A tree of merges of any shape and by any orders, in any state. One close of the root closes every
leaf once, from left to right, whatever fails on the way. It succeeds exactly if all leaves are closed
without a fault, and fails with the fault of the first leaf that failed. Then no merge of the tree has a
current row, and all else that the merges hold is as before. The root holds something exactly if all
leaves do, so it holds nothing any more after a close that succeeded, if such a close makes the leaves
hold nothing. -/
theorem close_reaches_leaves {depth : Nat} {tree : MergeTree σ depth} (grown : Grown depth tree) :
    let closed := Cursor.close tree
    leaves depth closed.state = ((leaves depth tree).map fun leaf => (Cursor.close leaf).state) ∧
      Event.calls closed.events =
        ((leaves depth tree).flatMap fun leaf => Event.calls (Cursor.close leaf).events) ∧
      (closed.answer = .ok () ↔ ∀ leaf ∈ leaves depth tree, (Cursor.close leaf).answer = .ok ()) ∧
      (∀ front leaf back fault, leaves depth tree = front ++ leaf :: back →
        (∀ other ∈ front, (Cursor.close other).answer = .ok ()) →
        (Cursor.close leaf).answer = .error fault → closed.answer = .error fault) ∧
      shells depth closed.state =
        ((shells depth tree).map fun shell => { shell with current := none, currentLane := none }) ∧
      (Cursor.needsClose tree = true ↔
        ∀ leaf ∈ leaves depth tree, Cursor.needsClose leaf = true) ∧
      ((∀ leaf ∈ leaves depth tree, (Cursor.close leaf).answer = .ok () →
          Cursor.needsClose (Cursor.close leaf).state = false) →
        closed.answer = .ok () → Cursor.needsClose closed.state = false) := by
  intro closed
  obtain ⟨states, calls, answer, shells⟩ := closesThrough depth tree
  have ok_iff : closed.answer = .ok () ↔
      ∀ leaf ∈ leaves depth tree, (Cursor.close leaf).answer = .ok () := by
    rw [answer, Merge.firstFault_eq_ok_iff, List.forall_mem_map]
  refine ⟨states, calls, ok_iff, ?_, shells, needsClose_iff depth tree, ?_⟩
  · intro front leaf back fault split ok failed
    rw [answer, split, List.map_append, List.map_cons, failed]
    exact Merge.firstFault_of_split (List.forall_mem_map.mpr ok)
  · intro clears ok
    -- one leaf that holds nothing is enough, and a tree has a leaf
    obtain ⟨leaf, others, split⟩ := List.exists_cons_of_ne_nil grown.leaves_ne_nil
    have member : leaf ∈ leaves depth tree := by
      rw [split]
      exact List.mem_cons_self
    have cleared := clears leaf member (ok_iff.mp ok leaf member)
    apply Bool.eq_false_iff.mpr
    intro held
    have still := (needsClose_iff depth closed.state).mp held (Cursor.close leaf).state (by
      rw [states]
      exact List.mem_map_of_mem member)
    rw [cleared] at still
    cases still

/-- Two of four leaves under watch fail to be closed, one of them below the inner merge. When the root has
been advanced both merges have a current row, which they lose, and a row waits for the root, which stays. -/
theorem close_reaches_leaves_past_faults :
    let order := compareOn Row.arity
    let one : Row := ⟨[.integer 1]⟩
    let two : Row := ⟨[.integer 1, .integer 2]⟩
    let expired : Fault := .closeFailed 7 "lease expired"
    let lost : Fault := .source "connection lost"
    let scan (name : String) (row : Row) : Watched (Scan ⊕ Broken) :=
      ⟨name, none, .inl (.ofRows .empty [row])⟩
    let broken (name : String) (fault : Fault) : Watched (Scan ⊕ Broken) :=
      ⟨name, none, .inr (.onClose .empty fault)⟩
    let inner : MergeTree (Watched (Scan ⊕ Broken)) 1 :=
      ofMerge (Merge.fresh order [scan "a" one, broken "b" expired])
    let start : MergeTree (Watched (Scan ⊕ Broken)) 2 :=
      ofMerge (Merge.fresh order [inner, leaf (broken "c" lost) 1, leaf (scan "d" two) 1])
    let tree := (Cursor.run start [.advance]).state
    let closed := Cursor.close tree
    (shells 2 tree).map Shell.current = [some one, some one] ∧
      closed.answer = .error expired ∧
      Event.calls closed.events = [("a", .close), ("b", .close), ("c", .close), ("d", .close)] ∧
      (shells 2 closed.state).map Shell.current = [none, none] ∧
      (shells 2 closed.state).map Shell.marks =
        [[(0, .pending), (1, .exhausted), (2, .buffered two)], [(0, .pending), (1, .exhausted)]] := by
  intro order one two expired lost scan broken inner start tree closed
  let below : List (MergeTree (Watched (Scan ⊕ Broken)) 0) := [scan "a" one, broken "b" expired]
  let sources := [inner, leaf (broken "c" lost) 1, leaf (scan "d" two) 1]
  have grown_inner : Grown 1 inner := by
    have built : Merge.Built order below (Merge.fresh order below) := ⟨{}, _, rfl, rfl⟩
    exact .merge (fun source _ => .leaf source 0) built
  have grown : Grown 2 tree := by
    have built : Merge.Built order sources (Merge.fresh order sources) := ⟨{}, _, rfl, rfl⟩
    refine .run (.merge ?_ built) [.advance]
    refine List.forall_mem_cons.mpr ⟨grown_inner, List.forall_mem_cons.mpr ⟨?_, ?_⟩⟩
    · exact .leaf (broken "c" lost) 1
    · exact List.forall_mem_singleton.mpr (.leaf (scan "d" two) 1)
  obtain ⟨-, calls, -, first, shells, -⟩ := close_reaches_leaves grown
  have closes : (leaves 2 tree).map (fun leaf => (Cursor.close leaf).answer) =
      [.ok (), .error expired, .error lost, .ok ()] := by
    cbv
  have names : (leaves 2 tree).flatMap (fun leaf => Event.calls (Cursor.close leaf).events) =
      [("a", .close), ("b", .close), ("c", .close), ("d", .close)] := by
    cbv
  have marks : (MergeTree.shells 2 tree).map Shell.marks =
      [[(0, .pending), (1, .exhausted), (2, .buffered two)], [(0, .pending), (1, .exhausted)]] := by
    cbv
  have currents : (MergeTree.shells 2 tree).map Shell.current = [some one, some one] := by
    cbv
  obtain ⟨a, behind, split, closed_a, faults⟩ := List.map_eq_cons_iff.mp closes
  obtain ⟨b, back, rfl, failed_b, -⟩ := List.map_eq_cons_iff.mp faults
  refine ⟨currents, ?_, calls.trans names, ?_, ?_⟩
  · exact first [a] b back expired split (List.forall_mem_singleton.mpr closed_a) failed_b
  · -- the tree has two merges
    have length : (MergeTree.shells 2 tree).length = 2 := by
      simpa using congrArg List.length currents
    obtain ⟨outer, under, pair⟩ := List.length_eq_two.mp length
    rw [shells, pair]
    rfl
  · rw [shells, List.map_map]
    exact marks

end MergeTree

end RowMerge
