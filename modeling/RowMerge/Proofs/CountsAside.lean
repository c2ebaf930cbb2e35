import RowMerge.Proofs.RowCounts
import RowMerge.Proofs.Simulation

/-!
# Requests for the row count, and all others

A request for the row count of a merge asks sources for theirs and sets the memo. If asking a leaf of a
tree for its row count does not show in its other answers, asking the root does not show in the other
answers of the root. The run with the requests for the count is followed beside the run without them: the
leaves of the one have been asked a number of times more than those of the other, and there is no other
difference.
-/
namespace RowMerge

namespace Cursor

variable {σ τ : Type} [Cursor σ] [Cursor τ] {s : σ} {t : τ}

/-! ## Two runs -/

/-- Where related cursors stay related when the first is asked for its row count, the second one need not
be asked. -/
theorem run_aside {R : σ → τ → Prop} (simulation : Simulation (· ≠ .rowCount) Eq R)
    (asks : ∀ {s t}, R s t → R (rowCount s).state t) (related : R s t) (requests : List Request) :
    answersAside s requests = (run t (Request.aside requests)).answer ∧
      R (run s requests).state (run t (Request.aside requests)).state := by
  induction requests generalizing s t with
  | nil => exact ⟨rfl, related⟩
  | cons request rest ih =>
    by_cases counting : request = .rowCount
    · -- the first cursor alone gets this request
      subst counting
      rw [answersAside_rowCount]
      simpa [Request.aside, run, perform] using ih (asks related)
    · obtain ⟨answer, next⟩ := simulation.perform related counting
      obtain ⟨answers, final⟩ := ih next
      rw [answersAside_cons s counting, answers]
      simpa [Request.aside, run, counting, SameAnswer.eq_iff.mp answer] using final

/-- Two states that give the same answers to all requests other than for the row count, however often
each of them is asked for it in between. -/
def SameAside (s t : σ) : Prop :=
  ∀ requests others, Request.aside requests = Request.aside others →
    answersAside s requests = answersAside t others

theorem CountsAside.sameAside {s : σ} (aside : CountsAside s) : SameAside s s := by
  intro requests others same
  rw [aside requests, aside others, same]

theorem SameAside.rowCount {s t : σ} (same : SameAside s t) : SameAside (rowCount s).state t := by
  intro requests others equal
  rw [← answersAside_rowCount]
  exact same (.rowCount :: requests) others (by simpa [Request.aside] using equal)

theorem sameAside_simulation : Simulation (· ≠ .rowCount) Eq (SameAside (σ := σ)) := by
  constructor
  intro s t same request other
  -- runs that go on from here are the tails of runs that begin with this request
  have step : ∀ requests others, Request.aside requests = Request.aside others →
      (perform s request).answer :: answersAside (perform s request).state requests =
        (perform t request).answer :: answersAside (perform t request).state others := by
    intro requests others equal
    rw [← answersAside_cons s other, ← answersAside_cons t other]
    refine same _ _ ?_
    simpa [Request.aside, other] using equal
  refine ⟨SameAnswer.eq_iff.mpr (List.cons.inj (step [] [] rfl)).1.symm, ?_⟩
  exact fun requests others equal => (List.cons.inj (step requests others equal)).2

end Cursor

/-! ## Counts that change -/

/-- A scan that declares a new row count whenever it is asked for it, and none in the end. -/
structure Fickle where
  scan : Scan
  counts : List (Option Nat)

namespace Fickle

instance : Cursor Fickle where
  advance source := (Cursor.advance source.scan).mapState fun scan => { source with scan }
  reset source := (Cursor.reset source.scan).mapState fun scan => { source with scan }
  close source := (Cursor.close source.scan).mapState fun scan => { source with scan }
  rowCount source :=
    match source.counts with
    | [] => .silent none source
    | count? :: counts => .silent count? { source with counts }
  currentRow source := Cursor.currentRow source.scan
  needsClose source := Cursor.needsClose source.scan
  schema source := Cursor.schema source.scan

theorem countsAside (source : Fickle) : Cursor.CountsAside source := by
  have simulation : Cursor.Simulation (· ≠ .rowCount) Eq
      fun s t : Fickle => s.scan = t.scan := by
    constructor
    rintro ⟨scan, counts⟩ ⟨_, counts'⟩ rfl request other
    refine ⟨SameAnswer.eq_iff.mpr ?_, ?_⟩ <;> cases request <;> first | rfl | exact absurd rfl other
  have asks : ∀ {s t : Fickle}, s.scan = t.scan → (Cursor.rowCount s).state.scan = t.scan := by
    rintro ⟨scan, counts⟩ t same
    cases counts <;> exact same
  exact fun requests => (Cursor.run_aside simulation asks rfl requests).1

end Fickle

/-! ## Merges and trees -/

theorem Merge.Beside.rowCount {σ τ : Type} [Cursor σ] {R : σ → τ → Prop} {merge : Merge σ}
    {other : Merge τ} (beside : Beside R merge other)
    (asks : ∀ {s t}, R s t → R (Cursor.rowCount s).state t) :
    Beside R merge.rowCount.state other := by
  obtain ⟨front, back, split, state⟩ := state_rowCount merge
  obtain ⟨lanes, order, current, currentLane⟩ := beside
  rw [split] at lanes
  obtain ⟨front', back', split', front_beside, back_beside⟩ := forall₂_append lanes
  rw [state]
  refine ⟨?_, order, current, currentLane⟩
  rw [split']
  refine List.rel_append (List.forall₂_map_left_iff.mpr ?_) back_beside
  exact front_beside.imp fun _ _ beside => ⟨beside.index, beside.lookahead, asks beside.source⟩

namespace MergeTree

variable {σ τ : Type} [Cursor σ]

theorem Beside.rowCount {R : σ → τ → Prop} (asks : ∀ {s t}, R s t → R (Cursor.rowCount s).state t)
    {depth : Nat} {tree : MergeTree σ depth} {other : MergeTree τ depth}
    (beside : Beside R depth tree other) : Beside R depth (Cursor.rowCount tree).state other := by
  induction depth with
  | zero => exact asks beside
  | succ depth ih =>
    cases beside with
    | inl related => exact .inl (asks related)
    | inr beside => exact .inr (beside.rowCount ih)

omit [Cursor σ] in
theorem beside_self {R : σ → σ → Prop} {depth : Nat} {tree : MergeTree σ depth}
    (self : ∀ leaf ∈ leaves depth tree, R leaf leaf) : Beside R depth tree tree := by
  induction depth with
  | zero => exact self tree List.mem_cons_self
  | succ depth ih =>
    cases tree with
    | inl leaf => exact .inl (self leaf List.mem_cons_self)
    | inr merge =>
      refine .inr ⟨List.forall₂_same.mpr fun lane member => ⟨rfl, rfl, ih ?_⟩, rfl, rfl, rfl⟩
      exact fun leaf below => self leaf (List.mem_flatMap.mpr ⟨lane, member, below⟩)

theorem run_aside {depth : Nat} {tree : MergeTree σ depth}
    (aside : ∀ leaf ∈ leaves depth tree, Cursor.CountsAside leaf) (requests : List Request) :
    Cursor.answersAside tree requests = (Cursor.run tree (Request.aside requests)).answer ∧
      (Cursor.run tree requests).state.currentLane =
        (Cursor.run tree (Request.aside requests)).state.currentLane := by
  have simulation := MergeTree.simulation (Cursor.sameAside_simulation (σ := σ)) (fun _ => nofun)
    (fun counted => counted rfl) (fun _ => rfl) depth
  have beside : Beside Cursor.SameAside depth tree tree :=
    beside_self fun leaf member => (aside leaf member).sameAside
  obtain ⟨answers, final⟩ := Cursor.run_aside simulation
    (fun beside => beside.rowCount Cursor.SameAside.rowCount) beside requests
  exact ⟨answers, final.currentLane.symm⟩

/-- A merge over any sources, which may be merges themselves, after any requests other than for the row
count. The first request for the count asks the lanes up to one that spoils the sum, and answers the
exact sum of all declared counts if they are known and the sum has 64 bits, in whatever order the lanes
declare them. From then on the same count is answered, no lane is asked, and nothing changes, whatever
requests come in between. If the leaves answer other requests as though they had not been asked for
their row counts, so does the root. -/
theorem row_count_asked_once {depth : Nat} {order : Row → Row → Ordering}
    {sources : List (MergeTree σ depth)} {root : Merge (MergeTree σ depth)}
    (built : Merge.Built order sources root) :
    (∀ before : List Request, .rowCount ∉ before →
      let merge := (Cursor.run root before).state
      (∃ front back, Merge.Asks merge front back) ∧
      (∀ sum, merge.rowCount.answer = some sum ↔ Merge.SumsTo (Merge.declared merge.lanes) sum) ∧
      (∀ other : Merge (MergeTree σ depth), other.count = .uncomputed →
        (Merge.declared merge.lanes).Perm (Merge.declared other.lanes) →
        other.rowCount.answer = merge.rowCount.answer) ∧
      ∀ later : List Request,
        let final := (Cursor.run merge.rowCount.state later).state
        final.rowCount = .silent merge.rowCount.answer final) ∧
    ((∀ leaf ∈ leaves (depth + 1) (ofMerge root), Cursor.CountsAside leaf) →
      ∀ requests : List Request,
        Cursor.answersAside (ofMerge root) requests =
          (Cursor.run (ofMerge root) (Request.aside requests)).answer ∧
        (Cursor.run (ofMerge root) requests).state.currentLane =
          (Cursor.run (ofMerge root) (Request.aside requests)).state.currentLane) := by
  refine ⟨fun before uncounted => ?_, fun aside => run_aside aside⟩
  intro merge
  have uncomputed : merge.count = .uncomputed := by
    rw [Merge.count_run uncounted, built.eq_fresh.1]
    rfl
  refine ⟨Merge.exists_asks uncomputed, fun _ => Merge.rowCount_eq_some_iff uncomputed,
    fun _ uncomputed' same => Merge.rowCount_of_perm uncomputed uncomputed' same, ?_⟩
  intro later final
  exact Merge.rowCount_of_remembered
    (Merge.remembered_run (Merge.remembered_rowCount merge) later)

/-- Counts that change between calls, in a tree of two levels. Their sum is the greatest one of 64 bits,
and the root has been advanced, reset and closed when it is asked for its count again. -/
theorem row_count_asked_once_of_fickle_leaves :
    let source (number : Int64) (counts : List (Option Nat)) : Fickle :=
      ⟨.ofRows .empty [⟨[.integer number]⟩], counts⟩
    let a := source 1 [some 3, some 100]
    let b := source 2 [some 4, none]
    let c := source 3 [some (2 ^ 64 - 8), some 1]
    let inner : MergeTree Fickle 1 := ofMerge (Merge.fresh (fun _ _ => .eq) [a, b])
    let root : Merge (MergeTree Fickle 1) := Merge.fresh (fun _ _ => .eq) [inner, leaf c 1]
    let merge := (Cursor.run root [.advance]).state
    let final := (Cursor.run merge.rowCount.state [.reset, .advance, .close]).state
    let requests := [.rowCount, .advance, .rowCount, .currentRow, .reset, .rowCount, .advance]
    merge.rowCount.answer = some (2 ^ 64 - 1) ∧
      final.rowCount = .silent (some (2 ^ 64 - 1)) final ∧
      Cursor.answersAside (ofMerge root) requests =
        (Cursor.run (ofMerge root) [.advance, .currentRow, .reset, .advance]).answer := by
  intro source a b c inner root merge final requests
  have built : Merge.Built (fun _ _ => .eq) [inner, leaf c 1] root := ⟨{}, _, rfl, rfl⟩
  obtain ⟨first, removed⟩ := row_count_asked_once built
  obtain ⟨-, exact_sum, -, memo⟩ := first [.advance] (by simp)
  have declared : Merge.declared merge.lanes = [some 7, some (2 ^ 64 - 8)] := by cbv
  have sum : merge.rowCount.answer = some (2 ^ 64 - 1) := by
    refine (exact_sum _).mpr ?_
    rw [declared]
    exact ⟨by simp, by simp, by decide⟩
  refine ⟨sum, ?_, ?_⟩
  · rw [← sum]
    exact memo [.reset, .advance, .close]
  · exact (removed (fun leaf _ => leaf.countsAside) requests).1

end MergeTree

end RowMerge
