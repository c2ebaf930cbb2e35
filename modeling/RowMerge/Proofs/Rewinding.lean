import RowMerge.Proofs.Simulation
import RowMerge.Proofs.Runs

/-!
# Going back to the start

A reset that fails may have rewound some lanes and not others, at several levels of a tree, and lanes
may hold rows in their buffers that their sources have gone back behind. None of this lasts. Whatever
requests other than to close have done, a reset of the root that succeeds has reset every lane on every
level and dropped what was in its buffer. So what a reset that succeeds does for the leaves, it does for
the tree.
-/
namespace RowMerge

/-! ## Cursors that go back -/

namespace Cursor

variable {σ τ : Type} [Cursor τ]

theorem run_invariant_unclosed {P : τ → Prop}
    (kept : ∀ t request, request ≠ .close → P t → P (perform t request).state) {t : τ} (initial : P t)
    {requests : List Request} (unclosed : .close ∉ requests) : P (run t requests).state := by
  refine run_invariant_among ?_ initial
  rintro t request member holds
  refine kept t request ?_ holds
  rintro rfl
  exact unclosed member

/-- Wherever requests other than to close lead the cursor, a reset succeeds. -/
def GoesBack (t : τ) : Prop :=
  ∀ requests : List Request, .close ∉ requests → (reset (run t requests).state).answer = .ok ()

/-- Wherever requests other than to close lead the second cursor, a reset that succeeds leaves it
related to the first. -/
def Rewinds (S : σ → τ → Prop) (s : σ) (t : τ) : Prop :=
  ∀ requests : List Request, .close ∉ requests → (reset (run t requests).state).answer = .ok () →
    S s (reset (run t requests).state).state

theorem rewinds_of_invariant {S : σ → τ → Prop} {P : τ → Prop} {s : σ} {t : τ}
    (kept : ∀ t request, request ≠ .close → P t → P (perform t request).state)
    (resets : ∀ t, P t → (reset t).answer = .ok () → S s (reset t).state) (initial : P t) :
    Rewinds S s t :=
  fun _ unclosed => resets _ (run_invariant_unclosed kept initial unclosed)

variable {S : σ → τ → Prop} {s : σ} {t : τ}

theorem Rewinds.perform (rewinds : Rewinds S s t) {request : Request} (unclosed : request ≠ .close) :
    Rewinds S s (perform t request).state := by
  intro requests later
  refine rewinds (request :: requests) ?_
  simp [later, unclosed.symm]

theorem Rewinds.reset (rewinds : Rewinds S s t) (ok : (reset t).answer = .ok ()) :
    S s (reset t).state :=
  rewinds [] (by simp) ok

theorem Rewinds.mono {S' : σ → τ → Prop} (rewinds : Rewinds S s t) (weaker : ∀ s t, S s t → S' s t) :
    Rewinds S' s t :=
  fun requests unclosed ok => weaker _ _ (rewinds requests unclosed ok)

theorem Rewinds.sum {σ' τ' : Type} [Cursor τ'] {S' : σ' → τ' → Prop} {s : σ ⊕ σ'}
    {t : τ ⊕ τ'} (related : Sum.LiftRel (Rewinds S) (Rewinds S') s t) :
    Rewinds (Sum.LiftRel S S') s t := by
  refine rewinds_of_invariant (P := Sum.LiftRel (Rewinds S) (Rewinds S') s) ?_ ?_ related
  · intro t request unclosed related
    cases related with
    | inl rewinds =>
      have next := rewinds.perform unclosed
      cases request <;> exact .inl next
    | inr rewinds =>
      have next := rewinds.perform unclosed
      cases request <;> exact .inr next
  · intro t related ok
    cases related with
    | inl rewinds => exact .inl (rewinds.reset ok)
    | inr rewinds => exact .inr (rewinds.reset ok)

end Cursor

/-! ## Merges that go back -/

theorem Outcome.forall₂_untilFault {σ : Type} {R : σ → σ → Prop}
    {step : σ → Outcome σ (Except Fault Unit)} (stays : ∀ member, R member member)
    (moves : ∀ member, R member (step member).state) (members : List σ) :
    List.Forall₂ R members (untilFault step members).state := by
  induction members with
  | nil => exact .nil
  | cons member rest ih =>
    have kept : List.Forall₂ R rest rest := List.forall₂_same.mpr fun m _ => stays m
    simp only [untilFault, state_bind]
    split
    · exact .cons (moves member) kept
    · exact .cons (moves member) ih

namespace Merge

variable {σ τ : Type}

variable [Cursor τ]

/-- What a request to a merge can do to a lane: the number stays, and the source gets this request or
none. -/
structure Passed (request : Request) (lane next : Lane τ) : Prop where
  index : next.index = lane.index
  source : next.source = lane.source ∨
    next.source = (Cursor.perform lane.source request).state

theorem Passed.refl (request : Request) (lane : Lane τ) : Passed request lane lane :=
  ⟨rfl, .inl rfl⟩

theorem passed_refl (request : Request) (lanes : List (Lane τ)) :
    List.Forall₂ (Passed request) lanes lanes :=
  List.forall₂_same.mpr fun lane _ => .refl request lane

theorem passed_pullPending (lane : Lane τ) : Passed .advance lane (pullPending lane).state := by
  refine ⟨index_refilled lane, ?_⟩
  by_cases pending : lane.lookahead = .pending
  · exact .inr (source_refilled_of_pending pending)
  · exact .inl (congrArg Lane.source (refilled_of_settled pending))

theorem passed_resetLane (lane : Lane τ) : Passed .reset lane lane.reset.state := by
  cases answer : (Cursor.reset lane.source).answer with
  | ok _ =>
    rw [state_reset_lane_of_ok answer]
    exact ⟨rfl, .inr rfl⟩
  | error fault =>
    rw [state_reset_lane_of_error answer]
    exact ⟨rfl, .inr rfl⟩

theorem passed_select {lanes : List (Lane τ)} {request : Request} {merge : Merge τ}
    (passed : List.Forall₂ (Passed request) lanes merge.lanes) :
    List.Forall₂ (Passed request) lanes merge.select.state.lanes := by
  unfold Merge.select
  split
  · have released := forall₂_modify (f := id) (g := Lane.release) passed
      (fun _ _ passed => ⟨by simpa using passed.index, by simpa using passed.source⟩)
    simpa using released _
  · simp only
    split <;> exact passed

/-- Every request passes to the sources of the lanes at most once, and nothing else does. -/
theorem passed_perform (merge : Merge τ) (request : Request) :
    List.Forall₂ (Passed request) merge.lanes (Cursor.perform merge request).state.lanes ∧
      (Cursor.perform merge request).state.order = merge.order := by
  cases request with
  | advance =>
    have pulled := Outcome.forall₂_untilFault (Passed.refl .advance) passed_pullPending merge.lanes
    change List.Forall₂ _ _ merge.advance.state.lanes ∧ merge.advance.state.order = _
    -- the selection comes after the pulls and reaches no source
    cases through : (Outcome.untilFault pullPending merge.lanes).answer with
    | error fault =>
      rw [(advance_of_fault through).2]
      exact ⟨pulled, rfl⟩
    | ok _ =>
      rw [(advance_of_pulled through).2]
      exact ⟨passed_select pulled, (select_keeps _).1⟩
  | reset =>
    have walked := Outcome.forall₂_untilFault (Passed.refl .reset) passed_resetLane merge.lanes
    change List.Forall₂ _ _ merge.reset.state.lanes ∧ merge.reset.state.order = _
    simp only [Merge.reset, Outcome.state_after, Outcome.state_bind]
    split <;> exact ⟨walked, rfl⟩
  | close =>
    change List.Forall₂ _ _ merge.close.state.lanes ∧ merge.close.state.order = _
    rw [state_close]
    exact ⟨List.forall₂_map_right_iff.mpr (List.forall₂_same.mpr fun _ _ => ⟨rfl, .inr rfl⟩), rfl⟩
  | rowCount =>
    -- only the lanes before the total is lost are asked
    obtain ⟨front, back, split, state⟩ := state_rowCount merge
    change List.Forall₂ _ _ merge.rowCount.state.lanes ∧ merge.rowCount.state.order = _
    rw [state, split]
    refine ⟨List.rel_append ?_ (passed_refl .rowCount back), rfl⟩
    exact List.forall₂_map_right_iff.mpr (List.forall₂_same.mpr fun _ _ => ⟨rfl, .inr rfl⟩)
  | currentRow => exact ⟨passed_refl .currentRow merge.lanes, rfl⟩
  | needsClose => exact ⟨passed_refl .needsClose merge.lanes, rfl⟩
  | schema => exact ⟨passed_refl .schema merge.lanes, rfl⟩

theorem length_lanes_run (merge : Merge τ) (requests : List Request) :
    (Cursor.run merge requests).state.lanes.length = merge.lanes.length := by
  refine Cursor.run_invariant (P := fun m : Merge τ => m.lanes.length = merge.lanes.length) ?_ rfl
    requests
  exact fun m request same => (passed_perform m request).1.length_eq.symm.trans same

theorem reset_ok_iff {merge : Merge τ} : merge.reset.answer = .ok () ↔
    ∀ lane ∈ merge.lanes, (Cursor.reset lane.source).answer = .ok () := by
  constructor
  · intro ok
    have step := resets merge
    rw [ok] at step
    generalize merge.reset.state = next at step
    cases step with
    | rewinds ok => exact ok
  · exact fun ok => (reset_of_ok ok).1

/-- A merge by the order of a fresh one, over sources that still go back to those of the fresh one. What
the lanes have in their buffers does not matter, nor which row is the current one. -/
structure Recovers (S : σ → τ → Prop) (fresh : Merge σ) (merge : Merge τ) : Prop where
  lanes : List.Forall₂ (fun lane other => lane.lookahead = .pending ∧ other.index = lane.index ∧
    Cursor.Rewinds S lane.source other.source) fresh.lanes merge.lanes
  order : merge.order = fresh.order
  current : fresh.current = none
  currentLane : fresh.currentLane = none

namespace Recovers

variable {S : σ → τ → Prop} {fresh : Merge σ} {merge : Merge τ} (recovers : Recovers S fresh merge)
include recovers

theorem perform {request : Request} (unclosed : request ≠ .close) :
    Recovers S fresh (Cursor.perform merge request).state := by
  obtain ⟨passed, order⟩ := passed_perform merge request
  refine ⟨forall₂_comp recovers.lanes passed ?_, order.trans recovers.order, recovers.current,
    recovers.currentLane⟩
  rintro lane other next ⟨pending, index, rewinds⟩ passed
  refine ⟨pending, passed.index.trans index, ?_⟩
  -- a source that got the request still goes back
  rcases passed.source with same | moved
  · rw [same]
    exact rewinds
  · rw [moved]
    exact rewinds.perform unclosed

theorem reset (ok : (Cursor.reset merge).answer = .ok ()) :
    Beside S fresh (Cursor.reset merge).state := by
  change merge.reset.answer = .ok () at ok
  change Beside S fresh merge.reset.state
  have all := reset_ok_iff.mp ok
  rw [(reset_of_ok all).2]
  -- every lane is rewound, wherever it was
  have rewound : List.Forall₂ (fun lane next =>
      (Cursor.reset lane.source).answer = .ok () ∧ next = rewound lane)
      merge.lanes (merge.lanes.map rewound) :=
    List.forall₂_map_right_iff.mpr (List.forall₂_same.mpr fun lane member => ⟨all lane member, rfl⟩)
  refine ⟨forall₂_comp recovers.lanes rewound ?_, recovers.order, recovers.current.symm,
    recovers.currentLane.symm⟩
  rintro lane other _ ⟨pending, index, rewinds⟩ ⟨ok, rfl⟩
  exact ⟨index, pending.symm, rewinds.reset ok⟩

theorem rewinds : Cursor.Rewinds (Beside S) fresh merge :=
  Cursor.rewinds_of_invariant (P := Recovers S fresh) (fun _ _ unclosed kept => kept.perform unclosed)
    (fun _ kept ok => kept.reset ok) recovers

end Recovers

end Merge

/-! ## Trees that go back -/

namespace MergeTree

variable {σ τ : Type} [Cursor σ] [Cursor τ]

/-- A reset of the root succeeds exactly if a reset of every leaf does: none of them is in the way of
another. -/
theorem reset_ok_iff {depth : Nat} {tree : MergeTree τ depth} :
    (Cursor.reset tree).answer = .ok () ↔
      ∀ leaf ∈ leaves depth tree, (Cursor.reset leaf).answer = .ok () := by
  have alone : ∀ leaf : τ, (Cursor.reset leaf).answer = .ok () ↔
      ∀ member ∈ [leaf], (Cursor.reset member).answer = .ok () := by simp
  induction depth with
  | zero => exact alone tree
  | succ depth ih =>
    cases tree with
    | inl leaf => exact alone leaf
    | inr merge =>
      have lanes : (Cursor.reset (ofMerge merge)).answer = .ok () ↔
          ∀ lane ∈ merge.lanes, (Cursor.reset lane.source).answer = .ok () := Merge.reset_ok_iff
      refine lanes.trans ?_
      simp only [leaves, List.mem_flatMap, ih]
      constructor
      · rintro ok leaf ⟨lane, member, below⟩
        exact ok lane member leaf below
      · intro ok lane member leaf below
        exact ok leaf ⟨lane, member, below⟩

theorem BuiltBeside.rewinds {S : σ → τ → Prop} {depth : Nat} {fresh : MergeTree σ depth}
    {tree : MergeTree τ depth} (built : BuiltBeside (Cursor.Rewinds S) depth fresh tree) :
    Cursor.Rewinds (Beside S depth) fresh tree := by
  induction depth with
  | zero => exact built
  | succ depth ih =>
    refine Cursor.Rewinds.sum (built.mono (fun _ _ rewinds => rewinds) ?_)
    rintro merge other ⟨order, sources, others, paired, made, made'⟩
    rw [made.eq_fresh.1, made'.eq_fresh.1]
    refine Merge.Recovers.rewinds ⟨?_, rfl, rfl, rfl⟩
    exact forall₂_mapIdx paired fun _ _ _ built => ⟨rfl, rfl, ih built⟩

end MergeTree

end RowMerge
