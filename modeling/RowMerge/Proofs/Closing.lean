import RowMerge.Proofs.Rewinding
import RowMerge.Proofs.Consistency

/-!
# Closed merges

A merge keeps no note of having been closed, and rows that wait in its buffers stay there. None of them
comes out any more. While a row waits, some lane is due for a pull, and no row comes out before that lane
has been pulled. A closed scan fails when it is pulled. A closed merge may answer `false` instead, but
only if all its lanes are exhausted, and the lane over such a merge is exhausted too: it has seen this
answer before, and a reset that makes the lane due again rewinds the merge below it. So every lane that
is due waits for a source from which a row may still come, at every level down to a leaf, and once the
leaves are closed this is a lane that fails.
-/
namespace RowMerge

namespace Cursor

variable {σ τ : Type} [Cursor σ] [Cursor τ] {Sound Live Shut : σ → Prop}

/-- What keeps rows from coming out of a closed cursor. `Sound` are the states that requests lead to,
`Live` those from which a row may still come, and `Shut` those after a close that succeeded. -/
structure Lapses (Sound Live Shut : σ → Prop) : Prop where
  sound : ∀ {s}, Sound s → ∀ request, Sound (perform s request).state
  live_of_advance : ∀ {s}, Sound s → (advance s).answer ≠ .ok false → Live (advance s).state
  live_of_reset : ∀ {s}, Sound s → (reset s).answer = .ok () → Live (reset s).state
  /-- Only an advance uses up rows. -/
  live : ∀ {s}, Sound s → Live s → ∀ {request}, request ≠ .advance → Live (perform s request).state
  shut_of_close : ∀ {s}, Sound s → (close s).answer = .ok () → Shut (close s).state
  shut : ∀ {s}, Sound s → Shut s → ∀ request, Shut (perform s request).state
  fails : ∀ {s}, Sound s → Shut s → Live s → ∃ fault, (advance s).answer = .error fault
  unmoved : ∀ {s}, Sound s → Shut s → (advance s).answer ≠ .ok true
  rowless : ∀ {s}, Sound s → Shut s → currentRow s = none

theorem Lapses.run (lapses : Lapses Sound Live Shut) {s : σ} (sound : Sound s)
    (requests : List Request) : Sound (run s requests).state :=
  run_invariant (P := Sound) (fun _ request sound => lapses.sound sound request) sound requests

theorem Lapses.run_of_close (lapses : Lapses Sound Live Shut) {s : σ} (sound : Sound s)
    (ok : (close s).answer = .ok ()) (later : List Request) :
    Sound (Cursor.run (close s).state later).state ∧
      Shut (Cursor.run (close s).state later).state := by
  refine run_invariant (P := fun s => Sound s ∧ Shut s) ?_
    ⟨lapses.sound sound .close, lapses.shut_of_close sound ok⟩ later
  rintro s request ⟨sound, shut⟩
  exact ⟨lapses.sound sound request, lapses.shut sound shut request⟩

/-- A leaf that is not closed may always have a row to give, and one that is closed stays as it is. -/
theorem Lapses.of_leaf {closed : σ → Bool}
    (kept : ∀ s {request}, request ≠ .close → closed (perform s request).state = closed s)
    (closes : ∀ {s}, (close s).answer = .ok () → closed (close s).state = true)
    (shut_of_close : ∀ {s}, (closed s = true → Shut s) → closed (close s).state = true →
      Shut (close s).state)
    (stays : ∀ {s}, Shut s → ∀ request, (perform s request).state = s)
    (fails : ∀ {s}, Shut s → ∃ fault, (advance s).answer = .error fault)
    (rowless : ∀ {s}, Shut s → currentRow s = none) :
    Lapses (fun s => closed s = true → Shut s) (fun _ => True) Shut where
  sound {s} sound request := by
    by_cases closing : request = .close
    · subst closing
      exact shut_of_close sound
    · -- no other request closes a leaf, and a closed one is as it was
      intro later
      have shut := sound ((kept s closing).symm.trans later)
      exact (stays shut request).symm ▸ shut
  live_of_advance _ _ := trivial
  live_of_reset _ _ := trivial
  live _ _ _ _ := trivial
  shut_of_close sound ok := shut_of_close sound (closes ok)
  shut _ shut request := by
    rw [stays shut request]
    exact shut
  fails _ shut _ := fails shut
  unmoved _ shut moved := by
    obtain ⟨fault, failed⟩ := fails shut
    cases failed.symm.trans moved
  rowless _ shut := rowless shut

theorem Lapses.sum {Sound' Live' Shut' : τ → Prop} (left : Lapses Sound Live Shut)
    (right : Lapses Sound' Live' Shut') :
    Lapses (Sum.elim Sound Sound') (Sum.elim Live Live') (Sum.elim Shut Shut') where
  sound := by
    rintro (s | t) ok request
    · exact perform_inl (τ := τ) s request ▸ left.sound ok request
    · exact perform_inr (σ := σ) t request ▸ right.sound ok request
  live_of_advance := by
    rintro (s | t) ok more
    · exact left.live_of_advance ok more
    · exact right.live_of_advance ok more
  live_of_reset := by
    rintro (s | t) ok rewound
    · exact left.live_of_reset ok rewound
    · exact right.live_of_reset ok rewound
  live := by
    rintro (s | t) ok live request other
    · exact perform_inl (τ := τ) s request ▸ left.live ok live other
    · exact perform_inr (σ := σ) t request ▸ right.live ok live other
  shut_of_close := by
    rintro (s | t) ok closed
    · exact left.shut_of_close ok closed
    · exact right.shut_of_close ok closed
  shut := by
    rintro (s | t) ok closed request
    · exact perform_inl (τ := τ) s request ▸ left.shut ok closed request
    · exact perform_inr (σ := σ) t request ▸ right.shut ok closed request
  fails := by
    rintro (s | t) ok closed live
    · exact left.fails ok closed live
    · exact right.fails ok closed live
  unmoved := by
    rintro (s | t) ok closed
    · exact left.unmoved ok closed
    · exact right.unmoved ok closed
  rowless := by
    rintro (s | t) ok closed
    · exact left.rowless ok closed
    · exact right.rowless ok closed

end Cursor

/-! ## Lanes -/

/-- A lane that is not exhausted is over a source from which a row may still come. -/
structure Lane.Tended {σ : Type} (Sound Live : σ → Prop) (lane : Lane σ) : Prop where
  sound : Sound lane.source
  live : lane.lookahead ≠ .exhausted → Live lane.source

namespace Lane.Tended

variable {σ : Type} [Cursor σ] {Sound Live Shut : σ → Prop} {lane : Lane σ}

omit [Cursor σ] in
theorem release {row : Row} (tended : Tended Sound Live lane) (held : lane.lookahead = .buffered row) :
    Tended Sound Live lane.release ∧ lane.release.lookahead = .pending := by
  rw [Lane.release_of_buffered held]
  exact ⟨⟨tended.sound, fun _ => tended.live (by simp [held])⟩, rfl⟩

variable (tended : Tended Sound Live lane) (lapses : Cursor.Lapses Sound Live Shut)
include tended lapses

theorem refilled : Tended Sound Live (Merge.refilled lane) := by
  by_cases pending : lane.lookahead = .pending
  · have pull := Merge.pull_of_pending pending
    have sound := lapses.sound tended.sound .advance
    have live := lapses.live_of_advance tended.sound
    generalize (Merge.pullPending lane).answer = answer, Merge.refilled lane = next at pull ⊢
    -- only a source that answers `false` has no more rows, and then the lane is exhausted
    cases pull with
    | failed failed => exact ⟨sound, fun _ => live (by simp [failed])⟩
    | rowless moved => exact ⟨sound, fun _ => live (by simp [moved])⟩
    | ended => exact ⟨sound, fun more => absurd rfl more⟩
    | row moved => exact ⟨sound, fun _ => live (by simp [moved])⟩
  · rw [Merge.refilled_of_settled pending]
    exact tended

theorem rewound (ok : (Cursor.reset lane.source).answer = .ok ()) :
    Tended Sound Live (Merge.rewound lane) :=
  ⟨lapses.sound tended.sound .reset, fun _ => lapses.live_of_reset tended.sound ok⟩

/-- A request other than to advance leaves a lane that keeps its lookahead as good as before. -/
theorem perform {request : Request} (other : request ≠ .advance) :
    Tended Sound Live { lane with source := (Cursor.perform lane.source request).state } :=
  ⟨lapses.sound tended.sound request,
    fun more => lapses.live tended.sound (tended.live more) other⟩

end Lane.Tended

/-! ## Merges -/

namespace Merge

variable {σ : Type} [Cursor σ] {Sound Live Shut : σ → Prop} {merge : Merge σ}

structure Tended (Sound Live : σ → Prop) (merge : Merge σ) : Prop where
  consistent : Consistent merge
  lanes : ∀ lane ∈ merge.lanes, Lane.Tended Sound Live lane

/-- A lane is due for a pull, and a row may still come from its source. -/
def Waits (Live : σ → Prop) (merge : Merge σ) : Prop :=
  ∃ lane ∈ merge.lanes, lane.lookahead = .pending ∧ Live lane.source

structure Lapsed (Shut : σ → Prop) (merge : Merge σ) : Prop where
  sources : ∀ lane ∈ merge.lanes, Shut lane.source
  current : merge.current = none
  currentLane : merge.currentLane = none

omit [Cursor σ] in
theorem Tended.fresh (order : Row → Row → Ordering) {sources : List σ} (some_source : sources ≠ [])
    (sound : ∀ source ∈ sources, Sound source) (live : ∀ source ∈ sources, Live source) :
    Tended Sound Live (Merge.fresh order sources) ∧ Waits Live (Merge.fresh order sources) := by
  have below : ∀ lane ∈ lanesOf sources, lane.source ∈ sources :=
    fun _ => source_mem_of_mem_lanesOf
  have consistent := consistent_fresh order some_source
  obtain ⟨first, rest, lanes⟩ := List.exists_cons_of_ne_nil consistent.lanes_ne_nil
  have member : first ∈ lanesOf sources := by
    change first ∈ (Merge.fresh order sources).lanes
    simp [lanes]
  exact ⟨⟨consistent, fun lane member => ⟨sound _ (below lane member), fun _ => live _ (below lane member)⟩⟩,
    first, member, pending_of_mem_lanesOf member, live _ (below first member)⟩

namespace Tended

variable (tended : Tended Sound Live merge) (lapses : Cursor.Lapses Sound Live Shut)
include tended lapses

theorem advance : Tended Sound Live merge.advance.state ∧
    (merge.advance.answer ≠ .ok false → Waits Live merge.advance.state) := by
  have refilled : ∀ lane ∈ merge.lanes, Lane.Tended Sound Live (Merge.refilled lane) :=
    fun lane member => (tended.lanes lane member).refilled lapses
  have consistent := tended.consistent.advance
  have step := advances tended.consistent.indexed
  generalize merge.advance.answer = answer, merge.advance.state = next at step consistent ⊢
  cases step with
  | @fails before after lane fault split pulled failed =>
    have lanes := tended.lanes
    rw [split] at refilled lanes
    obtain ⟨front, here, -⟩ := List.forall_mem_append.mp refilled |>.imp_right List.forall_mem_cons.mp
    obtain ⟨-, -, back⟩ := List.forall_mem_append.mp lanes |>.imp_right List.forall_mem_cons.mp
    refine ⟨⟨consistent, ?_⟩, fun _ => ?_⟩
    · exact List.forall_mem_append.mpr
        ⟨List.forall_mem_map.mpr front, List.forall_mem_cons.mpr ⟨here, back⟩⟩
    · have due := (pending_of_fault failed).2
      exact ⟨Merge.refilled lane, by simp, due, here.live (by simp [due])⟩
  | ends pulled exhausted =>
    exact ⟨⟨consistent, List.forall_mem_map.mpr refilled⟩, fun more => absurd rfl more⟩
  | @emits before after lane row split pulled held won =>
    rw [split] at refilled
    obtain ⟨front, here, back⟩ := List.forall_mem_append.mp refilled |>.imp_right List.forall_mem_cons.mp
    -- the winner is due again
    obtain ⟨released, due⟩ := here.release held
    refine ⟨⟨consistent, ?_⟩, fun _ => ?_⟩
    · exact List.forall_mem_append.mpr ⟨List.forall_mem_map.mpr front,
        List.forall_mem_cons.mpr ⟨released, List.forall_mem_map.mpr back⟩⟩
    · exact ⟨(Merge.refilled lane).release, by simp, due, released.live (by simp [due])⟩

theorem reset : Tended Sound Live merge.reset.state ∧
    (merge.reset.answer = .ok () ∨ Waits Live merge → Waits Live merge.reset.state) := by
  have consistent := tended.consistent.reset
  have step := resets merge
  generalize merge.reset.answer = answer, merge.reset.state = next at step consistent ⊢
  cases step with
  | @fails before after lane fault split ok failed =>
    have lanes := tended.lanes
    rw [split] at lanes
    obtain ⟨front, here, back⟩ := List.forall_mem_append.mp lanes |>.imp_right List.forall_mem_cons.mp
    have rewound : ∀ l ∈ before, Lane.Tended Sound Live (Merge.rewound l) :=
      fun l member => (front l member).rewound lapses (ok l member)
    refine ⟨⟨consistent, ?_⟩, ?_⟩
    · exact List.forall_mem_append.mpr ⟨List.forall_mem_map.mpr rewound,
        List.forall_mem_cons.mpr
          ⟨here.perform lapses (nofun : Request.reset ≠ .advance), back⟩⟩
    · rintro (done | ⟨l, member, due, live⟩)
      · cases done
      · -- a lane that is due is due after the reset, whichever side of the failing one it is on
        rw [split] at member
        rcases List.mem_append.mp member with early | late
        · exact ⟨Merge.rewound l, List.mem_append_left _ (List.mem_map_of_mem early), rfl,
            (rewound l early).live nofun⟩
        · rcases List.mem_cons.mp late with rfl | later
          · exact ⟨_, List.mem_append_right _ List.mem_cons_self, due,
              lapses.live here.sound live (nofun : Request.reset ≠ .advance)⟩
          · exact ⟨l, List.mem_append_right _ (List.mem_cons_of_mem _ later), due, live⟩
  | rewinds ok =>
    have rewound : ∀ l ∈ merge.lanes, Lane.Tended Sound Live (Merge.rewound l) :=
      fun l member => (tended.lanes l member).rewound lapses (ok l member)
    refine ⟨⟨consistent, List.forall_mem_map.mpr rewound⟩, fun _ => ?_⟩
    obtain ⟨first, rest, lanes⟩ := List.exists_cons_of_ne_nil tended.consistent.lanes_ne_nil
    have member : first ∈ merge.lanes := by simp [lanes]
    exact ⟨Merge.rewound first, List.mem_map_of_mem member, rfl, (rewound first member).live nofun⟩

/-- Lanes that keep their lookahead while their sources get a request other than to advance. -/
theorem of_kept {request : Request} {next : Merge σ} (other : request ≠ .advance)
    (consistent : Consistent next)
    (kept : List.Forall₂ (fun lane next => next = lane ∨
      next = { lane with source := (Cursor.perform lane.source request).state })
      merge.lanes next.lanes) :
    Tended Sound Live next ∧ (Waits Live merge → Waits Live next) := by
  constructor
  · refine ⟨consistent, fun lane member => ?_⟩
    obtain ⟨old, place, rfl | rfl⟩ := exists_of_mem_right kept member
    · exact tended.lanes lane place
    · exact (tended.lanes old place).perform lapses other
  · rintro ⟨lane, member, due, live⟩
    obtain ⟨next, place, rfl | rfl⟩ := exists_of_mem_left kept member
    · exact ⟨next, place, due, live⟩
    · exact ⟨_, place, due, lapses.live (tended.lanes lane member).sound live other⟩

theorem close : Tended Sound Live merge.close.state ∧
    (Waits Live merge → Waits Live merge.close.state) := by
  refine tended.of_kept lapses (nofun : Request.close ≠ .advance) tended.consistent.close ?_
  rw [state_close]
  exact List.forall₂_map_right_iff.mpr (List.forall₂_same.mpr fun _ _ => .inr rfl)

theorem rowCount : Tended Sound Live merge.rowCount.state ∧
    (Waits Live merge → Waits Live merge.rowCount.state) := by
  refine tended.of_kept lapses (nofun : Request.rowCount ≠ .advance) tended.consistent.rowCount ?_
  obtain ⟨front, back, split, state⟩ := state_rowCount merge
  rw [state, split]
  exact List.rel_append
    (List.forall₂_map_right_iff.mpr (List.forall₂_same.mpr fun _ _ => .inr rfl))
    (List.forall₂_same.mpr fun _ _ => .inl rfl)

theorem perform (request : Request) : Tended Sound Live (Cursor.perform merge request).state ∧
    (request ≠ .advance → Waits Live merge → Waits Live (Cursor.perform merge request).state) := by
  cases request with
  | advance => exact ⟨(tended.advance lapses).1, fun other => absurd rfl other⟩
  | reset =>
    obtain ⟨next, waits⟩ := tended.reset lapses
    exact ⟨next, fun _ waiting => waits (.inr waiting)⟩
  | close => exact (tended.close lapses).imp_right fun waits _ => waits
  | rowCount => exact (tended.rowCount lapses).imp_right fun waits _ => waits
  | currentRow | needsClose | schema => exact ⟨tended, fun _ waiting => waiting⟩

/-! ### Closed merges -/

theorem lapsed_of_close (ok : merge.close.answer = .ok ()) : Lapsed Shut merge.close.state := by
  have answers : firstFault (merge.lanes.map fun l => (Cursor.close l.source).answer) = .ok () :=
    (closeAll_eq merge.lanes).1.symm.trans ok
  rw [state_close]
  refine ⟨List.forall_mem_map.mpr fun lane member => ?_, rfl, rfl⟩
  exact lapses.shut_of_close (tended.lanes lane member).sound
    (firstFault_eq_ok_iff.mp answers _ (List.mem_map_of_mem member))

variable (lapsed : Lapsed Shut merge)
include lapsed

/-- A lane that is due fails when it is pulled. -/
theorem pull_fails {lane : Lane σ} (member : lane ∈ merge.lanes) (due : lane.lookahead = .pending) :
    ∃ fault, (pullPending lane).answer = .error fault := by
  have held := tended.lanes lane member
  obtain ⟨fault, failed⟩ :=
    lapses.fails held.sound (lapsed.sources lane member) (held.live (by simp [due]))
  exact ⟨fault, (pull_of_fault due failed).1⟩

theorem fails (waits : Waits Live merge) : ∃ fault, merge.advance.answer = .error fault := by
  obtain ⟨lane, member, due, -⟩ := waits
  obtain ⟨fault, failed⟩ := tended.pull_fails lapses lapsed member due
  have step := advances tended.consistent.indexed
  generalize merge.advance.answer = answer, merge.advance.state = next at step ⊢
  cases step with
  | fails => exact ⟨_, rfl⟩
  | ends pulled => cases failed.symm.trans (pulled lane member)
  | emits _ pulled => cases failed.symm.trans (pulled lane member)

theorem unmoved : merge.advance.answer ≠ .ok true := by
  intro moved
  have step := advances tended.consistent.indexed
  rw [moved] at step
  generalize merge.advance.state = next at step
  cases step with
  | @emits before after lane row split pulled held won =>
    -- no lane can have been due, for none of the pulls failed
    have settled : ∀ l ∈ merge.lanes, l.lookahead ≠ .pending := by
      intro l member due
      obtain ⟨fault, failed⟩ := tended.pull_fails lapses lapsed member due
      cases failed.symm.trans (pulled l member)
    have member : lane ∈ merge.lanes := by simp [split]
    -- so the row was in the buffer before, and a lane is due while a row waits there
    rw [refilled_of_settled (settled lane member)] at held
    have due := tended.consistent.due_of_buffered row (held ▸ List.mem_map_of_mem member)
    obtain ⟨l, place, pending⟩ := List.mem_map.mp due
    exact settled l place pending

theorem lapsed_perform (request : Request) : Lapsed Shut (Cursor.perform merge request).state := by
  have sources : ∀ lane ∈ (Cursor.perform merge request).state.lanes, Shut lane.source := by
    intro lane member
    obtain ⟨old, place, passed⟩ := exists_of_mem_right (passed_perform merge request).1 member
    have closed := lapsed.sources old place
    rcases passed.source with same | moved
    · rw [same]
      exact closed
    · rw [moved]
      exact lapses.shut (tended.lanes old place).sound closed request
  suffices rowless : (Cursor.perform merge request).state.current = none ∧
      (Cursor.perform merge request).state.currentLane = none from
    ⟨sources, rowless.1, rowless.2⟩
  have before := And.intro lapsed.current lapsed.currentLane
  cases request with
  | advance =>
    change merge.advance.state.current = none ∧ merge.advance.state.currentLane = none
    have unmoved := tended.unmoved lapses lapsed
    have step := advances tended.consistent.indexed
    generalize merge.advance.answer = answer, merge.advance.state = next at step unmoved ⊢
    cases step with
    | fails => exact before
    | ends => exact ⟨rfl, rfl⟩
    | emits => exact absurd rfl unmoved
  | reset =>
    change merge.reset.state.current = none ∧ merge.reset.state.currentLane = none
    have step := resets merge
    generalize merge.reset.answer = answer, merge.reset.state = next at step ⊢
    cases step with
    | fails => exact before
    | rewinds => exact ⟨rfl, rfl⟩
  | close =>
    change merge.close.state.current = none ∧ merge.close.state.currentLane = none
    rw [state_close]
    exact ⟨rfl, rfl⟩
  | rowCount =>
    obtain ⟨front, back, split, state⟩ := state_rowCount merge
    change merge.rowCount.state.current = none ∧ merge.rowCount.state.currentLane = none
    rw [state]
    exact before
  | currentRow | needsClose | schema => exact before

end Tended

end Merge

theorem Cursor.Lapses.merge {σ : Type} [Cursor σ] {Sound Live Shut : σ → Prop}
    (lapses : Lapses Sound Live Shut) :
    Lapses (Merge.Tended Sound Live) (Merge.Waits Live) (Merge.Lapsed Shut) where
  sound tended request := (tended.perform lapses request).1
  live_of_advance tended more := (tended.advance lapses).2 more
  live_of_reset tended ok := (tended.reset lapses).2 (.inl ok)
  live tended waits request other := (tended.perform lapses request).2 other waits
  shut_of_close tended ok := tended.lapsed_of_close lapses ok
  shut tended lapsed request := tended.lapsed_perform lapses lapsed request
  fails tended lapsed waits := tended.fails lapses lapsed waits
  unmoved tended lapsed := tended.unmoved lapses lapsed
  rowless _ lapsed := lapsed.current

end RowMerge
