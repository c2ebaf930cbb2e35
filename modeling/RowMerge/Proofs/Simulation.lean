import RowMerge.Proofs.Trees

/-!
# Merges of cursors that answer alike

Cursors of two types may be related in such a way that requests of some kinds get the same answers from
both, but for the words of a fault, and leave them related. Such a relation carries over from the
sources to the lanes over them, to merges of these lanes by one order, and to trees of merges of one
shape. So trees are compared by comparing their leaves.
-/
namespace RowMerge

/-! ## The same answers -/

/-- The same results, but for the words of a fault. -/
inductive SameResult (E : Fault → Fault → Prop) {α : Type} : Except Fault α → Except Fault α → Prop
  | ok (value : α) : SameResult E (.ok value) (.ok value)
  | error {fault other : Fault} (reworded : E fault other) :
      SameResult E (.error fault) (.error other)

/-- The same answers, but for the words of a fault. -/
inductive SameAnswer (E : Fault → Fault → Prop) : Answer → Answer → Prop
  | moved {result other : Except Fault Bool} (same : SameResult E result other) :
      SameAnswer E (.moved result) (.moved other)
  | row (row? : Option Row) : SameAnswer E (.row row?) (.row row?)
  | count (count? : Option Nat) : SameAnswer E (.count count?) (.count count?)
  | done {result other : Except Fault Unit} (same : SameResult E result other) :
      SameAnswer E (.done result) (.done other)
  | held (needsClose : Bool) : SameAnswer E (.held needsClose) (.held needsClose)
  | columns (schema : Schema) : SameAnswer E (.columns schema) (.columns schema)

variable {E : Fault → Fault → Prop}

theorem SameResult.map {α β : Type} {result other : Except Fault α} (same : SameResult E result other)
    (f : α → β) : SameResult E (result.map f) (other.map f) := by
  cases same with
  | ok value => exact .ok (f value)
  | error reworded => exact .error reworded

theorem SameResult.eq {α : Type} {result other : Except Fault α} (same : SameResult Eq result other) :
    other = result := by
  cases same with
  | ok value => rfl
  | error reworded => rw [reworded]

theorem SameAnswer.row_iff {row? other : Option Row} :
    SameAnswer E (.row row?) (.row other) ↔ other = row? := by
  constructor
  · rintro ⟨⟩
    rfl
  · rintro rfl
    exact .row _

theorem SameAnswer.held_iff {held other : Bool} :
    SameAnswer E (.held held) (.held other) ↔ other = held := by
  constructor
  · rintro ⟨⟩
    rfl
  · rintro rfl
    exact .held _

theorem SameAnswer.columns_iff {schema other : Schema} :
    SameAnswer E (.columns schema) (.columns other) ↔ other = schema := by
  constructor
  · rintro ⟨⟩
    rfl
  · rintro rfl
    exact .columns _

theorem SameAnswer.refl (unchanged : ∀ fault, E fault fault) (answer : Answer) :
    SameAnswer E answer answer := by
  cases answer with
  | moved result =>
    cases result with
    | ok value => exact .moved (.ok value)
    | error fault => exact .moved (.error (unchanged fault))
  | done result =>
    cases result with
    | ok value => exact .done (.ok value)
    | error fault => exact .done (.error (unchanged fault))
  | row row? => exact .row row?
  | count count? => exact .count count?
  | held needsClose => exact .held needsClose
  | columns schema => exact .columns schema

theorem SameAnswer.eq_iff {answer other : Answer} : SameAnswer Eq answer other ↔ other = answer := by
  constructor
  · intro same
    cases same with
    | moved same => rw [same.eq]
    | done same => rw [same.eq]
    | row | count | held | columns => rfl
  · rintro rfl
    exact .refl (fun _ => rfl) _

/-- The first faults are in the same place. -/
theorem SameResult.firstFault {results others : List (Except Fault Unit)}
    (same : List.Forall₂ (SameResult E) results others) :
    SameResult E (Merge.firstFault results) (Merge.firstFault others) := by
  induction same with
  | nil => exact .ok ()
  | cons here _ ih =>
    cases here with
    | ok _ => exact ih
    | error reworded => exact .error reworded

variable {σ τ : Type}

/-- Walks over members that are related pair by pair stop at the same place. -/
theorem Outcome.untilFault_of_forall₂ {R : σ → τ → Prop} {step : σ → Outcome σ (Except Fault Unit)}
    {step' : τ → Outcome τ (Except Fault Unit)} {members : List σ} {others : List τ}
    (one : ∀ member other, R member other →
      SameResult E (step member).answer (step' other).answer ∧
        R (step member).state (step' other).state)
    (paired : List.Forall₂ R members others) :
    SameResult E (untilFault step members).answer (untilFault step' others).answer ∧
      List.Forall₂ R (untilFault step members).state (untilFault step' others).state := by
  induction paired with
  | nil => exact ⟨.ok (), .nil⟩
  | @cons member other members others here behind ih =>
    obtain ⟨answer, next⟩ := one member other here
    obtain ⟨answers, rest⟩ := ih
    simp only [untilFault, answer_bind, state_bind]
    -- both walks go on behind these members, or neither does
    generalize (step member).answer = result, (step' other).answer = result' at answer ⊢
    cases answer with
    | ok _ => exact ⟨answers, .cons next rest⟩
    | error reworded => exact ⟨.error reworded, .cons next behind⟩

namespace Cursor

variable [Cursor σ] [Cursor τ] {allowed : Request → Prop} {R : σ → τ → Prop} {s : σ} {t : τ}

/-! ## Simulations -/

/-- Related cursors get the same answers to requests of the kinds that are allowed, and stay related. -/
structure Simulation (allowed : Request → Prop) (E : Fault → Fault → Prop) (R : σ → τ → Prop) :
    Prop where
  perform : ∀ {s t}, R s t → ∀ {request}, allowed request →
    SameAnswer E (perform s request).answer (perform t request).answer ∧
      R (perform s request).state (perform t request).state

namespace Simulation

theorem run (simulation : Simulation allowed E R) (related : R s t) {requests : List Request}
    (all : ∀ request ∈ requests, allowed request) :
    List.Forall₂ (SameAnswer E) (run s requests).answer (run t requests).answer ∧
      R (run s requests).state (run t requests).state := by
  induction requests generalizing s t with
  | nil => exact ⟨.nil, related⟩
  | cons request rest ih =>
    obtain ⟨first, later⟩ := List.forall_mem_cons.mp all
    obtain ⟨answer, next⟩ := simulation.perform related first
    obtain ⟨answers, final⟩ := ih next later
    exact ⟨.cons answer answers, final⟩

variable (simulation : Simulation allowed E R) (related : R s t)
include simulation related

theorem advance (ok : allowed .advance) :
    SameResult E (advance s).answer (advance t).answer ∧ R (advance s).state (advance t).state := by
  obtain ⟨answer, next⟩ := simulation.perform related ok
  cases answer with
  | moved same => exact ⟨same, next⟩

theorem reset (ok : allowed .reset) :
    SameResult E (reset s).answer (reset t).answer ∧ R (reset s).state (reset t).state := by
  obtain ⟨answer, next⟩ := simulation.perform related ok
  cases answer with
  | done same => exact ⟨same, next⟩

theorem close (ok : allowed .close) :
    SameResult E (close s).answer (close t).answer ∧ R (close s).state (close t).state := by
  obtain ⟨answer, next⟩ := simulation.perform related ok
  cases answer with
  | done same => exact ⟨same, next⟩

theorem currentRow (ok : allowed .currentRow) : currentRow t = currentRow s :=
  SameAnswer.row_iff.mp (simulation.perform related ok).1

theorem needsClose (ok : allowed .needsClose) : needsClose t = needsClose s :=
  SameAnswer.held_iff.mp (simulation.perform related ok).1

theorem schema (ok : allowed .schema) : schema t = schema s :=
  SameAnswer.columns_iff.mp (simulation.perform related ok).1

end Simulation

theorem Simulation.sum {σ' τ' : Type} [Cursor σ'] [Cursor τ'] {S : σ' → τ' → Prop}
    (left : Simulation allowed E R) (right : Simulation allowed E S) :
    Simulation allowed E (Sum.LiftRel R S) := by
  constructor
  intro s t related request ok
  cases related with
  | inl related =>
    obtain ⟨answer, next⟩ := left.perform related ok
    cases request <;> exact ⟨answer, .inl next⟩
  | inr related =>
    obtain ⟨answer, next⟩ := right.perform related ok
    cases request <;> exact ⟨answer, .inr next⟩

end Cursor

/-! ## Lanes -/

namespace Lane

/-- Two lanes of one number with the same in their buffers, over related sources. -/
structure Beside (R : σ → τ → Prop) (lane : Lane σ) (other : Lane τ) : Prop where
  index : other.index = lane.index
  lookahead : other.lookahead = lane.lookahead
  source : R lane.source other.source

namespace Beside

variable {allowed : Request → Prop} {R : σ → τ → Prop} {lane : Lane σ} {other : Lane τ}

theorem sameFront (beside : Beside R lane other) : Merge.SameFront lane other :=
  ⟨beside.index, congrArg Lookahead.row? beside.lookahead⟩

theorem release (beside : Beside R lane other) : Beside R lane.release other.release := by
  obtain ⟨index, lookahead, source⟩ := beside
  refine ⟨by simpa using index, ?_, by simpa using source⟩
  unfold Lane.release
  rw [lookahead]
  split
  · rfl
  · exact lookahead

variable [Cursor σ] [Cursor τ] (beside : Beside R lane other)
  (simulation : Cursor.Simulation allowed E R)
include beside simulation

theorem pull (moves : allowed .advance) (looks : allowed .currentRow)
    (unchanged : ∀ fault, E fault fault) :
    SameResult E lane.pull.answer other.pull.answer ∧ Beside R lane.pull.state other.pull.state := by
  obtain ⟨index, source, lookahead⟩ := lane
  obtain ⟨index', source', lookahead'⟩ := other
  obtain ⟨rfl, rfl, related⟩ := beside
  obtain ⟨answer, next⟩ := simulation.advance related moves
  have shown := simulation.currentRow next looks
  simp only [Lane.pull, Outcome.answer_bind, Outcome.state_bind]
  generalize (Cursor.advance source).answer = result, (Cursor.advance source').answer = result',
    (Cursor.advance source).state = moved, (Cursor.advance source').state = moved'
    at answer next shown ⊢
  cases answer with
  | error reworded => exact ⟨.error reworded, rfl, rfl, next⟩
  | ok more =>
    cases more with
    | false => exact ⟨.ok false, rfl, rfl, next⟩
    | true =>
      simp only [shown]
      cases Cursor.currentRow moved with
      | none => exact ⟨.error (unchanged _), rfl, rfl, next⟩
      | some row => exact ⟨.ok true, rfl, rfl, next⟩

theorem pullPending (moves : allowed .advance) (looks : allowed .currentRow)
    (unchanged : ∀ fault, E fault fault) :
    SameResult E (Merge.pullPending lane).answer (Merge.pullPending other).answer ∧
      Beside R (Merge.pullPending lane).state (Merge.pullPending other).state := by
  have due : other.isPending = lane.isPending := by
    rw [isPending, isPending, beside.lookahead]
  simp only [Merge.pullPending, due]
  split
  · obtain ⟨answer, next⟩ := beside.pull simulation moves looks unchanged
    exact ⟨answer.map _, next⟩
  · exact ⟨.ok (), beside⟩

theorem reset (rewinds : allowed .reset) :
    SameResult E lane.reset.answer other.reset.answer ∧
      Beside R lane.reset.state other.reset.state := by
  obtain ⟨answer, next⟩ := simulation.reset beside.source rewinds
  have index := beside.index
  have lookahead := beside.lookahead
  simp only [Lane.reset, Outcome.answer_bind, Outcome.state_bind]
  generalize (Cursor.reset lane.source).answer = result,
    (Cursor.reset other.source).answer = result' at answer ⊢
  cases answer with
  | ok _ => exact ⟨.ok (), index, rfl, next⟩
  | error reworded => exact ⟨.error reworded, index, lookahead, next⟩

end Beside

end Lane

/-! ## Merges -/

namespace Merge

/-- Two merges by one order at the same point, over related sources. -/
structure Beside (R : σ → τ → Prop) (merge : Merge σ) (other : Merge τ) : Prop where
  lanes : List.Forall₂ (Lane.Beside R) merge.lanes other.lanes
  order : other.order = merge.order
  current : other.current = merge.current
  currentLane : other.currentLane = merge.currentLane

namespace Beside

variable {allowed : Request → Prop} {R : σ → τ → Prop} {merge : Merge σ} {other : Merge τ}
  (beside : Beside R merge other)
include beside

theorem select : other.select.answer = merge.select.answer ∧
    Beside R merge.select.state other.select.state := by
  -- rows challenge each other by what the lanes show, and both merges show the same
  have won : other.winner = merge.winner :=
    winner_of_sameFront beside.order (beside.lanes.imp fun _ _ beside => beside.sameFront)
  unfold Merge.select
  rw [won]
  cases merge.winner with
  | some index =>
    refine ⟨rfl, forall₂_modify beside.lanes (fun _ _ beside => beside.release) index,
      beside.order, ?_, rfl⟩
    exact (bind_getElem?_of_forall₂ beside.lanes
      (fun _ _ beside => beside.sameFront.currentRow.symm) index).symm
  | none =>
    simp only [beside.currentLane]
    split <;> exact ⟨rfl, beside.lanes, beside.order, rfl, rfl⟩

variable [Cursor σ] [Cursor τ] (simulation : Cursor.Simulation allowed E R)
include simulation

theorem advance (moves : allowed .advance) (looks : allowed .currentRow)
    (unchanged : ∀ fault, E fault fault) :
    SameResult E merge.advance.answer other.advance.answer ∧
      Beside R merge.advance.state other.advance.state := by
  obtain ⟨answer, lanes⟩ := Outcome.untilFault_of_forall₂
    (fun _ _ beside => beside.pullPending simulation moves looks unchanged) beside.lanes
  simp only [Merge.advance, Outcome.answer_bind, Outcome.state_bind]
  generalize (Outcome.untilFault pullPending merge.lanes).answer = result,
    (Outcome.untilFault pullPending other.lanes).answer = result' at answer ⊢
  cases answer with
  | error reworded =>
    exact ⟨.error reworded, lanes, beside.order, beside.current, beside.currentLane⟩
  | ok _ =>
    have pulled : Beside R
        { merge with lanes := (Outcome.untilFault pullPending merge.lanes).state }
        { other with lanes := (Outcome.untilFault pullPending other.lanes).state } :=
      ⟨lanes, beside.order, beside.current, beside.currentLane⟩
    obtain ⟨answer, next⟩ := pulled.select
    refine ⟨?_, next⟩
    simp only [Outcome.answer_map, answer]
    exact .ok _

theorem reset (rewinds : allowed .reset) :
    SameResult E merge.reset.answer other.reset.answer ∧
      Beside R merge.reset.state other.reset.state := by
  obtain ⟨answer, lanes⟩ := Outcome.untilFault_of_forall₂
    (fun _ _ beside => beside.reset simulation rewinds) beside.lanes
  simp only [Merge.reset, Outcome.answer_after, Outcome.state_after, Outcome.answer_bind,
    Outcome.state_bind]
  generalize (Outcome.untilFault Lane.reset merge.lanes).answer = result,
    (Outcome.untilFault Lane.reset other.lanes).answer = result' at answer ⊢
  cases answer with
  | error reworded =>
    exact ⟨.error reworded, lanes, beside.order, beside.current, beside.currentLane⟩
  | ok _ => exact ⟨.ok (), lanes, beside.order, rfl, rfl⟩

theorem close (closes : allowed .close) :
    SameResult E merge.close.answer other.close.answer ∧
      Beside R merge.close.state other.close.state := by
  have closed : ∀ lane other, Lane.Beside R lane other →
      SameResult E (Cursor.close lane.source).answer (Cursor.close other.source).answer ∧
        Lane.Beside R (Merge.closed lane) (Merge.closed other) := by
    intro lane other beside
    obtain ⟨answer, next⟩ := simulation.close beside.source closes
    exact ⟨answer, beside.index, beside.lookahead, next⟩
  rw [state_close, state_close]
  -- a fault does not keep the lanes behind it from being closed, so every lane has its answer
  refine ⟨?_, ?_, beside.order, rfl, rfl⟩
  · change SameResult E (closeAll merge.lanes).answer (closeAll other.lanes).answer
    rw [(closeAll_eq merge.lanes).1, (closeAll_eq other.lanes).1]
    exact .firstFault (List.forall₂_map_left_iff.mpr (List.forall₂_map_right_iff.mpr
      (beside.lanes.imp fun lane other beside => (closed lane other beside).1)))
  · exact List.forall₂_map_left_iff.mpr (List.forall₂_map_right_iff.mpr
      (beside.lanes.imp fun lane other beside => (closed lane other beside).2))

theorem needsClose (holds : allowed .needsClose) : other.needsClose = merge.needsClose := by
  have same : merge.lanes.map Lane.needsClose = other.lanes.map Lane.needsClose :=
    map_eq_map_of_forall₂ (beside.lanes.imp fun _ _ beside =>
      (simulation.needsClose beside.source holds).symm)
  simpa [Merge.needsClose, List.all_map] using (congrArg (List.all · id) same).symm

theorem schema (shows : allowed .schema) : other.schema = merge.schema := by
  have lanes := beside.lanes
  generalize split : merge.lanes = front, split' : other.lanes = front' at lanes
  cases lanes with
  | nil => simp only [Merge.schema, split, split']
  | cons here _ =>
    simp only [Merge.schema, split, split']
    exact simulation.schema here.source shows

end Beside

end Merge

/-- Where requests on related sources get the same answers, so do those on merges of them; the count of
the rows is left out, for a merge asks its sources for it only until one of them has none. -/
theorem Cursor.Simulation.merge [Cursor σ] [Cursor τ] {allowed : Request → Prop} {R : σ → τ → Prop}
    (simulation : Simulation allowed E R) (looks : allowed .advance → allowed .currentRow)
    (uncounted : ¬ allowed .rowCount) (unchanged : ∀ fault, E fault fault) :
    Simulation allowed E (Merge.Beside R) := by
  constructor
  intro merge other beside request ok
  cases request with
  | advance =>
    obtain ⟨answer, next⟩ := beside.advance simulation ok (looks ok) unchanged
    exact ⟨.moved answer, next⟩
  | currentRow => exact ⟨SameAnswer.row_iff.mpr beside.current, beside⟩
  | rowCount => exact absurd ok uncounted
  | reset =>
    obtain ⟨answer, next⟩ := beside.reset simulation ok
    exact ⟨.done answer, next⟩
  | close =>
    obtain ⟨answer, next⟩ := beside.close simulation ok
    exact ⟨.done answer, next⟩
  | needsClose => exact ⟨SameAnswer.held_iff.mpr (beside.needsClose simulation ok), beside⟩
  | schema => exact ⟨SameAnswer.columns_iff.mpr (beside.schema simulation ok), beside⟩

/-! ## Trees -/

namespace MergeTree

/-- Two trees of one shape with related leaves, whose merges are at the same point. -/
def Beside (R : σ → τ → Prop) : (depth : Nat) → MergeTree σ depth → MergeTree τ depth → Prop
  | 0 => R
  | depth + 1 => Sum.LiftRel R (Merge.Beside (Beside R depth))

theorem Beside.currentLane {R : σ → τ → Prop} {depth : Nat} {tree : MergeTree σ depth}
    {other : MergeTree τ depth} (beside : Beside R depth tree other) :
    other.currentLane = tree.currentLane := by
  cases depth with
  | zero => rfl
  | succ depth =>
    cases beside with
    | inl _ => rfl
    | inr beside => exact beside.currentLane

variable [Cursor σ] [Cursor τ]

theorem simulation {allowed : Request → Prop} {R : σ → τ → Prop}
    (leaves : Cursor.Simulation allowed E R) (looks : allowed .advance → allowed .currentRow)
    (uncounted : ¬ allowed .rowCount) (unchanged : ∀ fault, E fault fault) (depth : Nat) :
    Cursor.Simulation allowed E (Beside R depth) := by
  induction depth with
  | zero => exact leaves
  | succ depth ih => exact leaves.sum (ih.merge looks uncounted unchanged)

/-- Two trees of one shape with related leaves, whose merges have been built by the same orders and
not been advanced. -/
def BuiltBeside (R : σ → τ → Prop) : (depth : Nat) → MergeTree σ depth → MergeTree τ depth → Prop
  | 0 => R
  | depth + 1 => Sum.LiftRel R fun merge other => ∃ order sources others,
    List.Forall₂ (BuiltBeside R depth) sources others ∧ Merge.Built order sources merge ∧
      Merge.Built order others other

theorem BuiltBeside.beside {R S : σ → τ → Prop} (start : ∀ s t, R s t → S s t) {depth : Nat}
    {tree : MergeTree σ depth} {other : MergeTree τ depth} (built : BuiltBeside R depth tree other) :
    Beside S depth tree other := by
  induction depth with
  | zero => exact start tree other built
  | succ depth ih =>
    cases built with
    | inl related => exact .inl (start _ _ related)
    | inr built =>
      obtain ⟨order, sources, others, paired, made, made'⟩ := built
      rw [made.eq_fresh.1, made'.eq_fresh.1]
      -- new lanes are numbered by their places and due for a pull, whatever their sources are
      refine .inr ⟨?_, rfl, rfl, rfl⟩
      exact forall₂_mapIdx paired fun _ _ _ built => ⟨rfl, rfl, ih built⟩

end MergeTree

end RowMerge
