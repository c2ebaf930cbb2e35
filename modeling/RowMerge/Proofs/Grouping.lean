import RowMerge.Proofs.Alike
import RowMerge.Proofs.Pairing
import RowMerge.Proofs.Counts

/-!
# Groups of lanes

A lane over a tree of merges stands for a group of lanes over the leaves of the tree. What has to be
kept between the two, whatever shape the tree has, is a relation of the source of the one lane and its
lookahead with the group. A lane that is due for a pull stands for lanes that are pulled in its place;
an exhausted one for exhausted lanes; and the row in its buffer is the first of the least rows of the
group, where it still waits in the buffer of one lane.
-/
namespace RowMerge.Merge

open Outcome (untilFault)

variable {σ τ : Type} {order : Row → Row → Ordering}

/-! ## What a lane stands for -/

/-- A lane stands for a group if its source does, with what it has ahead. -/
abbrev Stands (R : τ → Lookahead → List (Lane σ) → Prop) (lane : Lane τ) (group : List (Lane σ)) :
    Prop := R lane.source lane.lookahead group

/-- A row that leads the rows of a group and waits in the buffer of one of its lanes. Once it is
taken there, the group stands for a source that is due for a pull. -/
inductive Fronts (order : Row → Row → Ordering) (R : τ → Lookahead → List (Lane σ) → Prop)
    (source : τ) (row : Row) : List (Lane σ) → Prop
  | intro {before after : List (Lane σ)} {leaf : Lane σ} (held : leaf.lookahead = .buffered row)
      (leads : Leads order before row after)
      (settled : ∀ lane ∈ before ++ after, lane.lookahead ≠ .pending)
      (taken : R source .pending (before ++ leaf.release :: after)) :
      Fronts order R source row (before ++ leaf :: after)

theorem Fronts.imp {τ' : Type} {R : τ → Lookahead → List (Lane σ) → Prop}
    {S : τ' → Lookahead → List (Lane σ) → Prop} {source : τ} {source' : τ'} {row : Row}
    {group : List (Lane σ)} (fronts : Fronts order R source row group)
    (kept : ∀ group, R source .pending group → S source' .pending group) :
    Fronts order S source' row group := by
  obtain ⟨held, leads, settled, taken⟩ := fronts
  exact .intro held leads settled (kept _ taken)

variable [Cursor τ]

/-- An advance beside the pulls of a group: the answers of both and what they leave. -/
inductive Pulled (R : τ → Lookahead → List (Lane σ) → Prop) (source : τ) :
    Except Fault Bool → Except Fault Unit → List (Lane σ) → Prop
  | failed {fault : Fault} {group : List (Lane σ)} (related : R source .pending group) :
      Pulled R source (.error fault) (.error fault) group
  | ended {group : List (Lane σ)} (related : R source .exhausted group) :
      Pulled R source (.ok false) (.ok ()) group
  | row {row : Row} {group : List (Lane σ)} (shown : Cursor.currentRow source = some row)
      (related : R source (.buffered row) group) : Pulled R source (.ok true) (.ok ()) group

theorem Pulled.imp {τ' : Type} [Cursor τ'] {R : τ → Lookahead → List (Lane σ) → Prop}
    {S : τ' → Lookahead → List (Lane σ) → Prop} {source : τ} {source' : τ'}
    {answer : Except Fault Bool} {answer' : Except Fault Unit} {group : List (Lane σ)}
    (pulled : Pulled R source answer answer' group)
    (current : Cursor.currentRow source' = Cursor.currentRow source)
    (kept : ∀ lookahead group, R source lookahead group → S source' lookahead group) :
    Pulled S source' answer answer' group := by
  cases pulled with
  | failed related => exact .failed (kept _ _ related)
  | ended related => exact .ended (kept _ _ related)
  | row shown related => exact .row (current.trans shown) (kept _ _ related)

/-! ## Lanes over twins -/

variable [Cursor σ]

/-- The same lane but for its source, which may be a twin. -/
structure SameLane (lane other : Lane σ) : Prop where
  lookahead : other.lookahead = lane.lookahead
  twins : Cursor.Twins lane.source other.source

theorem map_lookahead_of_sameLane {lanes others : List (Lane σ)}
    (same : List.Forall₂ SameLane lanes others) :
    others.map Lane.lookahead = lanes.map Lane.lookahead := by
  induction same with
  | nil => rfl
  | cons here _ ih => simp [here.lookahead, ih]

theorem tally_of_sameLane {lanes others : List (Lane σ)} (same : List.Forall₂ SameLane lanes others)
    (total : Nat) : tally total others = tally total lanes := by
  apply tally_of_map_eq
  induction same with
  | nil => rfl
  | cons here _ ih => simp [here.twins.rowCount, ih]

/-- No request changes the counts that regular sources declare. -/
theorem tally_map {lanes : List (Lane σ)} (regular : ∀ lane ∈ lanes, Cursor.Regular lane.source)
    {f : Lane σ → Lane σ} (request : Request)
    (performed : ∀ lane, (f lane).source = (Cursor.perform lane.source request).state) (total : Nat) :
    tally total (lanes.map f) = tally total lanes := by
  apply tally_of_map_eq
  rw [List.map_map]
  refine List.map_congr_left fun lane member => ?_
  simp only [Function.comp_apply, performed]
  exact (regular lane member).counts [request]

theorem rowCount_refilled {lane : Lane σ} (regular : Cursor.Regular lane.source) :
    (Cursor.rowCount (refilled lane).source).answer = (Cursor.rowCount lane.source).answer := by
  by_cases pending : lane.lookahead = .pending
  · rw [source_refilled_of_pending pending]
    exact regular.counts [.advance]
  · rw [refilled_of_settled pending]

/-! ## Groupings -/

/-- A relation that every call keeps, and under which the answers of a source are those of its
group. -/
structure Grouping (order : Row → Row → Ordering) (R : τ → Lookahead → List (Lane σ) → Prop) :
    Prop where
  regular : ∀ {source lookahead group}, R source lookahead group →
    ∀ lane ∈ group, Cursor.Regular lane.source
  replace : ∀ {source lookahead group other}, R source lookahead group →
    List.Forall₂ SameLane group other → R source lookahead other
  exhausted : ∀ {source group}, R source .exhausted group →
    ∀ lane ∈ group, lane.lookahead = .exhausted
  fronts : ∀ {source row group}, R source (.buffered row) group → Fronts order R source row group
  advance : ∀ {source group}, R source .pending group →
    Pulled R (Cursor.advance source).state (Cursor.advance source).answer
      (untilFault pullPending group).answer (untilFault pullPending group).state
  advanced : ∀ {source group}, R source .pending group →
    Event.advanced (Cursor.advance source).events =
      Event.advanced (untilFault pullPending group).events
  reset : ∀ {source lookahead group}, R source lookahead group →
    (∀ lane ∈ group, (Cursor.reset lane.source).answer = .ok ()) →
    (Cursor.reset source).answer = .ok () ∧
      Event.advanced (Cursor.reset source).events =
        group.flatMap (fun lane => Event.advanced (Cursor.reset lane.source).events) ∧
      R (Cursor.reset source).state .pending (group.map rewound)
  close : ∀ {source lookahead group}, R source lookahead group →
    (Cursor.close source).answer =
        firstFault (group.map fun lane => (Cursor.close lane.source).answer) ∧
      Event.advanced (Cursor.close source).events =
        group.flatMap (fun lane => Event.advanced (Cursor.close lane.source).events) ∧
      R (Cursor.close source).state lookahead (group.map closed)
  rowCount : ∀ {source lookahead group}, R source lookahead group →
    (∀ total < countLimit, addCount total (Cursor.rowCount source).answer = tally total group) ∧
      Event.advanced (Cursor.rowCount source).events = [] ∧
      R (Cursor.rowCount source).state lookahead group
  needsClose : ∀ {source lookahead group}, R source lookahead group →
    Cursor.needsClose source = group.all Lane.needsClose
  schema : ∀ {source lookahead group}, R source lookahead group →
    ∃ first rest, group = first :: rest ∧ Cursor.schema source = first.schema

namespace Grouping

variable {R : τ → Lookahead → List (Lane σ) → Prop}

/-- Where a lane is not due for a pull, none of its group is. -/
theorem settled (grouping : Grouping order R) {source : τ} {lookahead : Lookahead}
    {group : List (Lane σ)} (related : R source lookahead group) (settled : lookahead ≠ .pending) :
    ∀ lane ∈ group, lane.lookahead ≠ .pending := by
  cases lookahead with
  | pending => exact absurd rfl settled
  | buffered row =>
    obtain ⟨held, -, others, -⟩ := grouping.fronts related
    obtain ⟨before, after⟩ := List.forall_mem_append.mp others
    exact List.forall_mem_append.mpr ⟨before, List.forall_mem_cons.mpr ⟨by simp [held], after⟩⟩
  | exhausted =>
    intro lane member
    simp [grouping.exhausted related lane member]

/-- The row of a lane that is not due is no greater than any of its group. -/
theorem isLE_of_mem [Std.OrientedCmp order] (grouping : Grouping order R) {source : τ}
    {lookahead : Lookahead} {group : List (Lane σ)} (related : R source lookahead group)
    (settled : lookahead ≠ .pending) {lane : Lane σ} (member : lane ∈ group) {other : Row}
    (found : lane.currentRow = some other) :
    ∃ row, lookahead = .buffered row ∧ (order row other).isLE := by
  cases lookahead with
  | pending => exact absurd rfl settled
  | buffered row =>
    obtain ⟨held, leads, -, -⟩ := grouping.fronts related
    exact ⟨row, rfl, leads.isLE held lane member other found⟩
  | exhausted =>
    rw [Lane.currentRow_of_exhausted (grouping.exhausted related lane member)] at found
    cases found

/-- A pull of a lane beside the pulls of its group. -/
theorem pull (grouping : Grouping order R) {lane : Lane τ} {group : List (Lane σ)}
    (related : R lane.source lane.lookahead group) :
    (pullPending lane).answer = (untilFault pullPending group).answer ∧
      Event.advanced (pullPending lane).events =
        Event.advanced (untilFault pullPending group).events ∧
      R (refilled lane).source (refilled lane).lookahead (untilFault pullPending group).state := by
  by_cases pending : lane.lookahead = .pending
  · rw [pending] at related
    -- the advance of the source and the pulls of the group end in the same way
    have events := (advanced_pullPending pending).trans (grouping.advanced related)
    have pulled := grouping.advance related
    have pull := pull_of_pending pending
    revert events
    generalize (pullPending lane).answer = answer, refilled lane = next,
      untilFault pullPending group = walk at pulled pull ⊢
    obtain ⟨answer', group', events'⟩ := walk
    intro events
    cases pull with
    | failed answer =>
      rw [answer] at pulled
      cases pulled with
      | failed related => exact ⟨rfl, events, pending ▸ related⟩
    | rowless answer absent =>
      rw [answer] at pulled
      cases pulled with
      -- what stands for a group shows a row whenever it moves
      | row shown => cases absent.symm.trans shown
    | ended answer =>
      rw [answer] at pulled
      cases pulled with
      | ended related => exact ⟨rfl, events, related⟩
    | row answer shown =>
      rw [answer] at pulled
      cases pulled with
      | row shown' related =>
        cases shown'.symm.trans shown
        exact ⟨rfl, events, related⟩
  · rw [refilled_of_settled pending, pullPending_of_settled pending,
      untilFault_pullPending_of_settled (grouping.settled related pending)]
    exact ⟨rfl, rfl, related⟩

/-- The pulls of lanes beside those of their groups, one after the other. -/
theorem pulls (grouping : Grouping order R) {lanes : List (Lane τ)} {groups : List (List (Lane σ))}
    (related : List.Forall₂ (Stands R) lanes groups) :
    (untilFault pullPending lanes).answer = (untilFault pullPending groups.flatten).answer ∧
      Event.advanced (untilFault pullPending lanes).events =
        Event.advanced (untilFault pullPending groups.flatten).events ∧
      ∃ groups', (untilFault pullPending groups.flatten).state = groups'.flatten ∧
        List.Forall₂ (Stands R) (untilFault pullPending lanes).state groups' := by
  induction related with
  | nil => exact ⟨rfl, rfl, [], rfl, .nil⟩
  | @cons lane group lanes groups here behind ih =>
    obtain ⟨answer, events, first⟩ := grouping.pull here
    obtain ⟨answers, events', groups', state, rest⟩ := ih
    rw [List.flatten_cons, Outcome.untilFault_append]
    -- a fault of the first lane ends both walks; else both go on with the rest
    cases result : (pullPending lane).answer with
    | error fault =>
      rw [result] at answer
      refine ⟨?_, ?_, (untilFault pullPending group).state :: groups, ?_, ?_⟩
      · simp [untilFault, result, ← answer]
      · simp [untilFault, result, ← answer, events]
      · simp [← answer]
      · simp only [untilFault, result, Outcome.state_bind]
        exact .cons first behind
    | ok _ =>
      rw [result] at answer
      refine ⟨?_, ?_, (untilFault pullPending group).state :: groups', ?_, ?_⟩
      · simp [untilFault, result, ← answer, answers]
      · simp [untilFault, result, ← answer, events, events']
      · simp [← answer, state]
      · simp only [untilFault, result, Outcome.state_bind]
        exact .cons first rest

theorem resets (grouping : Grouping order R) {lanes : List (Lane τ)} {groups : List (List (Lane σ))}
    (related : List.Forall₂ (Stands R) lanes groups)
    (ok : ∀ leaf ∈ groups.flatten, (Cursor.reset leaf.source).answer = .ok ()) :
    (∀ lane ∈ lanes, (Cursor.reset lane.source).answer = .ok ()) ∧
      lanes.flatMap (fun lane => Event.advanced (Cursor.reset lane.source).events) =
        groups.flatten.flatMap (fun leaf => Event.advanced (Cursor.reset leaf.source).events) ∧
      List.Forall₂ (Stands R) (lanes.map rewound) (groups.map (List.map rewound)) := by
  induction related with
  | nil => exact ⟨by simp, rfl, .nil⟩
  | cons here _ ih =>
    obtain ⟨ok_here, ok_behind⟩ := List.forall_mem_append.mp ok
    obtain ⟨answer, events, first⟩ := grouping.reset here ok_here
    obtain ⟨answers, events', rest⟩ := ih ok_behind
    refine ⟨List.forall_mem_cons.mpr ⟨answer, answers⟩, ?_, .cons first rest⟩
    simp only [List.flatMap_cons, List.flatten_cons, List.flatMap_append, events, events']

theorem closes (grouping : Grouping order R) {lanes : List (Lane τ)} {groups : List (List (Lane σ))}
    (related : List.Forall₂ (Stands R) lanes groups) :
    firstFault (lanes.map fun lane => (Cursor.close lane.source).answer) =
        firstFault (groups.flatten.map fun leaf => (Cursor.close leaf.source).answer) ∧
      lanes.flatMap (fun lane => Event.advanced (Cursor.close lane.source).events) =
        groups.flatten.flatMap (fun leaf => Event.advanced (Cursor.close leaf.source).events) ∧
      List.Forall₂ (Stands R) (lanes.map closed) (groups.map (List.map closed)) := by
  induction related with
  | nil => exact ⟨rfl, rfl, .nil⟩
  | @cons lane group lanes groups here _ ih =>
    obtain ⟨answer, events, first⟩ := grouping.close here
    obtain ⟨answers, events', rest⟩ := ih
    refine ⟨?_, ?_, .cons first rest⟩
    · rw [List.flatten_cons, List.map_append, firstFault_append, ← answer, ← answers, List.map_cons]
      cases (Cursor.close lane.source).answer <;> rfl
    · simp only [List.flatMap_cons, List.flatten_cons, List.flatMap_append, events, events']

theorem tally_eq (grouping : Grouping order R) {lanes : List (Lane τ)} {groups : List (List (Lane σ))}
    (related : List.Forall₂ (Stands R) lanes groups)
    {total : Nat} (below : total < countLimit) : tally total lanes = tally total groups.flatten := by
  induction related generalizing total with
  | nil => rfl
  | @cons lane group lanes groups here _ ih =>
    have first := (grouping.rowCount here).1 total below
    rw [List.flatten_cons, tally_append, ← first, tally_cons]
    -- the total of a group is what its lane adds
    cases sum : addCount total (Cursor.rowCount lane.source).answer with
    | none => rfl
    | some sum =>
      obtain ⟨_, _, fits, rfl⟩ := addCount_eq_some_iff.mp sum
      exact ih fits

theorem asks (grouping : Grouping order R) {front back : List (Lane τ)}
    {groups : List (List (Lane σ))}
    (related : List.Forall₂ (Stands R) (front ++ back) groups) :
    List.Forall₂ (Stands R) (front.map asked ++ back) groups := by
  -- to be asked for its row count leaves a source standing for its group
  obtain ⟨front', back', rfl, first, rest⟩ := forall₂_append related
  refine List.rel_append (List.forall₂_map_left_iff.mpr ?_) rest
  exact first.imp fun _ _ here => (grouping.rowCount here).2.2

theorem all_needsClose (grouping : Grouping order R) {lanes : List (Lane τ)}
    {groups : List (List (Lane σ))}
    (related : List.Forall₂ (Stands R) lanes groups) :
    lanes.all Lane.needsClose = groups.flatten.all Lane.needsClose := by
  induction related with
  | nil => rfl
  | cons here _ ih =>
    rw [List.all_cons, List.flatten_cons, List.all_append, ih]
    exact congrArg (· && _) (grouping.needsClose here)

/-! ## Leaves -/

/-- A source that is a leaf stands beside one lane, over a twin of it. -/
def Leaf (source : σ) (lookahead : Lookahead) (group : List (Lane σ)) : Prop :=
  ∃ lane, group = [lane] ∧ lane.lookahead = lookahead ∧ Cursor.Twins source lane.source

private theorem pulled_leaf {source : σ} {lane : Lane σ} (twins : Cursor.Twins source lane.source)
    (pending : lane.lookahead = .pending) :
    Pulled Leaf (Cursor.advance source).state (Cursor.advance source).answer
      (untilFault pullPending [lane]).answer (untilFault pullPending [lane]).state := by
  have pull := pull_of_pending pending
  have after : Cursor.Twins (Cursor.advance source).state (Cursor.advance lane.source).state :=
    twins.perform .advance
  rw [Outcome.untilFault_singleton, Outcome.answer_mapState, Outcome.state_mapState, twins.advance]
  change Pulled _ _ _ _ [refilled lane]
  generalize (pullPending lane).answer = answer, refilled lane = next at pull ⊢
  cases pull with
  | failed answer =>
    rw [answer]
    exact .failed ⟨_, rfl, pending, after⟩
  | rowless answer absent =>
    -- a regular source shows a row whenever it moves
    have shown := twins.right.shows [] answer
    change (Cursor.currentRow (Cursor.advance lane.source).state).isSome at shown
    simp [absent] at shown
  | ended answer =>
    rw [answer]
    exact .ended ⟨_, rfl, rfl, after⟩
  | row answer shown =>
    rw [answer]
    exact .row (after.currentRow.trans shown) ⟨_, rfl, rfl, after⟩

/-- The same calls reach the leaf in the tree and its twin in the flat merge. -/
theorem leaf : Grouping order (Leaf (σ := σ)) where
  regular := by
    rintro source lookahead _ ⟨lane, rfl, -, twins⟩
    exact List.forall_mem_singleton.mpr twins.right
  replace := by
    rintro source lookahead _ other ⟨lane, rfl, content, twins⟩ same
    obtain ⟨lane', _, here, behind, rfl⟩ := List.forall₂_cons_left_iff.mp same
    cases behind
    exact ⟨lane', rfl, here.lookahead.trans content, twins.trans here.twins⟩
  exhausted := by
    rintro source _ ⟨lane, rfl, content, -⟩
    exact List.forall_mem_singleton.mpr content
  fronts := by
    rintro source row _ ⟨lane, rfl, held, twins⟩
    -- no other lane is in the group, so that its row leads
    change Fronts order Leaf source row ([] ++ lane :: [])
    refine .intro held ⟨by simp, by simp⟩ (by simp) ?_
    exact ⟨_, rfl, by rw [Lane.release_of_buffered held], by simpa using twins⟩
  advance := by
    rintro source _ ⟨lane, rfl, pending, twins⟩
    exact pulled_leaf twins pending
  advanced := by
    rintro source _ ⟨lane, rfl, pending, twins⟩
    rw [Outcome.untilFault_singleton, Outcome.events_mapState, advanced_pullPending pending]
    exact (twins.alike.perform .advance).2.1
  reset := by
    rintro source lookahead _ ⟨lane, rfl, -, twins⟩ ok
    refine ⟨twins.reset.trans (ok lane List.mem_cons_self), ?_, _, rfl, rfl, twins.perform .reset⟩
    rw [List.flatMap_singleton]
    exact (twins.alike.perform .reset).2.1
  close := by
    rintro source lookahead _ ⟨lane, rfl, content, twins⟩
    refine ⟨?_, ?_, _, rfl, content, twins.perform .close⟩
    · cases answer : (Cursor.close lane.source).answer <;> simp [firstFault, twins.close, answer]
    · rw [List.flatMap_singleton]
      exact (twins.alike.perform .close).2.1
  rowCount := by
    rintro source lookahead _ ⟨lane, rfl, content, twins⟩
    have asked := twins.left.twins_rowCount.symm.trans twins
    refine ⟨?_, (twins.left.asks []).2, lane, rfl, content, asked⟩
    intro total _
    simp [tally, twins.rowCount]
  needsClose := by
    rintro source lookahead _ ⟨lane, rfl, -, twins⟩
    simp [Lane.needsClose, twins.needsClose]
  schema := by
    rintro source lookahead _ ⟨lane, rfl, -, twins⟩
    exact ⟨lane, [], rfl, twins.schema⟩

/-! ## Sources of two kinds -/

variable {τ' : Type} [Cursor τ']

/-- Each kind of source stands for groups in its own way. -/
theorem sum {S : τ' → Lookahead → List (Lane σ) → Prop} (left : Grouping order R)
    (right : Grouping order S) : Grouping order (Sum.elim R S) where
  regular := by
    rintro (source | source) lookahead group related
    · exact left.regular related
    · exact right.regular related
  replace := by
    rintro (source | source) lookahead group other related
    · exact left.replace related
    · exact right.replace related
  exhausted := by
    rintro (source | source) group related
    · exact left.exhausted related
    · exact right.exhausted related
  fronts := by
    rintro (source | source) row group related
    · exact (left.fronts related).imp fun _ taken => taken
    · exact (right.fronts related).imp fun _ taken => taken
  advance := by
    rintro (source | source) group related
    · exact (left.advance related).imp rfl fun _ _ kept => kept
    · exact (right.advance related).imp rfl fun _ _ kept => kept
  advanced := by
    rintro (source | source) group related
    · exact left.advanced related
    · exact right.advanced related
  reset := by
    rintro (source | source) lookahead group related
    · exact left.reset related
    · exact right.reset related
  close := by
    rintro (source | source) lookahead group related
    · exact left.close related
    · exact right.close related
  rowCount := by
    rintro (source | source) lookahead group related
    · exact left.rowCount related
    · exact right.rowCount related
  needsClose := by
    rintro (source | source) lookahead group related
    · exact left.needsClose related
    · exact right.needsClose related
  schema := by
    rintro (source | source) lookahead group related
    · exact left.schema related
    · exact right.schema related

end Grouping

end RowMerge.Merge
