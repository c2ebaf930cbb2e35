import RowMerge.Proofs.Grouping

/-!
# Merges as sources

A merge whose sources stand for groups of lanes stands for all these groups together. Inside, the
lanes are as its own lanes know them. Seen from outside, the row that an advance of the merge has just
emitted still waits in the buffer of the lane that it came from: the lane of the outer merge holds it,
while inside the lane it came from is due for its next pull.
-/
namespace RowMerge.Merge

open Outcome (untilFault)

variable {σ τ : Type} {order : Row → Row → Ordering}

/-! ## The outer view of lanes -/

/-- The lanes inside a merge, and the lanes that a lane over this merge stands for. -/
inductive Cover (order : Row → Row → Ordering) : Lookahead → List (Lane σ) → List (Lane σ) → Prop
  | idle {lanes : List (Lane σ)} : Cover order .pending lanes lanes
  | ended {lanes : List (Lane σ)} (exhausted : ∀ lane ∈ lanes, lane.lookahead = .exhausted) :
      Cover order .exhausted lanes lanes
  | ahead {before after : List (Lane σ)} {leaf : Lane σ} {row : Row}
      (due : leaf.lookahead = .pending) (leads : Leads order before row after)
      (settled : ∀ lane ∈ before ++ after, lane.lookahead ≠ .pending) :
      Cover order (.buffered row) (before ++ leaf :: after)
        (before ++ { leaf with lookahead := .buffered row } :: after)

namespace Cover

variable {lookahead : Lookahead} {inner outer : List (Lane σ)}

theorem of_held {before after : List (Lane σ)} {leaf : Lane σ} {row : Row}
    (held : leaf.lookahead = .buffered row) (leads : Leads order before row after)
    (settled : ∀ lane ∈ before ++ after, lane.lookahead ≠ .pending) :
    Cover order (.buffered row) (before ++ leaf.release :: after) (before ++ leaf :: after) := by
  obtain ⟨index, source, _⟩ := leaf
  cases held
  exact .ahead rfl leads settled

/-- Both views agree on all but the lookahead. -/
theorem map_eq {α : Type} (cover : Cover order lookahead inner outer) (f : Lane σ → α)
    (blind : ∀ (lane : Lane σ) (content : Lookahead), f { lane with lookahead := content } = f lane) :
    outer.map f = inner.map f := by
  cases cover with
  | idle => rfl
  | ended exhausted => rfl
  | ahead due leads settled => simp [blind]

theorem flatMap_eq {α : Type} (cover : Cover order lookahead inner outer) (f : Lane σ → List α)
    (blind : ∀ (lane : Lane σ) (content : Lookahead), f { lane with lookahead := content } = f lane) :
    outer.flatMap f = inner.flatMap f := by
  rw [List.flatMap_def, List.flatMap_def, cover.map_eq f blind]

theorem all_eq (cover : Cover order lookahead inner outer) (f : Lane σ → Bool)
    (blind : ∀ (lane : Lane σ) (content : Lookahead), f { lane with lookahead := content } = f lane) :
    outer.all f = inner.all f := by
  have same := congrArg (List.all · id) (cover.map_eq f blind)
  simpa [Function.comp_def] using same

theorem forall_source_iff {P : σ → Prop} (cover : Cover order lookahead inner outer) :
    (∀ lane ∈ outer, P lane.source) ↔ ∀ lane ∈ inner, P lane.source := by
  have same := cover.map_eq Lane.source fun _ _ => rfl
  rw [← List.forall_mem_map (f := Lane.source), same, List.forall_mem_map]

variable [Cursor σ]

theorem tally_eq (cover : Cover order lookahead inner outer) (total : Nat) :
    tally total outer = tally total inner :=
  tally_of_map_eq total (cover.map_eq _ fun _ _ => rfl)

theorem closed (cover : Cover order lookahead inner outer) :
    Cover order lookahead (inner.map Merge.closed) (outer.map Merge.closed) := by
  have same : ∀ lanes : List (Lane σ),
      (lanes.map Merge.closed).map Lane.lookahead = lanes.map Lane.lookahead := by
    intro lanes
    simp [Merge.closed, Function.comp_def]
  cases cover with
  | idle => exact .idle
  | ended exhausted => exact .ended (by simpa [Merge.closed] using exhausted)
  | ahead due leads settled =>
    simp only [List.map_append, List.map_cons]
    exact .ahead due (leads.of_lookaheads (same _) (same _))
      (by simpa [Merge.closed, or_imp, forall_and] using settled)

theorem replace (cover : Cover order lookahead inner outer) {other : List (Lane σ)}
    (same : List.Forall₂ SameLane outer other) :
    ∃ inner', List.Forall₂ SameLane inner inner' ∧ Cover order lookahead inner' other := by
  cases cover with
  | idle => exact ⟨other, same, .idle⟩
  | ended exhausted =>
    refine ⟨other, same, .ended ?_⟩
    intro lane member
    obtain ⟨old, place, equal⟩ := exists_of_mem_right same member
    exact equal.lookahead.trans (exhausted old place)
  | @ahead before after leaf row due leads settled =>
    obtain ⟨before', leaf', after', rfl, front, here, back⟩ := forall₂_append_cons same
    -- inside, the lane over the replaced source is due as before
    have held : leaf' = { ({ leaf' with lookahead := .pending } : Lane σ) with
        lookahead := .buffered row } := by
      cases leaf'
      simpa using here.lookahead
    refine ⟨before' ++ { leaf' with lookahead := .pending } :: after',
      List.rel_append front (.cons ⟨due.symm, here.twins⟩ back), ?_⟩
    rw [held]
    refine .ahead rfl (leads.of_lookaheads (map_lookahead_of_sameLane front)
      (map_lookahead_of_sameLane back)) ?_
    intro lane member
    obtain ⟨old, place, equal⟩ := exists_of_mem_right (List.rel_append front back) member
    rw [equal.lookahead]
    exact settled old place

end Cover

/-! ## Rows that lead groups -/

section

variable [Cursor σ] [Cursor τ] {R : τ → Lookahead → List (Lane σ) → Prop} {lanes : List (Lane τ)}
  {groups : List (List (Lane σ))}

private theorem settled_of_groups (grouping : Grouping order R)
    (related : List.Forall₂ (Stands R) lanes groups)
    (settled : ∀ lane ∈ lanes, lane.lookahead ≠ .pending) :
    ∀ leaf ∈ groups.flatten, leaf.lookahead ≠ .pending := by
  intro leaf member
  obtain ⟨group, present, member⟩ := List.mem_flatten.mp member
  obtain ⟨lane, place, here⟩ := exists_of_mem_right related present
  exact grouping.settled here (settled lane place) leaf member

/-- A row of a group is no less than the row of the lane that stands for the group. -/
private theorem exists_isLE_of_groups [Std.TransCmp order] (grouping : Grouping order R)
    (related : List.Forall₂ (Stands R) lanes groups)
    (settled : ∀ lane ∈ lanes, lane.lookahead ≠ .pending) :
    ∀ leaf ∈ groups.flatten, ∀ other ∈ leaf.currentRow,
      ∃ lane ∈ lanes, ∃ row ∈ lane.currentRow, (order row other).isLE := by
  intro leaf member other found
  obtain ⟨group, present, member⟩ := List.mem_flatten.mp member
  obtain ⟨lane, place, here⟩ := exists_of_mem_right related present
  obtain ⟨row, held, below⟩ := grouping.isLE_of_mem here (settled lane place) member found
  exact ⟨lane, place, row, Lane.currentRow_eq_some_iff.mpr held, below⟩

/-- What leads the lanes leads their groups. -/
private theorem leads_groups [Std.TransCmp order] (grouping : Grouping order R)
    {before after : List (Lane τ)} {row : Row} {front back : List (List (Lane σ))}
    (leads : Leads order before row after)
    (settled : ∀ lane ∈ before ++ after, lane.lookahead ≠ .pending)
    (front_related : List.Forall₂ (Stands R) before front)
    (back_related : List.Forall₂ (Stands R) after back) :
    Leads order front.flatten row back.flatten := by
  obtain ⟨settled_front, settled_back⟩ := List.forall_mem_append.mp settled
  constructor
  · intro leaf member other found
    obtain ⟨lane, place, head, held, below⟩ :=
      exists_isLE_of_groups grouping front_related settled_front leaf member other found
    exact Std.TransCmp.lt_of_lt_of_isLE (leads.less lane place head held) below
  · intro leaf member other found
    obtain ⟨lane, place, head, held, below⟩ :=
      exists_isLE_of_groups grouping back_related settled_back leaf member other found
    exact Std.TransCmp.isLE_trans (leads.least lane place head held) below

end

/-! ## Groups of groups -/

variable [Cursor σ] {R : τ → Lookahead → List (Lane σ) → Prop}

/-- A merge by the order that all merges of a tree share, beside the groups of its lanes. -/
structure Joins (order : Row → Row → Ordering) (R : τ → Lookahead → List (Lane σ) → Prop)
    (merge : Merge τ) (groups : List (List (Lane σ))) : Prop where
  sorted : merge.order = order
  indexed : Indexed merge.lanes
  lanes_ne_nil : merge.lanes ≠ []
  related : List.Forall₂ (Stands R) merge.lanes groups
  memo : merge.count = .uncomputed ∨ merge.count = .ofCount (tally 0 groups.flatten)

/-- What a merge stands for if its sources stand for `R`. -/
def Joined (order : Row → Row → Ordering) (R : τ → Lookahead → List (Lane σ) → Prop)
    (merge : Merge τ) (lookahead : Lookahead) (outer : List (Lane σ)) : Prop :=
  ∃ groups, Joins order R merge groups ∧ Cover order lookahead groups.flatten outer

/-- A merge that no lane is over has nothing ahead when it has ended, as before its first advance. -/
theorem Joined.of_exhausted {merge : Merge τ} {outer : List (Lane σ)}
    (joined : Joined order R merge .exhausted outer) : Joined order R merge .pending outer := by
  obtain ⟨groups, joins, cover⟩ := joined
  generalize flat : groups.flatten = inner at cover
  cases cover with
  | ended _ => exact ⟨groups, joins, flat ▸ .idle⟩

namespace Joins

variable {merge : Merge τ} {groups : List (List (Lane σ))}

theorem exists_of_mem (joins : Joins order R merge groups) {leaf : Lane σ}
    (member : leaf ∈ groups.flatten) :
    ∃ lane ∈ merge.lanes, ∃ group, R lane.source lane.lookahead group ∧ leaf ∈ group := by
  obtain ⟨group, present, member⟩ := List.mem_flatten.mp member
  obtain ⟨lane, place, related⟩ := exists_of_mem_right joins.related present
  exact ⟨lane, place, group, related, member⟩

variable [Cursor τ]

theorem regular (joins : Joins order R merge groups) (grouping : Grouping order R) :
    ∀ leaf ∈ groups.flatten, Cursor.Regular leaf.source := by
  intro leaf member
  obtain ⟨lane, -, group, related, member⟩ := joins.exists_of_mem member
  exact grouping.regular related leaf member

/-! ### Advance -/

/-- The pulls of the lanes beside those of the groups. -/
theorem pulled (joins : Joins order R merge groups) (grouping : Grouping order R) :
    ∃ groups', (untilFault pullPending groups.flatten).state = groups'.flatten ∧
      Joins order R { merge with lanes := (untilFault pullPending merge.lanes).state } groups' := by
  obtain ⟨-, -, groups', state, related⟩ := grouping.pulls joins.related
  refine ⟨groups', state, joins.sorted, ?_, ?_, related, ?_⟩
  · exact joins.indexed.of_map_index (Outcome.map_untilFault fun lane _ => index_refilled lane)
  · intro empty
    have length := Outcome.length_untilFault pullPending merge.lanes
    rw [show (untilFault pullPending merge.lanes).state = [] from empty] at length
    exact joins.lanes_ne_nil (List.eq_nil_of_length_eq_zero length.symm)
  · -- a pull does not change the row counts, so that what is remembered stays right
    have kept : tally 0 groups'.flatten = tally 0 groups.flatten := by
      rw [← state]
      refine tally_of_map_eq 0 (Outcome.map_untilFault fun leaf member => ?_)
      exact rowCount_refilled (joins.regular grouping leaf member)
    rw [kept]
    exact joins.memo

/-- The row that leads the lanes is taken from one leaf, where the outer view still holds it. -/
theorem emit [Std.TransCmp order] (joins : Joins order R merge groups) (grouping : Grouping order R)
    {before after : List (Lane τ)} {lane : Lane τ} {row : Row}
    (split : merge.lanes = before ++ lane :: after) (held : lane.lookahead = .buffered row)
    (leads : Leads order before row after)
    (settled : ∀ other ∈ before ++ after, other.lookahead ≠ .pending) :
    ∃ groups', Cover order (.buffered row) groups'.flatten groups.flatten ∧
      Joins order R
        { merge with
          lanes := before ++ lane.release :: after
          current := some row
          currentLane := some before.length } groups' := by
  have related := joins.related
  have memo := joins.memo
  rw [split] at related
  -- the groups before and behind that of the winner stay as they are
  obtain ⟨front, group, back, rfl, front_related, here, back_related⟩ := forall₂_append_cons related
  have groups_lead := leads_groups grouping leads settled front_related back_related
  have outside :=
    settled_of_groups grouping (List.rel_append front_related back_related) settled
  rw [Stands, held] at here
  cases grouping.fronts here with
  | @intro before' after' leaf leaf_held inner_leads inner_settled taken =>
    have flat : (front ++ (before' ++ leaf :: after') :: back).flatten =
        (front.flatten ++ before') ++ leaf :: (after' ++ back.flatten) := by simp
    have flat' : (front ++ (before' ++ leaf.release :: after') :: back).flatten =
        (front.flatten ++ before') ++ leaf.release :: (after' ++ back.flatten) := by simp
    refine ⟨front ++ (before' ++ leaf.release :: after') :: back, ?_,
      joins.sorted, ?_, by simp, ?_, ?_⟩
    · rw [flat, flat']
      refine .of_held leaf_held (groups_lead.append inner_leads) ?_
      simp only [List.flatten_append, List.forall_mem_append] at outside inner_settled ⊢
      exact ⟨⟨outside.1, inner_settled.1⟩, inner_settled.2, outside.2⟩
    · exact joins.indexed.of_map_index (by simp [split])
    · refine List.rel_append front_related (.cons ?_ back_related)
      rw [Lane.release_of_buffered held]
      exact taken
    · have same : tally 0 (front ++ (before' ++ leaf.release :: after') :: back).flatten =
          tally 0 (front ++ (before' ++ leaf :: after') :: back).flatten :=
        tally_of_map_eq 0 (by simp)
      rw [same]
      exact memo

/-- The selection among lanes that have all been pulled. -/
theorem select [Std.TransCmp order] (joins : Joins order R merge groups) (grouping : Grouping order R)
    (settled : ∀ lane ∈ merge.lanes, lane.lookahead ≠ .pending) :
    Pulled (Joined order R) merge.select.state (.ok merge.select.answer) (.ok ()) groups.flatten := by
  cases won : merge.winner with
  | none =>
    obtain ⟨answer, state⟩ := select_of_no_winner won
    rw [answer, state]
    refine .ended ⟨groups, ⟨joins.sorted, joins.indexed, joins.lanes_ne_nil, joins.related,
      joins.memo⟩, .ended ?_⟩
    intro leaf member
    obtain ⟨lane, place, group, related, member⟩ := joins.exists_of_mem member
    -- a lane that is neither due nor holding a row has ended, and so has its group
    have content := Lane.exhausted_of_currentRow_eq_none (settled lane place)
      (winner_eq_none_iff.mp won lane place)
    rw [content] at related
    exact grouping.exhausted related leaf member
  | some index =>
    obtain ⟨before, lane, after, row, split, rfl, held⟩ := exists_of_winner joins.indexed won
    have total : Std.TransCmp merge.order := joins.sorted ▸ inferInstance
    have leads := joins.sorted ▸ leads_of_winner joins.indexed split held won
    rw [split] at settled
    obtain ⟨settled_before, settled_behind⟩ := List.forall_mem_append.mp settled
    have settled_after := (List.forall_mem_cons.mp settled_behind).2
    obtain ⟨groups', cover, joins'⟩ := joins.emit grouping split held leads
      (List.forall_mem_append.mpr ⟨settled_before, settled_after⟩)
    obtain ⟨answer, state⟩ := select_of_winner split held won
    rw [answer, state]
    exact .row rfl ⟨groups', joins', cover⟩

theorem advance [Std.TransCmp order] (joins : Joins order R merge groups)
    (grouping : Grouping order R) :
    Pulled (Joined order R) merge.advance.state merge.advance.answer
      (untilFault pullPending groups.flatten).answer
      (untilFault pullPending groups.flatten).state := by
  have answers := (grouping.pulls joins.related).1
  obtain ⟨groups', state, joins'⟩ := joins.pulled grouping
  rw [← answers, state]
  cases result : (untilFault pullPending merge.lanes).answer with
  | error fault =>
    -- the round ends before a selection, and nothing is ahead
    obtain ⟨answer, next⟩ := advance_of_fault result
    rw [answer, next]
    exact .failed ⟨groups', joins', .idle⟩
  | ok _ =>
    obtain ⟨answer, next⟩ := advance_of_pulled result
    rw [answer, next]
    exact joins'.select grouping (settled_of_untilFault result)

/-! ### The other calls -/

theorem reset (joins : Joins order R merge groups) (grouping : Grouping order R)
    (ok : ∀ leaf ∈ groups.flatten, (Cursor.reset leaf.source).answer = .ok ()) :
    merge.reset.answer = .ok () ∧
      Event.advanced merge.reset.events =
        groups.flatten.flatMap (fun leaf => Event.advanced (Cursor.reset leaf.source).events) ∧
      Joins order R merge.reset.state (groups.map (List.map rewound)) := by
  obtain ⟨passed, events, related⟩ := grouping.resets joins.related ok
  obtain ⟨answer, state⟩ := reset_of_ok passed
  rw [state]
  refine ⟨answer, (advanced_reset passed).trans events, joins.sorted, ?_, ?_, related, ?_⟩
  · exact joins.indexed.of_map_index (by simp [rewound, Lane.ofSource, Function.comp_def])
  · simpa using joins.lanes_ne_nil
  · rw [← List.map_flatten, tally_map (joins.regular grouping) .reset fun _ => rfl]
    exact joins.memo

theorem close (joins : Joins order R merge groups) (grouping : Grouping order R) :
    merge.close.answer =
        firstFault (groups.flatten.map fun leaf => (Cursor.close leaf.source).answer) ∧
      Event.advanced merge.close.events =
        groups.flatten.flatMap (fun leaf => Event.advanced (Cursor.close leaf.source).events) ∧
      Joins order R merge.close.state (groups.map (List.map closed)) := by
  obtain ⟨answers, events, related⟩ := grouping.closes joins.related
  have answer : merge.close.answer = _ := (closeAll_eq merge.lanes).1
  rw [state_close]
  refine ⟨answer.trans answers, (advanced_close merge).trans events, joins.sorted, ?_, ?_, related,
    ?_⟩
  · exact joins.indexed.of_map_index (by simp [closed, Function.comp_def])
  · simpa using joins.lanes_ne_nil
  · rw [← List.map_flatten, tally_map (joins.regular grouping) .close fun _ => rfl]
    exact joins.memo

/-- The row count of a merge is the total of all groups, computed or remembered. -/
theorem answer_rowCount (joins : Joins order R merge groups) (grouping : Grouping order R) :
    merge.rowCount.answer = tally 0 groups.flatten := by
  rcases joins.memo with fresh | remembered
  · -- the lanes are asked, and each adds the total of its group
    have total : (sumCounts 0 merge.lanes).answer = tally 0 merge.lanes := answer_sumCounts 0 _
    simp [Merge.rowCount, fresh, total, grouping.tally_eq joins.related countLimit_pos]
  · cases total : tally 0 groups.flatten with
    | none => simp [Merge.rowCount, remembered, total, CountMemo.ofCount]
    | some count => simp [Merge.rowCount, remembered, total, CountMemo.ofCount]

theorem rowCount (joins : Joins order R merge groups) (grouping : Grouping order R) :
    Event.advanced merge.rowCount.events = [] ∧ Joins order R merge.rowCount.state groups := by
  constructor
  · apply advanced_rowCount
    intro lane member
    obtain ⟨group, -, here⟩ := exists_of_mem_right (List.Forall₂.flip joins.related) member
    exact (grouping.rowCount here).2.1
  · obtain ⟨front, back, split, state⟩ := state_rowCount merge
    rw [state]
    refine ⟨joins.sorted, ?_, ?_, grouping.asks (split ▸ joins.related), .inr ?_⟩
    · exact joins.indexed.of_map_index (by simp [split, asked, Function.comp_def])
    · have some_lane := joins.lanes_ne_nil
      rw [split] at some_lane
      simpa using some_lane
    · rw [joins.answer_rowCount grouping]

theorem replace (joins : Joins order R merge groups) (grouping : Grouping order R)
    {other : List (Lane σ)} (same : List.Forall₂ SameLane groups.flatten other) :
    ∃ groups', other = groups'.flatten ∧ Joins order R merge groups' := by
  obtain ⟨groups', rfl, related⟩ := forall₂_flatten joins.related same
    fun _ _ _ here same => grouping.replace here same
  refine ⟨groups', rfl, joins.sorted, joins.indexed, joins.lanes_ne_nil, related, ?_⟩
  rw [tally_of_sameLane same]
  exact joins.memo

theorem schema (joins : Joins order R merge groups) (grouping : Grouping order R) :
    ∃ first rest, groups.flatten = first :: rest ∧ merge.schema = first.schema := by
  have related := joins.related
  cases lanes : merge.lanes with
  | nil => exact absurd lanes joins.lanes_ne_nil
  | cons lane rest =>
    rw [lanes] at related
    obtain ⟨group, groups, here, -, rfl⟩ := List.forall₂_cons_left_iff.mp related
    obtain ⟨first, others, rfl, schema⟩ := grouping.schema here
    have top : merge.schema = lane.schema := by rw [Merge.schema, lanes]
    exact ⟨first, others ++ groups.flatten, rfl, top.trans schema⟩

end Joins

/-! ## Merges of grouped sources -/

theorem Grouping.join [Cursor τ] [Std.TransCmp order] (grouping : Grouping order R) :
    Grouping order (Joined order R) where
  regular := by
    rintro merge lookahead outer ⟨groups, joins, cover⟩
    exact cover.forall_source_iff.mpr (joins.regular grouping)
  replace := by
    rintro merge lookahead outer other ⟨groups, joins, cover⟩ same
    obtain ⟨inner, same, cover⟩ := cover.replace same
    obtain ⟨groups', rfl, joins'⟩ := joins.replace grouping same
    exact ⟨groups', joins', cover⟩
  exhausted := by
    rintro merge outer ⟨groups, joins, cover⟩
    generalize groups.flatten = inner at cover
    cases cover with
    | ended exhausted => exact exhausted
  fronts := by
    rintro merge row outer ⟨groups, joins, cover⟩
    generalize flat : groups.flatten = inner at cover
    cases cover with
    | @ahead before after leaf _ due leads settled =>
      refine .intro rfl leads settled ⟨groups, joins, ?_⟩
      -- once its row is taken, the outer view of the leaf is the inner one
      have released : ({ leaf with lookahead := .buffered row } : Lane σ).release = leaf := by
        cases leaf
        cases due
        rfl
      rw [released, flat]
      exact .idle
  advance := by
    rintro merge outer ⟨groups, joins, cover⟩
    generalize flat : groups.flatten = inner at cover
    cases cover with
    | idle => exact flat ▸ joins.advance grouping
  advanced := by
    rintro merge outer ⟨groups, joins, cover⟩
    generalize flat : groups.flatten = inner at cover
    cases cover with
    | idle => exact flat ▸ (advanced_advance merge).trans (grouping.pulls joins.related).2.1
  reset := by
    rintro merge lookahead outer ⟨groups, joins, cover⟩ ok
    -- both views have the same sources, and a rewound lane has nothing in its buffer
    have inside := (cover.forall_source_iff
      (P := fun source => (Cursor.reset source).answer = .ok ())).mp ok
    obtain ⟨answer, events, next⟩ := joins.reset grouping inside
    refine ⟨answer, events.trans ?_, groups.map (List.map rewound), next, ?_⟩
    · exact (cover.flatMap_eq _ fun _ _ => rfl).symm
    · rw [cover.map_eq rewound fun _ _ => rfl, List.map_flatten]
      exact .idle
  close := by
    rintro merge lookahead outer ⟨groups, joins, cover⟩
    obtain ⟨answer, events, next⟩ := joins.close grouping
    refine ⟨answer.trans ?_, events.trans ?_, groups.map (List.map Merge.closed), next, ?_⟩
    · rw [cover.map_eq _ fun _ _ => rfl]
    · exact (cover.flatMap_eq _ fun _ _ => rfl).symm
    · rw [← List.map_flatten]
      exact cover.closed
  rowCount := by
    rintro merge lookahead outer ⟨groups, joins, cover⟩
    obtain ⟨events, next⟩ := joins.rowCount grouping
    refine ⟨?_, events, groups, next, cover⟩
    intro total below
    rw [cover.tally_eq, ← addCount_tally below]
    exact congrArg (addCount total) (joins.answer_rowCount grouping)
  needsClose := by
    rintro merge lookahead outer ⟨groups, joins, cover⟩
    exact (grouping.all_needsClose joins.related).trans (cover.all_eq _ fun _ _ => rfl).symm
  schema := by
    rintro merge lookahead outer ⟨groups, joins, cover⟩
    obtain ⟨first, others, flat, schema⟩ := joins.schema grouping
    have same := cover.map_eq Lane.schema fun _ _ => rfl
    rw [flat] at same
    obtain ⟨first', others', rfl, equal, -⟩ := List.map_eq_cons_iff.mp same
    exact ⟨first', others', rfl, schema.trans equal.symm⟩

end RowMerge.Merge
