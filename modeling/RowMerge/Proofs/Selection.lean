import RowMerge.Proofs.Calls
import RowMerge.Proofs.Pairing
import Mathlib.Data.List.Induction

/-!
# Selection

Which lane wins a round. For any order the winner is one of the lanes with a row, and there is one
as soon as one lane has a row. Under a total preorder the winner is the first of the lanes that hold
a least row: its row is strictly less than those before it and not greater than those behind it.
-/
namespace RowMerge.Merge

variable {σ : Type} {order : Row → Row → Ordering} {lanes : List (Lane σ)}

/-! ## Any order -/

theorem foldl_challenge_eq_none_iff {best : Option (Nat × Row)} :
    lanes.foldl (challenge order) best = none ↔
      best = none ∧ ∀ lane ∈ lanes, lane.currentRow = none := by
  induction lanes generalizing best with
  | nil => simp
  | cons lane rest ih =>
    rw [List.foldl_cons, ih, List.forall_mem_cons]
    cases row : lane.currentRow with
    | none => simp [challenge, row]
    | some row' =>
      cases best with
      | none => simp [challenge, row]
      | some best =>
        simp only [challenge, row]
        split <;> simp

theorem mem_of_foldl_challenge {best : Option (Nat × Row)} {index : Nat} {row : Row}
    (chosen : lanes.foldl (challenge order) best = some (index, row)) :
    best = some (index, row) ∨
      ∃ lane ∈ lanes, lane.index = index ∧ lane.currentRow = some row := by
  induction lanes generalizing best with
  | nil => exact .inl chosen
  | cons lane rest ih =>
    rcases ih chosen with same | ⟨other, member, found⟩
    · cases content : lane.currentRow with
      | none => exact .inl (by simpa [challenge, content] using same)
      | some own =>
        -- one challenge leaves the best so far or puts this lane in its place
        have won : best = some (index, row) ∨ lane.index = index ∧ own = row := by
          cases best with
          | none => simpa [challenge, content] using same
          | some best =>
            simp only [challenge, content] at same
            split at same
            · exact .inr (by simpa using same)
            · exact .inl same
        rcases won with old | ⟨here, rfl⟩
        · exact .inl old
        · exact .inr ⟨lane, List.mem_cons_self, here, content⟩
    · exact .inr ⟨other, List.mem_cons_of_mem _ member, found⟩

theorem winner_eq_none_iff {merge : Merge σ} :
    merge.winner = none ↔ ∀ lane ∈ merge.lanes, lane.currentRow = none := by
  simp [winner, foldl_challenge_eq_none_iff]

/-- Two lanes that a selection cannot tell apart. -/
structure SameFront {τ : Type} (lane : Lane σ) (other : Lane τ) : Prop where
  index : other.index = lane.index
  currentRow : other.currentRow = lane.currentRow

/-- The choice depends on nothing but the numbers of the lanes and the rows in their buffers. -/
theorem winner_of_sameFront {τ : Type} {merge : Merge σ} {other : Merge τ}
    (sorted : other.order = merge.order) (same : List.Forall₂ SameFront merge.lanes other.lanes) :
    other.winner = merge.winner := by
  have chosen : ∀ best, other.lanes.foldl (challenge merge.order) best =
      merge.lanes.foldl (challenge merge.order) best := by
    generalize merge.lanes = lanes, other.lanes = others at same
    induction same with
    | nil => exact fun _ => rfl
    | cons here _ ih =>
      intro best
      rw [List.foldl_cons, List.foldl_cons, ih, challenge, challenge, here.index, here.currentRow]
  rw [winner, winner, sorted, chosen]

/-! ## Numbered lanes -/

/-- Lanes are numbered by their place, from 0 on. -/
def Indexed (lanes : List (Lane σ)) : Prop :=
  ∀ (i : Nat) (lane : Lane σ), lanes[i]? = some lane → lane.index = i

theorem indexed_lanesOf (sources : List σ) : Indexed (lanesOf sources) := by
  intro i lane found
  simp only [lanesOf, List.getElem?_mapIdx, Option.map_eq_some_iff] at found
  obtain ⟨source, -, rfl⟩ := found
  rfl

theorem map_source_lanesOf (sources : List σ) : (lanesOf sources).map Lane.source = sources := by
  apply List.ext_getElem
  · simp [lanesOf]
  · intro i _ _
    simp [lanesOf, Lane.ofSource]

theorem source_mem_of_mem_lanesOf {sources : List σ} {lane : Lane σ}
    (member : lane ∈ lanesOf sources) : lane.source ∈ sources := by
  rw [← map_source_lanesOf sources]
  exact List.mem_map_of_mem member

theorem pending_of_mem_lanesOf {sources : List σ} {lane : Lane σ} (member : lane ∈ lanesOf sources) :
    lane.lookahead = .pending := by
  obtain ⟨index, bound, rfl⟩ := List.mem_mapIdx.mp member
  rfl

/-- Numbers depend on nothing else of the lanes. -/
theorem Indexed.of_map_index {others : List (Lane σ)} (indexed : Indexed lanes)
    (same : others.map Lane.index = lanes.map Lane.index) : Indexed others := by
  intro i lane found
  have number : (others.map Lane.index)[i]? = some lane.index := by simp [found]
  rw [same, List.getElem?_map, Option.map_eq_some_iff] at number
  obtain ⟨old, place, equal⟩ := number
  exact equal.symm.trans (indexed i old place)

/-- Lanes that are numbered by their place are told apart by the rows in their buffers alone. -/
theorem Indexed.sameFront {τ : Type} {others : List (Lane τ)} (indexed : Indexed lanes)
    (indexed' : Indexed others) (rows : others.map Lane.currentRow = lanes.map Lane.currentRow) :
    List.Forall₂ SameFront lanes others := by
  have length : lanes.length = others.length := by
    simpa using (congrArg List.length rows).symm
  refine List.forall₂_iff_get.mpr ⟨length, fun i within within' => ⟨?_, ?_⟩⟩
  · rw [List.get_eq_getElem, List.get_eq_getElem, indexed i _ (List.getElem?_eq_getElem within),
      indexed' i _ (List.getElem?_eq_getElem within')]
  · have row : (others.map Lane.currentRow)[i]? = (lanes.map Lane.currentRow)[i]? := by rw [rows]
    simpa [within, within'] using row

theorem Indexed.index_eq_length {before after : List (Lane σ)} {lane : Lane σ}
    (indexed : Indexed (before ++ lane :: after)) : lane.index = before.length :=
  indexed before.length lane (by simp)

/-- The winner is a lane with a row. -/
theorem exists_of_winner {merge : Merge σ} (indexed : Indexed merge.lanes) {index : Nat}
    (won : merge.winner = some index) :
    ∃ before lane after row, merge.lanes = before ++ lane :: after ∧ before.length = index ∧
      lane.lookahead = .buffered row := by
  simp only [winner, Option.map_eq_some_iff, Prod.exists, exists_and_right, exists_eq_right] at won
  obtain ⟨row, chosen⟩ := won
  rcases mem_of_foldl_challenge chosen with none | ⟨lane, member, rfl, content⟩
  · cases none
  · obtain ⟨before, after, split⟩ := List.append_of_mem member
    rw [split] at indexed
    exact ⟨before, lane, after, row, split, indexed.index_eq_length.symm,
      Lane.currentRow_eq_some_iff.mp content⟩

/-! ## Total preorders -/

/-- A row that is less than those of the lanes before it, and no greater than those of the lanes
behind it. -/
structure Leads (order : Row → Row → Ordering) (before : List (Lane σ)) (row : Row)
    (after : List (Lane σ)) : Prop where
  less : ∀ lane ∈ before, ∀ other ∈ lane.currentRow, order row other = .lt
  least : ∀ lane ∈ after, ∀ other ∈ lane.currentRow, (order row other).isLE = true

/-- Whether a row leads lanes depends on nothing but what they have in their buffers. -/
theorem Leads.of_lookaheads {before after before' after' : List (Lane σ)} {row : Row}
    (leads : Leads order before row after)
    (front : before'.map Lane.lookahead = before.map Lane.lookahead)
    (back : after'.map Lane.lookahead = after.map Lane.lookahead) :
    Leads order before' row after' := by
  have found : ∀ {lanes others : List (Lane σ)},
      others.map Lane.lookahead = lanes.map Lane.lookahead →
      ∀ lane ∈ others, ∃ old ∈ lanes, old.currentRow = lane.currentRow := by
    intro lanes others same lane member
    have present := List.mem_map_of_mem (f := Lane.lookahead) member
    rw [same] at present
    obtain ⟨old, place, equal⟩ := List.mem_map.mp present
    exact ⟨old, place, congrArg Lookahead.row? equal⟩
  constructor
  · intro lane member other held
    obtain ⟨old, place, equal⟩ := found front lane member
    exact leads.less old place other (equal.trans held)
  · intro lane member other held
    obtain ⟨old, place, equal⟩ := found back lane member
    exact leads.least old place other (equal.trans held)

theorem Leads.append {before after before' after' : List (Lane σ)} {row : Row}
    (outside : Leads order before row after) (inside : Leads order before' row after') :
    Leads order (before ++ before') row (after' ++ after) :=
  ⟨List.forall_mem_append.mpr ⟨outside.less, inside.less⟩,
    List.forall_mem_append.mpr ⟨inside.least, outside.least⟩⟩

/-- The row is no greater than any that is held. -/
theorem Leads.isLE [Std.OrientedCmp order] {before after : List (Lane σ)} {lane : Lane σ} {row : Row}
    (leads : Leads order before row after) (held : lane.lookahead = .buffered row) :
    ∀ l ∈ before ++ lane :: after, ∀ other ∈ l.currentRow, (order row other).isLE = true := by
  refine List.forall_mem_append.mpr ⟨?_, List.forall_mem_cons.mpr ⟨?_, leads.least⟩⟩
  · intro l member other found
    exact Ordering.isLE_of_eq_lt (leads.less l member other found)
  · intro other found
    cases (Lane.currentRow_eq_some_iff.mpr held).symm.trans found
    exact Std.ReflCmp.isLE_rfl

theorem foldl_challenge_of_least [Std.OrientedCmp order] {index : Nat} {row : Row}
    (least : ∀ lane ∈ lanes, ∀ other ∈ lane.currentRow, (order row other).isLE = true) :
    lanes.foldl (challenge order) (some (index, row)) = some (index, row) := by
  induction lanes with
  | nil => rfl
  | cons lane rest ih =>
    have kept : challenge order (some (index, row)) lane = some (index, row) := by
      cases content : lane.currentRow with
      | none => simp [challenge, content]
      | some other =>
        -- a tie does not take the place of the best so far
        have noBetter : order other row ≠ .lt :=
          Std.OrientedCmp.not_lt_of_isLE (least lane List.mem_cons_self other content)
        simp [challenge, content, noBetter]
    rw [List.foldl_cons, kept]
    exact ih fun l member => least l (List.mem_cons_of_mem _ member)

/-- A row that leads all others wins. -/
theorem winner_of_leads [Std.OrientedCmp order] {merge : Merge σ} {before after : List (Lane σ)}
    {lane : Lane σ} {row : Row} (sorted : merge.order = order)
    (split : merge.lanes = before ++ lane :: after) (held : lane.lookahead = .buffered row)
    (leads : Leads order before row after) : merge.winner = some lane.index := by
  have content := Lane.currentRow_eq_some_iff.mpr held
  -- whichever row was the best before this lane, the lane takes its place
  have taken : challenge order (before.foldl (challenge order) none) lane =
      some (lane.index, row) := by
    cases chosen : before.foldl (challenge order) none with
    | none => simp [challenge, content]
    | some best =>
      rcases mem_of_foldl_challenge chosen with none | ⟨other, member, -, found⟩
      · cases none
      · simp [challenge, content, leads.less other member best.2 found]
  rw [winner, split, sorted, List.foldl_append, List.foldl_cons, taken,
    foldl_challenge_of_least leads.least]
  rfl

/-- The row that is left when the lanes have challenged each other leads all others. -/
theorem leads_of_foldl_challenge [Std.TransCmp order] {index : Nat} {row : Row}
    (chosen : lanes.foldl (challenge order) none = some (index, row)) :
    ∃ before lane after, lanes = before ++ lane :: after ∧ lane.index = index ∧
      lane.lookahead = .buffered row ∧ Leads order before row after := by
  -- the last lane challenges what was left of the lanes before it
  induction lanes using List.reverseRecOn generalizing index row with
  | nil => cases chosen
  | append_singleton front last ih =>
    rw [List.foldl_append, List.foldl_cons, List.foldl_nil] at chosen
    cases content : last.currentRow with
    | none =>
      -- a lane without a row leaves the choice of the lanes before it
      have same : front.foldl (challenge order) none = some (index, row) := by
        simpa [challenge, content] using chosen
      obtain ⟨before, lane, after, rfl, number, held, leads⟩ := ih same
      refine ⟨before, lane, after ++ [last], by simp, number, held, leads.less, ?_⟩
      exact List.forall_mem_append.mpr ⟨leads.least, by simp [content]⟩
    | some own =>
      cases best : front.foldl (challenge order) none with
      | none =>
        -- no lane before it has a row
        have empty := (foldl_challenge_eq_none_iff.mp best).2
        obtain ⟨rfl, rfl⟩ : last.index = index ∧ own = row := by
          simpa [challenge, content, best] using chosen
        refine ⟨front, last, [], rfl, rfl, Lane.currentRow_eq_some_iff.mp content, ?_, by simp⟩
        intro lane member other found
        rw [empty lane member] at found
        cases found
      | some best' =>
        obtain ⟨number', row'⟩ := best'
        obtain ⟨before, lane, after, rfl, number, held, leads⟩ := ih best
        simp only [challenge, content, best] at chosen
        split at chosen
        next better =>
          -- it is strictly less than the best so far, which was no greater than any
          obtain ⟨rfl, rfl⟩ : last.index = index ∧ own = row := by simpa using chosen
          refine ⟨_, last, [], rfl, rfl, Lane.currentRow_eq_some_iff.mp content, ?_, by simp⟩
          intro other member found present
          exact Std.TransCmp.lt_of_lt_of_isLE better (leads.isLE held other member found present)
        next worse =>
          cases chosen
          -- it is no less than the best so far, which stays
          refine ⟨before, lane, after ++ [last], by simp, number, held, leads.less, ?_⟩
          refine List.forall_mem_append.mpr ⟨leads.least, List.forall_mem_singleton.mpr ?_⟩
          intro other found
          cases content.symm.trans found
          have swapped : order row own = (order own row).swap := Std.OrientedCmp.eq_swap
          rw [swapped]
          cases compared : order own row <;> simp_all

theorem leads_of_winner {merge : Merge σ} [Std.TransCmp merge.order] (indexed : Indexed merge.lanes)
    {before after : List (Lane σ)} {lane : Lane σ} {row : Row}
    (split : merge.lanes = before ++ lane :: after) (held : lane.lookahead = .buffered row)
    (won : merge.winner = some before.length) : Leads merge.order before row after := by
  simp only [winner, Option.map_eq_some_iff, Prod.exists, exists_and_right, exists_eq_right] at won
  obtain ⟨least, chosen⟩ := won
  obtain ⟨before', lane', after', split', number, held', leads⟩ := leads_of_foldl_challenge chosen
  have place : before'.length = before.length := by
    rw [split'] at indexed
    exact indexed.index_eq_length.symm.trans number
  obtain ⟨rfl, tail⟩ := List.append_inj (split'.symm.trans split) place
  obtain ⟨rfl, rfl⟩ := List.cons.inj tail
  cases held.symm.trans held'
  exact leads

end RowMerge.Merge
