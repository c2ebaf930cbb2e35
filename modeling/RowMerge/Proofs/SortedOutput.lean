import RowMerge.Proofs.Pairing
import RowMerge.Proofs.Consistency
import RowMerge.Proofs.StableSort
import RowMerge.Proofs.Draining

/-!
# What a merge of sorted sources yields

A cursor yields a list of rows if advances show them one by one and then answer `false`. A merge by a
total preorder whose sources yield sorted lists yields the stable sort of their concatenation. The
invariant looks at what each lane still holds, the row in its buffer before those of its source: one
advance emits the first of the least rows of all lanes, which is the head of the sort of what the
lanes hold, and what they hold afterwards is the rest of it.
-/
namespace RowMerge

variable {σ : Type} [Cursor σ]

/-! ## Rows of a cursor -/

namespace Cursor

/-- Advances show these rows one after the other, and then there are no more. -/
def Yields (cursor : σ) : List Row → Prop
  | [] => (advance cursor).answer = .ok false
  | row :: rest => (advance cursor).answer = .ok true ∧
      currentRow (advance cursor).state = some row ∧ Yields (advance cursor).state rest

/-- A drain collects what its cursor yields, in one advance more than there are rows. -/
theorem collect_of_yields {cursor : σ} {rows : List Row} (yields : Yields cursor rows) {limit : Nat}
    (room : rows.length < limit) :
    (collect limit cursor).answer = some (.ok rows) ∧
      ∃ requests, (collect limit cursor).state =
          (advance (run cursor requests).state).state ∧
        (advance (run cursor requests).state).answer = .ok false := by
  obtain ⟨limit, rfl⟩ := Nat.exists_eq_add_of_lt room
  induction rows generalizing cursor with
  | nil =>
    have ended : (advance cursor).answer = .ok false := yields
    rw [collect_of_ending (.inl ended)]
    exact ⟨rfl, [], rfl, ended⟩
  | cons row rest ih =>
    obtain ⟨moved, shown, yields⟩ := yields
    obtain ⟨answer, requests, state, ended⟩ := ih yields (by omega)
    -- one advance of the drain uses up one row of the budget
    have budget : (row :: rest).length + limit + 1 = rest.length + limit + 1 + 1 := by
      simp only [List.length_cons]; omega
    rw [budget, collect_of_shown moved shown]
    refine ⟨?_, .advance :: requests, state, ended⟩
    rw [Outcome.answer_bind, Outcome.answer_map, answer]
    rfl

end Cursor

theorem Scan.yields (scan : Scan) (isOpen : scan.closed = false) :
    Cursor.Yields scan (scan.rows.drop scan.nextPosition) := by
  generalize rest : scan.rows.drop scan.nextPosition = rows
  induction rows generalizing scan with
  | nil =>
    have past : ¬ scan.nextPosition < scan.rows.length := by simpa using rest
    change (advance scan).answer = _
    simp [advance, isOpen, past]
  | cons row rows ih =>
    -- a row is left, so the next position is inside
    have within : scan.nextPosition < scan.rows.length := by
      apply Nat.lt_of_not_le
      intro past
      simp [List.drop_eq_nil_of_le past] at rest
    have moved : advance scan =
        .silent (.ok true) { scan with position := some scan.nextPosition } := by
      simp [advance, isOpen, within]
    rw [List.drop_eq_getElem_cons within] at rest
    obtain ⟨rfl, rfl⟩ := List.cons.inj rest
    refine ⟨congrArg Outcome.answer moved, ?_, ?_⟩
    · change (advance scan).state.currentRow = _
      simp [moved, currentRow]
    · change Cursor.Yields (advance scan).state _
      rw [moved]
      exact ih _ isOpen rfl

/-! ## Rows of a lane -/

namespace Lane

/-- The rows that a lane still has to hand out: the one in its buffer, then those of its source. -/
inductive Holds : Lane σ → List Row → Prop
  | pending {index : Nat} {source : σ} {rows : List Row} (yields : Cursor.Yields source rows) :
      Holds ⟨index, source, .pending⟩ rows
  | buffered {index : Nat} {source : σ} {row : Row} {rows : List Row}
      (yields : Cursor.Yields source rows) : Holds ⟨index, source, .buffered row⟩ (row :: rows)
  | exhausted {index : Nat} {source : σ} : Holds ⟨index, source, .exhausted⟩ []

variable {lane : Lane σ} {rows : List Row}

/-- A pull succeeds, brings the first of the rows into the buffer, and loses none. -/
theorem Holds.pull (holds : Holds lane rows) :
    (Merge.pullPending lane).answer = .ok () ∧ Holds (Merge.refilled lane) rows ∧
      (Merge.refilled lane).currentRow = rows.head? := by
  cases holds with
  | @pending index source rows yields =>
    have due : (⟨index, source, .pending⟩ : Lane σ).lookahead = .pending := rfl
    -- what the source yields settles the way of the pull
    cases rows with
    | nil =>
      obtain ⟨answer, next⟩ := Merge.pull_of_end due yields
      rw [answer, next]
      exact ⟨rfl, .exhausted, rfl⟩
    | cons row rest =>
      obtain ⟨moved, shown, yields⟩ := yields
      obtain ⟨answer, next⟩ := Merge.pull_of_row due moved shown
      rw [answer, next]
      exact ⟨rfl, .buffered yields, rfl⟩
  | @buffered index source row rows yields =>
    have settled : (⟨index, source, .buffered row⟩ : Lane σ).lookahead ≠ .pending := by simp
    rw [Merge.refilled_of_settled settled, Merge.pullPending_of_settled settled]
    exact ⟨rfl, .buffered yields, rfl⟩
  | @exhausted index source =>
    have settled : (⟨index, source, .exhausted⟩ : Lane σ).lookahead ≠ .pending := by simp
    rw [Merge.refilled_of_settled settled, Merge.pullPending_of_settled settled]
    exact ⟨rfl, .exhausted, rfl⟩

theorem Holds.release {row : Row} (holds : Holds lane rows) (held : lane.lookahead = .buffered row) :
    ∃ rest, rows = row :: rest ∧ Holds lane.release rest := by
  cases holds with
  | pending _ => cases held
  | buffered yields =>
    cases held
    exact ⟨_, rfl, .pending yields⟩
  | exhausted => cases held

end Lane

/-! ## Rows of a merge -/

namespace Merge

variable {merge : Merge σ} {lists : List (List Row)}

/-- What an advance of lanes that hold lists of rows comes to. Whatever the order, it takes the first
row of one list; by a total preorder it is the first of the least rows. -/
inductive Takes (merge next : Merge σ) : List (List Row) → Except Fault Bool → Prop
  | nothing {lists : List (List Row)} (empty : lists.flatten = []) :
      Takes merge next lists (.ok false)
  | row {before after : List (List Row)} {row : Row} {rest : List Row}
      (current : next.current = some row) (lane : next.currentLane = some before.length)
      (holds : List.Forall₂ Lane.Holds next.lanes (before ++ rest :: after))
      (less : Std.TransCmp merge.order →
        ∀ rows ∈ before, ∀ other ∈ rows.head?, merge.order row other = .lt)
      (least : Std.TransCmp merge.order →
        ∀ rows ∈ after, ∀ other ∈ rows.head?, (merge.order row other).isLE) :
      Takes merge next (before ++ (row :: rest) :: after) (.ok true)

theorem takes_of_holds (indexed : Indexed merge.lanes)
    (holds : List.Forall₂ Lane.Holds merge.lanes lists) :
    Takes merge merge.advance.state lists merge.advance.answer := by
  -- after the pulls each lane shows the first row that it holds
  let Ready (lane : Lane σ) (rows : List Row) : Prop :=
    Lane.Holds lane rows ∧ lane.currentRow = rows.head?
  have ready : List.Forall₂ Ready (merge.lanes.map refilled) lists :=
    List.forall₂_map_left_iff.mpr (holds.imp fun _ _ holds => holds.pull.2)
  have step := advances indexed
  generalize merge.advance.answer = answer, merge.advance.state = next at step ⊢
  cases step with
  | fails split pulled failed =>
    rw [split] at holds
    obtain ⟨-, rows, -, -, -, here, -⟩ := forall₂_append_cons holds
    cases failed.symm.trans here.pull.1
  | ends pulled exhausted =>
    refine .nothing (List.flatten_eq_nil_iff.mpr ?_)
    intro rows member
    obtain ⟨full, present, -, head⟩ := exists_of_mem_right ready member
    obtain ⟨lane, place, rfl⟩ := List.mem_map.mp present
    rw [Lane.currentRow_of_exhausted (exhausted lane place)] at head
    exact List.head?_eq_none_iff.mp head.symm
  | @emits before after lane row split pulled held won =>
    rw [split, List.map_append, List.map_cons] at ready
    obtain ⟨front, rows, back, rfl, front_ready, here, back_ready⟩ := forall₂_append_cons ready
    obtain ⟨rest, rfl, kept⟩ := here.1.release held
    have leads : Std.TransCmp merge.order →
        Leads merge.order (before.map refilled) row (after.map refilled) :=
      fun total => leads_of_emitted indexed split held won
    refine .row rfl ?_ (List.rel_append (front_ready.imp fun _ _ ready => ready.1)
      (.cons kept (back_ready.imp fun _ _ ready => ready.1))) ?_ ?_
    · simpa using congrArg some front_ready.length_eq
    · intro total rows member other first
      obtain ⟨l, present, -, head⟩ := exists_of_mem_right front_ready member
      exact (leads total).less l present other (head.trans first)
    · intro total rows member other first
      obtain ⟨l, present, -, head⟩ := exists_of_mem_right back_ready member
      exact (leads total).least l present other (head.trans first)

/-- A merge yields the stable sort of what its lanes hold. -/
theorem yields_of_holds {order : Row → Row → Ordering} [Std.TransCmp order]
    (by_order : merge.order = order) (indexed : Indexed merge.lanes)
    (holds : List.Forall₂ Lane.Holds merge.lanes lists)
    (sorted : ∀ rows ∈ lists, rows.Pairwise fun a b => (order a b).isLE) :
    Cursor.Yields merge (lists.flatten.mergeSort fun a b => (order a b).isLE) := by
  generalize output : lists.flatten.mergeSort (fun a b => (order a b).isLE) = rows
  -- the sort of what is held loses its head with every advance
  induction rows generalizing merge lists with
  | nil =>
    have empty : lists.flatten = [] := by
      apply List.eq_nil_iff_length_eq_zero.mpr
      rw [← List.length_mergeSort, output]
      rfl
    have takes := takes_of_holds indexed holds
    change merge.advance.answer = _
    generalize merge.advance.answer = answer at takes ⊢
    cases takes with
    | nothing _ => rfl
    | row _ _ _ _ _ => simp at empty
  | cons first rows ih =>
    have kept : merge.advance.state.order = order := (advance_keeps indexed).2.1.trans by_order
    have renumbered := indexed.advance
    have takes := takes_of_holds indexed holds
    change merge.advance.answer = .ok true ∧ merge.advance.state.current = some first ∧
      Cursor.Yields merge.advance.state rows
    generalize merge.advance.answer = answer, merge.advance.state = next at takes kept renumbered ⊢
    cases takes with
    | nothing empty => simp [empty] at output
    | @row before after row rest current lane next_holds less least =>
      have total : Std.TransCmp merge.order := by_order ▸ inferInstance
      have less := less total
      have least := least total
      rw [by_order] at less least
      rw [StableSort.mergeSort_flatten_append_cons sorted less least] at output
      obtain ⟨rfl, tail⟩ := List.cons.inj output
      refine ⟨rfl, current, ih kept renumbered next_holds ?_ tail⟩
      intro rows member
      rcases List.mem_append.mp member with early | late
      · exact sorted rows (by simp [early])
      · rcases List.mem_cons.mp late with rfl | late
        · exact (List.pairwise_cons.mp (sorted (row :: rows) (by simp))).2
        · exact sorted rows (by simp [late])

theorem holds_lanesOf {sources : List σ} (yields : List.Forall₂ Cursor.Yields sources lists) :
    List.Forall₂ Lane.Holds (lanesOf sources) lists :=
  forall₂_mapIdx_left yields fun _ _ _ => .pending

/-- A merge by a total preorder, over any number of sources that each yield a sorted list, hands out
the stable sort of the lists put one after the other, and ends without a current row. -/
theorem collect_of_sorted_sources {order : Row → Row → Ordering} [Std.TransCmp order]
    {config : Config} {sources : List σ} {built : Outcome (Merge σ) Unit}
    (made : build config order sources = .ok built)
    (yields : List.Forall₂ Cursor.Yields sources lists)
    (sorted : ∀ rows ∈ lists, rows.Pairwise fun a b => (order a b).isLE) {limit : Nat}
    (room : lists.flatten.length < limit) :
    (Cursor.collect limit built.state).answer =
        some (.ok (lists.flatten.mergeSort fun a b => (order a b).isLE)) ∧
      (Cursor.collect limit built.state).state.current = none ∧
      (Cursor.collect limit built.state).state.currentLane = none := by
  obtain ⟨state, some_source⟩ := state_of_build made
  have indexed : Indexed built.state.lanes := state ▸ indexed_lanesOf sources
  have holds : List.Forall₂ Lane.Holds built.state.lanes lists := state ▸ holds_lanesOf yields
  have by_order : built.state.order = order := by rw [state]; rfl
  have output := yields_of_holds by_order indexed holds sorted
  obtain ⟨answer, requests, last, ended⟩ :=
    Cursor.collect_of_yields output (by rwa [List.length_mergeSort])
  -- the last advance answers false, and that is where a merge has no row
  have consistent : Consistent (Cursor.run built.state requests).state := by
    rw [state]
    exact Cursor.run_invariant (P := Consistent) (fun _ request kept => kept.perform request)
      (consistent_fresh order some_source) requests
  have final := ended_of_advance consistent.indexed ended
  rw [last]
  exact ⟨answer, final.current, final.currentLane⟩

/-- Rows with one column are tied here, and those of the first lane come first; the last lane is
empty. -/
theorem collect_of_sorted_sources_with_ties :
    let one := ⟨[.integer 1]⟩
    let two := ⟨[.integer 2]⟩
    let three := ⟨[.integer 3]⟩
    let wide := ⟨[.integer 0, .integer 0]⟩
    let scans := [Scan.ofRows .empty [three, wide], Scan.ofRows .empty [two, one], Scan.empty .empty]
    (Cursor.collect 5 (fresh (compareOn Row.arity) scans)).answer =
      some (.ok [three, two, one, wide]) := by
  intro one two three wide scans
  let lists := [[three, wide], [two, one], []]
  have yields : List.Forall₂ Cursor.Yields scans lists :=
    .cons (Scan.yields _ rfl) (.cons (Scan.yields _ rfl) (.cons (Scan.yields _ rfl) .nil))
  have sorted : ∀ rows ∈ lists, rows.Pairwise fun a b => (compareOn Row.arity a b).isLE := by decide
  have made : build {} (compareOn Row.arity) scans = .ok _ := rfl
  have room : lists.flatten.length < 5 := by decide
  have output := collect_of_sorted_sources made yields sorted room
  have tied : lists.flatten.mergeSort (fun a b => (compareOn Row.arity a b).isLE) =
      [three, two, one, wide] := by
    have less : compare 1 2 = .lt := rfl
    have greater : compare 2 1 = .gt := rfl
    simp [lists, one, two, three, wide, List.mergeSort, List.MergeSort.Internal.splitInTwo,
      compareOn, Row.arity, less, greater]
  rw [tied] at output
  exact output.1

end Merge

end RowMerge
