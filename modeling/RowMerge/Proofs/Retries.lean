import RowMerge.Proofs.Driving

/-!
# Advancing again after a fault

A source that fails now and then, and stays where it is when it does, costs a merge nothing but the
advances that fail. The client advances again after each fault, and the rows come out with the same
lanes as from sources that never fail. A fault may end a round of pulls in the middle, with some lanes
pulled and others not; but what a lane still has to hand out, the row in its buffer first, is the same
before and after it was pulled. So the two merges are compared by what their lanes have to hand out,
and not by how far the rounds have come.
-/
namespace RowMerge

variable {σ τ : Type} [Cursor σ] [Cursor τ]

/-! ## Sources that fail now and then -/

/-- What an advance of a source does: it moves to a row, or it fails and stays where it is. -/
abbrev Act := Except Fault Row

def Act.fault? : Act → Option Fault
  | .error fault => some fault
  | .ok _ => none

def rowsOf (acts : List Act) : List Row := acts.filterMap Except.toOption

def faultsOf (acts : List Act) : List Fault := acts.filterMap Act.fault?

@[simp] theorem rowsOf_error (fault : Fault) (rest : List Act) :
    rowsOf (.error fault :: rest) = rowsOf rest := rfl

@[simp] theorem rowsOf_ok (row : Row) (rest : List Act) :
    rowsOf (.ok row :: rest) = row :: rowsOf rest := rfl

@[simp] theorem faultsOf_error (fault : Fault) (rest : List Act) :
    faultsOf (.error fault :: rest) = fault :: faultsOf rest := rfl

@[simp] theorem faultsOf_ok (row : Row) (rest : List Act) :
    faultsOf (.ok row :: rest) = faultsOf rest := rfl

theorem length_rowsOf_add_faultsOf (acts : List Act) :
    (rowsOf acts).length + (faultsOf acts).length = acts.length := by
  induction acts with
  | nil => rfl
  | cons act rest ih =>
    cases act with
    | error fault =>
      simp only [rowsOf_error, faultsOf_error, List.length_cons]
      omega
    | ok row =>
      simp only [rowsOf_ok, faultsOf_ok, List.length_cons]
      omega

theorem flatten_map_rowsOf (acts : List (List Act)) :
    (acts.map rowsOf).flatten = rowsOf acts.flatten := (List.filterMap_flatten).symm

/-- Advances do these acts one after the other, and then there are no more rows. -/
def Cursor.Plays (cursor : σ) : List Act → Prop
  | [] => (advance cursor).answer = .ok false
  | .error fault :: rest =>
    (advance cursor).answer = .error fault ∧ Plays (advance cursor).state rest
  | .ok row :: rest => (advance cursor).answer = .ok true ∧
      currentRow (advance cursor).state = some row ∧ Plays (advance cursor).state rest

/-- A source that does the acts it is given, over again after a reset. -/
structure Scripted where
  script : List Act
  left : List Act
  current : Option Row

namespace Scripted

def ofActs (acts : List Act) : Scripted := ⟨acts, acts, none⟩

def advance (source : Scripted) : Outcome Scripted (Except Fault Bool) :=
  match source.left with
  | [] => .silent (.ok false) { source with current := none }
  | .error fault :: rest => .silent (.error fault) { source with left := rest }
  | .ok row :: rest => .silent (.ok true) { source with left := rest, current := some row }

instance : Cursor Scripted where
  advance := advance
  reset source := .silent (.ok ()) (ofActs source.script)
  close := .silent (.ok ())
  rowCount := .silent none
  currentRow := current
  needsClose _ := false
  schema _ := .empty

/-- Any acts are those of some source. -/
theorem plays (source : Scripted) : Cursor.Plays source source.left := by
  obtain ⟨script, acts, current⟩ := source
  induction acts generalizing current with
  | nil => exact rfl
  | cons act rest ih =>
    cases act with
    | error fault => exact ⟨rfl, ih current⟩
    | ok row => exact ⟨rfl, rfl, ih (some row)⟩

end Scripted

/-! ## Lanes over such sources -/

namespace Lane

/-- What a lane still does: it hands out the row in its buffer, and its source plays on. -/
inductive Plays : Lane σ → List Act → Prop
  | pending {index : Nat} {source : σ} {acts : List Act} (plays : Cursor.Plays source acts) :
      Plays ⟨index, source, .pending⟩ acts
  | buffered {index : Nat} {source : σ} {row : Row} {acts : List Act}
      (plays : Cursor.Plays source acts) : Plays ⟨index, source, .buffered row⟩ (.ok row :: acts)
  | exhausted {index : Nat} {source : σ} : Plays ⟨index, source, .exhausted⟩ []

variable {lane : Lane σ} {acts : List Act}

/-- A pull shows the row that is next and loses nothing, or it uses up the fault that it answers. -/
theorem Plays.pull (plays : Plays lane acts) :
    ((Merge.pullPending lane).answer = .ok () ∧ Plays (Merge.refilled lane) acts ∧
      (Merge.refilled lane).currentRow = (rowsOf acts).head?) ∨
    ∃ fault rest, acts = .error fault :: rest ∧ (Merge.pullPending lane).answer = .error fault ∧
      Plays (Merge.refilled lane) rest := by
  cases plays with
  | @pending index source acts plays =>
    have due : (⟨index, source, .pending⟩ : Lane σ).lookahead = .pending := rfl
    -- the next act settles the way of the pull
    cases acts with
    | nil =>
      obtain ⟨answer, next⟩ := Merge.pull_of_end due plays
      rw [answer, next]
      exact .inl ⟨rfl, .exhausted, rfl⟩
    | cons act rest =>
      cases act with
      | error fault =>
        obtain ⟨failed, plays⟩ := plays
        obtain ⟨answer, next⟩ := Merge.pull_of_fault due failed
        rw [answer, next]
        exact .inr ⟨fault, rest, rfl, rfl, .pending plays⟩
      | ok row =>
        obtain ⟨moved, shown, plays⟩ := plays
        obtain ⟨answer, next⟩ := Merge.pull_of_row due moved shown
        rw [answer, next]
        exact .inl ⟨rfl, .buffered plays, rfl⟩
  | @buffered index source row acts plays =>
    have settled : (⟨index, source, .buffered row⟩ : Lane σ).lookahead ≠ .pending := by simp
    rw [Merge.refilled_of_settled settled, Merge.pullPending_of_settled settled]
    exact .inl ⟨rfl, .buffered plays, rfl⟩
  | @exhausted index source =>
    have settled : (⟨index, source, .exhausted⟩ : Lane σ).lookahead ≠ .pending := by simp
    rw [Merge.refilled_of_settled settled, Merge.pullPending_of_settled settled]
    exact .inl ⟨rfl, .exhausted, rfl⟩

theorem Plays.refills (plays : Plays lane acts) (ok : (Merge.pullPending lane).answer = .ok ()) :
    Plays (Merge.refilled lane) acts ∧
      (Merge.refilled lane).currentRow = (rowsOf acts).head? := by
  rcases plays.pull with ⟨-, plays, shown⟩ | ⟨fault, rest, -, failed, -⟩
  · exact ⟨plays, shown⟩
  · cases failed.symm.trans ok

theorem Plays.fails (plays : Plays lane acts) {fault : Fault}
    (failed : (Merge.pullPending lane).answer = .error fault) :
    ∃ rest, acts = .error fault :: rest ∧ Plays (Merge.refilled lane) rest := by
  rcases plays.pull with ⟨ok, -, -⟩ | ⟨fault', rest, rfl, failed', later⟩
  · cases failed.symm.trans ok
  · cases failed.symm.trans failed'
    exact ⟨rest, rfl, later⟩

theorem Plays.release {row : Row} (plays : Plays lane acts) (held : lane.lookahead = .buffered row) :
    ∃ rest, acts = .ok row :: rest ∧ Plays lane.release rest := by
  cases plays with
  | pending _ => cases held
  | buffered plays =>
    cases held
    exact ⟨_, rfl, .pending plays⟩
  | exhausted => cases held

theorem Plays.eq_nil (plays : Plays lane acts) (exhausted : lane.lookahead = .exhausted) :
    acts = [] := by
  cases plays with
  | pending _ => cases exhausted
  | buffered _ => cases exhausted
  | exhausted => rfl

end Lane

namespace Merge

variable {merge : Merge σ} {clean : Merge τ} {acts : List (List Act)}

/-! ## Lanes after their pulls -/

theorem plays_refilled {lanes : List (Lane σ)} (plays : List.Forall₂ Lane.Plays lanes acts)
    (pulled : ∀ l ∈ lanes, (pullPending l).answer = .ok ()) :
    List.Forall₂ (fun lane acts => Lane.Plays lane acts ∧ lane.currentRow = (rowsOf acts).head?)
      (lanes.map refilled) acts := by
  refine List.forall₂_map_left_iff.mpr ?_
  exact ((List.forall₂_and_left _ _).mpr ⟨pulled, plays⟩).imp fun _ _ ready => ready.2.refills ready.1

theorem holds_refilled {lanes : List (Lane σ)} {lists : List (List Row)}
    (holds : List.Forall₂ Lane.Holds lanes lists) :
    (∀ l ∈ lanes, (pullPending l).answer = .ok ()) ∧
      List.Forall₂ (fun lane rows => Lane.Holds lane rows ∧ lane.currentRow = rows.head?)
        (lanes.map refilled) lists := by
  constructor
  · intro l member
    obtain ⟨rows, -, holds⟩ := exists_of_mem_left holds member
    exact holds.pull.1
  · exact List.forall₂_map_left_iff.mpr (holds.imp fun _ _ holds => holds.pull.2)

/-- The merge whose lanes hold lists emits the head of the list of the lane that wins. -/
theorem advance_of_holds_winner {before after : List (List Row)} {row : Row} {rest : List Row}
    (holds : List.Forall₂ Lane.Holds merge.lanes (before ++ (row :: rest) :: after))
    (won : { merge with lanes := merge.lanes.map refilled }.winner = some before.length) :
    merge.advance.answer = .ok true ∧ merge.advance.state.current = some row ∧
      merge.advance.state.currentLane = some before.length ∧
      List.Forall₂ Lane.Holds merge.advance.state.lanes (before ++ rest :: after) := by
  obtain ⟨pulled, ready⟩ := holds_refilled holds
  obtain ⟨front, lane, back, split, front_ready, here, back_ready⟩ :=
    forall₂_append_cons (R := flip _) ready.flip
  have held : lane.lookahead = .buffered row := Lane.currentRow_eq_some_iff.mp here.2
  obtain ⟨_, tail, later⟩ := here.1.release held
  obtain ⟨-, rfl⟩ := List.cons.inj tail
  have place : before.length = front.length := front_ready.length_eq
  rw [place] at won ⊢
  obtain ⟨moved, state⟩ := advance_of_winner pulled split held won
  rw [state]
  exact ⟨moved, rfl, rfl, List.rel_append (front_ready.flip.imp fun _ _ ready => ready.1)
    (.cons later (back_ready.flip.imp fun _ _ ready => ready.1))⟩

/-! ## Two merges abreast -/

/-- A merge over sources that play acts, and one by the same order that holds the rows of the acts. -/
structure Abreast (merge : Merge σ) (clean : Merge τ) (acts : List (List Act)) : Prop where
  indexed : Indexed merge.lanes
  indexed_clean : Indexed clean.lanes
  sorted : clean.order = merge.order
  plays : List.Forall₂ Lane.Plays merge.lanes acts
  holds : List.Forall₂ Lane.Holds clean.lanes (acts.map rowsOf)

/-- Once every pull has succeeded, the lanes of both merges show the same rows, and the same lane
wins. -/
theorem Abreast.winner_eq (abreast : Abreast merge clean acts)
    (pulled : ∀ l ∈ merge.lanes, (pullPending l).answer = .ok ()) :
    { clean with lanes := clean.lanes.map refilled }.winner =
      { merge with lanes := merge.lanes.map refilled }.winner := by
  have ready := plays_refilled abreast.plays pulled
  have ready_clean := (holds_refilled abreast.holds).2
  have rows : (clean.lanes.map refilled).map Lane.currentRow =
      (merge.lanes.map refilled).map Lane.currentRow := by
    rw [map_eq_map_of_forall₂ (ready.imp fun _ _ ready => ready.2),
      map_eq_map_of_forall₂ (ready_clean.imp fun _ _ ready => ready.2), List.map_map]
    rfl
  exact winner_of_sameFront abreast.sorted
    (abreast.indexed.refilled.sameFront abreast.indexed_clean.refilled rows)

/-- An advance of the one merge beside the other: a fault uses up one act and leaves the other merge
alone, and a row comes out of both with the same lane. -/
inductive Strides (merge next : Merge σ) (clean : Merge τ) : List (List Act) → Except Fault Bool → Prop
  | fault {before after : List (List Act)} {fault : Fault} {rest : List Act}
      (later : Abreast next clean (before ++ rest :: after)) :
      Strides merge next clean (before ++ (.error fault :: rest) :: after) (.error fault)
  | nothing {acts : List (List Act)} (empty : acts.flatten = [])
      (ended : clean.advance.answer = .ok false) : Strides merge next clean acts (.ok false)
  | row {before after : List (List Act)} {row : Row} {rest : List Act}
      (moved : clean.advance.answer = .ok true)
      (current : next.current = clean.advance.state.current)
      (lane : next.currentLane = clean.advance.state.currentLane)
      (later : Abreast next clean.advance.state (before ++ rest :: after)) :
      Strides merge next clean (before ++ (.ok row :: rest) :: after) (.ok true)

theorem Abreast.strides (abreast : Abreast merge clean acts) :
    Strides merge merge.advance.state clean acts merge.advance.answer := by
  have renumbered := abreast.indexed.advance
  have sorted : clean.order = merge.advance.state.order :=
    abreast.sorted.trans (advance_keeps abreast.indexed).2.1.symm
  have step := advances abreast.indexed
  generalize merge.advance.answer = answer, merge.advance.state = next at step renumbered sorted ⊢
  cases step with
  | @fails before after lane fault split pulled failed =>
    have plays := abreast.plays
    have holds := abreast.holds
    rw [split] at plays
    obtain ⟨front, own, back, rfl, front_plays, here, back_plays⟩ := forall₂_append_cons plays
    obtain ⟨rest, rfl, later⟩ := here.fails failed
    -- what is left of the acts has the same rows
    refine .fault ⟨renumbered, abreast.indexed_clean, sorted, ?_, ?_⟩
    · exact List.rel_append ((plays_refilled front_plays pulled).imp fun _ _ ready => ready.1)
        (.cons later back_plays)
    · simpa using holds
  | ends pulled exhausted =>
    have empty : acts.flatten = [] := by
      refine List.flatten_eq_nil_iff.mpr fun own member => ?_
      obtain ⟨lane, place, plays⟩ := exists_of_mem_right abreast.plays member
      exact (plays.refills (pulled lane place)).1.eq_nil (exhausted lane place)
    have empty_clean : (acts.map rowsOf).flatten = [] := by rw [flatten_map_rowsOf, empty]; rfl
    have takes := takes_of_holds abreast.indexed_clean abreast.holds
    generalize acts.map rowsOf = lists, ended : clean.advance.answer = answer
      at takes empty_clean
    cases takes with
    | nothing _ => exact .nothing empty ended
    | row => simp at empty_clean
  | @emits before after lane row split pulled held won =>
    have ready := plays_refilled abreast.plays pulled
    have won' := (abreast.winner_eq pulled).trans won
    -- the winner of each merge hands out the next row of the same list
    rw [split, List.map_append, List.map_cons] at ready
    obtain ⟨front, own, back, rfl, front_ready, here, back_ready⟩ := forall₂_append_cons ready
    obtain ⟨rest, rfl, later⟩ := here.1.release held
    have place : before.length = (front.map rowsOf).length := by simpa using front_ready.length_eq
    have holds := abreast.holds
    rw [List.map_append, List.map_cons, rowsOf_ok] at holds
    rw [place] at won'
    obtain ⟨moved, current, lane', holds'⟩ := advance_of_holds_winner holds won'
    refine .row moved current.symm (by rw [lane', place]) ⟨renumbered, ?_, ?_, ?_, ?_⟩
    · exact abreast.indexed_clean.advance
    · exact (advance_keeps abreast.indexed_clean).2.1.trans sorted
    · exact List.rel_append (front_ready.imp fun _ _ ready => ready.1)
        (.cons later (back_ready.imp fun _ _ ready => ready.1))
    · simpa using holds'

/-- The first act of one list before all others. -/
theorem flatten_perm_cons (before after : List (List Act)) (act : Act) (rest : List Act) :
    (before ++ (act :: rest) :: after).flatten.Perm (act :: (before ++ rest :: after).flatten) := by
  simp only [List.flatten_append, List.flatten_cons, List.cons_append]
  exact List.perm_middle

theorem Abreast.driven (abreast : Abreast merge clean acts) :
    ∃ log log', Driven merge log ∧ Driven clean log' ∧ emissions log = emissions log' ∧
      (faults log).Perm (faultsOf acts.flatten) ∧ log.length = acts.flatten.length + 1 := by
  generalize total : acts.flatten.length = count
  -- every advance but the last uses up one act
  induction count generalizing merge clean acts with
  | zero =>
    have empty : acts.flatten = [] := List.eq_nil_of_length_eq_zero total
    have strides := abreast.strides
    generalize answer : merge.advance.answer = moved at strides
    cases strides with
    | fault _ => simp at empty
    | nothing _ ended =>
      obtain ⟨none, unfailed⟩ := log_of_false [] answer
      obtain ⟨none', -⟩ := log_of_false [] ended
      refine ⟨[merge.sight], [clean.sight], driven_of_false answer, driven_of_false ended,
        none.trans none'.symm, ?_, rfl⟩
      rw [unfailed, empty]
      exact .nil
    | row => simp at empty
  | succ count ih =>
    have strides := abreast.strides
    generalize answer : merge.advance.answer = moved at strides
    cases strides with
    | @fault before after fault rest later =>
      have used := flatten_perm_cons before after (.error fault) rest
      have left : (before ++ rest :: after).flatten.length = count :=
        Nat.succ.inj (used.length_eq.symm.trans total)
      obtain ⟨log, log', driven, driven', same, returned, length⟩ := ih later left
      obtain ⟨none, failed⟩ := log_of_fault log answer
      refine ⟨merge.sight :: log, log', driven.cons (by simp [answer]), driven', none.trans same,
        ?_, by simp [length]⟩
      rw [failed]
      exact (returned.cons fault).trans (used.filterMap Act.fault?).symm
    | nothing empty => simp [empty] at total
    | @row before after row rest moved current lane later =>
      have used := flatten_perm_cons before after (.ok row) rest
      have left : (before ++ rest :: after).flatten.length = count :=
        Nat.succ.inj (used.length_eq.symm.trans total)
      obtain ⟨log, log', driven, driven', same, returned, length⟩ := ih later left
      obtain ⟨emitted, unfailed⟩ := log_of_true log answer
      obtain ⟨emitted', -⟩ := log_of_true log' moved
      refine ⟨merge.sight :: log, clean.sight :: log', driven.cons (by simp [answer]),
        driven'.cons (by simp [moved]), ?_, ?_, by simp [length]⟩
      · rw [emitted, emitted', current, lane, same]
      · rw [unfailed]
        exact returned.trans (used.filterMap Act.fault?).symm

theorem plays_lanesOf {sources : List σ} (plays : List.Forall₂ Cursor.Plays sources acts) :
    List.Forall₂ Lane.Plays (lanesOf sources) acts :=
  forall₂_mapIdx_left plays fun _ _ _ => .pending

/-- A merge by any order over sources that each play a list of acts, driven to its end with another
advance after every fault, beside the merge by this order over sources with the rows of the acts alone:
the rows come out the same, each with the same lane, every fault is answered once and unchanged, and
there is one advance for every row, one for every fault, and the last one. -/
theorem drive_through_faults {order : Row → Row → Ordering} {config config' : Config}
    {sources : List σ} {faultless : List τ} {built : Outcome (Merge σ) Unit}
    {built' : Outcome (Merge τ) Unit} (made : build config order sources = .ok built)
    (made' : build config' order faultless = .ok built')
    (plays : List.Forall₂ Cursor.Plays sources acts)
    (yields : List.Forall₂ Cursor.Yields faultless (acts.map rowsOf)) :
    ∃ log log', Driven built.state log ∧ Driven built'.state log' ∧
      emissions log = emissions log' ∧
      (faults log).Perm (faultsOf acts.flatten) ∧
      log.length = (rowsOf acts.flatten).length + (faultsOf acts.flatten).length + 1 := by
  have abreast : Abreast built.state built'.state acts := by
    rw [(state_of_build made).1, (state_of_build made').1]
    exact ⟨indexed_lanesOf sources, indexed_lanesOf faultless, rfl, plays_lanesOf plays,
      holds_lanesOf yields⟩
  obtain ⟨log, log', driven, driven', same, returned, length⟩ := abreast.driven
  rw [← length_rowsOf_add_faultsOf] at length
  exact ⟨log, log', driven, driven', same, returned, length⟩

/-- Three sources that fail at the start, between rows, twice with the same fault, and at the end, beside
scans of their rows. The order is that of the number of columns, which tells two of the rows apart
from the third one only. -/
theorem drive_through_faults_of_scripts :
    let one : Row := ⟨[.integer 1]⟩
    let two : Row := ⟨[.integer 2]⟩
    let wide : Row := ⟨[.integer 0, .integer 0]⟩
    let lost : Fault := .source "connection lost"
    let full : Fault := .source "out of memory"
    let scripts : List (List Act) :=
      [[.error lost, .ok wide, .error lost], [.ok one, .error full, .ok two], [.error full]]
    let scans := [Scan.ofRows .empty [wide], Scan.ofRows .empty [one, two], Scan.empty .empty]
    ∃ log log', Driven (fresh (compareOn Row.arity) (scripts.map Scripted.ofActs)) log ∧
      Driven (fresh (compareOn Row.arity) scans) log' ∧ emissions log = emissions log' ∧
      (faults log).Perm [lost, lost, full, full] ∧ log.length = 8 := by
  intro one two wide lost full scripts scans
  have plays : List.Forall₂ Cursor.Plays (scripts.map Scripted.ofActs) scripts :=
    List.forall₂_map_left_iff.mpr (List.forall₂_same.mpr fun acts _ => (Scripted.ofActs acts).plays)
  have yields : List.Forall₂ Cursor.Yields scans (scripts.map rowsOf) :=
    .cons (Scan.yields _ rfl) (.cons (Scan.yields _ rfl) (.cons (Scan.yields _ rfl) .nil))
  have made : build {} (compareOn Row.arity) (scripts.map Scripted.ofActs) = .ok _ := rfl
  have made' : build {} (compareOn Row.arity) scans = .ok _ := rfl
  exact drive_through_faults made made' plays yields

end Merge

end RowMerge
