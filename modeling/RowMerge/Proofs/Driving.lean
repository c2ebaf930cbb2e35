import RowMerge.Proofs.SortedOutput

/-!
# Driving a merge to its end

A client drives a merge by advancing it until an advance answers `false`; after a fault it simply
advances again. What comes out is an interleaving of the lists of the sources, whatever the order is:
the rows of one lane are its list, in the order of the list, and every row comes out once. No law of
the order helps here. The lanes hold lists of rows, and an advance that emits a row takes the head of
one of these lists and leaves the others alone.
-/
namespace RowMerge.Merge

/-! ## What a client sees -/

/-- One advance as its client sees it: the answer, and the current row and its lane afterwards. -/
structure Sight where
  answer : Except Fault Bool
  row : Option Row
  lane : Option Nat

namespace Sight

def emission? (sight : Sight) : Option (Option Row × Option Nat) :=
  match sight.answer with
  | .ok true => some (sight.row, sight.lane)
  | _ => none

def fault? (sight : Sight) : Option Fault :=
  match sight.answer with
  | .error fault => some fault
  | .ok _ => none

end Sight

/-- The current rows, each with its lane, after the advances that answered `true`. -/
def emissions (log : List Sight) : List (Option Row × Option Nat) := log.filterMap Sight.emission?

def faults (log : List Sight) : List Fault := log.filterMap Sight.fault?

/-- The rows that come out of one lane. -/
def rowsFrom (lane : Nat) (log : List Sight) : List (Option Row) :=
  ((emissions log).filter fun emission => emission.2 = some lane).map Prod.fst

variable {σ : Type} [Cursor σ] {merge : Merge σ} {log : List Sight}

def sight (merge : Merge σ) : Sight :=
  ⟨merge.advance.answer, merge.advance.state.current, merge.advance.state.currentLane⟩

theorem log_of_false (log : List Sight) (ended : merge.advance.answer = .ok false) :
    emissions (merge.sight :: log) = emissions log ∧ faults (merge.sight :: log) = faults log := by
  simp [emissions, faults, List.filterMap_cons, Sight.emission?, Sight.fault?, sight, ended]

theorem log_of_true (log : List Sight) (moved : merge.advance.answer = .ok true) :
    emissions (merge.sight :: log) =
        (merge.advance.state.current, merge.advance.state.currentLane) :: emissions log ∧
      faults (merge.sight :: log) = faults log := by
  simp [emissions, faults, List.filterMap_cons, Sight.emission?, Sight.fault?, sight, moved]

theorem log_of_fault (log : List Sight) {fault : Fault}
    (failed : merge.advance.answer = .error fault) :
    emissions (merge.sight :: log) = emissions log ∧
      faults (merge.sight :: log) = fault :: faults log := by
  simp [emissions, faults, List.filterMap_cons, Sight.emission?, Sight.fault?, sight, failed]

/-- Advances until one answers `false`. No more than `limit` advances are made; without a `false` among
them there is no log. -/
def drive : Nat → Merge σ → Outcome (Merge σ) (Option (List Sight))
  | 0, merge => .silent none merge
  | limit + 1, merge => merge.advance.bind fun answer next =>
    match answer with
    | .ok false => .silent (some [merge.sight]) next
    | _ => (drive limit next).map fun log? => log?.map (merge.sight :: ·)

/-- A client that may advance the merge often enough has this log. -/
def Driven (merge : Merge σ) (log : List Sight) : Prop :=
  ∀ limit, log.length ≤ limit → (drive limit merge).answer = some log

theorem driven_of_false (ended : merge.advance.answer = .ok false) : Driven merge [merge.sight] := by
  intro limit room
  obtain ⟨limit, rfl⟩ := Nat.exists_eq_add_of_le' room
  simp [drive, ended]

theorem Driven.cons (driven : Driven merge.advance.state log)
    (more : merge.advance.answer ≠ .ok false) : Driven merge (merge.sight :: log) := by
  intro limit room
  obtain ⟨limit, rfl⟩ : ∃ rest, limit = rest + 1 := Nat.exists_eq_add_of_le' (by simp at room; omega)
  have rest := driven limit (by simpa using room)
  cases answer : merge.advance.answer with
  | error fault => simp [drive, answer, rest]
  | ok moved =>
    cases moved with
    | false => exact absurd answer more
    | true => simp [drive, answer, rest]

/-! ## Interleavings -/

variable {lists : List (List Row)}

/-- The rows of a lane are those that its list holds, whichever of the lists the last row was taken
from. -/
theorem rowsFrom_cons {before after : List (List Row)} {row : Row} {rest : List Row}
    (moved : merge.advance.answer = .ok true) (current : merge.advance.state.current = some row)
    (from_list : merge.advance.state.currentLane = some before.length)
    (later : ∀ lane rows, (before ++ rest :: after)[lane]? = some rows →
      rowsFrom lane log = rows.map some) :
    ∀ lane rows, (before ++ (row :: rest) :: after)[lane]? = some rows →
      rowsFrom lane (merge.sight :: log) = rows.map some := by
  have emitted := (log_of_true log moved).1
  rw [current, from_list] at emitted
  intro lane rows found
  by_cases here : lane = before.length
  · subst here
    obtain rfl : row :: rest = rows := by simpa using found
    have others := later before.length rest (by simp)
    simpa [rowsFrom, emitted] using others
  · -- the other lists are as they were
    have same : (before ++ rest :: after)[lane]? = some rows := by
      rw [List.getElem?_append] at found ⊢
      split at found
      next early => simpa [early] using found
      next late =>
        obtain ⟨k, place⟩ : ∃ k, lane - before.length = k + 1 :=
          Nat.exists_eq_add_of_le' (by omega)
        rw [if_neg late, place]
        simpa [place] using found
    have others := later lane rows same
    simpa [rowsFrom, emitted, Ne.symm here] using others

theorem driven_of_holds (indexed : Indexed merge.lanes)
    (holds : List.Forall₂ Lane.Holds merge.lanes lists) :
    ∃ log, Driven merge log ∧
      log.map Sight.answer = List.replicate lists.flatten.length (.ok true) ++ [.ok false] ∧
      ∀ lane rows, lists[lane]? = some rows → rowsFrom lane log = rows.map some := by
  generalize total : lists.flatten.length = count
  -- every row that comes out is taken from one of the lists
  induction count generalizing merge lists with
  | zero =>
    have empty : lists.flatten = [] := List.eq_nil_of_length_eq_zero total
    have takes := takes_of_holds indexed holds
    generalize answer : merge.advance.answer = moved at takes
    cases takes with
    | nothing _ =>
      refine ⟨[merge.sight], driven_of_false answer, by simp [sight, answer], ?_⟩
      intro lane rows found
      obtain rfl := List.flatten_eq_nil_iff.mp empty rows (List.mem_of_getElem? found)
      rw [rowsFrom, (log_of_false [] answer).1]
      rfl
    | row _ _ _ _ _ => simp at empty
  | succ count ih =>
    have takes := takes_of_holds indexed holds
    have renumbered := indexed.advance
    generalize answer : merge.advance.answer = moved at takes
    cases takes with
    | nothing empty => simp [empty] at total
    | @row before after row rest current from_list next_holds _ _ =>
      have shorter : (before ++ rest :: after).flatten.length = count := by
        simp only [List.flatten_append, List.flatten_cons, List.length_append,
          List.length_cons] at total ⊢
        omega
      obtain ⟨log, driven, answers, interleaved⟩ := ih renumbered next_holds shorter
      refine ⟨merge.sight :: log, driven.cons (by simp [answer]), ?_, ?_⟩
      · simp [answers, List.replicate_succ, sight, answer]
      · exact rowsFrom_cons answer current from_list interleaved

/-- A merge by any order at all, over one or more sources that each yield a list: driven to its end it
answers `true` once for every row and then `false`, and what comes out of each lane is the list of the
lane. -/
theorem drive_interleaves {order : Row → Row → Ordering} {config : Config} {sources : List σ}
    {built : Outcome (Merge σ) Unit} (made : build config order sources = .ok built)
    (yields : List.Forall₂ Cursor.Yields sources lists) :
    ∃ log, Driven built.state log ∧
      log.map Sight.answer = List.replicate lists.flatten.length (.ok true) ++ [.ok false] ∧
      ∀ lane rows, lists[lane]? = some rows → rowsFrom lane log = rows.map some := by
  rw [(state_of_build made).1]
  exact driven_of_holds (indexed_lanesOf sources) (holds_lanesOf yields)

/-- Every row is less than every other here, even than itself, so the last lane with a row wins. The
lists are not sorted, one is empty, and one row stands in two of them. -/
theorem drive_interleaves_without_order :
    let one : Row := ⟨[.integer 1]⟩
    let two : Row := ⟨[.integer 2]⟩
    let scans := [Scan.ofRows .empty [two, one], Scan.empty .empty, Scan.ofRows .empty [one, two, one]]
    ∃ log, Driven (fresh (fun _ _ => .lt) scans) log ∧ log.length = 6 ∧
      rowsFrom 0 log = [some two, some one] ∧ rowsFrom 1 log = [] ∧
      rowsFrom 2 log = [some one, some two, some one] := by
  intro one two scans
  have yields : List.Forall₂ Cursor.Yields scans [[two, one], [], [one, two, one]] :=
    .cons (Scan.yields _ rfl) (.cons (Scan.yields _ rfl) (.cons (Scan.yields _ rfl) .nil))
  have made : build {} (fun _ _ => .lt) scans = .ok _ := rfl
  obtain ⟨log, driven, answers, interleaved⟩ := drive_interleaves made yields
  refine ⟨log, driven, ?_, interleaved 0 _ rfl, interleaved 1 _ rfl, interleaved 2 _ rfl⟩
  simpa using congrArg List.length answers

end RowMerge.Merge
