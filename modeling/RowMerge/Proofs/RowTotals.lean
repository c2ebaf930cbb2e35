import RowMerge.Proofs.ClosedTrees
import RowMerge.Proofs.Rewinding
import RowMerge.Proofs.RowCounts

/-!
# The row count is the number of rows

The row count adds up declarations, and the rows come out one by one from buffers and sources; one account
covers both. What a cursor declares stays for good, and a reset that succeeds makes the cursor owe that many
rows. Each row that an advance gives takes one off what is owed, and an advance answers `false` only when
nothing is owed. A lane owes what its source owes, and one row more while one waits in its buffer, so a merge
owes the sum over its lanes: if the account is kept at the leaves, it is kept at every level of a tree.
-/
namespace RowMerge

/-! ## Rows that come -/

namespace Cursor

variable {σ τ : Type} [Cursor σ] [Cursor τ]

/-- What an advance answered. -/
def moved? : Answer → Option (Except Fault Bool)
  | .moved result => some result
  | _ => none

/-- The answers of the advances of a run. -/
def moves (s : σ) (requests : List Request) : List (Except Fault Bool) :=
  (run s requests).answer.filterMap moved?

theorem moves_advance (s : σ) (rest : List Request) :
    moves s (.advance :: rest) = (advance s).answer :: moves (advance s).state rest := rfl

theorem moves_other (s : σ) {request : Request} (other : request ≠ .advance) (rest : List Request) :
    moves s (request :: rest) = moves (perform s request).state rest := by
  cases request with
  | advance => exact absurd rfl other
  | currentRow | rowCount | reset | close | needsClose | schema => rfl

/-- Until it is reset the cursor gives a number of rows, and no more. -/
structure Supplies (s : σ) (count : Nat) : Prop where
  /-- Unless the cursor is closed, so many advances answer `true` and all others `false`. -/
  moves_eq : ∀ later, .reset ∉ later → .close ∉ later →
    moves s later =
      List.replicate (min count (later.count .advance)) (.ok true) ++
        List.replicate (later.count .advance - count) (.ok false)
  /-- Even then, an advance answers `false` only after all of them. -/
  complete : ∀ later, .reset ∉ later → ∀ front back,
    moves s later = front ++ .ok false :: back → front.count (.ok true) = count

/-! ## Accounts -/

/-- What an advance does to the rows that are owed. Only a cursor that may be closed can fail. -/
inductive Pays (Owed : Bool → σ → Nat → Prop) (isOpen : Bool) :
    Nat → Except Fault Bool → σ → Prop
  | row {owed : Nat} {next : σ} (shown : (currentRow next).isSome) (left : Owed isOpen next owed) :
      Pays Owed isOpen (owed + 1) (.ok true) next
  | settled {next : σ} (left : Owed isOpen next 0) : Pays Owed isOpen 0 (.ok false) next
  | fails {owed : Nat} {next : σ} {fault : Fault} (shut : isOpen = false)
      (left : Owed isOpen next owed) : Pays Owed isOpen owed (.error fault) next

/-- A cursor that holds the one called, shows its rows and owes what it owes, pays as it does. -/
theorem Pays.lift {Owed : Bool → σ → Nat → Prop} {Owed' : Bool → τ → Nat → Prop} {isOpen : Bool}
    {owed : Nat} {answer : Except Fault Bool} {next : σ} (pays : Pays Owed isOpen owed answer next)
    (hold : σ → τ) (shows : ∀ s, currentRow (hold s) = currentRow s)
    (owes : ∀ owed, Owed isOpen next owed → Owed' isOpen (hold next) owed) :
    Pays Owed' isOpen owed answer (hold next) := by
  cases pays with
  | row shown left => exact .row (by rwa [shows]) (owes _ left)
  | settled left => exact .settled (owes _ left)
  | fails shut left => exact .fails shut (owes _ left)

/-- An account of the rows of cursors: those that a cursor declares, and those that it still owes, where
nothing below it or everything may be closed. -/
structure Accounts (Declared : σ → Nat → Prop) (Owed : Bool → σ → Nat → Prop) : Prop where
  declares : ∀ {s count}, Declared s count → ∀ request, Declared (perform s request).state count
  counts : ∀ {s count}, Declared s count → (rowCount s).answer = some count
  resets : ∀ {s count}, Declared s count → (reset s).answer = .ok () →
    Owed true (reset s).state count
  pays : ∀ {isOpen s owed}, Owed isOpen s owed →
    Pays Owed isOpen owed (advance s).answer (advance s).state
  asks : ∀ {isOpen s owed}, Owed isOpen s owed → Owed isOpen (rowCount s).state owed
  closes : ∀ {isOpen s owed}, Owed isOpen s owed → Owed false (close s).state owed

namespace Accounts

variable {Declared : σ → Nat → Prop} {Owed : Bool → σ → Nat → Prop}
  (accounts : Accounts Declared Owed)
include accounts

/-- Requests other than to advance or reset leave what is owed as it is. -/
theorem keeps {isOpen : Bool} {s : σ} {owed : Nat} (owes : Owed isOpen s owed) {request : Request}
    (still : request ≠ .advance) (forward : request ≠ .reset) :
    ∃ stays, (request ≠ .close → stays = isOpen) ∧ Owed stays (perform s request).state owed := by
  cases request with
  | advance => exact absurd rfl still
  | reset => exact absurd rfl forward
  | close => exact ⟨false, absurd rfl, accounts.closes owes⟩
  | rowCount => exact ⟨isOpen, fun _ => rfl, accounts.asks owes⟩
  | currentRow | needsClose | schema => exact ⟨isOpen, fun _ => rfl, owes⟩

theorem moves_of_open {s : σ} {owed : Nat} (owes : Owed true s owed) {later : List Request}
    (forward : .reset ∉ later) (unclosed : .close ∉ later) :
    moves s later =
      List.replicate (min owed (later.count .advance)) (.ok true) ++
        List.replicate (later.count .advance - owed) (.ok false) := by
  -- by induction on the requests, for any number of rows that are owed: an advance pays one of them
  induction later generalizing s owed with
  | nil => simp [moves, run]
  | cons request rest ih =>
    have next {s : σ} {owed : Nat} (owes : Owed true s owed) :=
      ih owes (List.not_mem_of_not_mem_cons forward) (List.not_mem_of_not_mem_cons unclosed)
    by_cases moving : request = .advance
    · subst moving
      rw [moves_advance, List.count_cons_self]
      have pays := accounts.pays owes
      generalize (advance s).answer = answer, (advance s).state = after at pays ⊢
      cases pays with
      | row shown left =>
        rw [next left, Nat.add_min_add_right, Nat.add_sub_add_right, List.replicate_succ,
          List.cons_append]
      | settled left =>
        -- nothing is owed, so the rows have come and one more `false` is added
        rw [next left]
        simp [List.replicate_succ]
      | fails shut => cases shut
    · -- a request that does not close leaves the cursor open
      obtain ⟨stays, same, left⟩ := accounts.keeps owes moving (List.ne_of_not_mem_cons forward).symm
      obtain rfl := same (List.ne_of_not_mem_cons unclosed).symm
      rw [moves_other s moving, next left, List.count_cons_of_ne moving]

theorem count_before_false {isOpen : Bool} {s : σ} {owed : Nat} (owes : Owed isOpen s owed)
    {later : List Request} (forward : .reset ∉ later) {front back : List (Except Fault Bool)}
    (split : moves s later = front ++ .ok false :: back) : front.count (.ok true) = owed := by
  induction later generalizing isOpen s owed front with
  | nil => simp [moves, run] at split
  | cons request rest ih =>
    have onward := List.not_mem_of_not_mem_cons forward
    by_cases moving : request = .advance
    · rw [moving, moves_advance] at split
      have pays := accounts.pays owes
      generalize (advance s).answer = answer, (advance s).state = after at pays split
      cases front with
      | nil =>
        -- this is the advance that answers `false`
        obtain ⟨rfl, -⟩ := List.cons.inj split
        cases pays
        rfl
      | cons first front =>
        obtain ⟨rfl, behind⟩ := List.cons.inj split
        cases pays with
        | row shown left => rw [List.count_cons_self, ih left onward behind]
        | settled left => rw [List.count_cons_of_ne (by simp), ih left onward behind]
        | fails shut left => rw [List.count_cons_of_ne (by simp), ih left onward behind]
    · rw [moves_other s moving] at split
      obtain ⟨stays, -, left⟩ := accounts.keeps owes moving (List.ne_of_not_mem_cons forward).symm
      exact ih left onward split

/-- An open cursor that owes a number of rows gives this number of them. -/
theorem supplies {s : σ} {owed : Nat} (owes : Owed true s owed) : Supplies s owed where
  moves_eq _ forward unclosed := accounts.moves_of_open owes forward unclosed
  complete _ forward _ _ split := accounts.count_before_false owes forward split

theorem declares_run {s : σ} {count : Nat} (declares : Declared s count) (requests : List Request) :
    Declared (run s requests).state count :=
  run_invariant (P := fun s => Declared s count) (fun _ request kept => accounts.declares kept request)
    declares requests

omit accounts in
theorem sum {Declared' : τ → Nat → Prop} {Owed' : Bool → τ → Nat → Prop}
    (left : Accounts Declared Owed) (right : Accounts Declared' Owed') :
    Accounts (Sum.elim Declared Declared') fun isOpen => Sum.elim (Owed isOpen) (Owed' isOpen) where
  declares := by
    rintro (s | t) count declares request
    · exact perform_inl (τ := τ) s request ▸ left.declares declares request
    · exact perform_inr (σ := σ) t request ▸ right.declares declares request
  counts := by
    rintro (s | t) count declares
    · exact left.counts declares
    · exact right.counts declares
  resets := by
    rintro (s | t) count declares ok
    · exact left.resets declares ok
    · exact right.resets declares ok
  pays := by
    rintro isOpen (s | t) owed owes
    · exact (left.pays owes).lift Sum.inl (fun _ => rfl) fun _ owes => owes
    · exact (right.pays owes).lift Sum.inr (fun _ => rfl) fun _ owes => owes
  asks := by
    rintro isOpen (s | t) owed owes
    · exact left.asks owes
    · exact right.asks owes
  closes := by
    rintro isOpen (s | t) owed owes
    · exact left.closes owes
    · exact right.closes owes

end Accounts

end Cursor

/-! ## Scans -/

namespace Scan

/-- An open scan owes the rows behind its position; one that may be closed gives them or fails. -/
structure Owes (isOpen : Bool) (scan : Scan) (owed : Nat) : Prop where
  unclosed : isOpen = true → scan.closed = false
  rows : scan.closed = false → scan.rows.length - scan.nextPosition = owed

theorem pays {isOpen : Bool} {scan : Scan} {owed : Nat} (owes : Owes isOpen scan owed) :
    Cursor.Pays Owes isOpen owed scan.advance.answer scan.advance.state := by
  unfold advance
  by_cases shut : scan.closed = true
  · -- only a scan that may be closed is found closed
    rw [if_pos shut]
    refine .fails ?_ owes
    by_contra! unclosed
    simp [owes.unclosed (by simpa using unclosed)] at shut
  · rw [if_neg shut]
    have rows := owes.rows (by simpa using shut)
    by_cases within : scan.nextPosition < scan.rows.length
    · rw [if_pos within]
      obtain ⟨left, rfl⟩ : ∃ left, owed = left + 1 := Nat.exists_eq_add_one.mpr (by omega)
      refine .row ?_ ⟨owes.unclosed, fun _ => ?_⟩
      · simp [Cursor.currentRow, currentRow, within]
      · change scan.rows.length - (scan.nextPosition + 1) = left
        omega
    · -- the position moves behind the last row, where it stays
      rw [if_neg within]
      obtain rfl : owed = 0 := by omega
      refine .settled ⟨owes.unclosed, fun _ => ?_⟩
      change scan.rows.length - (scan.rows.length + 1) = 0
      omega

theorem owes_ofRows (schema : Schema) (rows : List Row) :
    Owes true (ofRows schema rows) rows.length :=
  ⟨fun _ => rfl, fun _ => rfl⟩

/-- A scan declares the rows at hand. -/
theorem accounts : Cursor.Accounts (fun scan : Scan => (scan.rows.length = ·)) Owes where
  declares := by
    intro scan count declares request
    rw [rows_perform]
    exact declares
  counts declares := congrArg some declares
  resets := by
    rintro scan count rfl ok
    cases shut : scan.closed with
    | true => simp [Cursor.reset, reset, shut] at ok
    | false =>
      have back : Cursor.reset scan = .silent (.ok ()) (ofRows scan.schema scan.rows) :=
        reset_of_open shut scan.position
      rw [back]
      exact owes_ofRows scan.schema scan.rows
  pays := pays
  asks owes := owes
  closes _ := ⟨nofun, nofun⟩

end Scan

/-! ## Lanes -/

namespace Lane

variable {σ : Type} {lane : Lane σ} {owed : Nat}

/-- A lane owes what its source owes, and a row more while one waits in its buffer. -/
inductive Owes (Owed : σ → Nat → Prop) : Lane σ → Nat → Prop
  | pending {index : Nat} {source : σ} {owed : Nat} (left : Owed source owed) :
      Owes Owed ⟨index, source, .pending⟩ owed
  | buffered {index : Nat} {source : σ} {row : Row} {owed : Nat} (left : Owed source owed) :
      Owes Owed ⟨index, source, .buffered row⟩ (owed + 1)
  | exhausted {index : Nat} {source : σ} : Owes Owed ⟨index, source, .exhausted⟩ 0

namespace Owes

theorem pending_iff {Owed : σ → Nat → Prop} (pending : lane.lookahead = .pending) :
    Owes Owed lane owed ↔ Owed lane.source owed := by
  obtain ⟨index, source, lookahead⟩ := lane
  cases pending
  exact ⟨fun owes => by cases owes; assumption, .pending⟩

theorem eq_zero {Owed : σ → Nat → Prop} (owes : Owes Owed lane owed)
    (exhausted : lane.lookahead = .exhausted) : owed = 0 := by
  cases owes with
  | pending | buffered => cases exhausted
  | exhausted => rfl

theorem release {Owed : σ → Nat → Prop} (owes : Owes Owed lane owed) {row : Row}
    (held : lane.lookahead = .buffered row) : ∃ left, owed = left + 1 ∧ Owes Owed lane.release left := by
  cases owes with
  | pending | exhausted => cases held
  | @buffered index source row owed left => exact ⟨owed, rfl, .pending left⟩

/-- A lane that keeps its lookahead owes what it owed if its source does. -/
theorem of_source {Owed Owed' : σ → Nat → Prop} (owes : Owes Owed lane owed) {source : σ}
    (kept : ∀ owed, Owed lane.source owed → Owed' source owed) :
    Owes Owed' { lane with source } owed := by
  cases owes with
  | pending left => exact .pending (kept _ left)
  | buffered left => exact .buffered (kept _ left)
  | exhausted => exact .exhausted

variable [Cursor σ] {Declared : σ → Nat → Prop} {Owed : Bool → σ → Nat → Prop} {isOpen : Bool}

/-- A pull moves a row from the source to the buffer, so that the lane owes as much as before. -/
theorem refilled (owes : Owes (Owed isOpen) lane owed) (accounts : Cursor.Accounts Declared Owed) :
    Owes (Owed isOpen) (Merge.refilled lane) owed ∧
      ((Merge.pullPending lane).answer = .ok () ∨ isOpen = false) := by
  by_cases due : lane.lookahead = .pending
  · have pays := accounts.pays ((pending_iff due).mp owes)
    have pull := Merge.pull_of_pending due
    generalize (Merge.pullPending lane).answer = result, Merge.refilled lane = next at pull ⊢
    cases pull with
    | failed answer =>
      rw [answer] at pays
      cases pays with
      | fails shut left =>
        rw [due]
        exact ⟨.pending left, .inr shut⟩
    | rowless answer hidden =>
      -- a source that moves to a row shows it
      rw [answer] at pays
      cases pays with
      | row shown left => simp [hidden] at shown
    | ended answer =>
      rw [answer] at pays
      cases pays
      exact ⟨.exhausted, .inl rfl⟩
    | row answer =>
      rw [answer] at pays
      cases pays with
      | row shown left => exact ⟨.buffered left, .inl rfl⟩
  · rw [Merge.refilled_of_settled due, Merge.pullPending_of_settled due]
    exact ⟨owes, .inl rfl⟩

end Owes

end Lane

/-! ## Merges -/

namespace Merge

variable {σ : Type} {merge : Merge σ} {count owed : Nat}

/-- A merge owes what its lanes owe together. -/
structure Owes (Owed : σ → Nat → Prop) (merge : Merge σ) (owed : Nat) : Prop where
  indexed : Indexed merge.lanes
  shares : ∃ shares, shares.sum = owed ∧
    List.Forall₂ (Lane.Owes Owed) merge.lanes shares

/-- A merge declares what its sources declare together, as long as that fits. -/
structure Declares (Declared : σ → Nat → Prop) (merge : Merge σ) (count : Nat) : Prop where
  indexed : Indexed merge.lanes
  shares : ∃ shares, shares.sum = count ∧
    List.Forall₂ (fun lane => Declared lane.source) merge.lanes shares
  fits : count < 2 ^ 64
  memo : merge.count = .uncomputed ∨ merge.count = .known count

variable [Cursor σ] {Declared : σ → Nat → Prop} {Owed : Bool → σ → Nat → Prop} {isOpen : Bool}

namespace Declares

variable (declares : Declares Declared merge count) (accounts : Cursor.Accounts Declared Owed)
include declares accounts

theorem answer_rowCount : merge.rowCount.answer = some count := by
  rcases declares.memo with uncomputed | known
  · obtain ⟨shares, total, paired⟩ := declares.shares
    have counts : declared merge.lanes = shares.map some :=
      map_eq_map_of_forall₂ (paired.imp fun _ _ declares => accounts.counts declares)
    refine (rowCount_eq_some_iff uncomputed).mpr ⟨by simp [counts], ?_, declares.fits⟩
    simpa [counts, Function.comp_def] using total
  · have remembered : merge.count = .ofCount (some count) := known
    rw [rowCount_of_remembered remembered]
    rfl

theorem perform (request : Request) : Declares Declared (Cursor.perform merge request).state count := by
  obtain ⟨shares, total, paired⟩ := declares.shares
  have passed := (passed_perform merge request).1
  constructor
  · refine declares.indexed.of_map_index ?_
    exact (map_eq_map_of_forall₂ (passed.imp fun _ _ passed => passed.index.symm)).symm
  · -- a source is as it was, or has got the request
    refine ⟨shares, total, (forall₂_comp paired.flip passed ?_).flip⟩
    rintro share lane next declares passed
    change Declared next.source share
    rcases passed.source with same | moved
    · rw [same]
      exact declares
    · rw [moved]
      exact accounts.declares declares request
  · exact declares.fits
  · -- only the request for the count can fill the memo, and it fills it with the sum
    by_cases counting : request = .rowCount
    · subst counting
      right
      exact (remembered_rowCount merge).trans
        (congrArg CountMemo.ofCount (declares.answer_rowCount accounts))
    · rw [count_perform counting]
      exact declares.memo

theorem owes_reset (ok : merge.reset.answer = .ok ()) : Owes (Owed true) merge.reset.state count := by
  obtain ⟨shares, total, paired⟩ := declares.shares
  have all := reset_ok_iff.mp ok
  rw [(reset_of_ok all).2]
  constructor
  · exact declares.indexed.of_map_index (by simp [rewound, Lane.ofSource, Function.comp_def])
  · have back : List.Forall₂ (fun lane next =>
        (Cursor.reset lane.source).answer = .ok () ∧ next = rewound lane)
        merge.lanes (merge.lanes.map rewound) :=
      List.forall₂_map_right_iff.mpr (List.forall₂_same.mpr fun lane member => ⟨all lane member, rfl⟩)
    refine ⟨shares, total, (forall₂_comp paired.flip back ?_).flip⟩
    rintro share lane _ declares ⟨ok, rfl⟩
    exact .pending (accounts.resets declares ok)

end Declares

theorem owes_refilled {lanes : List (Lane σ)} {shares : List Nat}
    (paired : List.Forall₂ (Lane.Owes (Owed isOpen)) lanes shares)
    (accounts : Cursor.Accounts Declared Owed) :
    List.Forall₂ (Lane.Owes (Owed isOpen)) (lanes.map refilled) shares :=
  List.forall₂_map_left_iff.mpr (paired.imp fun _ _ owes => (owes.refilled accounts).1)

namespace Owes

variable (owes : Owes (Owed isOpen) merge owed) (accounts : Cursor.Accounts Declared Owed)
include owes accounts

theorem pays : Cursor.Pays (fun isOpen => Owes (Owed isOpen)) isOpen owed merge.advance.answer
    merge.advance.state := by
  obtain ⟨indexed, shares, rfl, paired⟩ := owes
  have step := advances indexed
  have numbered := indexed.advance
  generalize merge.advance.answer = answer, merge.advance.state = next at step numbered ⊢
  cases step with
  | @fails before after lane fault split pulled failed =>
    rw [split] at paired
    obtain ⟨front, share, back, rfl, early, here, late⟩ := forall₂_append_cons paired
    -- no row is lost: the lanes before the failure hold theirs, and those behind it were not called
    obtain ⟨here, passes⟩ := here.refilled accounts
    refine .fails (passes.resolve_left (by simp [failed])) ⟨numbered, _, rfl, ?_⟩
    exact List.rel_append (owes_refilled early accounts) (.cons here late)
  | ends pulled exhausted =>
    -- without a winner all lanes are exhausted, and such lanes owe nothing
    have refilled := owes_refilled paired accounts
    have settled : shares.sum = 0 := by
      refine List.sum_eq_zero_iff_forall_eq_nat.mpr fun share member => ?_
      obtain ⟨_, present, owes⟩ := exists_of_mem_right refilled member
      obtain ⟨lane, among, rfl⟩ := List.mem_map.mp present
      exact owes.eq_zero (exhausted lane among)
    rw [settled]
    exact .settled ⟨numbered, shares, settled, refilled⟩
  | @emits before after lane row split pulled held won =>
    have refilled := owes_refilled paired accounts
    rw [split, List.map_append, List.map_cons] at refilled
    obtain ⟨front, share, back, rfl, early, here, late⟩ := forall₂_append_cons refilled
    -- the row of the winner is paid, and its lane owes what is left
    obtain ⟨left, rfl, released⟩ := here.release held
    have total : (front ++ (left + 1) :: back).sum = (front ++ left :: back).sum + 1 := by
      simp only [List.sum_append, List.sum_cons]
      omega
    rw [total]
    exact .row rfl ⟨numbered, _, rfl, List.rel_append early (.cons released late)⟩

theorem rowCount : Owes (Owed isOpen) merge.rowCount.state owed := by
  obtain ⟨indexed, shares, total, paired⟩ := owes
  obtain ⟨front, back, split, state⟩ := state_rowCount merge
  rw [state]
  constructor
  · exact indexed.of_map_index (by simp [split, asked, Function.comp_def])
  · rw [split] at paired
    obtain ⟨first, rest, rfl, early, late⟩ := forall₂_append paired
    refine ⟨_, total, List.rel_append (List.forall₂_map_left_iff.mpr ?_) late⟩
    exact early.imp fun _ _ owes => owes.of_source fun _ owes => accounts.asks owes

theorem close : Owes (Owed false) merge.close.state owed := by
  obtain ⟨indexed, shares, total, paired⟩ := owes
  rw [state_close]
  constructor
  · exact indexed.of_map_index (by simp [closed, Function.comp_def])
  · refine ⟨shares, total, List.forall₂_map_left_iff.mpr ?_⟩
    exact paired.imp fun _ _ owes => owes.of_source fun _ owes => accounts.closes owes

end Owes

end Merge

theorem Cursor.Accounts.merge {σ : Type} [Cursor σ] {Declared : σ → Nat → Prop}
    {Owed : Bool → σ → Nat → Prop} (accounts : Cursor.Accounts Declared Owed) :
    Cursor.Accounts (Merge.Declares Declared) fun isOpen => Merge.Owes (Owed isOpen) where
  declares declares request := declares.perform accounts request
  counts declares := declares.answer_rowCount accounts
  resets declares ok := declares.owes_reset accounts ok
  pays owes := owes.pays accounts
  asks owes := owes.rowCount accounts
  closes owes := owes.close accounts

/-! ## Trees -/

namespace MergeTree

variable {σ : Type}

def Declares (Declared : σ → Nat → Prop) : (depth : Nat) → MergeTree σ depth → Nat → Prop
  | 0 => Declared
  | depth + 1 => Sum.elim Declared (Merge.Declares (Declares Declared depth))

def Owes (Owed : σ → Nat → Prop) : (depth : Nat) → MergeTree σ depth → Nat → Prop
  | 0 => Owed
  | depth + 1 => Sum.elim Owed (Merge.Owes (Owes Owed depth))

theorem accounts [Cursor σ] {Declared : σ → Nat → Prop} {Owed : Bool → σ → Nat → Prop}
    (leaves : Cursor.Accounts Declared Owed) (depth : Nat) :
    Cursor.Accounts (Declares Declared depth) fun isOpen => Owes (Owed isOpen) depth := by
  induction depth with
  | zero => exact leaves
  | succ depth ih => exact leaves.sum ih.merge

/-- A sum over the leaves. -/
def total (count : σ → Nat) (depth : Nat) (tree : MergeTree σ depth) : Nat :=
  ((leaves depth tree).map count).sum

theorem total_ofMerge (count : σ → Nat) {depth : Nat} (merge : Merge (MergeTree σ depth)) :
    total count (depth + 1) (ofMerge merge) =
      (merge.lanes.map fun lane => total count depth lane.source).sum := by
  rw [total, leaves_ofMerge, List.map_flatMap, List.flatMap_def, List.sum_flatten, List.map_map]
  rfl

section Built

variable [Cursor σ] {P : σ → Prop} {count : σ → Nat} {depth : Nat} {tree : MergeTree σ depth}
  (built : BuiltOver P depth tree)
include built

/-- A tree that has just been built declares the sum over its leaves. -/
theorem BuiltOver.declares {Declared : σ → Nat → Prop} (leaves : ∀ leaf, Declared leaf (count leaf))
    (fits : total count depth tree < 2 ^ 64) : Declares Declared depth tree (total count depth tree) := by
  have alone : ∀ leaf, Declared leaf [count leaf].sum := by simpa using leaves
  induction depth with
  | zero => exact alone tree
  | succ depth ih =>
    cases tree with
    | inl leaf => exact alone leaf
    | inr merge =>
      obtain ⟨order, sources, below, made⟩ := built
      obtain ⟨rfl, -⟩ := made.eq_fresh
      have sum := total_ofMerge count (Merge.fresh order sources)
      refine ⟨Merge.indexed_lanesOf sources, ⟨_, sum.symm, ?_⟩, fits, .inl rfl⟩
      refine List.forall₂_map_right_iff.mpr (List.forall₂_same.mpr fun lane member => ?_)
      -- the share of a lane is not more than the whole
      obtain ⟨front, back, split⟩ := List.append_of_mem member
      have within : total count depth lane.source ≤
          total count (depth + 1) (ofMerge (Merge.fresh order sources)) := by
        rw [sum, split, List.map_append, List.map_cons, List.sum_append, List.sum_cons]
        omega
      exact ih (below _ (Merge.source_mem_of_mem_lanesOf member)) (Nat.lt_of_le_of_lt within fits)

/-- A tree that has just been built owes the sum over its leaves: nothing waits in a buffer. -/
theorem BuiltOver.owes {Owed : σ → Nat → Prop}
    (leaves : ∀ leaf ∈ MergeTree.leaves depth tree, Owed leaf (count leaf)) :
    Owes Owed depth tree (total count depth tree) := by
  have alone : ∀ leaf, Owed leaf (count leaf) → Owed leaf [count leaf].sum := by simp
  induction depth with
  | zero => exact alone tree (leaves tree List.mem_cons_self)
  | succ depth ih =>
    cases tree with
    | inl leaf => exact alone leaf (leaves leaf List.mem_cons_self)
    | inr merge =>
      obtain ⟨order, sources, below, made⟩ := built
      obtain ⟨rfl, -⟩ := made.eq_fresh
      have sum := total_ofMerge count (Merge.fresh order sources)
      refine ⟨Merge.indexed_lanesOf sources, _, sum.symm, ?_⟩
      refine List.forall₂_map_right_iff.mpr (List.forall₂_same.mpr fun lane member => ?_)
      refine (Lane.Owes.pending_iff (Merge.pending_of_mem_lanesOf member)).mpr ?_
      refine ih (below _ (Merge.source_mem_of_mem_lanesOf member)) fun leaf present => ?_
      exact leaves leaf (List.mem_flatMap.mpr ⟨lane, member, present⟩)

end Built

/-- A tree of merges of any shape and by any orders over local scans, whose rows come to less than
`2 ^ 64`. Wherever requests lead, the row count of the root is their number, and that is how many rows
advances of the root give: from the start if its leaves are at their start, and after any reset of the
root that succeeds. -/
theorem row_count_of_rows {depth : Nat} {tree : MergeTree Scan depth}
    (built : BuiltOver (fun _ => True) depth tree) :
    let count := ((leaves depth tree).map fun leaf => leaf.rows.length).sum
    count < 2 ^ 64 →
    ((∀ leaf ∈ leaves depth tree, leaf = Scan.ofRows leaf.schema leaf.rows) →
      Cursor.Supplies tree count) ∧
    ∀ before : List Request,
      let used := (Cursor.run tree before).state
      (Cursor.rowCount used).answer = some count ∧
      ((Cursor.reset used).answer = .ok () → Cursor.Supplies (Cursor.reset used).state count) := by
  intro count fits
  have accounts := accounts Scan.accounts depth
  let length (leaf : Scan) : Nat := leaf.rows.length
  let Declared (leaf : Scan) (count : Nat) : Prop := leaf.rows.length = count
  have declares : Declares Declared depth tree (total length depth tree) :=
    built.declares (fun _ => rfl) fits
  constructor
  · intro fresh
    have owes : Owes (Scan.Owes true) depth tree (total length depth tree) := by
      refine built.owes fun leaf member => ?_
      rw [fresh leaf member]
      exact Scan.owes_ofRows leaf.schema leaf.rows
    exact accounts.supplies owes
  · intro before used
    have used_declares := accounts.declares_run declares before
    exact ⟨accounts.counts used_declares,
      fun ok => accounts.supplies (accounts.resets used_declares ok)⟩

/-- Two merges by opposite orders, four rows, and a reset amid rows in the buffers of both. -/
theorem row_count_of_rows_of_nested_scans :
    let rising := compareOn Row.arity
    let falling (first second : Row) : Ordering := rising second first
    let one : Row := ⟨[.integer 1]⟩
    let two : Row := ⟨[.integer 1, .integer 2]⟩
    let inner : MergeTree Scan 1 :=
      .ofMerge (Merge.fresh falling [Scan.ofRows .empty [two, one], Scan.empty .empty])
    let tree : MergeTree Scan 2 :=
      .ofMerge (Merge.fresh rising [inner, .leaf (.ofRows .empty [one, two]) 1])
    let used := (Cursor.run tree [.advance, .rowCount, .advance]).state
    (Cursor.rowCount used).answer = some 4 ∧ Cursor.Supplies tree 4 ∧
      (Cursor.reset used).answer = .ok () ∧ Cursor.Supplies (Cursor.reset used).state 4 := by
  intro rising falling one two inner tree used
  have below : BuiltOver (fun _ : Scan => True) 1 inner :=
    ⟨falling, [Scan.ofRows .empty [two, one], Scan.empty .empty], fun _ _ => trivial, {}, _, rfl, rfl⟩
  have built : BuiltOver (fun _ : Scan => True) 2 tree := by
    refine ⟨rising, [inner, .leaf (.ofRows .empty [one, two]) 1], ?_, {}, _, rfl, rfl⟩
    exact List.forall_mem_cons.mpr ⟨below, List.forall_mem_singleton.mpr trivial⟩
  have fresh : ∀ leaf ∈ leaves 2 tree, leaf = Scan.ofRows leaf.schema leaf.rows := by
    refine List.forall_mem_cons.mpr ⟨rfl, List.forall_mem_cons.mpr ⟨rfl, ?_⟩⟩
    exact List.forall_mem_singleton.mpr rfl
  obtain ⟨start, later⟩ := row_count_of_rows built (by decide)
  obtain ⟨count, supplies⟩ := later [.advance, .rowCount, .advance]
  have ok : (Cursor.reset used).answer = .ok () := by decide
  exact ⟨count, start fresh, ok, supplies ok⟩

end MergeTree

end RowMerge
