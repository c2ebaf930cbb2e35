import RowMerge.Cursor.Remote
import RowMerge.Cursor.Request

/-!
# Steps of a remote scan

An advance of an open remote scan does one of three things: it delivers from the rows received before, it
fails with its pager, or it receives a page and delivers from that. Over a list of rows the scan stands
before what is left of the list, which are the rows on its page and those past the ones it has received;
and whatever the length of a page is, an advance takes the first row of what is left.
-/
namespace RowMerge

/-! ## Pagers of a list -/

namespace Pager

/-- Rows of a list from an offset on: as many as are asked for or left, or more. -/
def PageOf (rows : List Row) (offset limit : Nat) (page : List Row) : Prop :=
  ∃ size, page = (rows.drop offset).take size ∧ min limit (rows.length - offset) ≤ size

variable {φ : Type} [Pager φ] {released : Prop}

/-- The states that a pager is led to by fetches and, if `released`, by attempts to release it. -/
inductive Reaches (released : Prop) (pager : φ) : φ → Prop
  | start : Reaches released pager pager
  | fetch {later : φ} (reached : Reaches released pager later) (offset limit : Nat) :
      Reaches released pager (Pager.fetch later offset limit).state
  | release {later : φ} (attempted : released) (reached : Reaches released pager later) :
      Reaches released pager (Pager.release later).state

theorem Reaches.trans {first second third : φ} (reached : Reaches released first second)
    (on : Reaches released second third) : Reaches released first third := by
  induction on with
  | start => exact reached
  | fetch _ offset limit ih => exact .fetch ih offset limit
  | release attempted _ ih => exact .release attempted ih

theorem Reaches.of_fetch {pager later : φ} {offset limit : Nat}
    (reached : Reaches released (Pager.fetch pager offset limit).state later) :
    Reaches released pager later :=
  (Reaches.fetch .start offset limit).trans reached

theorem Reaches.keeps {P : φ → Prop} {pager later : φ} (reached : Reaches released pager later)
    (fetches : ∀ pager offset limit, P pager → P (Pager.fetch pager offset limit).state)
    (releases : ∀ pager, released → P pager → P (Pager.release pager).state) (initial : P pager) :
    P later := by
  induction reached with
  | start => exact initial
  | fetch _ offset limit ih => exact fetches _ offset limit ih
  | release attempted _ ih => exact releases _ attempted ih

end Pager

namespace Remote

variable {φ : Type} {scan : Remote φ}

theorem needsPage_iff : scan.needsPage = true ↔ scan.page = [] ∧ scan.drained = false := by
  simp [needsPage]

/-! ## Scans of a list of rows -/

/-- An open remote scan of a list of rows that has the rows of another list still to deliver. -/
structure Ahead (rows rest : List Row) (scan : Remote φ) : Prop where
  isOpen : scan.closed = false
  pageSize_pos : 0 < scan.pageSize
  left : scan.page ++ rows.drop scan.received = rest
  drained : scan.drained = true → rows.drop scan.received = []

namespace Ahead

variable {rows rest page : List Row}

theorem ofPager (rows : List Row) (schema : Schema) (pager : φ) (pageSize : Nat) :
    Ahead rows rows (Remote.ofPager schema pager pageSize) where
  isOpen := rfl
  pageSize_pos := Nat.lt_of_lt_of_le Nat.zero_lt_one (Nat.le_max_right pageSize 1)
  left := rfl
  drained := nofun

variable (ahead : Ahead rows rest scan)
include ahead

/-- The rows of a page and those behind it, and a short page shows that there are none behind it. -/
theorem split_page (empty : scan.page = [])
    (paged : Pager.PageOf rows scan.received scan.pageSize page) :
    page ++ rows.drop (scan.received + page.length) = rest ∧
      (page.length < scan.pageSize → rows.drop (scan.received + page.length) = []) := by
  obtain ⟨size, rfl, enough⟩ := paged
  have left : rows.drop scan.received = rest := by simpa [empty] using ahead.left
  generalize taken : (rows.drop scan.received).take size = page
  have length : page.length = min size (rows.length - scan.received) := by simp [← taken]
  constructor
  · rw [← List.drop_drop, ← left, length, ← taken]
    -- a page is cut off by its size, or it is all that is left
    rcases Nat.le_total size (rows.length - scan.received) with within | beyond
    · rw [Nat.min_eq_left within]
      exact List.take_append_drop size _
    · rw [Nat.min_eq_right beyond, ← List.length_drop, List.drop_length, List.append_nil]
      exact List.take_of_length_le (by simpa using beyond)
  · intro short
    apply List.drop_eq_nil_of_le
    omega

/-- After a page has come, no row on the page means no row left. -/
theorem receive (needed : scan.needsPage = true)
    (paged : Pager.PageOf rows scan.received scan.pageSize page) :
    Ahead rows rest (scan.receive page) ∧ ((scan.receive page).page = [] → rest = []) := by
  obtain ⟨empty, undrained⟩ := needsPage_iff.mp needed
  obtain ⟨split, short⟩ := ahead.split_page empty paged
  refine ⟨⟨ahead.isOpen, ahead.pageSize_pos, ?_, ?_⟩, ?_⟩
  · simpa [Remote.receive, empty] using split
  · intro drained
    exact short (by simpa [Remote.receive, undrained] using drained)
  · -- an empty page is a short one
    intro none
    obtain rfl : page = [] := by simpa [Remote.receive, empty] using none
    rw [← split, short ahead.pageSize_pos, List.append_nil]

/-- Once there is a page, or nothing is left, the next row is the first of those that are left. -/
theorem deliver (present : scan.page = [] → rest = []) :
    scan.deliver.current = rest.head? ∧ Ahead rows rest.tail scan.deliver := by
  have left := ahead.left
  cases page : scan.page with
  | nil =>
    obtain rfl := present page
    refine ⟨by simp [Remote.deliver, page], ahead.isOpen, ahead.pageSize_pos, ?_, ahead.drained⟩
    simpa [Remote.deliver, page] using left
  | cons row more =>
    rw [page] at left
    obtain rfl := left
    exact ⟨by simp [Remote.deliver, page], ahead.isOpen, ahead.pageSize_pos,
      by simp [Remote.deliver, page], ahead.drained⟩

theorem of_pager (pager : φ) : Ahead rows rest { scan with pager } :=
  ⟨ahead.isOpen, ahead.pageSize_pos, ahead.left, ahead.drained⟩

end Ahead

/-! ## The cases of an advance -/

variable [Pager φ]

/-- The request for the page that comes next. -/
def asked (scan : Remote φ) : Outcome φ (Except Fault (List Row)) :=
  Pager.fetch scan.pager scan.received scan.pageSize

/-- The scan over its pager as that request leaves it. -/
def afterAsking (scan : Remote φ) : Remote φ := { scan with pager := scan.asked.state }

theorem fetchPage_of_fault {fault : Fault} (refused : scan.asked.answer = .error fault) :
    scan.fetchPage.answer = .error fault ∧ scan.fetchPage.state = scan.afterAsking := by
  unfold asked at refused
  simp [fetchPage, refused, afterAsking, asked]

theorem fetchPage_of_page {page : List Row} (came : scan.asked.answer = .ok page) :
    scan.fetchPage.answer = .ok () ∧ scan.fetchPage.state = scan.afterAsking.receive page := by
  unfold asked at came
  simp [fetchPage, came, afterAsking, asked]

theorem advance_of_fault {fault : Fault} (isOpen : scan.closed = false) (needed : scan.needsPage = true)
    (refused : scan.asked.answer = .error fault) :
    scan.advance.answer = .error fault ∧ scan.advance.state = scan.afterAsking := by
  obtain ⟨failed, left⟩ := fetchPage_of_fault refused
  simp [advance, isOpen, needed, failed, left]

/-- What an advance of an open scan answers, and the scan after it. -/
inductive Advances (scan : Remote φ) : Except Fault Bool → Remote φ → Prop
  | delivers (stocked : scan.needsPage = false) :
      Advances scan (.ok scan.deliver.current.isSome) scan.deliver
  | fails {fault : Fault} (needed : scan.needsPage = true)
      (refused : scan.asked.answer = .error fault) :
      Advances scan (.error fault) scan.afterAsking
  | receives {page : List Row} (needed : scan.needsPage = true)
      (came : scan.asked.answer = .ok page) :
      Advances scan (.ok (scan.afterAsking.receive page).deliver.current.isSome)
        (scan.afterAsking.receive page).deliver

theorem advances (isOpen : scan.closed = false) :
    Advances scan scan.advance.answer scan.advance.state := by
  cases needed : scan.needsPage with
  | false =>
    obtain ⟨answer, state⟩ : scan.advance.answer = .ok scan.deliver.current.isSome ∧
        scan.advance.state = scan.deliver := by
      simp [advance, isOpen, needed]
    rw [answer, state]
    exact .delivers needed
  | true =>
    cases came : scan.asked.answer with
    | error fault =>
      obtain ⟨answer, state⟩ := advance_of_fault isOpen needed came
      rw [answer, state]
      exact .fails needed came
    | ok page =>
      obtain ⟨fetched, left⟩ := fetchPage_of_page came
      obtain ⟨answer, state⟩ : scan.advance.answer =
          .ok (scan.afterAsking.receive page).deliver.current.isSome ∧
          scan.advance.state = (scan.afterAsking.receive page).deliver := by
        simp [advance, isOpen, needed, fetched, left]
      rw [answer, state]
      exact .receives needed came

theorem Ahead.advance {rows rest : List Row} (ahead : Ahead rows rest scan)
    (paged : ∀ page, scan.asked.answer = .ok page →
      Pager.PageOf rows scan.received scan.pageSize page) :
    (∃ fault, scan.asked.answer = .error fault ∧ scan.advance.answer = .error fault ∧
      Ahead rows rest scan.advance.state) ∨
    scan.advance.answer = .ok rest.head?.isSome ∧ scan.advance.state.current = rest.head? ∧
      Ahead rows rest.tail scan.advance.state := by
  have asking : Ahead rows rest scan.afterAsking := ahead.of_pager scan.asked.state
  have step := advances ahead.isOpen
  generalize scan.advance.answer = answer, scan.advance.state = next at step ⊢
  cases step with
  | delivers stocked =>
    -- no page is needed, so there is one, or none is left to come
    have present : scan.page = [] → rest = [] := by
      intro empty
      have drained : scan.drained = true := by simpa [needsPage, empty] using stocked
      rw [← ahead.left, empty, ahead.drained drained, List.append_nil]
    obtain ⟨current, next⟩ := ahead.deliver present
    exact .inr ⟨by rw [current], current, next⟩
  | @fails fault needed refused => exact .inl ⟨fault, refused, rfl, asking⟩
  | @receives page needed came =>
    obtain ⟨received, present⟩ := asking.receive needed (paged page came)
    obtain ⟨current, next⟩ := received.deliver present
    exact .inr ⟨by rw [current], current, next⟩

/-! ## The cases of a request -/

/-- The scan at its start again. The pager is not told. -/
def rewound (scan : Remote φ) : Remote φ :=
  { scan with received := 0, page := [], current := none, drained := false }

theorem reset_of_open (isOpen : scan.closed = false) :
    Cursor.reset scan = .silent (.ok ()) scan.rewound := by
  simp [Cursor.reset, reset, isOpen, rewound]

/-- An open scan after a request that does not close it. -/
inductive Performs (scan : Remote φ) : Request → Remote φ → Prop
  | advances : Performs scan .advance scan.advance.state
  | rewinds : Performs scan .reset scan.rewound
  | stays {request : Request} (waits : request ≠ .advance) (forward : request ≠ .reset) :
      Performs scan request scan

theorem performs (isOpen : scan.closed = false) {request : Request} (unclosed : request ≠ .close) :
    Performs scan request (Cursor.perform scan request).state := by
  cases request with
  | advance => exact .advances
  | reset =>
    rw [Cursor.perform, reset_of_open isOpen]
    exact .rewinds
  | close => exact absurd rfl unclosed
  | currentRow | rowCount | needsClose | schema => exact .stays nofun nofun

/-! ## What requests keep -/

/-- What a request leaves of a scan if it does not close it. Only an advance reaches the pager. -/
structure Keeps (scan : Remote φ) (request : Request) (next : Remote φ) : Prop where
  closed : next.closed = scan.closed
  schema : next.schema = scan.schema
  pageSize : next.pageSize = scan.pageSize
  pager : next.pager = scan.pager ∨ request = .advance ∧ next.pager = scan.asked.state

/-- What holds of the pager before and after a request for a page holds of it after the step. -/
theorem Keeps.pager_of {P : φ → Prop} {request : Request} {next : Remote φ}
    (keeps : Keeps scan request next) (before : P scan.pager) (fetched : P scan.asked.state) :
    P next.pager := by
  rcases keeps.pager with same | ⟨-, asked⟩
  · rw [same]
    exact before
  · rw [asked]
    exact fetched

theorem keeps_advance (scan : Remote φ) : Keeps scan .advance scan.advance.state := by
  cases isOpen : scan.closed with
  | true =>
    have unmoved : scan.advance.state = scan := by simp [advance, isOpen]
    rw [unmoved]
    exact ⟨rfl, rfl, rfl, .inl rfl⟩
  | false =>
    -- the pager is asked where a page is needed, whether one comes or not
    have step := advances isOpen
    generalize scan.advance.answer = answer, scan.advance.state = next at step ⊢
    cases step with
    | delivers stocked => exact ⟨rfl, rfl, rfl, .inl rfl⟩
    | fails needed refused => exact ⟨rfl, rfl, rfl, .inr ⟨rfl, rfl⟩⟩
    | receives needed came => exact ⟨rfl, rfl, rfl, .inr ⟨rfl, rfl⟩⟩

theorem keeps_reset (scan : Remote φ) : Keeps scan .reset scan.reset.state := by
  unfold reset
  split <;> exact ⟨rfl, rfl, rfl, .inl rfl⟩

theorem keeps_perform (scan : Remote φ) {request : Request} (other : request ≠ .close) :
    Keeps scan request (Cursor.perform scan request).state := by
  cases request with
  | advance => exact scan.keeps_advance
  | reset => exact scan.keeps_reset
  | close => exact absurd rfl other
  | currentRow | rowCount | needsClose | schema => exact ⟨rfl, rfl, rfl, .inl rfl⟩

end Remote

end RowMerge
