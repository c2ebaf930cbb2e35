import RowMerge.Fault
/-!
# Outcomes

Rows are pulled through objects that change with every call. A call is a function from the state
of such an object to an outcome: an answer, the state after the call, and the events of the call in
the order in which they happened. Events are the notes that the library leaves for its log, and the
calls that reach objects under watch. Nothing ever depends on an event.
-/
namespace RowMerge

/-- A call that reaches a watched object. `fetch` and `release` are calls to a pager. -/
inductive Call where
  | advance
  | rowCount
  | reset
  | close
  | fetch (offset limit : Nat)
  | release
  deriving DecidableEq

inductive LogLevel where
  | trace
  | debug
  | warn
  deriving DecidableEq

namespace LogLevel

def name : LogLevel → String
  | trace => "TRACE"
  | debug => "DEBUG"
  | warn => "WARN"

end LogLevel

inductive Note where
  | created (lanes : Nat)
  | resetting (lanes : Nat)
  | laneExhausted (lane : Nat)
  | laneWins (lane : Nat)
  | mergeExhausted
  | closeFailed (lane : Nat) (fault : Fault)
  | fetched (rows offset pageSize : Nat)
  deriving DecidableEq

namespace Note

def level : Note → LogLevel
  | created _ => .debug
  | resetting _ => .debug
  | laneExhausted _ => .debug
  | laneWins _ => .trace
  | mergeExhausted => .debug
  | closeFailed _ _ => .warn
  | fetched _ _ _ => .trace

def text : Note → String
  | created lanes => s!"Creating sorted merge over {lanes} lanes"
  | resetting lanes => s!"Resetting sorted merge over {lanes} lanes"
  | laneExhausted lane => s!"lane {lane} exhausted"
  | laneWins lane => s!"lane {lane} wins this round"
  | mergeExhausted => "sorted merge exhausted"
  | closeFailed lane fault => s!"Failed to close lane {lane}: " ++ fault.message
  | fetched rows offset pageSize =>
    s!"fetched {rows} rows at offset {offset} (page size {pageSize})"

def line (note : Note) : String := note.level.name ++ " " ++ note.text

end Note

/-- What happens during a call besides its answer: a note, or a call that reaches the watched
object of a name. -/
inductive Event where
  | note (note : Note)
  | call (name : String) (call : Call)
  deriving DecidableEq

/-- The result of a call on an object with states `σ`. -/
structure Outcome (σ α : Type) where
  answer : α
  state : σ
  events : List Event

namespace Outcome

variable {σ τ α β : Type}

def silent (answer : α) (state : σ) : Outcome σ α := ⟨answer, state, []⟩

/-- What follows a call; the events of the call come first. -/
def bind (outcome : Outcome σ α) (next : α → σ → Outcome τ β) : Outcome τ β :=
  let later := next outcome.answer outcome.state
  ⟨later.answer, later.state, outcome.events ++ later.events⟩

def map (f : α → β) (outcome : Outcome σ α) : Outcome σ β :=
  ⟨f outcome.answer, outcome.state, outcome.events⟩

/-- The outcome for an object that holds the one called. -/
def mapState (f : σ → τ) (outcome : Outcome σ α) : Outcome τ α :=
  ⟨outcome.answer, f outcome.state, outcome.events⟩

def after (event : Event) (outcome : Outcome σ α) : Outcome σ α :=
  ⟨outcome.answer, outcome.state, event :: outcome.events⟩

/-- Calls on every member of a list, from the left, up to and including the first that fails. The
members after it are not called. -/
def untilFault (step : σ → Outcome σ (Except Fault Unit)) :
    List σ → Outcome (List σ) (Except Fault Unit)
  | [] => silent (.ok ()) []
  | member :: rest => (step member).bind fun answer member =>
    match answer with
    | .error fault => silent (.error fault) (member :: rest)
    | .ok () => (untilFault step rest).mapState (member :: ·)

@[simp] theorem answer_silent (answer : α) (state : σ) : (silent answer state).answer = answer :=
  rfl

@[simp] theorem state_silent (answer : α) (state : σ) : (silent answer state).state = state := rfl

@[simp] theorem events_silent (answer : α) (state : σ) : (silent answer state).events = [] := rfl

@[simp] theorem answer_bind (outcome : Outcome σ α) (next : α → σ → Outcome τ β) :
    (outcome.bind next).answer = (next outcome.answer outcome.state).answer := rfl

@[simp] theorem state_bind (outcome : Outcome σ α) (next : α → σ → Outcome τ β) :
    (outcome.bind next).state = (next outcome.answer outcome.state).state := rfl

@[simp] theorem events_bind (outcome : Outcome σ α) (next : α → σ → Outcome τ β) :
    (outcome.bind next).events =
      outcome.events ++ (next outcome.answer outcome.state).events := rfl

@[simp] theorem answer_map (f : α → β) (outcome : Outcome σ α) :
    (outcome.map f).answer = f outcome.answer := rfl

@[simp] theorem state_map (f : α → β) (outcome : Outcome σ α) :
    (outcome.map f).state = outcome.state := rfl

@[simp] theorem events_map (f : α → β) (outcome : Outcome σ α) :
    (outcome.map f).events = outcome.events := rfl

@[simp] theorem answer_mapState (f : σ → τ) (outcome : Outcome σ α) :
    (outcome.mapState f).answer = outcome.answer := rfl

@[simp] theorem state_mapState (f : σ → τ) (outcome : Outcome σ α) :
    (outcome.mapState f).state = f outcome.state := rfl

@[simp] theorem events_mapState (f : σ → τ) (outcome : Outcome σ α) :
    (outcome.mapState f).events = outcome.events := rfl

@[simp] theorem answer_after (event : Event) (outcome : Outcome σ α) :
    (outcome.after event).answer = outcome.answer := rfl

@[simp] theorem state_after (event : Event) (outcome : Outcome σ α) :
    (outcome.after event).state = outcome.state := rfl

@[simp] theorem events_after (event : Event) (outcome : Outcome σ α) :
    (outcome.after event).events = event :: outcome.events := rfl

/-- The members keep their number, whether the calls succeed or not. -/
theorem length_untilFault (step : σ → Outcome σ (Except Fault Unit)) (members : List σ) :
    (untilFault step members).state.length = members.length := by
  induction members with
  | nil => rfl
  | cons member rest ih =>
    simp only [untilFault, state_bind]
    split <;> simp [ih]

end Outcome

end RowMerge
