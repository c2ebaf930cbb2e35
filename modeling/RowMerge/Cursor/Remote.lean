import RowMerge.Cursor.Basic
import RowMerge.Config
/-!
# Remote scans

A cursor over rows that are fetched in pages. A page is fetched only when a row is asked for and all
rows received have been delivered. A page shorter than asked for is the last one; a longer one is
taken whole, so that the next offset is the number of rows received.
-/
namespace RowMerge

/-- Access to remote rows by pages, with states `φ`. A pager need not know its row count, nor hold
anything that is to be released. -/
class Pager (φ : Type) where
  fetch : φ → Nat → Nat → Outcome φ (Except Fault (List Row))
  rowCount : φ → Option Nat := fun _ => none
  release : φ → Outcome φ (Except Fault Unit) := .silent (.ok ())

structure Remote (φ : Type) where
  schema : Schema
  pager : φ
  pageSize : Nat
  /-- The number of rows received since the start. -/
  received : Nat
  /-- The rows received and not yet delivered. -/
  page : List Row
  current : Option Row
  /-- Whether a short page has come. -/
  drained : Bool
  closed : Bool

namespace Remote

variable {φ : Type}

/-- A remote scan at its start. A page has at least one row. -/
def ofPager (schema : Schema) (pager : φ) (pageSize : Nat) : Remote φ where
  schema
  pager
  pageSize := max pageSize 1
  received := 0
  page := []
  current := none
  drained := false
  closed := false

def ofConfig (schema : Schema) (pager : φ) (config : Config) : Remote φ :=
  ofPager schema pager config.fetchSize.toNat

def advancedWhenClosed : Fault := .source "advance called on a closed remote scan"

def resetWhenClosed : Fault := .source "reset called on a closed remote scan"

def receive (scan : Remote φ) (rows : List Row) : Remote φ :=
  { scan with
    received := scan.received + rows.length
    page := scan.page ++ rows
    drained := scan.drained || decide (rows.length < scan.pageSize) }

def deliver (scan : Remote φ) : Remote φ :=
  { scan with current := scan.page.head?, page := scan.page.tail }

/-- Whether a row that is asked for has to be fetched. -/
def needsPage (scan : Remote φ) : Bool := scan.page.isEmpty && !scan.drained

variable [Pager φ]

/-- Asks for the next page; a fault leaves all but the pager as it was. -/
def fetchPage (scan : Remote φ) : Outcome (Remote φ) (Except Fault Unit) :=
  (Pager.fetch scan.pager scan.received scan.pageSize).bind fun answer pager =>
    match answer with
    | .error fault => .silent (.error fault) { scan with pager }
    | .ok rows =>
      (Outcome.silent (.ok ()) ({ scan with pager }.receive rows)).after
        (.note (.fetched rows.length scan.received scan.pageSize))

def advance (scan : Remote φ) : Outcome (Remote φ) (Except Fault Bool) :=
  if scan.closed then .silent (.error advancedWhenClosed) scan
  else
    (if scan.needsPage then scan.fetchPage else .silent (.ok ()) scan).bind fun answer scan =>
      match answer with
      | .error fault => .silent (.error fault) scan
      | .ok () => .silent (.ok scan.deliver.current.isSome) scan.deliver

def reset (scan : Remote φ) : Outcome (Remote φ) (Except Fault Unit) :=
  if scan.closed then .silent (.error resetWhenClosed) scan
  else .silent (.ok ()) { scan with received := 0, page := [], current := none, drained := false }

/-- The rows received are dropped in any case; the scan is closed once its pager is released. -/
def close (scan : Remote φ) : Outcome (Remote φ) (Except Fault Unit) :=
  if scan.closed then .silent (.ok ()) scan
  else
    (Pager.release scan.pager).bind fun answer pager =>
      let emptied := { scan with pager, page := [], current := none }
      match answer with
      | .error fault => .silent (.error fault) emptied
      | .ok () => .silent (.ok ()) { emptied with closed := true }

instance : Cursor (Remote φ) where
  advance := advance
  reset := reset
  close := close
  rowCount scan := .silent (Pager.rowCount scan.pager) scan
  currentRow := current
  needsClose scan := !scan.closed
  schema := schema

end Remote

end RowMerge
