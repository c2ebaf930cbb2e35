import RowMerge.Cursor.Basic
/-!
# Local scans

A cursor over rows at hand. The rows before the cursor are kept, so that it can go back.
-/
namespace RowMerge

/-- A cursor over a list of rows. It stands before the first row, at a row, or past the last. -/
structure Scan where
  schema : Schema
  rows : List Row
  position : Option Nat
  closed : Bool

namespace Scan

def ofRows (schema : Schema) (rows : List Row) : Scan := ⟨schema, rows, none, false⟩

def empty (schema : Schema) : Scan := ofRows schema []

def advancedWhenClosed : Fault := .source "advance called on a closed scan"

def resetWhenClosed : Fault := .source "reset called on a closed scan"

def nextPosition (scan : Scan) : Nat := scan.position.elim 0 (· + 1)

/-- Past the last row the scan stays there. -/
def advance (scan : Scan) : Outcome Scan (Except Fault Bool) :=
  if scan.closed then .silent (.error advancedWhenClosed) scan
  else if scan.nextPosition < scan.rows.length then
    .silent (.ok true) { scan with position := some scan.nextPosition }
  else .silent (.ok false) { scan with position := some scan.rows.length }

def reset (scan : Scan) : Outcome Scan (Except Fault Unit) :=
  if scan.closed then .silent (.error resetWhenClosed) scan
  else .silent (.ok ()) { scan with position := none }

def close (scan : Scan) : Outcome Scan (Except Fault Unit) :=
  .silent (.ok ()) { scan with closed := true, position := none }

def currentRow (scan : Scan) : Option Row := scan.position.bind fun position => scan.rows[position]?

instance : Cursor Scan where
  advance := advance
  reset := reset
  close := close
  rowCount scan := .silent (some scan.rows.length) scan
  currentRow := currentRow
  needsClose scan := !scan.closed
  schema := schema

end Scan

end RowMerge
