import RowMerge.Cursor.Basic
/-!
# Broken sources

A cursor without rows that fails: once when it is first advanced, or whenever it is closed. It
stands for a source whose scan or whose release breaks.
-/
namespace RowMerge

structure Broken where
  schema : Schema
  /-- The fault of the next advance; it occurs once. -/
  advanceFault : Option Fault
  closeFault : Option Fault
  closed : Bool

namespace Broken

def onAdvance (schema : Schema) (fault : Fault) : Broken := ⟨schema, some fault, none, false⟩

def onClose (schema : Schema) (fault : Fault) : Broken := ⟨schema, none, some fault, false⟩

def advance (source : Broken) : Outcome Broken (Except Fault Bool) :=
  match source.advanceFault with
  | some fault => .silent (.error fault) { source with advanceFault := none }
  | none => .silent (.ok false) source

def close (source : Broken) : Outcome Broken (Except Fault Unit) :=
  match source.closeFault with
  | some fault => .silent (.error fault) source
  | none => .silent (.ok ()) { source with closed := true }

instance : Cursor Broken where
  advance := advance
  reset := .silent (.ok ())
  close := close
  rowCount := .silent none
  currentRow _ := none
  needsClose source := !source.closed
  schema := schema

end Broken

end RowMerge
