/-!
# Faults

What can go wrong with a merge. The faults of a row source pass through a merge unchanged; a merge
adds those of its construction and the one of a source that moves to a row and shows none.
-/
namespace RowMerge

inductive Fault where
  | source (reason : String)
  | invalidMerge (reason : String)
  | schemaMismatch (lane : Nat) (expected found : String)
  | closeFailed (lane : Nat) (reason : String)
  | configuration (reason : String)
  deriving DecidableEq

namespace Fault

def message : Fault → String
  | source reason => "Source error: " ++ reason
  | invalidMerge reason => "Invalid merge: " ++ reason
  | schemaMismatch lane expected found =>
    s!"Schema mismatch on lane {lane}: expected {expected}, found {found}"
  | closeFailed lane reason => s!"Failed to close lane {lane}: {reason}"
  | configuration reason => "Configuration error: " ++ reason

/-- A source answered that it moved to a row, but has no current row. -/
def noCurrentRow (lane : Nat) : Fault :=
  source s!"lane {lane} advanced but exposes no current row"

def noSources : Fault := invalidMerge "a sorted merge needs at least one source"

def tooManySources (sources limit : Nat) : Fault :=
  invalidMerge s!"{sources} sources exceed the limit of {limit} lanes"

end Fault

end RowMerge
