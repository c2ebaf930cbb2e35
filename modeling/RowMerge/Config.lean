import RowMerge.Fault
/-!
# Configuration of merges

The limits that a merge and its remote sources are set up with, and the name and version that the
program is known by.
-/
namespace RowMerge

def programName : String := "sorted-merge"

def programVersion : String := "0.0.1"

structure Config where
  /-- Refuse sources whose schema differs from that of the first. -/
  checkSchema : Bool := true
  /-- The greatest number of sources of one merge. -/
  maxLanes : UInt64 := 1024
  /-- The number of rows that a remote source asks for at a time. -/
  fetchSize : UInt64 := 100
  deriving DecidableEq

namespace Config

instance : Inhabited Config := ⟨{}⟩

/-- The default limits without the check of schemas. -/
def unchecked : Config := { checkSchema := false }

/-- What is wrong with a configuration, the number of lanes looked at first. -/
def defect? (config : Config) : Option String :=
  if config.maxLanes = 0 then some "max_lanes must be > 0"
  else if config.fetchSize = 0 then some "fetch_size must be > 0"
  else none

def validate (config : Config) : Except Fault Unit :=
  match config.defect? with
  | some defect => .error (.configuration defect)
  | none => .ok ()

end Config

end RowMerge
