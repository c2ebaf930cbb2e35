import RowMerge.Calendar.Civil
import RowMerge.Calendar.Rfc3339
import RowMerge.Config
import RowMerge.Cursor.Basic
import RowMerge.Cursor.Broken
import RowMerge.Cursor.Drain
import RowMerge.Cursor.Remote
import RowMerge.Cursor.Request
import RowMerge.Cursor.Scan
import RowMerge.Cursor.Watched
import RowMerge.Json.Basic
import RowMerge.Json.Document
import RowMerge.Lane
import RowMerge.Merge
import RowMerge.MergeTree
import RowMerge.Proofs.Advanced
import RowMerge.Proofs.Alike
import RowMerge.Proofs.Calls
import RowMerge.Proofs.Consistency
import RowMerge.Proofs.Counts
import RowMerge.Proofs.Driving
import RowMerge.Proofs.Flattening
import RowMerge.Proofs.Grouping
import RowMerge.Proofs.Nesting
import RowMerge.Proofs.PagerUses
import RowMerge.Proofs.Paging
import RowMerge.Proofs.Pairing
import RowMerge.Proofs.Replay
import RowMerge.Proofs.Retries
import RowMerge.Proofs.Rewinding
import RowMerge.Proofs.Runs
import RowMerge.Proofs.Selection
import RowMerge.Proofs.Simulation
import RowMerge.Proofs.SortedOutput
import RowMerge.Proofs.StableSort
import RowMerge.Proofs.Steps
import RowMerge.Proofs.Trees
import RowMerge.Proofs.ValueOrder
import RowMerge.Records
import RowMerge.Proofs.Closing
import RowMerge.Proofs.SortKeys
import RowMerge.Proofs.ClosedTrees
import RowMerge.Proofs.CountsAside
import RowMerge.Proofs.PullCounts
import RowMerge.Proofs.Cleanup
import RowMerge.Proofs.LaneOrder
import RowMerge.Proofs.Draining
import RowMerge.Proofs.ExactValues
import RowMerge.Proofs.KeyLists
import RowMerge.Proofs.RemoteSteps
import RowMerge.Proofs.Fetches
import RowMerge.Proofs.FlatTrees
import RowMerge.Proofs.FailedRelease
import RowMerge.Proofs.EqualValues
import RowMerge.Proofs.IntegerReadings
import RowMerge.Proofs.LeastRow
import RowMerge.Proofs.PartialCalls
import RowMerge.Proofs.Construction
import RowMerge.Proofs.RowTotals
import RowMerge.Proofs.ReleasedScans
import RowMerge.Proofs.Sessions
import RowMerge.Proofs.NumeralSpelling
import RowMerge.Proofs.TokenSpelling
import RowMerge.Proofs.DocumentSpelling
import RowMerge.Proofs.ReadBack
import RowMerge.Proofs.PassedFaults
import RowMerge.Proofs.Settings
