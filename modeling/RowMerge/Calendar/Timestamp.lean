import RowMerge.Calendar.Civil
/-!
# Timestamps

A timestamp is an instant in UTC: whole seconds from 1970-01-01 and nanoseconds. A leap second
is told by a nanosecond count of one second or more, so that it is ordered after the second that
it follows and before the next one. A timestamp that is made from counts has it after the last
second of a minute only.
-/
namespace RowMerge

def nanosPerSecond : Nat := 1000000000

def secondsPerDay : Int := 86400

/-- An instant in UTC, with a leap second counted as nanoseconds past the second that it follows. -/
structure Timestamp where
  seconds : Int
  nanos : Nat
  nanos_lt : nanos < 2 * nanosPerSecond
  deriving DecidableEq

namespace Timestamp

/-- The timestamp with the given counts, if there is one. A leap second follows the last second of
a minute. -/
def ofUnix? (seconds : Int) (nanos : Nat) : Option Timestamp :=
  if h : nanos < 2 * nanosPerSecond ∧ (nanosPerSecond ≤ nanos → seconds % 60 = 59) then
    some ⟨seconds, nanos, h.1⟩
  else none

def order (s t : Timestamp) : Ordering :=
  (compare s.seconds t.seconds).then (compare s.nanos t.nanos)

def date (t : Timestamp) : CivilDate := .ofDays (t.seconds / secondsPerDay)

def secondOfDay (t : Timestamp) : Nat := (t.seconds % secondsPerDay).toNat

def isLeap (t : Timestamp) : Bool := nanosPerSecond ≤ t.nanos

/-- The nanoseconds within the second shown. -/
def subsecond (t : Timestamp) : Nat := t.nanos % nanosPerSecond

/-- The decimal digits of a number, with zeros in front up to a width. -/
def padded (width n : Nat) : List Char :=
  let digits := Nat.toDigits 10 n
  List.replicate (width - digits.length) '0' ++ digits

/-- Years 0 to 9999 have four digits, all others a sign and at least four. -/
def yearText (year : Int) : List Char :=
  if 0 ≤ year ∧ year ≤ 9999 then padded 4 year.toNat
  else (if year < 0 then '-' else '+') :: padded 4 year.natAbs

def dateText (t : Timestamp) : List Char :=
  yearText t.date.year ++ '-' :: padded 2 t.date.month ++ '-' :: padded 2 t.date.day

/-- Hours, minutes and seconds; a leap second is second 60. -/
def clockText (t : Timestamp) : List Char :=
  padded 2 (t.secondOfDay / 3600) ++ ':' :: padded 2 (t.secondOfDay / 60 % 60) ++
    ':' :: padded 2 (t.secondOfDay % 60 + if t.isLeap then 1 else 0)

/-- The timestamp as it is displayed, to the second. -/
def display (t : Timestamp) : String :=
  String.ofList (t.dateText ++ ' ' :: t.clockText ++ " UTC".toList)

example : (ofUnix? (-1) 1500000000).map display = some "1969-12-31 23:59:60 UTC" := by
  decide +kernel

end Timestamp

end RowMerge
