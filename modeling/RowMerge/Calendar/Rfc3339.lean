import RowMerge.Calendar.Timestamp
/-!
# RFC 3339 text of timestamps

Written: the date, `T`, the time of day in UTC, as many groups of three fraction digits as are
needed, and `Z`. Read: any offset, converted to UTC, and with some freedom: a space or a small
letter for `T`, numbers without leading zeros, blanks around the separators, a signed year of any
length, any number of fraction digits of which nine count, and `UTC` or a small letter for `Z`.
-/
namespace RowMerge.Rfc3339

/-! ## Writing -/

/-- The fraction of a second with 0, 3, 6 or 9 digits, the fewest that lose nothing. -/
def fractionText (subsecond : Nat) : List Char :=
  if subsecond = 0 then []
  else if subsecond % 1000000 = 0 then '.' :: Timestamp.padded 3 (subsecond / 1000000)
  else if subsecond % 1000 = 0 then '.' :: Timestamp.padded 6 (subsecond / 1000)
  else '.' :: Timestamp.padded 9 subsecond

def write (t : Timestamp) : String :=
  String.ofList (t.dateText ++ 'T' :: t.clockText ++ fractionText t.subsecond ++ ['Z'])

/-! ## Blanks -/

/-- The ranges of code points that have the white-space property of Unicode, in order. -/
def blankRanges : List (Nat × Nat) :=
  [(0x09, 0x0D), (0x20, 0x20), (0x85, 0x85), (0xA0, 0xA0), (0x1680, 0x1680), (0x2000, 0x200A),
    (0x2028, 0x2029), (0x202F, 0x202F), (0x205F, 0x205F), (0x3000, 0x3000)]

def isBlank (c : Char) : Bool :=
  blankRanges.any fun range => range.1 ≤ c.toNat && c.toNat ≤ range.2

def skipBlanks (text : List Char) : List Char := text.dropWhile isBlank

/-! ## Reading -/

/-- A number of at least one and at most `width` digits, or of any number without a `width`. -/
def scanNumber (width : Option Nat) (text : List Char) : Option (Nat × List Char) :=
  let run := text.takeWhile Char.isDigit
  let digits := match width with
    | some width => run.take width
    | none => run
  if digits.isEmpty then none
  else some (Nat.ofDigitChars 10 digits 0, text.drop digits.length)

/-- Blanks, then a number of one or two digits. -/
def scanField (text : List Char) : Option (Nat × List Char) := scanNumber (some 2) (skipBlanks text)

/-- Blanks, then a year: of any length with a sign, else of at most four digits. -/
def scanYear (text : List Char) : Option (Int × List Char) :=
  match skipBlanks text with
  | '-' :: rest => (scanNumber none rest).map fun found => (-(found.1 : Int), found.2)
  | '+' :: rest => (scanNumber none rest).map fun found => ((found.1 : Int), found.2)
  | rest => (scanNumber (some 4) rest).map fun found => ((found.1 : Int), found.2)

/-- Blanks, then one given character. -/
def scanMark (mark : Char) (text : List Char) : Option (List Char) :=
  match skipBlanks text with
  | c :: rest => if c = mark then some rest else none
  | [] => none

/-- The mark between date and time. -/
def scanTimeMark : List Char → Option (List Char)
  | c :: rest => if c = 'T' ∨ c = 't' ∨ c = ' ' then some rest else none
  | [] => none

/-- The nanoseconds of a fraction: nine digits count and the others are skipped. Without a point
there is no fraction. -/
def scanFraction : List Char → Option (Nat × List Char)
  | '.' :: text =>
    let run := text.takeWhile Char.isDigit
    let digits := run.take 9
    if digits.isEmpty then none
    else
      let nanos := Nat.ofDigitChars 10 (digits ++ List.replicate (9 - digits.length) '0') 0
      some (nanos, text.drop run.length)
  | text => some (0, text)

/-- A number of exactly two digits, the first at most `most`. -/
def scanPair (most : Char) : List Char → Option (Nat × List Char)
  | tens :: ones :: rest =>
    if tens.isDigit && ones.isDigit && tens ≤ most then
      some (Nat.ofDigitChars 10 [tens, ones] 0, rest)
    else none
  | _ => none

/-- The sign of an offset; the minus sign of typesetting counts as one. -/
def scanOffsetSign : List Char → Option (Int × List Char)
  | c :: rest =>
    if c = '+' then some (1, rest)
    else if c = '-' ∨ c = '\u2212' then some (-1, rest)
    else none
  | [] => none

/-- Two digits of hours, any colons and blanks, two digits of minutes, in seconds. -/
def scanSignedOffset (text : List Char) : Option (Int × List Char) := do
  let (sign, text) ← scanOffsetSign text
  let (hours, text) ← scanPair '9' text
  let (minutes, text) ← scanPair '5' (text.dropWhile fun c => c == ':' || isBlank c)
  return (sign * ((hours * 60 + minutes) * 60 : Nat), text)

/-- The offset from UTC in seconds: zero for `Z` and `UTC` of any case, else signed. -/
def scanOffset : List Char → Option (Int × List Char)
  | text@(a :: rest) =>
    if a = 'Z' ∨ a = 'z' then some (0, rest)
    else match rest with
      | b :: c :: after =>
        if a.toUpper = 'U' ∧ b.toUpper = 'T' ∧ c.toUpper = 'C' then some (0, after)
        else scanSignedOffset text
      | _ => none
  | [] => none

/-- The first and last years that a timestamp may fall into, in its offset and in UTC. -/
def firstYear : Int := -262143

def lastYear : Int := 262142

/-- Whether a count of seconds falls into the years of timestamps. -/
def inYears (seconds : Int) : Bool :=
  (CivilDate.mk firstYear 1 1).toDays * secondsPerDay ≤ seconds &&
    seconds < (CivilDate.mk (lastYear + 1) 1 1).toDays * secondsPerDay

/-- The timestamp of a date, a time of day and an offset. Second 60 is the leap second after
second 59. -/
def assemble (date : CivilDate) (hour minute second nanos : Nat) (offset : Int) :
    Option Timestamp :=
  if date.isValid && firstYear ≤ date.year && date.year ≤ lastYear && hour ≤ 23 && minute ≤ 59 &&
      second ≤ 60 && offset.natAbs < secondsPerDay.toNat then
    let shown := min second 59
    let leap := if second = 60 then nanosPerSecond else 0
    let seconds :=
      date.toDays * secondsPerDay + ((hour * 60 + minute) * 60 + shown : Nat) - offset
    if inYears seconds then Timestamp.ofUnix? seconds (leap + nanos) else none
  else none

/-- The timestamp that a whole text stands for; blanks may follow it. -/
def scan (text : List Char) : Option Timestamp := do
  let (year, text) ← scanYear text
  let (month, text) ← scanField (← scanMark '-' text)
  let (day, text) ← scanField (← scanMark '-' text)
  let (hour, text) ← scanField (← scanTimeMark text)
  let (minute, text) ← scanField (← scanMark ':' text)
  let (second, text) ← scanField (← scanMark ':' text)
  let (nanos, text) ← scanFraction text
  let (offset, text) ← scanOffset (skipBlanks text)
  if (skipBlanks text).isEmpty then assemble ⟨year, month, day⟩ hour minute second nanos offset
  else none

def read? (text : String) : Option Timestamp := scan text.toList

example : (read? "2024-03-01T09:30:00.5+01:30").map write = some "2024-03-01T08:00:00.500Z" := by
  decide +kernel

end RowMerge.Rfc3339
