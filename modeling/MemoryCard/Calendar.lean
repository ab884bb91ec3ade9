/-! # The calendar

Dates of the Gregorian calendar from a count of seconds, in the form of RFC 3339.
-/

namespace MemoryCard.Calendar

structure Date where
  year : Nat
  month : Nat
  day : Nat
deriving DecidableEq, Repr

/-- The date that lies `n` days after 1 March of the year 0. The year is counted from March, so that the
day of a leap year comes last, and every 400 years have the same number of days. -/
def Date.ofDays (n : Nat) : Date :=
  let era := n / 146097
  let dayOfEra := n % 146097
  let yearOfEra := (dayOfEra - dayOfEra / 1460 + dayOfEra / 36524 - dayOfEra / 146096) / 365
  let dayOfYear := dayOfEra - (365 * yearOfEra + yearOfEra / 4 - yearOfEra / 100)
  let month := (5 * dayOfYear + 2) / 153
  let day := dayOfYear - (153 * month + 2) / 5 + 1
  let year := era * 400 + yearOfEra
  if month < 10 then ⟨year, month + 3, day⟩ else ⟨year + 1, month - 9, day⟩

/-- Days from 1 March of the year 0 to 1 January 1970. -/
def unixDay : Nat := 719468

/-- Seconds from the beginning of 1970 to the beginning of 2000, from which consoles count. -/
def consoleEpoch : Nat := 946684800

/-- `n` with at least `width` digits. -/
def padded (width n : Nat) : String :=
  let digits := (toString n).toList
  String.ofList (List.replicate (width - digits.length) '0' ++ digits)

/-- The moment `secs` seconds after the beginning of 1970, in universal time. -/
def rfc3339 (secs : Nat) : String :=
  let date := Date.ofDays (secs / 86400 + unixDay)
  let time := secs % 86400
  padded 4 date.year ++ "-" ++ padded 2 date.month ++ "-" ++ padded 2 date.day ++ "T"
    ++ padded 2 (time / 3600) ++ ":" ++ padded 2 (time / 60 % 60) ++ ":" ++ padded 2 (time % 60)
    ++ "+00:00"

end MemoryCard.Calendar
