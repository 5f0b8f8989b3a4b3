/-!
# Moments

A moment is a number of milliseconds since the beginning of 1970, in universal time. It is
written as a date and a time of day, with a fraction of a second where there is one.
-/
namespace CloudSpace.Report

/-- Milliseconds since the beginning of 1970. -/
structure Moment where
  milliseconds : Int
deriving DecidableEq, Repr, Inhabited

/-- A day of the calendar. -/
structure Date where
  year : Int
  month : Nat
  day : Nat
deriving DecidableEq, Repr

/-- The day that is a number of days after the first of January 1970. Years are counted from
March here, so that the day which only some years have is the last of its year, and the months
before it have lengths that follow one rule. -/
def Date.ofDayNumber (number : Int) : Date :=
  let shifted := number + 719468
  let era := Int.fdiv shifted 146097
  let dayOfEra := (shifted - era * 146097).toNat
  let yearOfEra := (dayOfEra - dayOfEra / 1460 + dayOfEra / 36524 - dayOfEra / 146096) / 365
  let dayOfYear := dayOfEra - (365 * yearOfEra + yearOfEra / 4 - yearOfEra / 100)
  let monthFromMarch := (5 * dayOfYear + 2) / 153
  let day := dayOfYear - (153 * monthFromMarch + 2) / 5 + 1
  let month := if monthFromMarch < 10 then monthFromMarch + 3 else monthFromMarch - 9
  let year := (yearOfEra : Int) + era * 400 + (if month ≤ 2 then 1 else 0)
  { year, month, day }

/-- A number with zeros before it up to a length. -/
def zeroPadded (length n : Nat) : String :=
  let digits := toString n
  String.ofList (List.replicate (length - digits.length) '0') ++ digits

/-- A year of four digits, or a longer one with its sign. -/
def yearText (year : Int) : String :=
  if year < 0 then "-" ++ zeroPadded 4 year.natAbs
  else if year ≤ 9999 then zeroPadded 4 year.toNat
  else "+" ++ zeroPadded 5 year.toNat

def Moment.text (moment : Moment) : String :=
  let day := Int.fdiv moment.milliseconds 86400000
  let rest := (moment.milliseconds - day * 86400000).toNat
  let date := Date.ofDayNumber day
  let fraction := if rest % 1000 = 0 then "" else "." ++ zeroPadded 3 (rest % 1000)
  s!"{yearText date.year}-{zeroPadded 2 date.month}-{zeroPadded 2 date.day}T" ++
    s!"{zeroPadded 2 (rest / 3600000)}:{zeroPadded 2 (rest / 60000 % 60)}:" ++
    s!"{zeroPadded 2 (rest / 1000 % 60)}{fraction}Z"

end CloudSpace.Report
