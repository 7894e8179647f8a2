/-! Instants, counted in milliseconds from the start of 1970, as dates of the Gregorian calendar. -/
namespace MathTokens

structure CalendarDate where
  year : Int
  month : Nat
  day : Nat
  deriving DecidableEq, Repr

/-- The date `days` after the start of 1970. Years are taken to begin in March, so that the leap day
ends a year and the 400 years of an era all have the same lengths. -/
def CalendarDate.ofDays (days : Int) : CalendarDate :=
  let shifted := days + 719468
  let era := shifted.fdiv 146097
  let dayOfEra := (shifted.fmod 146097).toNat
  let yearOfEra := (dayOfEra - dayOfEra / 1460 + dayOfEra / 36524 - dayOfEra / 146096) / 365
  let dayOfYear := dayOfEra - (365 * yearOfEra + yearOfEra / 4 - yearOfEra / 100)
  let marchMonth := (5 * dayOfYear + 2) / 153
  let month := if marchMonth < 10 then marchMonth + 3 else marchMonth - 9
  let year := (yearOfEra : Int) + era * 400
  ⟨if month ≤ 2 then year + 1 else year, month, dayOfYear - (153 * marchMonth + 2) / 5 + 1⟩

def zeroPadded (width n : Nat) : String :=
  let digits := Nat.toDigits 10 n
  String.ofList (List.replicate (width - digits.length) '0' ++ digits)

def yearText (year : Int) : String :=
  (if year < 0 then "-" else if 9999 < year then "+" else "") ++ zeroPadded 4 year.natAbs

def stampText (milliseconds : Int) : String :=
  let date := CalendarDate.ofDays (milliseconds.fdiv 86400000)
  let ofDay := (milliseconds.fmod 86400000).toNat
  yearText date.year ++ "-" ++ zeroPadded 2 date.month ++ "-" ++ zeroPadded 2 date.day ++ "T"
    ++ zeroPadded 2 (ofDay / 3600000) ++ ":" ++ zeroPadded 2 (ofDay / 60000 % 60) ++ ":"
    ++ zeroPadded 2 (ofDay / 1000 % 60) ++ "." ++ zeroPadded 3 (ofDay % 1000) ++ "Z"

end MathTokens
