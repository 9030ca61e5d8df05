import Mathlib.Data.Int.Notation
import UnderstandProof.Foundation.JsString

/-!
# Dates as text

The text that `toISOString` and `JSON.stringify` print for a valid date: the civil date
of the proleptic Gregorian calendar and the time of the day, both in UTC.
-/

namespace Foundation

namespace JsString

/-- A number with at least `width` digits. -/
def padded (width n : ℕ) : JsString :=
  List.replicate (width - (decimal n).length) 0x30 ++ decimal n

structure CivilDate where
  year : ℤ
  month : ℕ
  day : ℕ
  deriving DecidableEq, Repr

/-- The date that lies a number of days after the first of January 1970. The years of the
calculation begin in March, so that the day of a leap year is their last. -/
def civilDate (days : ℤ) : CivilDate :=
  let shifted := days + 719468
  let era := shifted / 146097
  let dayOfEra := (shifted % 146097).toNat
  let yearOfEra := (dayOfEra - dayOfEra / 1460 + dayOfEra / 36524 - dayOfEra / 146096) / 365
  let dayOfYear := dayOfEra - (365 * yearOfEra + yearOfEra / 4 - yearOfEra / 100)
  let shiftedMonth := (5 * dayOfYear + 2) / 153
  let month := if shiftedMonth < 10 then shiftedMonth + 3 else shiftedMonth - 9
  { year := yearOfEra + era * 400 + if month ≤ 2 then 1 else 0
    month
    day := dayOfYear - (153 * shiftedMonth + 2) / 5 + 1 }

/-- Years outside of four digits have a sign and six digits. -/
def isoYear (year : ℤ) : JsString :=
  if 0 ≤ year ∧ year ≤ 9999 then padded 4 year.toNat
  else (if year < 0 then 0x2d else 0x2b) :: padded 6 year.natAbs

/-- `new Date(time).toISOString()` -/
def isoString (time : ℤ) : JsString :=
  let date := civilDate (time / 86400000)
  let millis := (time % 86400000).toNat
  isoYear date.year ++ js "-" ++ padded 2 date.month ++ js "-" ++ padded 2 date.day ++ js "T" ++
    padded 2 (millis / 3600000) ++ js ":" ++ padded 2 (millis / 60000 % 60) ++ js ":" ++
    padded 2 (millis / 1000 % 60) ++ js "." ++ padded 3 (millis % 1000) ++ js "Z"

example : isoString 1709208000123 = js "2024-02-29T12:00:00.123Z" := by decide

end JsString

end Foundation
