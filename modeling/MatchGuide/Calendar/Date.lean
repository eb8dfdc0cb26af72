import MatchGuide.Text.Whole

/-! Dates of the proleptic Gregorian calendar and their day numbers, counted from 1 January 1970.
Inside, a year begins in March, so that a leap day is its last day, and years come in eras of four
hundred, each of the same length. -/
namespace MatchGuide

structure Date where
  year : Int
  month : Nat
  day : Nat
  deriving DecidableEq, Repr

namespace Date

def eraDays : Int := 146097

def marchShift : Int := 719468

def yearOfEra (day : Nat) : Nat × Nat :=
  let year := (day - day / 1460 + day / 36524 - day / 146096) / 365
  (year, day - (365 * year + year / 4 - year / 100))

def ofDay (n : Int) : Date :=
  let shifted := n + marchShift
  let era := shifted.fdiv eraDays
  let (year, dayOfYear) := yearOfEra (shifted.fmod eraDays).toNat
  let march := (5 * dayOfYear + 2) / 153
  let day := dayOfYear - (153 * march + 2) / 5 + 1
  let month := if march < 10 then march + 3 else march - 9
  ⟨year + 400 * era + (if month ≤ 2 then 1 else 0), month, day⟩

def toDay (d : Date) : Int :=
  let year := if d.month ≤ 2 then d.year - 1 else d.year
  let era := year.fdiv 400
  let yearOfEra := year.fmod 400
  let march : Int := if 2 < d.month then d.month - 3 else d.month + 9
  let dayOfYear := (153 * march + 2).fdiv 5 + d.day - 1
  era * eraDays + (yearOfEra * 365 + yearOfEra.fdiv 4 - yearOfEra.fdiv 100 + dayOfYear) - marchShift

def yearChars (year : Int) : List Char :=
  if year < 0 then '-' :: Whole.padded 4 year.natAbs
  else if year ≤ 9999 then Whole.padded 4 year.natAbs
  else '+' :: Whole.padded 4 year.natAbs

def monthNames : List String :=
  ["Jan", "Feb", "Mar", "Apr", "May", "Jun", "Jul", "Aug", "Sep", "Oct", "Nov", "Dec"]

def monthName (month : Nat) : String := (monthNames[month - 1]?).getD ""

def chars (d : Date) : List Char :=
  Whole.chars d.day ++ ' ' :: (monthName d.month).toList ++ ' ' :: yearChars d.year

end Date
end MatchGuide
