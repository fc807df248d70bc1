import Slipway.Text.Numeral

/-!
# Dates

Model of the `NaiveDate` that `ChangelogLedger::promote_pending` formats with `%Y-%m-%d`. The date
that a release writes into its changelog, shown as `YYYY-MM-DD`.
-/

namespace Slipway

/-- A day of the proleptic Gregorian calendar. -/
structure Date where
  year : Int
  month : Nat
  day : Nat
  deriving DecidableEq, Repr, Inhabited

namespace Date

/-- The year in four digits; one outside 0 to 9999 carries its sign. -/
def yearText (year : Int) : String :=
  if year < 0 then "-" ++ Text.padded 4 year.natAbs
  else if 9999 < year then "+" ++ Text.padded 4 year.natAbs
  else Text.padded 4 year.natAbs

/-- The date as `YYYY-MM-DD`. -/
def text (d : Date) : String := s!"{yearText d.year}-{Text.padded 2 d.month}-{Text.padded 2 d.day}"

end Date

end Slipway
