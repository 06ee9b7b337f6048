import PriceHistory.Calendar.Date

/-!
How far back a query reaches: the spans that have a token of their own, and the days that a span
covers when counted back from an anchor.
-/
namespace PriceHistory

open PriceHistory.Calendar

/-- A span of days, named by a token. -/
inductive Span where
  | oneDay
  | fiveDays
  | oneMonth
  | threeMonths
  | sixMonths
  | oneYear
  | twoYears
  | fiveYears
  /-- A single date, which is given beside the span. -/
  | byDate
  /-- A token with no meaning here, which the provider may know. -/
  | other (token : String)
  deriving DecidableEq

namespace Span

/-- The span of a query that names none. -/
def standard : Span := oneMonth

/-- The token of a span. -/
def token : Span → String
  | oneDay => "1d"
  | fiveDays => "5d"
  | oneMonth => "1m"
  | threeMonths => "3m"
  | sixMonths => "6m"
  | oneYear => "1y"
  | twoYears => "2y"
  | fiveYears => "5y"
  | byDate => "date"
  | other token => token

/-- The spans that have a token of their own. -/
def known : List Span :=
  [oneDay, fiveDays, oneMonth, threeMonths, sixMonths, oneYear, twoYears, fiveYears, byDate]

/-- Reads a token. Each letter counts, its case too; a token that is not known is kept. -/
def ofToken (token : String) : Span :=
  (known.find? fun span => span.token == token).getD (other token)

/-- Writing a token and reading it again leads nowhere else. -/
@[simp] theorem token_ofToken (t : String) : (ofToken t).token = t := by
  unfold ofToken
  cases found : known.find? fun span => span.token == t with
  | none => rfl
  | some span => simpa using List.find?_some found

/-- The number of calendar months that a span reaches back; none of its own means one. -/
def months : Span → Nat
  | fiveYears => 60
  | twoYears => 24
  | oneYear => 12
  | sixMonths => 6
  | threeMonths => 3
  | _ => 1

/-- The day before the first day that a span covers when it ends at `anchor`. Where the calendar
ends first, this is the earliest date. -/
def floor (span : Span) (anchor : Date) : Date :=
  (match span with
    | fiveDays => anchor.minusDays? 5
    | _ => anchor.minusMonths? span.months).getD Date.earliest

/-- The days that a span covers when it ends at `anchor`, newest first. -/
def window (span : Span) (anchor : Date) : List Date :=
  Date.daysBack anchor (span.floor anchor)

end Span

end PriceHistory
