import Lending.Document.Scalar
import Lending.OpeningDay

/-!
# Calendar documents

Opening days and adjacent days as they are stored. Opening hours are put in order after reading.

## Main definitions

* `OpeningDay.ofDocument` — the opening day of a document
* `AdjacentDays.ofDocument` — the adjacent days of a document
-/

namespace Lending

open Reading (record required optional)

/-- The opening hours of a document. -/
def OpeningHour.ofDocument : Document → Reading (Except Fault OpeningHour) :=
  record fun fields =>
    OpeningHour.make <$>
      required fields "startTime" "start_time" Reading.time <*>
      required fields "endTime" "end_time" Reading.time

/-- An opening day from the fields of a document. -/
def OpeningDay.ofFields (date : Date) (isOpen allDay : Bool)
    (hours : List (Except Fault OpeningHour)) : Except Fault OpeningDay := do
  return { date, isOpen, allDay, stored := OpeningHour.sort (← hours.mapM (·)) }

/-- The opening day of a document. -/
def OpeningDay.ofDocument : Document → Reading (Except Fault OpeningDay) :=
  record fun fields =>
    OpeningDay.ofFields <$>
      required fields "date" "day" Reading.date <*>
      optional fields "open" "open" Reading.flag false <*>
      optional fields "allDay" "all_day" Reading.flag false <*>
      optional fields "openingHour" "opening_hour" (Reading.list OpeningHour.ofDocument) []

/-- Adjacent days from the days of a document. -/
def AdjacentDays.ofDays (previous requested next : Except Fault OpeningDay) :
    Except Fault AdjacentDays := do
  return ⟨← previous, ← requested, ← next⟩

/-- The adjacent days of a document. -/
def AdjacentDays.ofDocument : Document → Reading (Except Fault AdjacentDays) :=
  record fun fields =>
    AdjacentDays.ofDays <$>
      required fields "previousDay" "previous_day" OpeningDay.ofDocument <*>
      required fields "requestedDay" "requested_day" OpeningDay.ofDocument <*>
      required fields "nextDay" "next_day" OpeningDay.ofDocument

end Lending
