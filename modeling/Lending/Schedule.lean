import Lending.Fault

/-!
# Fixed due-date schedules

A fixed schedule gives every date of a range of dates one due date. Its ranges share no date and
are kept in the order of their dates.

## Main definitions

* `ScheduleRange`, `ScheduleRange.make` — a range of dates with its due date
* `Schedule`, `Schedule.make` — disjoint ranges in order
* `Schedule.range?` — the range of a date
* `Schedule.dueFor` — the due date of the range in which a moment lies
* `Schedule.limit` — a due date that is not later than the schedule's
-/

namespace Lending

/-! ## Ranges -/

/-- The dates from `first` to `last`, both included, and the due date that they have. -/
structure ScheduleRange where
  first : Date
  last : Date
  due : Moment
  ordered : first ≤ last
deriving DecidableEq, Repr

namespace ScheduleRange

/-- A range with the given bounds, which must be in order. -/
def make (first last : Date) (due : Moment) : Except Fault ScheduleRange :=
  if h : first ≤ last then .ok ⟨first, last, due, h⟩ else .error (.reversedRange first last)

/-- Whether a date lies in the range. -/
def Contains (range : ScheduleRange) (date : Date) : Prop :=
  range.first ≤ date ∧ date ≤ range.last

instance (range : ScheduleRange) (date : Date) : Decidable (range.Contains date) :=
  inferInstanceAs (Decidable (_ ∧ _))

/-- Whether all dates of one range come before those of another. -/
def Before (a b : ScheduleRange) : Prop := a.last < b.first

instance (a b : ScheduleRange) : Decidable (a.Before b) :=
  inferInstanceAs (Decidable (a.last < b.first))

theorem Before.trans {a b c : ScheduleRange} (hab : a.Before b) (hbc : b.Before c) :
    a.Before c := by
  have := b.ordered
  simp only [Before, Date.lt_def, Date.le_def] at *
  omega

/-- The first two neighbours of a list of which the earlier one is not before the later one. -/
def overlap? : List ScheduleRange → Option (ScheduleRange × ScheduleRange)
  | a :: b :: rest => if a.Before b then overlap? (b :: rest) else some (a, b)
  | _ => none

/-- If every range is before its neighbour, every range is before all later ones. -/
theorem pairwise_before {ranges : List ScheduleRange} (h : overlap? ranges = none) :
    ranges.Pairwise Before := by
  induction ranges with
  | nil => exact .nil
  | cons a rest ih =>
    cases rest with
    | nil => exact List.pairwise_singleton _ _
    | cons b rest =>
      simp only [overlap?] at h
      split at h
      · next hab =>
        have tail := ih h
        refine List.pairwise_cons.2 ⟨fun c hc => ?_, tail⟩
        rcases List.mem_cons.1 hc with rfl | hc
        · exact hab
        · exact hab.trans ((List.pairwise_cons.1 tail).1 c hc)
      · simp at h

end ScheduleRange

/-! ## Schedules -/

/-- The reason given when a loan date lies in no range. -/
def loanDateOutsideRanges : String :=
  "loan date falls outside of the date ranges in the loan policy"

/-- The reason given when a renewal date lies in no range. -/
def renewalDateOutsideRanges : String :=
  "renewal date falls outside of the date ranges in the loan policy"

/-- Ranges of dates, each before all later ones. -/
structure Schedule where
  id : Option String
  name : String
  ranges : List ScheduleRange
  ordered : ranges.Pairwise ScheduleRange.Before
deriving DecidableEq, Repr

namespace Schedule

/-- The schedule without ranges, which limits nothing. -/
def empty : Schedule := ⟨none, "", [], .nil⟩

instance : Inhabited Schedule := ⟨empty⟩

def isEmpty (schedule : Schedule) : Bool := schedule.ranges.isEmpty

/-- The schedule of a list of ranges, which may come in any order but must not overlap. -/
def make (id : Option String) (name : String) (ranges : List ScheduleRange) :
    Except Fault Schedule :=
  let sorted := ranges.mergeSort fun a b => a.first ≤ b.first
  match h : ScheduleRange.overlap? sorted with
  | none => .ok ⟨id, name, sorted, ScheduleRange.pairwise_before h⟩
  | some (a, b) => .error (.overlappingRanges id a.first a.last b.first b.last)

/-- The range in which a date lies. -/
def range? (schedule : Schedule) (date : Date) : Option ScheduleRange :=
  schedule.ranges.find? fun range => range.Contains date

/-- The due date of the range in which a moment falls in `zone`, or a failure that gives
`reason`. -/
def dueFor (schedule : Schedule) (reference : Moment) (zone : Zone)
    (reason : String) : Calculation Moment := do
  let date ← reference.dateIn zone
  match schedule.range? date with
  | some range => return range.due
  | none =>
    throw (.rangeMissing reason
      [("scheduleId", .ofId schedule.id), ("date", .text date.iso)])

/-- The due date, or the schedule's for `reference` if that is not later. -/
def limit (schedule : Schedule) (due reference : Moment) (zone : Zone) : Calculation Moment := do
  return (← schedule.dueFor reference zone loanDateOutsideRanges).earlier due

end Schedule

end Lending
