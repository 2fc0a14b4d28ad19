import Lending.Proofs.Calendar.Neighbours
import Lending.Proofs.Time.Steady

/-!
# Open time

A day is open by the wall clock, and a due date is moved to the instants at which its opening hours
begin or end. In a zone whose clocks are never changed the two agree: a day is open at a moment
exactly if the instant of the moment lies within one of its spans. The last closing and the first
opening of a day, or of the nearest of some open dates, are then the last and the first instant at
which it is open.

## Main definitions

* `OpeningDay.openInstants` — the instants at which a day is open
* `Calendar.openInstants` — those at which a service point is open on some dates

## Main results

* `OpeningDay.isOpenAt_iff` — whether a day is open at a moment
* `OpeningDay.isGreatest_lastClosingBy?`, `OpeningDay.isLeast_firstOpeningFrom?` — the open instants
  of a day that are next to a moment
* `Calendar.Nearest.isGreatest_lastClosing?`, `Calendar.Nearest.isLeast_firstOpening?` — the last
  and the first open instant on some dates
-/

namespace Lending

/-- Within opening hours, which do not reach beyond midnight, clocks show the date. -/
theorem OpeningHour.contains_iff {hour : OpeningHour} {date : Date} {wall : WallClock} :
    (wall.date = date ∧ hour.Contains wall.time) ↔
      WallClock.showing date hour.start ≤ wall ∧ wall ≤ WallClock.showing date hour.stop := by
  have inDay := hour.stop.inRange
  cases date
  simp only [OpeningHour.Contains, TimeOfDay.le_def, WallClock.le_def, WallClock.showing,
    WallClock.time, WallClock.date, Date.mk.injEq]
  omega

namespace OpeningDay

variable {day : OpeningDay} {zone : Zone} {moment closing opening : Moment} {t : Int}

/-- The instants at which a day is open by the clocks of a zone. -/
def openInstants (day : OpeningDay) (zone : Zone) : Set Int :=
  {t | ∃ span ∈ day.periods zone, span.1.instant ≤ t ∧ t ≤ span.2.instant}

/-- A day has opening hours that take effect exactly if it is open. -/
theorem intervals_eq_nil_iff : day.intervals = [] ↔ day.isOpen = false := by
  cases isOpen : day.isOpen with
  | false => simp [intervals, isOpen]
  | true =>
    simp only [intervals, isOpen, Bool.not_true, Bool.false_eq_true, if_false, reduceCtorEq,
      iff_false]
    split
    · simp
    · next given =>
      simp only [Bool.or_eq_true, List.isEmpty_iff, not_or] at given
      exact given.2

theorem isOpen_of_mem_openInstants (member : t ∈ day.openInstants zone) : day.isOpen = true := by
  obtain ⟨span, listed, -⟩ := member
  by_contra closed
  simp [periods, intervals_eq_nil_iff.mpr (Bool.eq_false_iff.mpr closed)] at listed

/-! ## By the wall clock -/

theorem isOpenAt_eq_true_iff :
    day.isOpenAt moment zone = .ok true ↔
      ∃ shown, moment.inZone? zone = some shown ∧ shown.wall.date = day.date ∧
        ∃ hour ∈ day.intervals, hour.Contains shown.wall.time := by
  simp [isOpenAt]

/-- Whether a day is open at a moment is told by what the clocks show. -/
theorem isOpenAt_eq_ok {shown : Moment} (there : moment.inZone? zone = some shown) :
    day.isOpenAt moment zone = .ok (decide (∃ hour ∈ day.intervals,
      WallClock.showing day.date hour.start ≤ shown.wall ∧
        shown.wall ≤ WallClock.showing day.date hour.stop)) := by
  have asked : day.isOpenAt moment zone = .ok (decide (shown.wall.date = day.date) &&
      day.intervals.any (·.Contains shown.wall.time)) := by
    unfold isOpenAt
    rw [Moment.inZone_eq_ok.mpr there]
    rfl
  rw [asked, Except.ok.injEq, Bool.eq_iff_iff]
  simp only [Bool.and_eq_true, decide_eq_true_eq, List.any_eq_true, ← OpeningHour.contains_iff]
  exact ⟨fun ⟨sameDate, hour, listed, inHour⟩ => ⟨hour, listed, sameDate, inHour⟩,
    fun ⟨hour, listed, sameDate, inHour⟩ => ⟨sameDate, hour, listed, inHour⟩⟩

theorem dateIn_of_isOpenAt (isOpen : day.isOpenAt moment zone = .ok true) :
    moment.dateIn zone = .ok day.date := by
  obtain ⟨shown, there, sameDate, -⟩ := isOpenAt_eq_true_iff.mp isOpen
  exact Fault.require_eq_ok.mpr (Option.map_eq_some_iff.mpr ⟨shown, there, sameDate⟩)

theorem isOpen_of_isOpenAt (isOpen : day.isOpenAt moment zone = .ok true) : day.isOpen = true := by
  obtain ⟨-, -, -, hour, listed, -⟩ := isOpenAt_eq_true_iff.mp isOpen
  by_contra closed
  simp [intervals_eq_nil_iff.mpr (Bool.eq_false_iff.mpr closed)] at listed

/-- The open instants of a day are told by the clock. -/
theorem mem_openInstants_iff (never : zone.NeverChanges) :
    t ∈ day.openInstants zone ↔ ∃ hour ∈ day.intervals,
      (day.date.ordinal : Int) * 86400000000 + hour.start.micros ≤ zone.wallAt t ∧
        zone.wallAt t ≤ day.date.ordinal * 86400000000 + hour.stop.micros := by
  simp only [openInstants, periods, Set.mem_ofPred_eq, List.mem_map, exists_exists_and_eq_and,
    Moment.showing_le_iff never, Moment.le_showing_iff never]

/-- A day is open on its date only. -/
theorem ordinal_of_mem_openInstants (never : zone.NeverChanges)
    (member : t ∈ day.openInstants zone) :
    (day.date.ordinal : Int) * 86400000000 ≤ zone.wallAt t ∧
      zone.wallAt t < (day.date.ordinal + 1) * 86400000000 := by
  obtain ⟨hour, -, after, before⟩ := (mem_openInstants_iff never).mp member
  have := hour.stop.inRange
  omega

/-- The open instants of an earlier date are earlier. -/
theorem lt_of_date_lt {other : OpeningDay} {u : Int} (never : zone.NeverChanges)
    (earlier : day.date < other.date) (member : t ∈ day.openInstants zone)
    (memberOther : u ∈ other.openInstants zone) : t < u := by
  have first := ordinal_of_mem_openInstants never member
  have second := ordinal_of_mem_openInstants never memberOther
  rw [Date.lt_def] at earlier
  unfold Zone.wallAt at *
  omega

/-- A day is open before a moment that falls on a later date. -/
theorem lt_instant_of_date_lt {date : Date} (never : zone.NeverChanges)
    (fallsOn : moment.dateIn zone = .ok date) (earlier : day.date < date)
    (member : t ∈ day.openInstants zone) : t < moment.instant := by
  have openThen := ordinal_of_mem_openInstants never member
  have onDate := Moment.ordinal_of_dateIn never fallsOn
  rw [Date.lt_def] at earlier
  unfold Zone.wallAt at *
  omega

/-- A day is open at a moment exactly if it is open at the instant. -/
theorem isOpenAt_iff {isOpen : Bool} (never : zone.NeverChanges)
    (asked : day.isOpenAt moment zone = .ok isOpen) :
    isOpen = true ↔ moment.instant ∈ day.openInstants zone := by
  obtain ⟨shown, there, -⟩ := bind_eq_ok.mp asked
  have wall := Moment.wall_of_inZone never there
  obtain rfl := Except.ok.inj ((isOpenAt_eq_ok (Moment.inZone_eq_ok.mp there)).symm.trans asked)
  rw [mem_openInstants_iff never, ← wall, decide_eq_true_eq]
  simp only [WallClock.le_def, WallClock.showing]
  norm_cast

/-! ## Openings and closings -/

section Ends

variable {span : Moment × Moment}

/-- A span of open time is in the zone, and it starts before it ends. -/
theorem span_of_mem_periods (never : zone.NeverChanges) (listed : span ∈ day.periods zone) :
    span.1.zone = zone ∧ span.2.zone = zone ∧ span.1.instant ≤ span.2.instant := by
  obtain ⟨hour, -, rfl⟩ := List.mem_map.mp listed
  refine ⟨rfl, rfl, (Moment.showing_le_iff never _ _ _).mpr ?_⟩
  have ordered : hour.start.micros ≤ hour.stop.micros := hour.ordered
  rw [Moment.wallAt_showing never]
  omega

/-- At an opening and at a closing a day is open. -/
theorem mem_openInstants_of_ends (never : zone.NeverChanges) (listed : span ∈ day.periods zone) :
    span.1.instant ∈ day.openInstants zone ∧ span.2.instant ∈ day.openInstants zone := by
  obtain ⟨-, -, ordered⟩ := span_of_mem_periods never listed
  exact ⟨⟨span, listed, Int.le_refl _, ordered⟩, ⟨span, listed, ordered, Int.le_refl _⟩⟩

/-- The closings that are not after a moment. -/
theorem mem_closingsBy_iff (never : zone.NeverChanges) :
    closing ∈ ((day.periods zone).map (·.2)).filter (· ≤ moment) ↔
      ∃ span ∈ day.periods zone, span.2 = closing ∧ span.2.instant ≤ moment.instant := by
  rw [List.mem_filter, List.mem_map, decide_eq_true_eq]
  constructor
  · rintro ⟨⟨span, listed, rfl⟩, inTime⟩
    have inZone := (span_of_mem_periods never listed).2.1
    exact ⟨span, listed, rfl, (Moment.le_iff_instant (inZone ▸ never)).mp inTime⟩
  · rintro ⟨span, listed, rfl, inTime⟩
    have inZone := (span_of_mem_periods never listed).2.1
    exact ⟨⟨span, listed, rfl⟩, (Moment.le_iff_instant (inZone ▸ never)).mpr inTime⟩

/-- The openings that are not before a moment. -/
theorem mem_openingsFrom_iff (never : zone.NeverChanges) :
    opening ∈ ((day.periods zone).map (·.1)).filter (moment ≤ ·) ↔
      ∃ span ∈ day.periods zone, span.1 = opening ∧ moment.instant ≤ span.1.instant := by
  rw [List.mem_filter, List.mem_map, decide_eq_true_eq]
  constructor
  · rintro ⟨⟨span, listed, rfl⟩, inTime⟩
    have inZone := (span_of_mem_periods never listed).1
    exact ⟨span, listed, rfl, (Moment.le_iff_instant_right (inZone ▸ never)).mp inTime⟩
  · rintro ⟨span, listed, rfl, inTime⟩
    have inZone := (span_of_mem_periods never listed).1
    exact ⟨⟨span, listed, rfl⟩, (Moment.le_iff_instant_right (inZone ▸ never)).mpr inTime⟩

/-- A day that is not open at a moment has closed after each instant at which it was open before. -/
theorem exists_closing (outside : moment.instant ∉ day.openInstants zone)
    (member : t ∈ day.openInstants zone) (byThen : t ≤ moment.instant) :
    ∃ span ∈ day.periods zone, t ≤ span.2.instant ∧ span.2.instant ≤ moment.instant := by
  obtain ⟨span, listed, after, before⟩ := member
  refine ⟨span, listed, before, ?_⟩
  by_contra notYet
  exact outside ⟨span, listed, by omega, by omega⟩

/-- A day that is not open at a moment opens before each instant at which it is open later. -/
theorem exists_opening (outside : moment.instant ∉ day.openInstants zone)
    (member : t ∈ day.openInstants zone) (fromThen : moment.instant ≤ t) :
    ∃ span ∈ day.periods zone, moment.instant ≤ span.1.instant ∧ span.1.instant ≤ t := by
  obtain ⟨span, listed, after, before⟩ := member
  refine ⟨span, listed, ?_, after⟩
  by_contra already
  exact outside ⟨span, listed, by omega, by omega⟩

end Ends

/-- If a day is not open at a moment, the last closing by then is the last open instant by then. -/
theorem isGreatest_lastClosingBy? (never : zone.NeverChanges)
    (outside : moment.instant ∉ day.openInstants zone)
    (found : day.lastClosingBy? moment zone = some closing) :
    IsGreatest {t ∈ day.openInstants zone | t ≤ moment.instant} closing.instant := by
  obtain ⟨chosen, last⟩ := Moment.latest?_eq_some (fun n listed => by
    obtain ⟨span, inPeriods, rfl, -⟩ := (mem_closingsBy_iff never).mp listed
    exact (span_of_mem_periods never inPeriods).2.1 ▸ never) found
  obtain ⟨span, listed, rfl, inTime⟩ := (mem_closingsBy_iff never).mp chosen
  refine ⟨⟨(mem_openInstants_of_ends never listed).2, inTime⟩, ?_⟩
  rintro t ⟨member, byThen⟩
  obtain ⟨other, listedOther, before, ended⟩ := exists_closing outside member byThen
  exact before.trans (last _ ((mem_closingsBy_iff never).mpr ⟨other, listedOther, rfl, ended⟩))

/-- Without a closing by a moment at which it is not open a day has not been open by then. -/
theorem lt_of_lastClosingBy?_eq_none (never : zone.NeverChanges)
    (outside : moment.instant ∉ day.openInstants zone)
    (missed : day.lastClosingBy? moment zone = none) (member : t ∈ day.openInstants zone) :
    moment.instant < t := by
  by_contra byThen
  obtain ⟨span, listed, -, ended⟩ := exists_closing outside member (by omega)
  have closing := (mem_closingsBy_iff never).mpr ⟨span, listed, rfl, ended⟩
  rw [Moment.latest?_eq_none_iff.mp missed] at closing
  simp at closing

/-- If a day is not open at a moment, the first opening from then on is the first open instant from
then on. -/
theorem isLeast_firstOpeningFrom? (never : zone.NeverChanges)
    (outside : moment.instant ∉ day.openInstants zone)
    (found : day.firstOpeningFrom? moment zone = some opening) :
    IsLeast {t ∈ day.openInstants zone | moment.instant ≤ t} opening.instant := by
  obtain ⟨chosen, first⟩ := Moment.earliest?_eq_some (fun n listed => by
    obtain ⟨span, inPeriods, rfl, -⟩ := (mem_openingsFrom_iff never).mp listed
    exact (span_of_mem_periods never inPeriods).1 ▸ never) found
  obtain ⟨span, listed, rfl, inTime⟩ := (mem_openingsFrom_iff never).mp chosen
  refine ⟨⟨(mem_openInstants_of_ends never listed).1, inTime⟩, ?_⟩
  rintro t ⟨member, fromThen⟩
  obtain ⟨other, listedOther, begins, after⟩ := exists_opening outside member fromThen
  exact (first _ ((mem_openingsFrom_iff never).mpr ⟨other, listedOther, rfl, begins⟩)).trans after

/-- Without an opening from a moment on at which it is not open a day is not open any more. -/
theorem lt_of_firstOpeningFrom?_eq_none (never : zone.NeverChanges)
    (outside : moment.instant ∉ day.openInstants zone)
    (missed : day.firstOpeningFrom? moment zone = none) (member : t ∈ day.openInstants zone) :
    t < moment.instant := by
  by_contra fromThen
  obtain ⟨span, listed, begins, -⟩ := exists_opening outside member (by omega)
  have opening := (mem_openingsFrom_iff never).mpr ⟨span, listed, rfl, begins⟩
  rw [Moment.earliest?_eq_none_iff.mp missed] at opening
  simp at opening

/-- The last closing of a day is the last instant at which it is open. -/
theorem isGreatest_lastClosing? (never : zone.NeverChanges)
    (found : day.lastClosing? zone = some closing) :
    IsGreatest (day.openInstants zone) closing.instant := by
  obtain ⟨chosen, last⟩ := Moment.latest?_eq_some (fun n listed => by
    obtain ⟨span, inPeriods, rfl⟩ := List.mem_map.mp listed
    exact (span_of_mem_periods never inPeriods).2.1 ▸ never) found
  obtain ⟨span, listed, rfl⟩ := List.mem_map.mp chosen
  refine ⟨(mem_openInstants_of_ends never listed).2, ?_⟩
  rintro t ⟨other, listedOther, -, before⟩
  exact before.trans (last _ (List.mem_map_of_mem listedOther))

/-- The first opening of a day is the first instant at which it is open. -/
theorem isLeast_firstOpening? (never : zone.NeverChanges)
    (found : day.firstOpening? zone = some opening) :
    IsLeast (day.openInstants zone) opening.instant := by
  obtain ⟨chosen, first⟩ := Moment.earliest?_eq_some (fun n listed => by
    obtain ⟨span, inPeriods, rfl⟩ := List.mem_map.mp listed
    exact (span_of_mem_periods never inPeriods).1 ▸ never) found
  obtain ⟨span, listed, rfl⟩ := List.mem_map.mp chosen
  refine ⟨(mem_openInstants_of_ends never listed).1, ?_⟩
  rintro t ⟨other, listedOther, after, -⟩
  exact (first _ (List.mem_map_of_mem listedOther)).trans after

theorem lastClosing?_eq_none_iff : day.lastClosing? zone = none ↔ day.isOpen = false := by
  simp [lastClosing?, periods, intervals_eq_nil_iff]

theorem firstOpening?_eq_none_iff : day.firstOpening? zone = none ↔ day.isOpen = false := by
  simp [firstOpening?, periods, intervals_eq_nil_iff]

end OpeningDay

/-! ## Calendars -/

namespace Calendar

variable {calendar : Calendar} {dates : Set Date} {day : OpeningDay} {zone : Zone}
variable {closing opening : Moment} {t : Int}

/-- The instants at which a service point is open on some dates. -/
def openInstants (calendar : Calendar) (zone : Zone) (dates : Set Date) : Set Int :=
  {t | ∃ day ∈ calendar.days, day.date ∈ dates ∧ t ∈ day.openInstants zone}

@[simp] theorem openInstants_empty : calendar.openInstants zone ∅ = ∅ := by
  simp [openInstants]

/-- If a day stands for the last of some dates, its last closing is the last open instant on
them. -/
theorem Nearest.isGreatest_lastClosing? (nearest : calendar.Nearest IsGreatest dates day)
    (never : zone.NeverChanges) (found : day.lastClosing? zone = some closing) :
    IsGreatest (calendar.openInstants zone dates) closing.instant := by
  have isOpen : day.isOpen = true := by
    by_contra closed
    simp [OpeningDay.lastClosing?_eq_none_iff.mpr (Bool.eq_false_iff.mpr closed)] at found
  obtain ⟨stored, inDates, latest⟩ := nearest.found isOpen
  obtain ⟨member, last⟩ := OpeningDay.isGreatest_lastClosing? never found
  refine ⟨⟨day, stored, inDates, member⟩, ?_⟩
  rintro t ⟨other, storedOther, inDatesOther, memberOther⟩
  have notLater := latest inDatesOther
  -- a day of the same date is the day itself; all others are earlier as a whole
  rw [Date.le_def] at notLater
  rcases Nat.eq_or_lt_of_le notLater with same | earlier
  · obtain rfl := eq_of_date_eq storedOther stored (Date.eq_of_ordinal_eq same)
    exact last memberOther
  · exact (OpeningDay.lt_of_date_lt never earlier memberOther member).le

/-- If a day stands for the first of some dates, its first opening is the first open instant on
them. -/
theorem Nearest.isLeast_firstOpening? (nearest : calendar.Nearest IsLeast dates day)
    (never : zone.NeverChanges) (found : day.firstOpening? zone = some opening) :
    IsLeast (calendar.openInstants zone dates) opening.instant := by
  have isOpen : day.isOpen = true := by
    by_contra closed
    simp [OpeningDay.firstOpening?_eq_none_iff.mpr (Bool.eq_false_iff.mpr closed)] at found
  obtain ⟨stored, inDates, earliest⟩ := nearest.found isOpen
  obtain ⟨member, first⟩ := OpeningDay.isLeast_firstOpening? never found
  refine ⟨⟨day, stored, inDates, member⟩, ?_⟩
  rintro t ⟨other, storedOther, inDatesOther, memberOther⟩
  have notEarlier := earliest inDatesOther
  rw [Date.le_def] at notEarlier
  rcases Nat.eq_or_lt_of_le notEarlier with same | later
  · obtain rfl := eq_of_date_eq stored storedOther (Date.eq_of_ordinal_eq same)
    exact first memberOther
  · exact (OpeningDay.lt_of_date_lt never later member memberOther).le

end Calendar

end Lending
