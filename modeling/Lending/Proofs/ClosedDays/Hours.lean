import Lending.Proofs.Calendar.OpenTime
import Lending.Proofs.ClosedDays.Days
import Mathlib.Order.Bounds.Basic

/-!
# Due dates moved by opening hours

Two strategies move a due date within the opening hours: back to the end of open time or on to the
beginning of it. They ask whether the date is open at the moment by the wall clock, choose among the
openings or closings of one day by the order of moments, and turn to the neighbouring day only if
that day has none. Where clocks are never changed this comes to one thing: the due date is moved to
the nearest instant in its direction at which the service point is open, on any date that is within
the reach of the calendar. They fail for want of a calendar exactly if there is no such instant.

## Main definitions

* `MovedToInstant` — the choices are instants, and the due date is moved to the closest one

## Main results

* `AdjacentDays.Around.openInstants_back`, `AdjacentDays.Around.openInstants_forth` — open time up
  to a date and from it on
* `AdjacentDays.Around.toEndOfCurrentHours`, `AdjacentDays.Around.toBeginningOfNextOpenHours`
* `Records.moved_to_nearest_open_instant` — the two strategies on the days around a date
-/

namespace Lending

/-- A due date is moved to the closest of some instants. -/
abbrev MovedToInstant (requested : Moment) (Closest : Set Int → Int → Prop) (instants : Set Int) :
    Except Fault (Outcome Moment) → Prop :=
  MovedTo requested (fun due t => due.instant = t) Closest instants

/-- A due date is moved to a moment that stands for the closest instant, if there is one. -/
theorem MovedToInstant.of_fromTimetable {requested : Moment} {Closest : Set Int → Int → Prop}
    {instants : Set Int} {choice? : Option Moment}
    (found : ∀ choice, choice? = some choice → Closest instants choice.instant)
    (missed : choice? = none → instants = ∅) :
    MovedToInstant requested Closest instants
      (.ok (ClosedDayStrategy.fromTimetable requested choice?)) := by
  cases choice? with
  | none => exact .missing (missed rfl)
  | some choice => exact .moved (found choice rfl) rfl

section Sets

variable {α : Type} [LinearOrder α] {near far : Set α} {bound c : α}

/-- Let a far set lie before a bound and before a near set. The last element of the near set up to
the bound, or that of the far set if there is none, is the last one of both. -/
theorem isGreatest_union_sep (farFirst : ∀ t ∈ far, t < bound ∧ ∀ u ∈ near, t < u)
    (chosen : IsGreatest {t ∈ near | t ≤ bound} c ∨
      (∀ t ∈ near, bound < t) ∧ IsGreatest far c) :
    IsGreatest {t ∈ near ∪ far | t ≤ bound} c := by
  rcases chosen with ⟨⟨member, inBound⟩, last⟩ | ⟨beyond, member, last⟩
  · refine ⟨⟨.inl member, inBound⟩, ?_⟩
    rintro t ⟨inNear | inFar, inBound'⟩
    · exact last ⟨inNear, inBound'⟩
    · exact ((farFirst t inFar).2 c member).le
  · refine ⟨⟨.inr member, (farFirst c member).1.le⟩, ?_⟩
    rintro t ⟨inNear | inFar, inBound⟩
    · exact absurd inBound (beyond t inNear).not_ge
    · exact last inFar

/-- The same in the other direction, with a far set behind the bound and the near set. -/
theorem isLeast_union_sep (farLast : ∀ t ∈ far, bound < t ∧ ∀ u ∈ near, u < t)
    (chosen : IsLeast {t ∈ near | bound ≤ t} c ∨ (∀ t ∈ near, t < bound) ∧ IsLeast far c) :
    IsLeast {t ∈ near ∪ far | bound ≤ t} c :=
  @isGreatest_union_sep αᵒᵈ _ near far bound c farLast chosen

end Sets

variable {calendar : Calendar} {date : Date} {limit : Int} {days : AdjacentDays}
variable {requested : Moment} {zone : Zone} {t : Int}

namespace AdjacentDays.Around

/-! ## Open time around a date -/

/-- The stored day of the date is the record of the date. -/
theorem eq_requested {day : OpeningDay} (around : days.Around calendar date limit)
    (stored : day ∈ calendar.days) (same : day.date = date) : day = days.requested := by
  rw [around.requested, Calendar.find?_eq_some_iff.mpr ⟨stored, same⟩, Option.getD_some]

/-- An open record of the date is stored. -/
theorem requested_mem (around : days.Around calendar date limit)
    (isOpen : days.requested.isOpen = true) : days.requested ∈ calendar.days := by
  obtain ⟨day, stored, same, -⟩ := around.isOpen_requested.mp isOpen
  exact around.eq_requested stored same ▸ stored

/-- The open time of some dates is that of the date, if it is among them, and that of the others. -/
theorem openInstants_eq_union {dates others : Set Date} (around : days.Around calendar date limit)
    (parts : ∀ d, calendar.OpenOn d → (d ∈ dates ↔ d = date ∨ d ∈ others)) :
    calendar.openInstants zone dates =
      days.requested.openInstants zone ∪ calendar.openInstants zone others := by
  ext t
  constructor
  · rintro ⟨day, stored, inDates, member⟩
    have openOn : calendar.OpenOn day.date :=
      ⟨day, stored, rfl, OpeningDay.isOpen_of_mem_openInstants member⟩
    rcases (parts _ openOn).mp inDates with same | inOthers
    · exact .inl (around.eq_requested stored same ▸ member)
    · exact .inr ⟨day, stored, inOthers, member⟩
  · rintro (member | ⟨day, stored, inOthers, member⟩)
    · have isOpen := OpeningDay.isOpen_of_mem_openInstants member
      have openOn := around.isOpen_requested.mp isOpen
      have inDates := (parts date openOn).mpr (.inl rfl)
      exact ⟨days.requested, around.requested_mem isOpen, around.date_requested ▸ inDates, member⟩
    · have openOn : calendar.OpenOn day.date :=
        ⟨day, stored, rfl, OpeningDay.isOpen_of_mem_openInstants member⟩
      exact ⟨day, stored, (parts _ openOn).mpr (.inr inOthers), member⟩

/-- The open time of a span around a date is that of the date and that of the rest of the span. -/
theorem openInstants_openDates {first last first' last' : Int}
    (around : days.Around calendar date limit)
    (parts : ∀ n : Int, first ≤ n ∧ n ≤ last ↔ n = 0 ∨ first' ≤ n ∧ n ≤ last') :
    calendar.openInstants zone (calendar.openDates date first last) =
      days.requested.openInstants zone ∪
        calendar.openInstants zone (calendar.openDates date first' last') := by
  refine around.openInstants_eq_union fun d openOn => ?_
  have part := parts ((d.ordinal : Int) - date.ordinal)
  constructor
  · rintro ⟨-, after, before⟩
    rcases part.mp ⟨by omega, by omega⟩ with same | within
    · exact .inl (Date.eq_of_ordinal_eq (by omega))
    · exact .inr ⟨openOn, by omega, by omega⟩
  · rintro (rfl | ⟨-, after, before⟩)
    · have within := part.mpr (.inl (by omega))
      exact ⟨openOn, by omega, by omega⟩
    · have within := part.mpr (.inr ⟨by omega, by omega⟩)
      exact ⟨openOn, by omega, by omega⟩

/-- The open time up to a date is that of the date and that of the dates before. -/
theorem openInstants_back (around : days.Around calendar date limit) :
    calendar.openInstants zone (calendar.openDates date (-max limit 0) 0) =
      days.requested.openInstants zone ∪
        calendar.openInstants zone (calendar.openDates date (-limit) (-1)) :=
  around.openInstants_openDates fun n => by omega

/-- The open time from a date on is that of the date and that of the dates after it. -/
theorem openInstants_forth (around : days.Around calendar date limit) :
    calendar.openInstants zone (calendar.openDates date 0 (max limit 0)) =
      days.requested.openInstants zone ∪
        calendar.openInstants zone (calendar.openDates date 1 limit) :=
  around.openInstants_openDates fun n => by omega

/-- The record of the date is open on the date only. -/
theorem ordinal_of_mem_openInstants (around : days.Around calendar date limit)
    (never : zone.NeverChanges) (member : t ∈ days.requested.openInstants zone) :
    (date.ordinal : Int) * 86400000000 ≤ zone.wallAt t ∧
      zone.wallAt t < (date.ordinal + 1) * 86400000000 := by
  have onDate := OpeningDay.ordinal_of_mem_openInstants never member
  rwa [around.date_requested] at onDate

/-- On the dates before, a service point is open before a moment of the date, and before it is on
the date. -/
theorem openInstants_back_lt (around : days.Around calendar date limit) (never : zone.NeverChanges)
    (fallsOn : requested.dateIn zone = .ok date) :
    ∀ t ∈ calendar.openInstants zone (calendar.openDates date (-limit) (-1)),
      t < requested.instant ∧ ∀ u ∈ days.requested.openInstants zone, t < u := by
  rintro t ⟨day, -, ⟨-, -, before⟩, openThen⟩
  have earlier := OpeningDay.ordinal_of_mem_openInstants never openThen
  have due := Moment.ordinal_of_dateIn never fallsOn
  unfold Zone.wallAt at earlier due
  refine ⟨by omega, fun u member => ?_⟩
  have onDate := around.ordinal_of_mem_openInstants never member
  unfold Zone.wallAt at onDate
  omega

/-- On the dates after, a service point is open after a moment of the date, and after it is on the
date. -/
theorem lt_openInstants_forth (around : days.Around calendar date limit) (never : zone.NeverChanges)
    (fallsOn : requested.dateIn zone = .ok date) :
    ∀ t ∈ calendar.openInstants zone (calendar.openDates date 1 limit),
      requested.instant < t ∧ ∀ u ∈ days.requested.openInstants zone, u < t := by
  rintro t ⟨day, -, ⟨-, after, -⟩, openThen⟩
  have later := OpeningDay.ordinal_of_mem_openInstants never openThen
  have due := Moment.ordinal_of_dateIn never fallsOn
  unfold Zone.wallAt at later due
  refine ⟨by omega, fun u member => ?_⟩
  have onDate := around.ordinal_of_mem_openInstants never member
  unfold Zone.wallAt at onDate
  omega

end AdjacentDays.Around

/-! ## The strategies -/

/-- A moment that falls on a date is within the opening hours of a day or not. -/
theorem OpeningDay.exists_isOpenAt (day : OpeningDay) (fallsOn : requested.dateIn zone = .ok date) :
    ∃ isOpen, day.isOpenAt requested zone = .ok isOpen := by
  obtain ⟨shown, there, -⟩ := Option.map_eq_some_iff.mp (Fault.require_eq_ok.mp fallsOn)
  exact ⟨_, bind_eq_ok.mpr ⟨shown, Moment.inZone_eq_ok.mpr there, rfl⟩⟩

namespace ClosedDayStrategy

/-- Back within the opening hours: the due date itself, or the first closing that is found. -/
theorem result_toEndOfCurrentHours {isOpen : Bool}
    (asked : days.requested.isOpenAt requested zone = .ok isOpen) :
    (toEndOfCurrentHours requested days zone).result =
      if isOpen then .ok (.ok requested)
      else .ok (fromTimetable requested
        ((days.requested.lastClosingBy? requested zone).or (days.previous.lastClosing? zone))) := by
  unfold toEndOfCurrentHours
  rw [Calculation.result_bind, asked]
  cases isOpen <;> rfl

/-- On to the opening hours: the due date itself, or the first opening that is found. -/
theorem result_toBeginningOfNextOpenHours {isOpen : Bool}
    (asked : days.requested.isOpenAt requested zone = .ok isOpen) :
    (toBeginningOfNextOpenHours requested days zone none).result =
      if isOpen then .ok (.ok requested)
      else .ok (fromTimetable requested
        ((days.requested.firstOpeningFrom? requested zone).or
          (days.next.firstOpening? zone))) := by
  unfold toBeginningOfNextOpenHours
  rw [Calculation.result_bind, asked]
  cases isOpen with
  | true => rfl
  | false =>
    generalize (days.requested.firstOpeningFrom? requested zone).or _ = opening?
    cases opening? <;> rfl

end ClosedDayStrategy

namespace AdjacentDays.Around

/-- The end of the current hours is the last open instant up to a due date. -/
theorem toEndOfCurrentHours (around : days.Around calendar date limit) (never : zone.NeverChanges)
    (fallsOn : requested.dateIn zone = .ok date) :
    MovedToInstant requested IsGreatest
      {t ∈ calendar.openInstants zone (calendar.openDates date (-max limit 0) 0) |
        t ≤ requested.instant}
      (ClosedDayStrategy.toEndOfCurrentHours requested days zone).result := by
  obtain ⟨isOpen, asked⟩ := days.requested.exists_isOpenAt fallsOn
  have openThen := OpeningDay.isOpenAt_iff never asked
  rw [ClosedDayStrategy.result_toEndOfCurrentHours asked, around.openInstants_back]
  cases isOpen with
  | true =>
    exact .moved ⟨⟨.inl (openThen.mp rfl), Int.le_refl _⟩, fun t member => member.2⟩ rfl
  | false =>
    have outside : requested.instant ∉ days.requested.openInstants zone :=
      fun member => Bool.false_ne_true (openThen.mpr member)
    refine MovedToInstant.of_fromTimetable ?_ ?_
    · intro choice chosen
      refine isGreatest_union_sep (around.openInstants_back_lt never fallsOn) ?_
      -- the neighbouring day counts only if the date has not been open by then
      rcases Option.or_eq_some_iff.mp chosen with today | ⟨notToday, before⟩
      · exact .inl (OpeningDay.isGreatest_lastClosingBy? never outside today)
      · have late (t : Int) :=
          OpeningDay.lt_of_lastClosingBy?_eq_none (t := t) never outside notToday
        exact .inr ⟨late, around.previous.isGreatest_lastClosing? never before⟩
    · intro missed
      obtain ⟨notToday, notBefore⟩ := Option.or_eq_none_iff.mp missed
      have nothing := around.previous.missed (OpeningDay.lastClosing?_eq_none_iff.mp notBefore)
      rw [nothing, Calendar.openInstants_empty, Set.union_empty]
      refine Set.eq_empty_of_forall_notMem ?_
      rintro t ⟨member, inTime⟩
      have late := OpeningDay.lt_of_lastClosingBy?_eq_none never outside notToday member
      exact late.not_ge inTime

/-- The beginning of the next open hours is the first open instant from a due date on. -/
theorem toBeginningOfNextOpenHours (around : days.Around calendar date limit)
    (never : zone.NeverChanges) (fallsOn : requested.dateIn zone = .ok date) :
    MovedToInstant requested IsLeast
      {t ∈ calendar.openInstants zone (calendar.openDates date 0 (max limit 0)) |
        requested.instant ≤ t}
      (ClosedDayStrategy.toBeginningOfNextOpenHours requested days zone none).result := by
  obtain ⟨isOpen, asked⟩ := days.requested.exists_isOpenAt fallsOn
  have openThen := OpeningDay.isOpenAt_iff never asked
  rw [ClosedDayStrategy.result_toBeginningOfNextOpenHours asked, around.openInstants_forth]
  cases isOpen with
  | true =>
    exact .moved ⟨⟨.inl (openThen.mp rfl), Int.le_refl _⟩, fun t member => member.2⟩ rfl
  | false =>
    have outside : requested.instant ∉ days.requested.openInstants zone :=
      fun member => Bool.false_ne_true (openThen.mpr member)
    refine MovedToInstant.of_fromTimetable ?_ ?_
    · intro choice chosen
      refine isLeast_union_sep (around.lt_openInstants_forth never fallsOn) ?_
      rcases Option.or_eq_some_iff.mp chosen with today | ⟨notToday, after⟩
      · exact .inl (OpeningDay.isLeast_firstOpeningFrom? never outside today)
      · have early (t : Int) :=
          OpeningDay.lt_of_firstOpeningFrom?_eq_none (t := t) never outside notToday
        exact .inr ⟨early, around.next.isLeast_firstOpening? never after⟩
    · intro missed
      obtain ⟨notToday, notAfter⟩ := Option.or_eq_none_iff.mp missed
      have nothing := around.next.missed (OpeningDay.firstOpening?_eq_none_iff.mp notAfter)
      rw [nothing, Calendar.openInstants_empty, Set.union_empty]
      refine Set.eq_empty_of_forall_notMem ?_
      rintro t ⟨member, inTime⟩
      have early := OpeningDay.lt_of_firstOpeningFrom?_eq_none never outside notToday member
      exact early.not_ge inTime

end AdjacentDays.Around

/-- **Opening hours.** Let a service point keep a calendar, let the clocks of a zone never be
changed, and let the date of a due date there be as far from the ends of time as the calendar is
searched. With the days around that date one strategy moves the due date back to the last instant by
then at which the service point is open, and another one moves it on to the first instant from then
on. Each looks at the date and at the dates of its direction within the limit of the search, and
fails exactly if there is no such instant. -/
theorem Records.moved_to_nearest_open_instant (records : Records) (servicePoint : Option String)
    (calendar : Calendar) (requested : Moment) (zone : Zone) (date : Date)
    (kept : records.calendars.find? servicePoint = some calendar) (never : zone.NeverChanges)
    (fallsOn : requested.dateIn zone = .ok date)
    (far : date.FarFromEnds (max records.searchLimit 1)) :
    ∃ days, records.adjacentDays? servicePoint date = .ok (some days) ∧
      (∀ offset, MovedToInstant requested IsGreatest
        {t ∈ calendar.openInstants zone (calendar.openDates date (-max records.searchLimit 0) 0) |
          t ≤ requested.instant}
        (ClosedDayStrategy.moveToEndOfCurrentHours.move requested days zone offset).result) ∧
      MovedToInstant requested IsLeast
        {t ∈ calendar.openInstants zone (calendar.openDates date 0 (max records.searchLimit 0)) |
          requested.instant ≤ t}
        (ClosedDayStrategy.moveToBeginningOfNextOpenHours.move requested days zone
          none).result := by
  obtain ⟨days, found, around⟩ := exists_adjacentDays? kept far
  have described : requested.dateIn zone = .ok days.requested.date := by
    rw [fallsOn, around.date_requested]
  refine ⟨days, found, ?_, ?_⟩
  · intro offset
    rw [ClosedDayStrategy.move_of_dateIn _ offset described]
    exact around.toEndOfCurrentHours never fallsOn
  · rw [ClosedDayStrategy.move_of_dateIn _ none described]
    exact around.toBeginningOfNextOpenHours never fallsOn

def morning : OpeningHour := ⟨⟨32400000000, by decide⟩, ⟨43200000000, by decide⟩, by decide⟩

def afternoon : OpeningHour := ⟨⟨50400000000, by decide⟩, ⟨64800000000, by decide⟩, by decide⟩

/-- A Friday with opening hours in the afternoon and, stored after them, in the morning. -/
def marketFriday : Calendar where
  days := [{ date := friday, isOpen := true, stored := [afternoon, morning] }]
  ordered := by simp

def marketRecords : Records where
  calendars := ⟨[(some "market", marketFriday)]⟩
  searchLimit := 7

theorem marketFriday_openOn : marketFriday.OpenOn friday :=
  ⟨_, List.mem_singleton_self _, rfl, rfl⟩

/-- On that Friday the market is open in the morning and in the afternoon. -/
theorem mem_openInstants_marketFriday_iff {dates : Set Date} (inDates : friday ∈ dates) {t : Int} :
    t ∈ marketFriday.openInstants .utc dates ↔
      (Moment.showing friday afternoon.start .utc).instant ≤ t ∧
          t ≤ (Moment.showing friday afternoon.stop .utc).instant ∨
        (Moment.showing friday morning.start .utc).instant ≤ t ∧
          t ≤ (Moment.showing friday morning.stop .utc).instant := by
  simp [Calendar.openInstants, marketFriday, OpeningDay.openInstants, OpeningDay.periods,
    OpeningDay.intervals, inDates]

/-- A due date in the lunch hour of the Friday goes back to the end of the morning or on to the
beginning of the afternoon. -/
theorem marketFriday_moved :
    let lunch : Moment := .showing friday ⟨46800000000, by decide⟩ .utc
    ∃ days, marketRecords.adjacentDays? (some "market") friday = .ok (some days) ∧
      (∃ due, due.instant = (Moment.showing friday morning.stop .utc).instant ∧
        (ClosedDayStrategy.moveToEndOfCurrentHours.move lunch days .utc none).result =
          .ok (.ok due)) ∧
      (∃ due, due.instant = (Moment.showing friday afternoon.start .utc).instant ∧
        (ClosedDayStrategy.moveToBeginningOfNextOpenHours.move lunch days .utc none).result =
          .ok (.ok due)) := by
  intro lunch
  obtain ⟨days, found, back, forth⟩ := marketRecords.moved_to_nearest_open_instant (some "market")
    marketFriday lunch .utc friday rfl trivial (Moment.dateIn_showing _ _ _) (by decide)
  obtain ⟨inMorning, overBefore, closedUntil, inAfternoon⟩ :
      (Moment.showing friday morning.start .utc).instant ≤
        (Moment.showing friday morning.stop .utc).instant ∧
      (Moment.showing friday morning.stop .utc).instant < lunch.instant ∧
      lunch.instant < (Moment.showing friday afternoon.start .utc).instant ∧
      (Moment.showing friday afternoon.start .utc).instant ≤
        (Moment.showing friday afternoon.stop .utc).instant := by
    decide
  have last : IsGreatest
      {t ∈ marketFriday.openInstants .utc
          (marketFriday.openDates friday (-max marketRecords.searchLimit 0) 0) |
        t ≤ lunch.instant} (Moment.showing friday morning.stop .utc).instant := by
    have today : friday ∈ marketFriday.openDates friday (-max marketRecords.searchLimit 0) 0 :=
      ⟨marketFriday_openOn, by decide, by decide⟩
    have market {t : Int} := mem_openInstants_marketFriday_iff today (t := t)
    refine ⟨⟨market.mpr (.inr ⟨inMorning, le_rfl⟩), overBefore.le⟩, ?_⟩
    rintro t ⟨member, byThen⟩
    rcases market.mp member with ⟨opened, -⟩ | ⟨-, closed⟩
    · exact absurd byThen (closedUntil.trans_le opened).not_ge
    · exact closed
  have first : IsLeast
      {t ∈ marketFriday.openInstants .utc
          (marketFriday.openDates friday 0 (max marketRecords.searchLimit 0)) |
        lunch.instant ≤ t} (Moment.showing friday afternoon.start .utc).instant := by
    have today : friday ∈ marketFriday.openDates friday 0 (max marketRecords.searchLimit 0) :=
      ⟨marketFriday_openOn, by decide, by decide⟩
    have market {t : Int} := mem_openInstants_marketFriday_iff today (t := t)
    refine ⟨⟨market.mpr (.inl ⟨le_rfl, inAfternoon⟩), closedUntil.le⟩, ?_⟩
    rintro t ⟨member, fromThen⟩
    rcases market.mp member with ⟨opened, -⟩ | ⟨-, closed⟩
    · exact opened
    · exact absurd fromThen (closed.trans_lt overBefore).not_ge
  exact ⟨days, found,
    (back none).eq_of_closest last.1 fun other closest => IsGreatest.unique closest last,
    forth.eq_of_closest first.1 fun other closest => IsLeast.unique closest first⟩

end Lending
