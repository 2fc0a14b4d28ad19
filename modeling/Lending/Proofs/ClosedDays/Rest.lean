import Lending.Proofs.ClosedDays.Hours
import Lending.Proofs.DueDate.Bounds

/-!
# Due dates at rest

A due date that was moved lies on another date, around which the calendar has other days. Still the
strategy that moved it leaves it as it is from then on. Each strategy has due dates on which it
rests, which depend on the record of their own date alone: those of an open date, the end of an open
date, or those within the opening hours of their date. What a strategy moves a due date to is at
rest on the record that it was taken from, and the calendar has the same record for that date when
it is asked again.

The ends of opening hours are within them by the wall clock, for which it does not matter whether a
time is skipped or occurs twice. Only the strategy that goes back to the open day before in any case
never rests.

## Main definitions

* `ClosedDayStrategy.RestsAt` — the due dates that a strategy leaves as they are
* `AdjacentDays.Offers` — the days around a date that a due date can be moved to

## Main results

* `OpeningDay.isOpenAt_showing` — a day is open at the times of its opening hours
* `ClosedDayStrategy.move_of_restsAt` — a due date at rest stays
* `ClosedDayStrategy.restsAt_of_move` — a moved due date is at rest
* `Records.moved_stays` — a moved due date is not moved again
-/

namespace Lending

/-! ## Open by the wall clock -/

namespace OpeningDay

variable {day : OpeningDay} {zone : Zone} {moment closing opening : Moment}

/-- A day is open at the times of its opening hours, also when clocks skip them. -/
theorem isOpenAt_showing {hour : OpeningHour} {time : TimeOfDay} (listed : hour ∈ day.intervals)
    (inHour : hour.Contains time) :
    day.isOpenAt (.showing day.date time zone) zone = .ok true :=
  isOpenAt_eq_true_iff.mpr ⟨_, Moment.inZone?_self _, WallClock.date_showing _ _, hour, listed,
    by simpa using inHour⟩

/-- The last closing of a day is that of one of its opening hours. -/
theorem exists_of_lastClosing? (found : day.lastClosing? zone = some closing) :
    ∃ hour ∈ day.intervals, closing = .showing day.date hour.stop zone := by
  obtain ⟨span, listed, rfl⟩ := List.mem_map.mp (Moment.mem_of_latest? found)
  obtain ⟨hour, given, rfl⟩ := List.mem_map.mp listed
  exact ⟨hour, given, rfl⟩

theorem exists_of_lastClosingBy? (found : day.lastClosingBy? moment zone = some closing) :
    closing ≤ moment ∧ ∃ hour ∈ day.intervals, closing = .showing day.date hour.stop zone := by
  obtain ⟨chosen, inTime⟩ := List.mem_filter.mp (Moment.mem_of_latest? found)
  obtain ⟨span, listed, rfl⟩ := List.mem_map.mp chosen
  obtain ⟨hour, given, rfl⟩ := List.mem_map.mp listed
  exact ⟨of_decide_eq_true inTime, hour, given, rfl⟩

/-- The first opening of a day is that of one of its opening hours. -/
theorem exists_of_firstOpening? (found : day.firstOpening? zone = some opening) :
    ∃ hour ∈ day.intervals, opening = .showing day.date hour.start zone := by
  obtain ⟨span, listed, rfl⟩ := List.mem_map.mp (Moment.mem_of_earliest? found)
  obtain ⟨hour, given, rfl⟩ := List.mem_map.mp listed
  exact ⟨hour, given, rfl⟩

theorem exists_of_firstOpeningFrom? (found : day.firstOpeningFrom? moment zone = some opening) :
    moment ≤ opening ∧ ∃ hour ∈ day.intervals, opening = .showing day.date hour.start zone := by
  obtain ⟨chosen, inTime⟩ := List.mem_filter.mp (Moment.mem_of_earliest? found)
  obtain ⟨span, listed, rfl⟩ := List.mem_map.mp chosen
  obtain ⟨hour, given, rfl⟩ := List.mem_map.mp listed
  exact ⟨of_decide_eq_true inTime, hour, given, rfl⟩

/-- The closing that is found is one at which the day is open. -/
theorem isOpenAt_of_lastClosing? (found : day.lastClosing? zone = some closing) :
    day.isOpenAt closing zone = .ok true := by
  obtain ⟨hour, given, rfl⟩ := exists_of_lastClosing? found
  exact isOpenAt_showing given ⟨hour.ordered, Nat.le_refl _⟩

theorem isOpenAt_of_lastClosingBy? (found : day.lastClosingBy? moment zone = some closing) :
    day.isOpenAt closing zone = .ok true := by
  obtain ⟨-, hour, given, rfl⟩ := exists_of_lastClosingBy? found
  exact isOpenAt_showing given ⟨hour.ordered, Nat.le_refl _⟩

theorem isOpenAt_of_firstOpening? (found : day.firstOpening? zone = some opening) :
    day.isOpenAt opening zone = .ok true := by
  obtain ⟨hour, given, rfl⟩ := exists_of_firstOpening? found
  exact isOpenAt_showing given ⟨Nat.le_refl _, hour.ordered⟩

theorem isOpenAt_of_firstOpeningFrom? (found : day.firstOpeningFrom? moment zone = some opening) :
    day.isOpenAt opening zone = .ok true := by
  obtain ⟨-, hour, given, rfl⟩ := exists_of_firstOpeningFrom? found
  exact isOpenAt_showing given ⟨Nat.le_refl _, hour.ordered⟩

end OpeningDay

/-! ## Days that are offered -/

/-- A day that a due date can be moved to: the record of its own date, or the open day before or
after it. -/
def AdjacentDays.Offers (days : AdjacentDays) (day : OpeningDay) : Prop :=
  day = days.requested ∨ day.isOpen = true ∧ (day = days.previous ∨ day = days.next)

/-- The calendar has every day that is offered as the record of its date. -/
theorem AdjacentDays.Around.find?_of_offers {days : AdjacentDays} {calendar : Calendar}
    {date : Date} {limit : Int} {day : OpeningDay} (around : days.Around calendar date limit)
    (offered : days.Offers day) : (calendar.find? day.date).getD (.closed day.date) = day := by
  have recorded (stored : day ∈ calendar.days) :
      (calendar.find? day.date).getD (.closed day.date) = day := by
    rw [Calendar.find?_eq_some_iff.mpr ⟨stored, rfl⟩, Option.getD_some]
  rcases offered with rfl | ⟨isOpen, rfl | rfl⟩
  · rw [around.date_requested, around.requested]
  · exact recorded (around.previous.found isOpen).1
  · exact recorded (around.next.found isOpen).1

/-! ## Strategies at rest -/

namespace ClosedDayStrategy

variable {requested due : Moment} {days : AdjacentDays} {zone : Zone} {day : OpeningDay}
variable {choice? : Option Moment}

/-- The due dates that a strategy leaves as they are, by the record of their date. -/
def RestsAt (strategy : ClosedDayStrategy) (day : OpeningDay) (due : Moment) (zone : Zone) : Prop :=
  due.dateIn zone = .ok day.date ∧
    match strategy with
    | keepCurrentDate => True
    | moveToEndOfPreviousOpenDay => day.isOpen = true
    | moveToEndOfNextOpenDay | endOfNextOpenDay => day.isOpen = true ∧ due = .endOf day.date zone
    | endOfPreviousDayTruncate => False
    | moveToEndOfCurrentHours | moveToBeginningOfNextOpenHours =>
      day.isOpenAt due zone = .ok true

theorem fromTimetable_eq_ok :
    fromTimetable requested choice? = .ok due ↔ choice? = some due := by
  cases choice? <;> simp [fromTimetable]

theorem endOfOpenDay_eq_ok :
    endOfOpenDay requested zone day = .ok due ↔ day.isOpen = true ∧ due = .endOf day.date zone := by
  rw [endOfOpenDay, fromTimetable_eq_ok]
  cases day.isOpen <;> simp [eq_comm]

theorem result_toEndOfNextOpenDay (fallsOn : requested.dateIn zone = .ok days.requested.date) :
    (toEndOfNextOpenDay requested days zone).result =
      .ok (if days.requested.isOpen then .ok (.endOf days.requested.date zone)
        else endOfOpenDay requested zone days.next) := by
  unfold toEndOfNextOpenDay
  rw [fallsOn]
  cases days.requested.isOpen <;> rfl

/-- A due date at rest stays. -/
theorem move_of_restsAt {strategy : ClosedDayStrategy}
    (rests : strategy.RestsAt days.requested due zone) :
    (strategy.move due days zone none).result = .ok (.ok due) := by
  obtain ⟨fallsOn, rests⟩ := rests
  rw [move_of_dateIn strategy none fallsOn]
  cases strategy with
  | keepCurrentDate => rfl
  | moveToEndOfPreviousOpenDay =>
    have isOpen : days.requested.isOpen = true := rests
    simp [toEndOfPreviousOpenDay, isOpen]
  | moveToEndOfNextOpenDay | endOfNextOpenDay =>
    obtain ⟨isOpen, rfl⟩ := rests
    exact (result_toEndOfNextOpenDay fallsOn).trans (by rw [if_pos isOpen])
  | endOfPreviousDayTruncate => exact rests.elim
  | moveToEndOfCurrentHours => simpa using result_toEndOfCurrentHours rests
  | moveToBeginningOfNextOpenHours => simpa using result_toBeginningOfNextOpenHours rests

/-- A due date that is kept within opening hours, or moved to such of its own date or else of a day
beside it, is within the opening hours of a day that is offered. -/
theorem exists_isOpenAt_of_hours {isOpen : Bool} {here? beside? : Option Moment}
    (asked : days.requested.isOpenAt requested zone = .ok isOpen)
    (here : ∀ m, here? = some m → days.requested.isOpenAt m zone = .ok true)
    (beside : ∀ m, beside? = some m → day.isOpenAt m zone = .ok true)
    (isBeside : day = days.previous ∨ day = days.next)
    (moved : (if isOpen then .ok (.ok requested)
      else .ok (fromTimetable requested (here?.or beside?)) : Except Fault (Outcome Moment)) =
        .ok (.ok due)) :
    ∃ day, days.Offers day ∧ day.isOpenAt due zone = .ok true := by
  cases isOpen with
  | true =>
    obtain rfl := Except.ok.inj (Except.ok.inj moved)
    exact ⟨_, .inl rfl, asked⟩
  | false =>
    have chosen := fromTimetable_eq_ok.mp (Except.ok.inj moved)
    rcases Option.or_eq_some_iff.mp chosen with found | ⟨-, found⟩
    · exact ⟨_, .inl rfl, here due found⟩
    · have openThen := beside due found
      exact ⟨day, .inr ⟨OpeningDay.isOpen_of_isOpenAt openThen, isBeside⟩, openThen⟩

/-- A moved due date is at rest on one of the days that are offered. -/
theorem restsAt_of_move {strategy : ClosedDayStrategy}
    (other : strategy ≠ .endOfPreviousDayTruncate)
    (moved : (strategy.move requested days zone none).result = .ok (.ok due)) :
    ∃ day, days.Offers day ∧ strategy.RestsAt day due zone := by
  have fallsOn := dateIn_of_move moved
  rw [move_of_dateIn strategy none fallsOn] at moved
  obtain ⟨isOpen, asked⟩ := days.requested.exists_isOpenAt fallsOn
  cases strategy with
  | keepCurrentDate =>
    obtain rfl := Except.ok.inj (Except.ok.inj moved)
    exact ⟨_, .inl rfl, fallsOn, trivial⟩
  | moveToEndOfPreviousOpenDay =>
    have moved := Except.ok.inj moved
    unfold toEndOfPreviousOpenDay at moved
    split at moved
    · next isOpen =>
      obtain rfl := Except.ok.inj moved
      exact ⟨_, .inl rfl, fallsOn, isOpen⟩
    · obtain ⟨isOpen, rfl⟩ := endOfOpenDay_eq_ok.mp moved
      exact ⟨_, .inr ⟨isOpen, .inl rfl⟩, Moment.dateIn_showing _ _ _, isOpen⟩
  | moveToEndOfNextOpenDay | endOfNextOpenDay =>
    have moved := Except.ok.inj ((result_toEndOfNextOpenDay fallsOn).symm.trans moved)
    split at moved
    · next isOpen =>
      obtain rfl := Except.ok.inj moved
      exact ⟨_, .inl rfl, Moment.dateIn_showing _ _ _, isOpen, rfl⟩
    · obtain ⟨isOpen, rfl⟩ := endOfOpenDay_eq_ok.mp moved
      exact ⟨_, .inr ⟨isOpen, .inr rfl⟩, Moment.dateIn_showing _ _ _, isOpen, rfl⟩
  | endOfPreviousDayTruncate => exact absurd rfl other
  | moveToEndOfCurrentHours =>
    obtain ⟨day, offered, openThen⟩ := exists_isOpenAt_of_hours asked
      (fun _ => OpeningDay.isOpenAt_of_lastClosingBy?)
      (fun _ => OpeningDay.isOpenAt_of_lastClosing?) (.inl rfl) ((result_toEndOfCurrentHours asked).symm.trans moved)
    exact ⟨day, offered, OpeningDay.dateIn_of_isOpenAt openThen, openThen⟩
  | moveToBeginningOfNextOpenHours =>
    obtain ⟨day, offered, openThen⟩ := exists_isOpenAt_of_hours asked
      (fun _ => OpeningDay.isOpenAt_of_firstOpeningFrom?)
      (fun _ => OpeningDay.isOpenAt_of_firstOpening?) (.inr rfl)
      ((result_toBeginningOfNextOpenHours asked).symm.trans moved)
    exact ⟨day, offered, OpeningDay.dateIn_of_isOpenAt openThen, openThen⟩

end ClosedDayStrategy

/-! ## The records -/

namespace Records

variable {records : Records} {servicePoint : Option String} {date : Date} {days : AdjacentDays}

/-- Days around a date come from a calendar. -/
theorem exists_around_of_adjacentDays?
    (found : records.adjacentDays? servicePoint date = .ok (some days)) :
    ∃ calendar, records.calendars.find? servicePoint = some calendar ∧
      days.Around calendar date records.searchLimit := by
  unfold adjacentDays? at found
  split at found
  · cases found
  · next calendar kept =>
    obtain ⟨around, adjacent, same⟩ := map_eq_ok.mp found
    obtain rfl := Option.some.inj same
    exact ⟨calendar, kept, Calendar.around_of_adjacent adjacent⟩

/-- **Due dates at rest.** Let a strategy other than going back to the day before move a due date
with the days around its date that a service point has. The moved due date falls on a date, around
which the service point has days too if it is far enough from the ends of the calendar, and with
these the strategy leaves it as it is. -/
theorem moved_stays (found : records.adjacentDays? servicePoint date = .ok (some days))
    {strategy : ClosedDayStrategy} (other : strategy ≠ .endOfPreviousDayTruncate)
    {requested due : Moment} {zone : Zone}
    (moved : (strategy.move requested days zone none).result = .ok (.ok due)) :
    ∃ newDate, due.dateIn zone = .ok newDate ∧
      (newDate.FarFromEnds (max records.searchLimit 1) →
        ∃ newDays, records.adjacentDays? servicePoint newDate = .ok (some newDays)) ∧
      ∀ newDays, records.adjacentDays? servicePoint newDate = .ok (some newDays) →
        (strategy.move due newDays zone none).result = .ok (.ok due) := by
  obtain ⟨calendar, kept, around⟩ := exists_around_of_adjacentDays? found
  obtain ⟨day, offered, rests⟩ := ClosedDayStrategy.restsAt_of_move other moved
  refine ⟨day.date, rests.1, fun far => ?_, fun newDays foundNew => ?_⟩
  · obtain ⟨newDays, foundNew, -⟩ := exists_adjacentDays? kept far
    exact ⟨newDays, foundNew⟩
  · obtain ⟨calendar', kept', aroundNew⟩ := exists_around_of_adjacentDays? foundNew
    obtain rfl := Option.some.inj (kept.symm.trans kept')
    -- the calendar gives the day that was offered as the record of its date
    have same : newDays.requested = day := by
      rw [aroundNew.requested, around.find?_of_offers offered]
    exact ClosedDayStrategy.move_of_restsAt (same ▸ rests)

/-- A Sunday on which a service point in New York opens for half an hour that clocks skip in that
night. -/
def nightOpening : OpeningDay where
  date := ⟨739318, by decide⟩
  isOpen := true
  stored := [⟨⟨8100000000, by decide⟩, ⟨9900000000, by decide⟩, by decide⟩]

/-- The records of that service point, which is open on no other day. -/
def nightRecords : Records where
  calendars := ⟨[(some "desk", { days := [nightOpening] })]⟩
  searchLimit := 2

/-- Half past three on the Saturday before, in universal time. -/
def saturdayAfternoon : Moment := .showing ⟨739317, by decide⟩ ⟨55800000000, by decide⟩ .utc

/-- A due date on the Saturday goes to the skipped quarter past two, and stays there. -/
theorem saturdayAfternoon_moved_stays :
    let strategy : ClosedDayStrategy := .moveToBeginningOfNextOpenHours
    let opening : Moment := .showing nightOpening.date ⟨8100000000, by decide⟩ (.region .newYork)
    ∃ days newDays,
      nightRecords.adjacentDays? (some "desk") ⟨739317, by decide⟩ = .ok (some days) ∧
      (strategy.move saturdayAfternoon days (.region .newYork) none).result = .ok (.ok opening) ∧
      nightRecords.adjacentDays? (some "desk") nightOpening.date = .ok (some newDays) ∧
      (strategy.move opening newDays (.region .newYork) none).result = .ok (.ok opening) := by
  intro strategy opening
  have found : nightRecords.adjacentDays? (some "desk") ⟨739317, by decide⟩ =
      .ok (some ⟨.closed ⟨739316, by decide⟩, .closed ⟨739317, by decide⟩, nightOpening⟩) := by
    rfl
  have moved : (strategy.move saturdayAfternoon
      ⟨.closed ⟨739316, by decide⟩, .closed ⟨739317, by decide⟩, nightOpening⟩
      (.region .newYork) none).result = .ok (.ok opening) := by
    rfl
  obtain ⟨newDate, fallsOn, around, stays⟩ := moved_stays found (by decide) moved
  obtain rfl := Except.ok.inj (fallsOn.symm.trans (Moment.dateIn_showing _ _ _))
  obtain ⟨newDays, foundNew⟩ := around (by decide)
  exact ⟨_, newDays, found, moved, foundNew, stays newDays foundNew⟩

end Records

end Lending
