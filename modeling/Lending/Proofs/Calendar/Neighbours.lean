import Lending.Desk.Records
import Lending.Proofs.Time.Civil
import Mathlib.Data.List.Nodup
import Mathlib.Data.Set.Basic
import Mathlib.Order.Bounds.Defs

/-!
# The open days next to a date

A due date is moved by looking at its own date and at the nearest open days before and after it. The
calendar searches for them date by date, up to a limit. Here the three days are said without the
search: they are the record of the date, the open day of the greatest open date before it and that
of the least one after it. Where the calendar reaches far enough around the date there always are
such days, and a closed one says that no date in reach is open.

## Main definitions

* `Calendar.OpenOn`, `Calendar.openDates` — the open dates, and those of a span around a date
* `Calendar.Nearest` — a day that stands for the nearest of some open dates
* `AdjacentDays.Around` — what the days around a date are
* `Records.DaysAround` — what the records have around a date at a service point
* `Date.FarFromEnds` — a date around which the calendar reaches so many days

## Main results

* `Calendar.find?_eq_some_iff` — a calendar finds the day that it has for a date
* `Calendar.searchOpen_eq_ok_some`, `Calendar.searchOpen_eq_ok_none` — what a search comes to
* `Calendar.around_of_adjacent`, `Records.exists_adjacentDays?` — the days around a date
* `Records.adjacentDays_eq_ok_iff` — the days around a date with or without a calendar
-/

namespace Lending

/-! ## Dates -/

namespace Date

variable {date : Date}

/-- Whether the calendar reaches so many days before and after a date. -/
def FarFromEnds (date : Date) (days : Int) : Prop :=
  days ≤ date.ordinal ∧ date.ordinal + days < 3652059

instance (date : Date) (days : Int) : Decidable (date.FarFromEnds days) :=
  inferInstanceAs (Decidable (_ ∧ _))

/-- Within its reach the calendar has every date. -/
theorem FarFromEnds.exists_shift {days n : Int} (far : date.FarFromEnds days) (back : -days ≤ n)
    (forth : n ≤ days) : ∃ shifted, date.shift n = .ok shifted := by
  obtain ⟨before, after⟩ := far
  let shifted : Date := ⟨(date.ordinal + n).toNat, by omega⟩
  refine ⟨shifted, Fault.require_eq_ok.mpr (shift?_eq_some_iff.mpr ?_)⟩
  change ((date.ordinal + n).toNat : Int) = date.ordinal + n
  omega

/-- A date that is so many days away. -/
theorem ordinal_of_shift {shifted : Date} {n : Int} (h : date.shift n = .ok shifted) :
    (shifted.ordinal : Int) = date.ordinal + n :=
  shift?_eq_some_iff.mp (Fault.require_eq_ok.mp h)

end Date

namespace Calendar

variable {calendar : Calendar} {date : Date} {day : OpeningDay}

/-! ## Stored days -/

/-- A calendar has at most one day for a date. -/
theorem eq_of_date_eq {a b : OpeningDay} (ha : a ∈ calendar.days) (hb : b ∈ calendar.days)
    (same : a.date = b.date) : a = b := by
  have apart : calendar.days.Pairwise fun x y => x.date ≠ y.date :=
    calendar.ordered.imp fun before equal => by
      rw [equal, Date.lt_def] at before
      omega
  exact List.inj_on_of_nodup_map (List.pairwise_map.mpr apart) ha hb same

/-- A calendar finds the day that it has for a date. -/
theorem find?_eq_some_iff :
    calendar.find? date = some day ↔ day ∈ calendar.days ∧ day.date = date := by
  constructor
  · intro found
    exact ⟨List.mem_of_find?_eq_some found, by simpa using List.find?_some found⟩
  · rintro ⟨stored, rfl⟩
    cases found : calendar.find? day.date with
    | none => simpa using List.find?_eq_none.mp found day stored
    | some other =>
      have same : other.date = day.date := by simpa using List.find?_some found
      rw [eq_of_date_eq (List.mem_of_find?_eq_some found) stored same]

/-- Whether an open day is stored for a date. -/
def OpenOn (calendar : Calendar) (date : Date) : Prop :=
  ∃ day ∈ calendar.days, day.date = date ∧ day.isOpen = true

/-- The open dates from `first` to `last` days after a date. -/
def openDates (calendar : Calendar) (date : Date) (first last : Int) : Set Date :=
  {d | calendar.OpenOn d ∧ date.ordinal + first ≤ d.ordinal ∧ d.ordinal ≤ date.ordinal + last}

/-! ## The search -/

variable {step limit : Int} {tries distance : Nat}

/-- Whether the date so many days after a date is open. -/
def OpenAfter (calendar : Calendar) (date : Date) (days : Int) : Prop :=
  ∃ day ∈ calendar.days, day.isOpen = true ∧ (day.date.ordinal : Int) = date.ordinal + days

/-- What is found for a date that is open. -/
theorem filter_find?_eq_some_iff {sought : Date} :
    (calendar.find? sought).filter (·.isOpen) = some day ↔
      day ∈ calendar.days ∧ day.isOpen = true ∧ day.date = sought := by
  rw [Option.filter_eq_some_iff, find?_eq_some_iff, and_assoc, and_comm (a := day.date = sought)]

/-- A date for which nothing open is found is not open. -/
theorem not_openAfter_of_filter_find? {sought : Date} {n : Int}
    (shifted : date.shift n = .ok sought)
    (closed : (calendar.find? sought).filter (·.isOpen) = none) : ¬ calendar.OpenAfter date n := by
  rintro ⟨day, stored, isOpen, away⟩
  have same : day.date = sought :=
    Date.eq_of_ordinal_eq (by have := Date.ordinal_of_shift shifted; omega)
  have found := filter_find?_eq_some_iff.mpr ⟨stored, isOpen, same⟩
  simp [closed] at found

/-- What a search finds is an open day, and no date that it looked at before is open. -/
theorem searchOpen_eq_ok_some
    (found : calendar.searchOpen date step tries distance = .ok (some day)) :
    day ∈ calendar.days ∧ day.isOpen = true ∧
      ∃ n : Nat, distance ≤ n ∧ n < distance + tries ∧
        (day.date.ordinal : Int) = date.ordinal + step * n ∧
        ∀ m : Nat, distance ≤ m → m < n → ¬ calendar.OpenAfter date (step * m) := by
  induction tries generalizing distance with
  | zero => simp [searchOpen] at found
  | succ tries ih =>
    unfold searchOpen at found
    obtain ⟨sought, shifted, found⟩ := bind_eq_ok.mp found
    split at found
    · next here =>
      obtain rfl := Option.some.inj (Except.ok.inj found)
      obtain ⟨stored, isOpen, rfl⟩ := filter_find?_eq_some_iff.mp here
      refine ⟨stored, isOpen, distance, by omega, by omega, Date.ordinal_of_shift shifted, ?_⟩
      intro m atLeast below
      omega
    · next closed =>
      obtain ⟨stored, isOpen, n, past, within, away, nearest⟩ := ih found
      refine ⟨stored, isOpen, n, by omega, by omega, away, ?_⟩
      intro m atLeast below
      -- the date looked at here is closed, and so are those that the rest of the search passed
      rcases Nat.eq_or_lt_of_le atLeast with rfl | later
      · exact not_openAfter_of_filter_find? shifted closed
      · exact nearest m later below

/-- A search that finds nothing has looked at closed dates only. -/
theorem searchOpen_eq_ok_none (missed : calendar.searchOpen date step tries distance = .ok none) :
    ∀ m : Nat, distance ≤ m → m < distance + tries → ¬ calendar.OpenAfter date (step * m) := by
  induction tries generalizing distance with
  | zero =>
    intro m atLeast below
    omega
  | succ tries ih =>
    unfold searchOpen at missed
    obtain ⟨sought, shifted, missed⟩ := bind_eq_ok.mp missed
    split at missed
    · simp at missed
    · next closed =>
      intro m atLeast below
      rcases Nat.eq_or_lt_of_le atLeast with rfl | later
      · exact not_openAfter_of_filter_find? shifted closed
      · exact ih missed m later (by omega)

/-- A search that stays within the calendar comes to an end. -/
theorem exists_searchOpen (reached : ∀ m : Nat, distance ≤ m → m < distance + tries →
    ∃ shifted, date.shift (step * m) = .ok shifted) :
    ∃ found, calendar.searchOpen date step tries distance = .ok found := by
  induction tries generalizing distance with
  | zero => exact ⟨none, rfl⟩
  | succ tries ih =>
    obtain ⟨sought, shifted⟩ := reached distance (by omega) (by omega)
    cases here : (calendar.find? sought).filter (·.isOpen) with
    | some day => exact ⟨some day, by simp [searchOpen, shifted, here]⟩
    | none =>
      have further : ∃ found, calendar.searchOpen date step tries (distance + 1) = .ok found :=
        ih fun m atLeast below => reached m (by omega) (by omega)
      obtain ⟨found, rest⟩ := further
      exact ⟨found, by simp [searchOpen, shifted, here, rest]⟩

/-! ## The nearest open days -/

/-- A day that stands for the nearest of some open dates: the stored day of that date, or a closed
day if there are no such dates. -/
structure Nearest (calendar : Calendar) (Closest : Set Date → Date → Prop) (dates : Set Date)
    (day : OpeningDay) : Prop where
  found : day.isOpen = true → day ∈ calendar.days ∧ Closest dates day.date
  missed : day.isOpen = false → dates = ∅

/-- The dates of a span are counted by their distance from a date. -/
theorem mem_openDates_iff {first last : Int} {d : Date} :
    d ∈ calendar.openDates date first last ↔
      calendar.OpenAfter date ((d.ordinal : Int) - date.ordinal) ∧
        first ≤ (d.ordinal : Int) - date.ordinal ∧ (d.ordinal : Int) - date.ordinal ≤ last := by
  constructor
  · rintro ⟨⟨day, stored, rfl, isOpen⟩, after, before⟩
    exact ⟨⟨day, stored, isOpen, by omega⟩, by omega, by omega⟩
  · rintro ⟨⟨day, stored, isOpen, away⟩, after, before⟩
    have same : day.date = d := Date.eq_of_ordinal_eq (by omega)
    exact ⟨⟨day, stored, same, isOpen⟩, by omega, by omega⟩

/-- In each direction the day that is found is open and nothing nearer is, or it is closed and
nothing within the limit is open. -/
theorem nearestOpen_eq_ok (ended : calendar.nearestOpen date step limit = .ok day) :
    (day.isOpen = true ∧ day ∈ calendar.days ∧
      ∃ n : Int, 1 ≤ n ∧ n ≤ limit ∧ (day.date.ordinal : Int) = date.ordinal + step * n ∧
        ∀ k, 1 ≤ k → calendar.OpenAfter date (step * k) → n ≤ k) ∨
    (day.isOpen = false ∧ ∀ k, 1 ≤ k → k ≤ limit → ¬ calendar.OpenAfter date (step * k)) := by
  unfold nearestOpen at ended
  obtain ⟨searched, search, ended⟩ := bind_eq_ok.mp ended
  cases searched with
  | some found =>
    obtain rfl := Except.ok.inj ended
    obtain ⟨stored, isOpen, n, past, within, away, nearest⟩ := searchOpen_eq_ok_some search
    refine .inl ⟨isOpen, stored, n, by omega, by omega, away, fun k past openThen => ?_⟩
    by_contra nearer
    obtain ⟨m, rfl⟩ := Int.eq_ofNat_of_zero_le (by omega : 0 ≤ k)
    exact nearest m (by omega) (by omega) openThen
  | none =>
    obtain ⟨beside, -, ended⟩ := bind_eq_ok.mp ended
    obtain rfl := Except.ok.inj ended
    refine .inr ⟨rfl, fun k past within => ?_⟩
    obtain ⟨m, rfl⟩ := Int.eq_ofNat_of_zero_le (by omega : 0 ≤ k)
    exact searchOpen_eq_ok_none search m (by omega) (by omega)

/-- The day found backwards stands for the last open date before a date. -/
theorem nearest_of_nearestOpen_back (ended : calendar.nearestOpen date (-1) limit = .ok day) :
    calendar.Nearest IsGreatest (calendar.openDates date (-limit) (-1)) day := by
  have back (d : Date) : (d.ordinal : Int) - date.ordinal = -1 * (date.ordinal - d.ordinal) := by
    omega
  rcases nearestOpen_eq_ok ended with ⟨isOpen, stored, n, past, within, away, nearest⟩ |
    ⟨closed, nothing⟩
  · have inSpan : day.date ∈ calendar.openDates date (-limit) (-1) :=
      ⟨⟨day, stored, rfl, isOpen⟩, by omega, by omega⟩
    refine ⟨fun _ => ⟨stored, inSpan, ?_⟩, by simp [isOpen]⟩
    intro d member
    obtain ⟨openThen, after, before⟩ := mem_openDates_iff.mp member
    have notNearer := nearest _ (by omega) (back d ▸ openThen)
    rw [Date.le_def]
    omega
  · refine ⟨by simp [closed], fun _ => Set.eq_empty_of_forall_notMem fun d member => ?_⟩
    obtain ⟨openThen, after, before⟩ := mem_openDates_iff.mp member
    exact nothing _ (by omega) (by omega) (back d ▸ openThen)

/-- The day found forwards stands for the first open date after a date. -/
theorem nearest_of_nearestOpen_forth (ended : calendar.nearestOpen date 1 limit = .ok day) :
    calendar.Nearest IsLeast (calendar.openDates date 1 limit) day := by
  have forth (d : Date) : (d.ordinal : Int) - date.ordinal = 1 * (d.ordinal - date.ordinal) := by
    omega
  rcases nearestOpen_eq_ok ended with ⟨isOpen, stored, n, past, within, away, nearest⟩ |
    ⟨closed, nothing⟩
  · have inSpan : day.date ∈ calendar.openDates date 1 limit :=
      ⟨⟨day, stored, rfl, isOpen⟩, by omega, by omega⟩
    refine ⟨fun _ => ⟨stored, inSpan, ?_⟩, by simp [isOpen]⟩
    intro d member
    obtain ⟨openThen, after, before⟩ := mem_openDates_iff.mp member
    have notNearer := nearest _ (by omega) (forth d ▸ openThen)
    rw [Date.le_def]
    omega
  · refine ⟨by simp [closed], fun _ => Set.eq_empty_of_forall_notMem fun d member => ?_⟩
    obtain ⟨openThen, after, before⟩ := mem_openDates_iff.mp member
    exact nothing _ (by omega) (by omega) (forth d ▸ openThen)

/-- A search within the calendar finds a day, an open one or a closed one. -/
theorem exists_nearestOpen (far : date.FarFromEnds (max limit 1)) (beside : step = 1 ∨ step = -1) :
    ∃ day, calendar.nearestOpen date step limit = .ok day := by
  have reached (n : Int) (past : 0 ≤ n) (within : n ≤ max limit 1) :
      ∃ shifted, date.shift (step * n) = .ok shifted := by
    rcases beside with rfl | rfl
    · exact far.exists_shift (by omega) (by omega)
    · exact far.exists_shift (by omega) (by omega)
  obtain ⟨searched, search⟩ : ∃ found, calendar.searchOpen date step limit.toNat 1 = .ok found :=
    exists_searchOpen fun m atLeast below => reached m (by omega) (by omega)
  obtain ⟨next, shifted⟩ := reached 1 (by omega) (by omega)
  rw [Int.mul_one] at shifted
  cases searched with
  | some found => exact ⟨found, bind_eq_ok.mpr ⟨_, search, rfl⟩⟩
  | none => exact ⟨.closed next, bind_eq_ok.mpr ⟨_, search, bind_eq_ok.mpr ⟨_, shifted, rfl⟩⟩⟩

end Calendar

/-! ## The days around a date -/

/-- What the days around a date are: its own record or a closed day, and the nearest open days
before and after it within a limit. -/
structure AdjacentDays.Around (days : AdjacentDays) (calendar : Calendar) (date : Date)
    (limit : Int) : Prop where
  requested : days.requested = (calendar.find? date).getD (.closed date)
  previous : calendar.Nearest IsGreatest (calendar.openDates date (-limit) (-1)) days.previous
  next : calendar.Nearest IsLeast (calendar.openDates date 1 limit) days.next

/-- The record of a date is of that date. -/
theorem AdjacentDays.Around.date_requested {days : AdjacentDays} {calendar : Calendar}
    {date : Date} {limit : Int} (around : days.Around calendar date limit) :
    days.requested.date = date := by
  rw [around.requested]
  cases found : calendar.find? date with
  | none => rfl
  | some day => exact (Calendar.find?_eq_some_iff.mp found).2

namespace Calendar

variable {calendar : Calendar} {date : Date} {limit : Int}

theorem around_of_adjacent {days : AdjacentDays} (h : calendar.adjacent date limit = .ok days) :
    days.Around calendar date limit := by
  obtain ⟨previous, back, h⟩ := bind_eq_ok.mp h
  obtain ⟨next, forth, h⟩ := bind_eq_ok.mp h
  obtain rfl := Except.ok.inj h
  exact ⟨rfl, nearest_of_nearestOpen_back back, nearest_of_nearestOpen_forth forth⟩

/-- Far enough from the ends of the calendar every date has days around it. -/
theorem exists_adjacent (far : date.FarFromEnds (max limit 1)) :
    ∃ days, calendar.adjacent date limit = .ok days := by
  obtain ⟨previous, back⟩ := calendar.exists_nearestOpen far (.inr rfl)
  obtain ⟨next, forth⟩ := calendar.exists_nearestOpen far (.inl rfl)
  exact ⟨_, bind_eq_ok.mpr ⟨previous, back, bind_eq_ok.mpr ⟨next, forth, rfl⟩⟩⟩

end Calendar

/-- A service point with a calendar has days around every date that is far enough from the ends. -/
theorem Records.exists_adjacentDays? {records : Records} {servicePoint : Option String}
    {calendar : Calendar} {date : Date}
    (kept : records.calendars.find? servicePoint = some calendar)
    (far : date.FarFromEnds (max records.searchLimit 1)) :
    ∃ days, records.adjacentDays? servicePoint date = .ok (some days) ∧
      days.Around calendar date records.searchLimit := by
  obtain ⟨days, found⟩ := calendar.exists_adjacent far
  refine ⟨days, ?_, Calendar.around_of_adjacent found⟩
  unfold adjacentDays?
  rw [kept]
  exact map_eq_ok.mpr ⟨days, found, rfl⟩

/-- Around a date without any open day there are closed ones only. -/
theorem AdjacentDays.eq_of_closedAround {date : Date} {days : AdjacentDays}
    (around : closedAround date = .ok days) :
    ∃ previous next, days = ⟨.closed previous, .closed date, .closed next⟩ := by
  obtain ⟨previous, -, around⟩ := bind_eq_ok.mp around
  obtain ⟨next, -, around⟩ := bind_eq_ok.mp around
  exact ⟨previous, next, (Except.ok.inj around).symm⟩

namespace Records

variable {records : Records} {servicePoint : Option String} {date : Date} {days : AdjacentDays}

/-- What the records have around a date: the days of the calendar of the service point, or closed
ones if there is no service point or no calendar for it. -/
inductive DaysAround (records : Records) : Option String → Date → AdjacentDays → Prop
  | kept {id : String} {calendar : Calendar} {date : Date} {days : AdjacentDays}
      (kept : records.calendars.find? (some id) = some calendar)
      (adjacent : calendar.adjacent date records.searchLimit = .ok days) :
      records.DaysAround (some id) date days
  | closed {servicePoint : Option String} {date : Date} {days : AdjacentDays}
      (absent : ∀ id ∈ servicePoint, records.calendars.find? (some id) = none)
      (closed : AdjacentDays.closedAround date = .ok days) :
      records.DaysAround servicePoint date days

theorem adjacentDays_eq_ok_iff :
    records.adjacentDays servicePoint date = .ok days ↔
      records.DaysAround servicePoint date days := by
  constructor
  · intro found
    obtain ⟨known, asked, found⟩ := bind_eq_ok.mp found
    cases servicePoint with
    | none =>
      obtain rfl := Except.ok.inj asked
      exact .closed (by simp) found
    | some id =>
      simp only [Option.elim_some, adjacentDays?] at asked
      split at asked
      · next absent =>
        obtain rfl := Except.ok.inj asked
        exact .closed (by simpa using absent) found
      · next kept =>
        obtain ⟨around, adjacent, rfl⟩ := map_eq_ok.mp asked
        obtain rfl := Except.ok.inj found
        exact .kept kept adjacent
  · rintro (⟨kept, adjacent⟩ | ⟨absent, closed⟩)
    · refine bind_eq_ok.mpr ⟨some days, ?_, rfl⟩
      simp [adjacentDays?, kept, adjacent]
    · refine bind_eq_ok.mpr ⟨none, ?_, closed⟩
      cases servicePoint with
      | none => rfl
      | some id => simp [adjacentDays?, absent id rfl]

/-- The days around a date are those around this date and no other. -/
theorem DaysAround.date_requested (around : records.DaysAround servicePoint date days) :
    days.requested.date = date := by
  cases around with
  | kept kept adjacent => exact (Calendar.around_of_adjacent adjacent).date_requested
  | closed absent closed =>
    obtain ⟨previous, next, rfl⟩ := AdjacentDays.eq_of_closedAround closed
    rfl

end Records

end Lending
