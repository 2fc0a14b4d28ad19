import Lending.Proofs.Overdue.OpenMinutes

/-!
# Fines without closed time

A patron should not pay more under a fine policy that leaves closed time out than under one that
counts it. The open minutes of a timetable are no more than all minutes, even where hours and
moments are not on whole seconds and the sum of the overlaps is rounded up: an open day is not open
for its last microsecond, and as long as it has few opening hours they gain less than that by
rounding. Opening hours of one day that overlap are counted twice, and then leaving out closed time
costs more.

## Main definitions

* `OpenBetween` — days that are open at some time between two moments
* `OpeningDay.lastMicro` — the last microsecond of a date
* `RoundsSafely` — whole seconds, or few opening hours a day

## Main results

* `openMicros_add_length_le` — open days leave time between them
* `openMinutes_le_minutesBetween` — there are no more open minutes than minutes
* `Loan.overdueMinutes_open_le` — leaving out closed time never costs more
-/

namespace Lending

variable {start stop : Moment} {days : List OpeningDay} {day : OpeningDay} {zone : Zone} {t : Int}

/-! ## Days that are open between two moments -/

/-- Whether a day is open at some time between two moments. -/
def OpenBetween (start stop : Moment) (zone : Zone) (day : OpeningDay) : Prop :=
  overlaps start stop [day] zone ≠ []

instance : DecidablePred (OpenBetween start stop zone) :=
  fun _ => inferInstanceAs (Decidable (_ ≠ _))

/-- Overlaps are found day by day. -/
theorem overlaps_cons (day : OpeningDay) (days : List OpeningDay) :
    overlaps start stop (day :: days) zone =
      overlaps start stop [day] zone ++ overlaps start stop days zone := by
  simp [overlaps, openSpans]

theorem length_overlaps_singleton_le (day : OpeningDay) :
    (overlaps start stop [day] zone).length ≤ day.intervals.length := by
  refine (List.length_filter_le _ _).trans ?_
  simp [openSpans, OpeningDay.periods]

/-- A day that is open between two moments is open for some microsecond there. -/
theorem OpenBetween.exists_openDuring (isOpen : OpenBetween start stop zone day) :
    ∃ t, start.instant ≤ t ∧ t < stop.instant ∧ OpenDuring [day] zone t := by
  obtain ⟨overlap, listed⟩ := List.exists_mem_of_ne_nil _ isOpen
  obtain ⟨listed, pos⟩ := List.mem_filter.mp listed
  obtain ⟨span, inSpans, rfl⟩ := List.mem_map.mp listed
  have shares := sharedMicros_pos_iff.mp (of_decide_eq_true pos)
  exact ⟨max span.1 start.instant, by omega, by omega, span, inSpans, by omega, by omega⟩

/-! ## The last microsecond of a date -/

/-- The last microsecond of a date by the clocks of a zone. -/
def OpeningDay.lastMicro (day : OpeningDay) (zone : Zone) : Int :=
  day.date.ordinal * 86400000000 + 86399999999 - zone.standardOffset * 1000000

/-- Days are open only on their dates, and not for the last microsecond of them. -/
theorem exists_before_lastMicro (never : zone.NeverChanges) (isOpen : OpenDuring days zone t) :
    ∃ day ∈ days, day.lastMicro zone - 86399999999 ≤ t ∧ t < day.lastMicro zone := by
  obtain ⟨day, listed, hour, -, after, before⟩ := (openDuring_iff never).mp isOpen
  have inDay := hour.stop.inRange
  rw [Zone.wallAt] at after before
  refine ⟨day, listed, ?_, ?_⟩ <;> rw [OpeningDay.lastMicro] <;> omega

theorem not_openDuring_lastMicro (never : zone.NeverChanges) :
    ¬ OpenDuring days zone (day.lastMicro zone) := by
  intro isOpen
  obtain ⟨other, -, after, before⟩ := exists_before_lastMicro never isOpen
  unfold OpeningDay.lastMicro at after before
  omega

theorem OpenBetween.bounds (never : zone.NeverChanges) (isOpen : OpenBetween start stop zone day) :
    start.instant < day.lastMicro zone ∧ day.lastMicro zone - 86399999999 < stop.instant := by
  obtain ⟨t, after, before, isOpen⟩ := isOpen.exists_openDuring
  obtain ⟨_, listed, begins, ends⟩ := exists_before_lastMicro never isOpen
  obtain rfl := List.mem_singleton.mp listed
  omega

theorem Timetable.pairwise_lastMicro (timetable : Timetable days) (zone : Zone) :
    days.Pairwise fun a b => 86400000000 ≤ a.lastMicro zone - b.lastMicro zone ∨
      86400000000 ≤ b.lastMicro zone - a.lastMicro zone := by
  refine (List.pairwise_map.mp timetable.distinct).imp fun {a b} differ => ?_
  have apart : a.date.ordinal ≠ b.date.ordinal := fun same => differ (Date.eq_of_ordinal_eq same)
  unfold OpeningDay.lastMicro
  omega

/-- Open days leave time between them: the last microsecond of each is not open, and only one of
these can be after the time in question. -/
theorem openMicros_add_length_le (timetable : Timetable days) (never : zone.NeverChanges) :
    openMicros start stop days zone + (days.filter (OpenBetween start stop zone ·)).length ≤
      (stop.instant - start.instant).toNat + 1 := by
  -- the marks of the open days, with the one after the time moved to its end
  let marks := (days.filter (OpenBetween start stop zone ·)).map
    fun day => min (day.lastMicro zone) stop.instant
  have distinct : marks.Nodup := by
    apply List.pairwise_map.mpr
    refine ((timetable.pairwise_lastMicro zone).filter _).imp_of_mem fun {a b} inA inB apart => ?_
    have boundsA := OpenBetween.bounds never (of_decide_eq_true (List.mem_filter.mp inA).2)
    have boundsB := OpenBetween.bounds never (of_decide_eq_true (List.mem_filter.mp inB).2)
    omega
  have disjoint : Disjoint
      ((Finset.Ico start.instant stop.instant).filter (OpenDuring days zone)) marks.toFinset := by
    rw [Finset.disjoint_left]
    intro t member marked
    obtain ⟨between, isOpen⟩ := Finset.mem_filter.mp member
    obtain ⟨day, -, rfl⟩ := List.mem_map.mp (List.mem_toFinset.mp marked)
    rw [Finset.mem_Ico] at between
    -- a mark before the end is the last microsecond of its day
    rw [min_eq_left (by omega)] at isOpen
    exact not_openDuring_lastMicro never isOpen
  have within : (Finset.Ico start.instant stop.instant).filter (OpenDuring days zone) ∪
      marks.toFinset ⊆ Finset.Ico start.instant (stop.instant + 1) := by
    intro t member
    rw [Finset.mem_Ico]
    rcases Finset.mem_union.mp member with isOpen | marked
    · have between := Finset.mem_Ico.mp (Finset.mem_filter.mp isOpen).1
      omega
    · obtain ⟨day, listed, rfl⟩ := List.mem_map.mp (List.mem_toFinset.mp marked)
      have isOpen : OpenBetween start stop zone day :=
        of_decide_eq_true (List.mem_filter.mp listed).2
      have bounds := isOpen.bounds never
      obtain ⟨t, after, before, -⟩ := isOpen.exists_openDuring
      omega
  have count := Finset.card_le_card within
  rw [Finset.card_union_of_disjoint disjoint, List.toFinset_card_of_nodup distinct, Int.card_Ico,
    List.length_map] at count
  unfold openMicros
  omega

/-! ## The sum of the overlaps -/

/-- Every open day has an overlap. -/
theorem length_filter_le_length_overlaps (days : List OpeningDay) :
    (days.filter (OpenBetween start stop zone ·)).length ≤
      (overlaps start stop days zone).length := by
  induction days with
  | nil => exact Nat.zero_le _
  | cons day days ih =>
    rw [overlaps_cons, List.length_append, List.filter_cons]
    split_ifs with isOpen
    · have some := List.length_pos_of_ne_nil (of_decide_eq_true isOpen)
      rw [List.length_cons]
      omega
    · omega

/-- Days that are not open have no overlaps, and the others no more than opening hours. -/
theorem length_overlaps_mul_le {weight bound : Nat}
    (few : ∀ day ∈ days, day.intervals.length * weight ≤ bound) :
    (overlaps start stop days zone).length * weight ≤
      bound * (days.filter (OpenBetween start stop zone ·)).length := by
  induction days with
  | nil => simp [overlaps, openSpans]
  | cons day days ih =>
    have rest := ih fun other listed => few other (by simp [listed])
    rw [overlaps_cons, List.length_append, Nat.add_mul, List.filter_cons]
    split_ifs with isOpen
    · have ofDay : (overlaps start stop [day] zone).length * weight ≤ bound :=
        (Nat.mul_le_mul_right _ (length_overlaps_singleton_le day)).trans (few day (by simp))
      rw [List.length_cons, Nat.mul_succ]
      omega
    · have none : overlaps start stop [day] zone = [] :=
        not_not.mp fun some => isOpen (decide_eq_true some)
      simpa [none] using rest

theorem length_overlaps_le_sum :
    (overlaps start stop days zone).length ≤ (overlaps start stop days zone).sum := by
  apply List.length_le_sum_of_one_le
  intro overlap listed
  exact of_decide_eq_true (List.mem_filter.mp listed).2

/-- Whether rounding cannot add a minute to the open time: all is on whole seconds, or no day has
very many opening hours for the time in question. -/
def RoundsSafely (start stop : Moment) (days : List OpeningDay) : Prop :=
  (start.wall.time.microsecond = 0 ∧ stop.wall.time.microsecond = 0 ∧
      ∀ day ∈ days, ∀ hour ∈ day.intervals, hour.OnSeconds) ∨
    ∀ day ∈ days, day.intervals.length * (stop.since start).toNat ≤ 2 ^ 52

/-- Open days with few opening hours gain less by rounding than they leave between them. -/
theorem openMinutes_le_of_few (never : zone.NeverChanges) (inStep : stop.InStep start)
    (timetable : Timetable days)
    (few : ∀ day ∈ days, day.intervals.length * (stop.since start).toNat ≤ 2 ^ 52) :
    openMinutes start stop days zone ≤ minutesBetween start stop := by
  have total := sum_overlaps start stop (timetable.pairwise_openSpans never)
  have part := openMicros_le start stop days zone
  have gaps := @openMicros_add_length_le start stop days zone timetable never
  rw [← total, ← Moment.since_eq_sub_iff.mpr inStep] at part gaps
  unfold openMinutes
  split
  · exact Nat.zero_le _
  rw [openSeconds_eq never inStep]
  -- rounding gains less than a microsecond for each open day, and `gaps` leaves room for these
  refine (Seconds.wholeMinutes_foldl_add_le length_overlaps_le_sum
    (length_filter_le_length_overlaps days) ?_).trans (Seconds.wholeMinutes_ofMicros_mono ?_)
  · exact (Nat.mul_le_mul_left _ part).trans (length_overlaps_mul_le few)
  · omega

/-- A timetable has no more open minutes than minutes. -/
theorem openMinutes_le_minutesBetween (never : zone.NeverChanges) (inStep : stop.InStep start)
    (timetable : Timetable days) (safe : RoundsSafely start stop days) :
    openMinutes start stop days zone ≤ minutesBetween start stop := by
  obtain ⟨startWhole, stopWhole, onSeconds⟩ | few := safe
  · have apart := timetable.pairwise_openSpans never
    rw [openMinutes_eq_of_openSpans never inStep startWhole stopWhole apart
      (dvd_openSpans never onSeconds)]
    exact openMicros_div_le never inStep
  · exact openMinutes_le_of_few never inStep timetable few

/-! ## Overdue minutes -/

namespace Loan

variable {loan : Loan} {policy : Option LoanPolicy} {fine : FinePolicy} {now : Moment}

/-- What is overdue if so many minutes have passed since the due date: none by the due date, and
else those that the grace leaves. -/
def countedMinutes (loan : Loan) (policy : Option LoanPolicy) (fine : FinePolicy) (now : Moment)
    (elapsed : Nat) : Int :=
  if now ≤ loan.due then 0 else max (elapsed - loan.graceMinutes policy fine) 0

/-- Once the minutes are counted, what is overdue is found. -/
theorem overdueMinutes_of_elapsedMinutes {calendar : Option (List OpeningDay)} {elapsed : Nat}
    (counted : loan.elapsedMinutes fine now calendar zone = .ok elapsed) :
    loan.overdueMinutes policy fine now calendar zone =
      .ok (loan.countedMinutes policy fine now elapsed) := by
  unfold overdueMinutes countedMinutes
  split
  · rfl
  · rw [counted]
    rfl

/-- Fewer minutes are not more overdue. -/
theorem countedMinutes_le {elapsed elapsed' : Nat} (fewer : elapsed ≤ elapsed') :
    loan.countedMinutes policy fine now elapsed ≤ loan.countedMinutes policy fine now elapsed' := by
  unfold countedMinutes
  split
  · exact le_rfl
  · omega

/-- **Leaving out closed time never costs more.** Where clocks are never changed, on days of
different dates with opening hours that are apart, a loan has no more overdue minutes under a fine
policy that does not count closed time than under the same policy if it counted it. -/
theorem overdueMinutes_open_le (never : zone.NeverChanges) (inStep : now.InStep loan.due)
    (timetable : Timetable days) (safe : RoundsSafely loan.due now days) :
    ∃ withoutClosed withClosed : Int,
      loan.overdueMinutes policy { fine with countClosed := false } now (some days) zone =
          .ok withoutClosed ∧
        loan.overdueMinutes policy { fine with countClosed := true } now (some days) zone =
          .ok withClosed ∧
        withoutClosed ≤ withClosed := by
  have fewer : openMinutes loan.due now days zone ≤ minutesBetween loan.due now :=
    openMinutes_le_minutesBetween never inStep timetable safe
  -- the grace does not depend on whether closed time counts
  exact ⟨loan.countedMinutes policy fine now _, loan.countedMinutes policy fine now _,
    overdueMinutes_of_elapsedMinutes rfl, overdueMinutes_of_elapsedMinutes rfl,
    countedMinutes_le fewer⟩

/-- A loan due an hour before the office closes. -/
def officeLoan : Loan where
  id := "loan-1"
  due := officeAfternoon

/-- Until the next morning it is overdue for two hours of open time, and for at least as long if
closed time counts. -/
theorem overdueMinutes_officeLoan :
    officeLoan.overdueMinutes none { countClosed := false } officeMorning (some officeDays) .utc =
        .ok 120 ∧
      ∃ withClosed : Int, 120 ≤ withClosed ∧
        officeLoan.overdueMinutes none { countClosed := true } officeMorning (some officeDays)
          .utc = .ok withClosed := by
  have openOnly : officeLoan.overdueMinutes none { countClosed := false } officeMorning
      (some officeDays) .utc = .ok 120 := by decide
  obtain ⟨withoutClosed, withClosed, counted, countedAll, le⟩ := @overdueMinutes_open_le officeDays
    .utc officeLoan none {} officeMorning (by decide) (by decide) timetable_officeDays
    (.inl ⟨by decide, by decide, by decide⟩)
  obtain rfl := Except.ok.inj (openOnly.symm.trans counted)
  exact ⟨counted, withClosed, le, countedAll⟩

/-- A loan due at nine in the morning. -/
def morningLoan : Loan where
  id := "loan-1"
  due := .showing (.ofDay 738885) (.ofHour 9) .utc

/-- Eleven o'clock. -/
def morningEnd : Moment := .showing (.ofDay 738885) (.ofHour 11) .utc

/-- The hours from nine to eleven and from ten to eleven. -/
def overlappingHours : List OpeningHour :=
  [⟨.ofHour 9, .ofHour 11, by decide⟩, ⟨.ofHour 10, .ofHour 11, by decide⟩]

/-- That day, for which both are given. -/
def twiceOpen : OpeningDay := .openBetween (.ofDay 738885) overlappingHours

/-- The hours are given in order. -/
theorem twiceOpen_eq : twiceOpen =
    { date := .ofDay 738885
      isOpen := true
      stored := overlappingHours } := by
  rw [twiceOpen, OpeningDay.openBetween, OpeningHour.sort, List.mergeSort_of_pairwise]
  decide

/-- Leaving out closed time costs more where opening hours overlap. -/
theorem not_always_overdueMinutes_open_le : ¬ ∀ (loan : Loan) (policy : Option LoanPolicy)
    (fine : FinePolicy) (now : Moment) (days : List OpeningDay) (withoutClosed withClosed : Int),
    loan.due.zone = .utc → now.zone = .utc → (days.map (·.date)).Nodup →
    (∀ day ∈ days, ∃ hours, day = .openBetween day.date hours) →
    loan.overdueMinutes policy { fine with countClosed := false } now (some days) .utc =
      .ok withoutClosed →
    loan.overdueMinutes policy { fine with countClosed := true } now (some days) .utc =
      .ok withClosed →
    withoutClosed ≤ withClosed := by
  intro always
  have less := always morningLoan none {} morningEnd [twiceOpen] 180 120 rfl rfl (by decide)
    (List.forall_mem_singleton.mpr ⟨_, rfl⟩) (by rw [twiceOpen_eq]; decide) (by decide)
  revert less
  decide

end Loan

end Lending
