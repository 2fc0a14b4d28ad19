import Lending.Schedule
import Mathlib.Data.List.Pairwise
import Mathlib.Data.List.Perm.Basic

/-!
# The ranges of a schedule

A schedule is made from ranges that are given in any order, and only ranges that follow one another
are compared. This finds every two ranges that share a date: once the ranges are in the order of
their first dates, one that shares a date with a later one shares a date with the next one. So a
list of ranges makes a schedule exactly if no date lies in two of them. What is made depends on the
ranges alone and not on their order in the list, and the first range that is found for a date is
the only one that contains it.

## Main definitions

* `ScheduleRange.Apart` — two ranges that share no date

## Main results

* `ScheduleRange.apart_iff` — ranges that share no date are one before the other
* `Schedule.eq_of_perm` — a schedule is determined by its ranges in any order
* `Schedule.make_cases` — a list that is refused has two ranges that share a date
* `Schedule.make_eq_ok_iff` — which schedule is made from a list
* `Schedule.range?_eq_some_iff` — the range that is found for a date
* `Schedule.made_iff_apart` — which lists make a schedule, and which schedule it is
-/

namespace Lending

/-! ## Ranges that share no date -/

namespace ScheduleRange

variable {a b : ScheduleRange} {date : Date} {ranges : List ScheduleRange}

/-- Two ranges that share no date. -/
def Apart (a b : ScheduleRange) : Prop := ∀ date, ¬ (a.Contains date ∧ b.Contains date)

theorem Apart.symm (apart : a.Apart b) : b.Apart a :=
  fun date both => apart date both.symm

instance : Std.Symm Apart := ⟨fun _ _ => Apart.symm⟩

theorem Before.apart (before : a.Before b) : a.Apart b := by
  rintro date ⟨inFirst, inSecond⟩
  simp only [Before, Contains, Date.lt_def, Date.le_def] at *
  omega

/-- Ranges that overlap share the later one of their first dates. -/
theorem not_apart (starts : a.first ≤ b.first) (overlaps : ¬ a.Before b) :
    a.Contains b.first ∧ b.Contains b.first := by
  have ordered := b.ordered
  simp only [Before, Contains, Date.lt_def, Date.le_def] at *
  omega

/-- Ranges that share no date are one before the other. -/
theorem apart_iff : a.Apart b ↔ a.Before b ∨ b.Before a := by
  constructor
  · intro apart
    by_contra overlaps
    obtain ⟨notBefore, notAfter⟩ := not_or.mp overlaps
    rcases Nat.le_total a.first.ordinal b.first.ordinal with starts | starts
    · exact apart _ (not_apart starts notBefore)
    · exact apart _ (not_apart starts notAfter).symm
  · rintro (before | after)
    · exact before.apart
    · exact after.apart.symm

instance (a b : ScheduleRange) : Decidable (a.Apart b) := decidable_of_iff _ apart_iff.symm

theorem Before.asymm (before : a.Before b) : ¬ b.Before a := by
  have := a.ordered
  have := b.ordered
  simp only [Before, Date.lt_def, Date.le_def] at *
  omega

/-- The neighbours that are found to overlap are neighbours. -/
theorem overlap?_eq_some (found : overlap? ranges = some (a, b)) :
    ∃ before after, ranges = before ++ a :: b :: after ∧ ¬ a.Before b := by
  induction ranges with
  | nil => simp [overlap?] at found
  | cons first rest ih =>
    cases rest with
    | nil => simp [overlap?] at found
    | cons second rest =>
      simp only [overlap?] at found
      split at found
      · -- they are further behind
        obtain ⟨before, after, split, overlaps⟩ := ih found
        exact ⟨first :: before, after, by rw [split, List.cons_append], overlaps⟩
      · next overlaps =>
        obtain ⟨rfl, rfl⟩ := Prod.mk.inj (Option.some.inj found)
        exact ⟨[], rest, rfl, overlaps⟩

end ScheduleRange

/-! ## Making schedules -/

namespace Schedule

open ScheduleRange

variable {schedule other : Schedule} {id : Option String} {name : String} {date : Date}
variable {range : ScheduleRange} {ranges : List ScheduleRange}

/-- Two schedules with the same ranges have them in the same order. -/
theorem eq_of_perm (ids : schedule.id = other.id) (names : schedule.name = other.name)
    (perm : schedule.ranges.Perm other.ranges) : schedule = other := by
  have same : schedule.ranges = other.ranges :=
    perm.eq_of_pairwise (fun a b _ _ before after => absurd after before.asymm) schedule.ordered
      other.ordered
  cases schedule
  cases other
  congr

/-- A list of ranges makes a schedule with these ranges, or two ranges that share a date are named
in it. -/
theorem make_cases (id : Option String) (name : String) (ranges : List ScheduleRange) :
    (∃ schedule, make id name ranges = .ok schedule ∧ schedule.id = id ∧ schedule.name = name ∧
      schedule.ranges.Perm ranges) ∨
    ∃ a b date, [a, b].Subperm ranges ∧ a.Contains date ∧ b.Contains date ∧
      make id name ranges = .error (.overlappingRanges id a.first a.last b.first b.last) := by
  let inOrder (a b : ScheduleRange) : Bool := a.first ≤ b.first
  have perm : (ranges.mergeSort inOrder).Perm ranges := List.mergeSort_perm ranges inOrder
  have ascending : (ranges.mergeSort inOrder).Pairwise fun a b => a.first ≤ b.first := by
    have trans (a b c : ScheduleRange) : inOrder a b → inOrder b c → inOrder a c := by
      simp only [inOrder, decide_eq_true_eq, Date.le_def]
      omega
    have total (a b : ScheduleRange) : (inOrder a b || inOrder b a) = true := by
      simp only [inOrder, Bool.or_eq_true, decide_eq_true_eq, Date.le_def]
      omega
    exact (List.pairwise_mergeSort trans total ranges).imp of_decide_eq_true
  simp only [make]
  split
  · exact .inl ⟨_, rfl, rfl, rfl, perm⟩
  · next a b found =>
    -- the neighbours that are named are in the order of their first dates
    obtain ⟨before, after, split, overlaps⟩ := overlap?_eq_some found
    have listed : [a, b].Sublist (ranges.mergeSort inOrder) := by
      rw [split]
      exact ((List.nil_sublist after).cons_cons b |>.cons_cons a).trans
        (List.sublist_append_right _ _)
    have starts : a.first ≤ b.first :=
      List.rel_of_pairwise_cons (ascending.sublist listed) (by simp)
    obtain ⟨inFirst, inSecond⟩ := not_apart starts overlaps
    exact .inr ⟨a, b, _, listed.subperm.trans perm.subperm, inFirst, inSecond, rfl⟩

/-- The ranges of a schedule share no date, in whatever order they are listed. -/
theorem pairwise_apart (perm : schedule.ranges.Perm ranges) : ranges.Pairwise Apart :=
  perm.pairwise (schedule.ordered.imp Before.apart) Apart.symm

/-- Ranges that share no date are not refused. -/
theorem exists_make_of_pairwise_apart (apart : ranges.Pairwise Apart) :
    ∃ schedule, make id name ranges = .ok schedule ∧ schedule.id = id ∧ schedule.name = name ∧
      schedule.ranges.Perm ranges := by
  rcases make_cases id name ranges with given | ⟨a, b, date, listed, inFirst, inSecond, -⟩
  · exact given
  · obtain ⟨reordered, perm, sublist⟩ := listed
    have named : [a, b].Pairwise Apart := perm.pairwise (apart.sublist sublist) Apart.symm
    exact absurd ⟨inFirst, inSecond⟩ (List.rel_of_pairwise_cons named (by simp) date)

/-- The schedule that is made from a list is the one that has its ranges. -/
theorem make_eq_ok_iff :
    make id name ranges = .ok schedule ↔
      schedule.id = id ∧ schedule.name = name ∧ schedule.ranges.Perm ranges := by
  constructor
  · intro made
    rcases make_cases id name ranges with ⟨other, given, is⟩ | ⟨a, b, date, -, -, -, refused⟩
    · obtain rfl := Except.ok.inj (made.symm.trans given)
      exact is
    · cases made.symm.trans refused
  · rintro ⟨rfl, rfl, perm⟩
    obtain ⟨other, given, ids, names, perm'⟩ := exists_make_of_pairwise_apart (pairwise_apart perm)
    rw [given, eq_of_perm ids names (perm'.trans perm.symm)]

/-! ## Looking up dates -/

/-- No two ranges of a schedule contain the same date. -/
theorem eq_of_contains {a b : ScheduleRange} (ha : a ∈ schedule.ranges) (hb : b ∈ schedule.ranges)
    (inFirst : a.Contains date) (inSecond : b.Contains date) : a = b := by
  by_contra other
  have apart : a.Apart b := (pairwise_apart (.refl _)).forall ha hb other
  exact apart date ⟨inFirst, inSecond⟩

/-- The range that is found for a date is the one that contains it. -/
theorem range?_eq_some_iff :
    schedule.range? date = some range ↔ range ∈ schedule.ranges ∧ range.Contains date := by
  have of_found {found : ScheduleRange} (is : schedule.range? date = some found) :
      found ∈ schedule.ranges ∧ found.Contains date :=
    ⟨List.mem_of_find?_eq_some is, by simpa using List.find?_some is⟩
  refine ⟨of_found, ?_⟩
  rintro ⟨listed, inside⟩
  cases is : schedule.range? date with
  | none => simpa [inside] using List.find?_eq_none.mp is range listed
  | some found =>
    obtain ⟨listed', inside'⟩ := of_found is
    rw [eq_of_contains listed' listed inside' inside]

theorem range?_eq_none_iff :
    schedule.range? date = none ↔ ∀ range ∈ schedule.ranges, ¬ range.Contains date := by
  simp [range?]

/-- **Making schedules.** A list of ranges makes a schedule exactly if no date lies in two of them,
and else two ranges that share a date are named. The ranges of the schedule are those of the list in
ascending order, whatever their order in the list. For a date it has the range that contains it, and
none exactly if no range contains it. -/
theorem made_iff_apart (id : Option String) (name : String) (ranges : List ScheduleRange) :
    ((∃ schedule, make id name ranges = .ok schedule) ↔ ranges.Pairwise Apart) ∧
    (∀ fault, make id name ranges = .error fault → ∃ a b date, [a, b].Subperm ranges ∧
      a.Contains date ∧ b.Contains date ∧
      fault = .overlappingRanges id a.first a.last b.first b.last) ∧
    ∀ schedule, make id name ranges = .ok schedule →
      schedule.id = id ∧ schedule.name = name ∧
      schedule.ranges.Perm ranges ∧ schedule.ranges.Pairwise Before ∧
      (∀ reordered, reordered.Perm ranges → make id name reordered = .ok schedule) ∧
      ∀ date,
        (∀ range, schedule.range? date = some range ↔ range ∈ ranges ∧ range.Contains date) ∧
        (schedule.range? date = none ↔ ∀ range ∈ ranges, ¬ range.Contains date) := by
  refine ⟨⟨?_, ?_⟩, fun fault refused => ?_, fun schedule made => ?_⟩
  · rintro ⟨schedule, made⟩
    exact pairwise_apart (make_eq_ok_iff.mp made).2.2
  · intro apart
    obtain ⟨schedule, made, -⟩ := exists_make_of_pairwise_apart apart
    exact ⟨schedule, made⟩
  · rcases make_cases id name ranges with ⟨schedule, made, -⟩ | ⟨a, b, date, listed, ha, hb, named⟩
    · cases refused.symm.trans made
    · exact ⟨a, b, date, listed, ha, hb, Except.error.inj (refused.symm.trans named)⟩
  · obtain ⟨ids, names, perm⟩ := make_eq_ok_iff.mp made
    refine ⟨ids, names, perm, schedule.ordered, fun reordered same => ?_, fun date => ⟨?_, ?_⟩⟩
    · exact make_eq_ok_iff.mpr ⟨ids, names, perm.trans same.symm⟩
    · intro range
      rw [range?_eq_some_iff, perm.mem_iff]
    · simp only [range?_eq_none_iff, perm.mem_iff]

/-- From March to May of 2024, and from January to February of the same year. -/
def springBeforeWinter : List ScheduleRange :=
  [⟨⟨738945, by decide⟩, ⟨739036, by decide⟩, .endOf ⟨739037, by decide⟩ .utc, by decide⟩,
    ⟨⟨738885, by decide⟩, ⟨738944, by decide⟩, .endOf ⟨738945, by decide⟩ .utc, by decide⟩]

/-- The two make one schedule in either order. The leap day lies in winter, and the first day of
June in no range. -/
theorem springBeforeWinter_made : springBeforeWinter.Pairwise Apart ∧
    ∃ schedule, make (some "year") "" springBeforeWinter = .ok schedule ∧
      make (some "year") "" springBeforeWinter.reverse = .ok schedule ∧
      schedule.range? ⟨738944, by decide⟩ = springBeforeWinter.getLast? ∧
      schedule.range? ⟨739037, by decide⟩ = none := by
  obtain ⟨makes, -, madeFrom⟩ := made_iff_apart (some "year") "" springBeforeWinter
  have apart : springBeforeWinter.Pairwise Apart := by decide
  obtain ⟨schedule, made⟩ := makes.mpr apart
  obtain ⟨-, -, -, -, reordered, lookUp⟩ := madeFrom schedule made
  refine ⟨apart, schedule, made, reordered _ (List.reverse_perm _), ?_, ?_⟩
  · exact ((lookUp _).1 _).mpr (by decide)
  · exact (lookUp _).2.mpr (by decide)

end Schedule

end Lending
