import Lending.Proofs.Desk.Additions

/-!
# Policies and schedules as they were added last

Loan policies, fine policies and schedules are added one by one and in any order, and each may be
added again under its id. A loan policy only names its schedules; they are looked up when the policy
is. So a policy comes with the schedules that were added last, be it before the policy or after it.
Here this is said of the additions alone: what is found depends on the loan policies among them and
on the schedules among them, but not on how the two are interleaved, nor on anything else.

## Main definitions

* `Addition.loanPolicies`, `Addition.schedules` — what was added of either kind
* `Schedule.lastUnder` — the schedule that was added last under an id, or the empty one
* `LoanPolicy.Unattached` — policies as they are stored, without schedules

## Main results

* `findSome?_filter_eq` — the last addition of a kind that meets a condition
* `Records.loanPolicy_last_added` — the loan policy of an id and its schedules
-/

namespace Lending

/-! ## Additions of one kind -/

namespace Addition

/-- The schedule that is added. -/
def schedule? : Addition → Option Schedule
  | schedule added => some added
  | loanPolicy _ | finePolicy _ | days _ _ => none

/-- The loan policies that were added, the most recent one first. -/
def loanPolicies (additions : List Addition) : List LoanPolicy := additions.filterMap loanPolicy?

/-- The schedules that were added, the most recent one first. -/
def schedules (additions : List Addition) : List Schedule := additions.filterMap schedule?

/-- Under its id an addition brings its schedule, or leaves the one that was there. -/
theorem find?_schedules_apply (records : Records) (addition : Addition) (id : Option String) :
    (addition.apply records).schedules.find? id =
      (addition.schedule?.filter (·.id = id)).or (records.schedules.find? id) := by
  cases addition with
  | schedule added =>
    simp only [apply, Records.addSchedule, Store.find?_insert, schedule?, Option.filter,
      decide_eq_true_eq, eq_comm (a := id)]
    split <;> rfl
  | loanPolicy | finePolicy | days => rfl

end Addition

namespace Records

variable {rules : Rulebook} {searchLimit : Int} {additions : List Addition}

/-- What is brought last under a condition is the first of what is brought that meets it. -/
theorem findSome?_filter_eq {α β : Type} (kind : α → Option β) (meets : β → Bool) (l : List α) :
    (l.findSome? fun a => (kind a).filter meets) = (l.filterMap kind).find? meets := by
  induction l with
  | nil => rfl
  | cons a rest ih =>
    rw [List.findSome?_cons, List.filterMap_cons, ih]
    cases kind a with
    | none => rfl
    | some b => cases met : meets b <;> simp [met, Option.filter]

theorem loan?_last_added (id : String) :
    ((({ rules, searchLimit } : Records).after additions).policy? .loan (some id)).bind (·.loan?) =
      (Addition.loanPolicies additions).find? (·.id = some id) := by
  have found := found_after ({ rules, searchLimit } : Records) additions (fun records =>
    (records.policy? .loan (some id)).bind (·.loan?)) _
      fun records addition => addition.found_loanPolicy_apply records id
  rw [found, findSome?_filter_eq]
  exact Option.or_none ..

theorem find?_schedules_last_added (id : Option String) :
    (({ rules, searchLimit } : Records).after additions).schedules.find? id =
      (Addition.schedules additions).find? (·.id = id) := by
  rw [found_after _ additions (·.schedules.find? id) _
    fun records addition => addition.find?_schedules_apply records id, findSome?_filter_eq]
  exact Option.or_none ..

end Records

/-! ## Policies with their schedules -/

/-- The schedule that was added last under an id, where the most recent one stands first. Without an
id, or if none was added under it, it is the empty one. -/
def Schedule.lastUnder (schedules : List Schedule) (id : Option String) : Schedule :=
  (id.bind fun id => schedules.find? (·.id = some id)).getD .empty

/-- Whether no schedules are attached to a policy. -/
def LoanPolicy.Unattached (policy : LoanPolicy) : Prop :=
  policy.loanSchedule = .empty ∧ policy.renewalSchedule = .empty

namespace Records

variable {rules : Rulebook} {searchLimit : Int} {additions : List Addition}

theorem scheduleOf_after (id : Option String) :
    (({ rules, searchLimit } : Records).after additions).scheduleOf id =
      .lastUnder (Addition.schedules additions) id := by
  simp only [scheduleOf, find?_schedules_last_added, Schedule.lastUnder]

/-- An unattached policy is given the schedules that it names, and the empty one for one that it
does not name. -/
theorem withSchedules_of_unattached (records : Records) {policy : LoanPolicy}
    (unattached : policy.Unattached) :
    records.withSchedules policy = { policy with
      loanSchedule := records.scheduleOf policy.scheduleId
      renewalSchedule := records.scheduleOf policy.renewals.scheduleId } := by
  obtain ⟨noLoan, noRenewal⟩ := unattached
  unfold withSchedules
  split
  · next unnamed =>
    -- a policy that names no schedule is left alone, and so keeps the empty ones that it has
    obtain ⟨unnamedLoan, unnamedRenewal⟩ :
        policy.scheduleId = none ∧ policy.renewals.scheduleId = none := by
      simpa using unnamed
    have loan : records.scheduleOf policy.scheduleId = policy.loanSchedule := by
      rw [unnamedLoan, noLoan]
      rfl
    have renewal : records.scheduleOf policy.renewals.scheduleId = policy.renewalSchedule := by
      rw [unnamedRenewal, noRenewal]
      rfl
    rw [loan, renewal]
  · rfl

/-- **What was added last.** Let loan policies, fine policies, schedules and opening days be added
to the records of a library in any order, the loan policies without schedules. Then under each id
there is the loan policy that was added last under it, as it was added, with the schedules that were
added last under the ids that it names. Under an id of fine policies only, or of nothing, there is
the unknown policy. Other additions with the same loan policies and the same schedules lead to the
same, however they are interleaved and whatever else they bring. -/
theorem loanPolicy_last_added (rules : Rulebook) (searchLimit : Int) (additions : List Addition)
    (unattached : ∀ policy ∈ Addition.loanPolicies additions, policy.Unattached) :
    let records := ({ rules, searchLimit } : Records).after additions
    (∀ id policy, (Addition.loanPolicies additions).find? (·.id = some id) = some policy →
      records.loanPolicy (some id) = { policy with
        loanSchedule := .lastUnder (Addition.schedules additions) policy.scheduleId
        renewalSchedule :=
          .lastUnder (Addition.schedules additions) policy.renewals.scheduleId }) ∧
    (∀ id, (∀ policy ∈ Addition.loanPolicies additions, policy.id ≠ some id) →
      records.loanPolicy (some id) = .unknown (some id)) ∧
    records.loanPolicy none = .unknown none ∧
    ∀ others, Addition.loanPolicies others = Addition.loanPolicies additions →
      Addition.schedules others = Addition.schedules additions →
      ∀ id, (({ rules, searchLimit } : Records).after others).loanPolicy id =
        records.loanPolicy id := by
  intro records
  refine ⟨fun id policy last => ?_, fun id notAdded => ?_, rfl, fun others same sameToo id => ?_⟩
  · have added := unattached policy (List.mem_of_find?_eq_some last)
    simp only [records, loanPolicy, loan?_last_added, last]
    rw [withSchedules_of_unattached _ added, scheduleOf_after, scheduleOf_after]
  · -- whatever fine policies there are under the id, they have another key
    have missed : (Addition.loanPolicies additions).find? (·.id = some id) = none := by
      simpa using notAdded
    simp only [records, loanPolicy, loan?_last_added, missed]
  · cases id with
    | none => rfl
    | some id =>
      simp only [records, loanPolicy, loan?_last_added, withSchedules, scheduleOf_after, same,
        sameToo]

end Records

/-- The schedules of two terms under one id. -/
def firstTerm : Schedule where
  id := some "term"
  name := "first"
  ranges := [⟨friday, monday, mondayAtNoon, by decide⟩]
  ordered := by simp

def secondTerm : Schedule := { firstTerm with name := "second" }

/-- A policy that names the same schedule for loans and renewals. -/
def termLoan : LoanPolicy where
  id := some "term loan"
  profile := .fixed
  scheduleId := some "term"
  renewals := { scheduleId := some "term" }

/-- The second term is added after the policy. Before it there was another policy under its id, and
after it comes a fine policy under this id. -/
def termAdditions : List Addition :=
  [.schedule secondTerm, .finePolicy { id := some "term loan" }, .loanPolicy termLoan,
    .schedule firstTerm, .loanPolicy { termLoan with scheduleId := none }]

/-- The policy has the second term for loans and for renewals. -/
theorem termLoan_last_added :
    (({} : Records).after termAdditions).loanPolicy (some "term loan") =
        { termLoan with loanSchedule := secondTerm, renewalSchedule := secondTerm } ∧
      (({} : Records).after termAdditions).loanPolicy (some "term") = .unknown (some "term") := by
  have unattached : ∀ policy ∈ Addition.loanPolicies termAdditions, policy.Unattached := by
    rintro policy (_ | ⟨_, _ | ⟨_, ⟨⟩⟩⟩) <;> exact ⟨rfl, rfl⟩
  obtain ⟨found, unknown, -⟩ := Records.loanPolicy_last_added {} 365 termAdditions unattached
  exact ⟨found "term loan" termLoan rfl, unknown "term" (by decide)⟩

end Lending
