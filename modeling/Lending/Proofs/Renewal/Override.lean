import Lending.Proofs.Renewal.Retry

/-!
# What an override changes

A renewal is asked for regularly or with an override. The two decisions are compared here on the
same loan, policy, queue and calendar days. An override changes nothing where the regular decision
renews the loan, and it does not help where no due date can be calculated. In between it renews the
loan until the date that was calculated, and lists what the regular decision refused it for. It may
have to list one thing more: a policy that does not permit renewals is not asked for a due date, so
that the regular decision does not find out that the date would not extend the loan.

## Main definitions

* `Renewal.withOverride` — a renewal asked for with an override or without one
* `Renewal.calculatedDue` — the due date that both decisions go by
* `Renewal.OverrideEffect` — how the decision with an override compares to the regular one

## Main results

* `Renewal.violations_regular_append` — what speaks against a renewal, with an override and without
* `Renewal.decide_of_calculatedDue_error` — without a due date both decisions refuse the renewal
* `Renewal.override_against_regular` — the comparison
-/

namespace Lending

/-- What is reported of a due date that would not extend a loan. -/
def Loan.notExtended (loan : Loan) (due : Moment) : Violation where
  reason := "renewal would not change the due date"
  key := "NO_DUE_DATE_CHANGE"
  parameters := [("currentDueDate", .text loan.due.iso), ("proposedDueDate", .text due.iso)]

namespace Renewal

variable {renewal : Renewal} {now due : Moment} {days : Option AdjacentDays} {zone : Zone}
variable {calculated : Outcome Moment} {override : Bool}

/-! ## The due date of both decisions -/

/-- The renewal asked for with an override, or without one. -/
def withOverride (renewal : Renewal) (override : Bool) : Renewal :=
  { renewal with override }

/-- The new due date before it is compared with the current one. -/
def calculatedDue (renewal : Renewal) (now : Moment) (days : Option AdjacentDays) (zone : Zone) :
    Except Fault (Outcome Moment) :=
  (renewal.policy.adjustedRenewal renewal.loan now days (some renewal.queue) zone).result

/-- A due date is asked for with an override or with permission. -/
theorem proposedDue_of_asked (asked : override = true ∨ renewal.Permitted)
    (found : renewal.calculatedDue now days zone = .ok calculated) :
    (renewal.withOverride override).proposedDue now days zone = .ok (some calculated) := by
  have asks : (override || (renewal.policy.loanable && renewal.policy.renewable)) = true := by
    simpa [Permitted] using asked
  unfold calculatedDue at found
  simp only [proposedDue, withOverride, asks, if_true, found]
  rfl

/-- The regular decision asks for no due date exactly if the policy does not permit renewals. -/
theorem proposedDue_regular_eq_none_iff :
    (renewal.withOverride false).proposedDue now days zone = .ok none ↔ ¬ renewal.Permitted := by
  constructor
  · intro unasked
    exact (not_permitted_of_unasked unasked).2
  · intro barred
    have unasked : ¬ ((renewal.policy.loanable && renewal.policy.renewable) = true) := by
      simpa [Permitted] using barred
    simp [proposedDue, withOverride, unasked]

/-- What is reported of a calculated date that is compared with the current due date. -/
theorem onDueDate_extendedTo (loan : Loan) (due : Moment) :
    onDueDate (loan.extendedTo due) = if due ≤ loan.due then [loan.notExtended due] else [] := by
  unfold Loan.extendedTo
  split <;> rfl

/-! ## What speaks against the renewal -/

/-- The due date that the regular decision proposes, if it asks for one. -/
def regularProposal (renewal : Renewal) (calculated : Outcome Moment) : Option (Outcome Moment) :=
  if renewal.Permitted then some calculated else none

theorem proposedDue_regular (found : renewal.calculatedDue now days zone = .ok calculated) :
    (renewal.withOverride false).proposedDue now days zone =
      .ok (renewal.regularProposal calculated) := by
  unfold regularProposal
  split
  · next permitted => exact proposedDue_of_asked (.inr permitted) found
  · next barred => exact proposedDue_regular_eq_none_iff.mpr barred

/-- An override does not change what speaks against a renewal until a proposed due date. -/
@[simp] theorem violations_withOverride (proposed : Option (Outcome Moment)) :
    (renewal.withOverride override).violations proposed = renewal.violations proposed := rfl

/-- The regular decision lists what the one with an override lists, but for what is said of a due
date that it does not ask for. -/
theorem violations_regular_append (renewal : Renewal) (calculated : Outcome Moment) :
    renewal.violations (some calculated) =
      renewal.violations (renewal.regularProposal calculated) ++
        if renewal.Permitted then [] else onDueDate (calculated.bind renewal.loan.extendedTo) := by
  by_cases permitted : renewal.Permitted
  · rw [regularProposal, if_pos permitted, if_pos permitted, List.append_nil]
  · rw [regularProposal, if_neg permitted, if_neg permitted, violations_some, violations_none]

/-- Where nothing speaks against a renewal it is permitted. -/
theorem permitted_of_clear (clear : renewal.violations (some calculated) = []) :
    renewal.Permitted := by
  rw [violations_some, List.append_eq_nil_iff] at clear
  exact permitted_of_ownViolations_eq_nil clear.1

/-- If something speaks against a renewal the regular decision lists something: where it does not
ask for the due date, the lack of permission. -/
theorem violations_regularProposal_ne_nil (violated : renewal.violations (some calculated) ≠ []) :
    renewal.violations (renewal.regularProposal calculated) ≠ [] := by
  unfold regularProposal
  split
  · exact violated
  · next barred =>
    rw [violations_none]
    exact mt permitted_of_ownViolations_eq_nil barred

/-- If no due date can be calculated a renewal is refused, with an override and without. -/
theorem decide_of_calculatedDue_error {failure : Failure}
    (found : renewal.calculatedDue now days zone = .ok (.error failure)) :
    ∃ violations ≠ [], renewal.decide now days zone = .ok (renewal.refused violations) := by
  have asked : ∃ proposed, renewal.proposedDue now days zone = .ok proposed ∧
      ∀ due, proposed ≠ some (.ok due) := by
    simp only [proposedDue]
    split
    · exact ⟨some (.error failure), congrArg (·.map some) found, by simp⟩
    · exact ⟨none, rfl, by simp⟩
  obtain ⟨proposed, asked, undue⟩ := asked
  have violated := violations_ne_nil_of_no_due asked undue
  exact ⟨_, violated, DecidedAs.decide_eq (.refused (.inr undue) violated) asked⟩

/-! ## The comparison -/

/-- How a decision with an override compares to the regular one, given the due date before it is
compared with the current one. `Unasked` says that the regular decision did not ask for it. -/
structure OverrideEffect (renewal regular privileged : Renewal) (calculated : Outcome Moment)
    (Unasked : Prop) : Prop where
  refused_iff : privileged.succeeded = false ↔ ∃ failure, calculated = .error failure
  unchanged : privileged.succeeded = false → privileged.loan = renewal.loan
  same : regular.succeeded = true →
    privileged.loan = regular.loan ∧ privileged.loan.action = some .renewed ∧
      privileged.overridden = []
  bypassed : regular.succeeded = false → ∀ due, calculated = .ok due →
    privileged.loan = renewal.loan.renewByOverride due renewal.policy.id ∧
      privileged.loan.due = due ∧ privileged.loan.action = some .renewedThroughOverride ∧
      (Unasked ∧ due ≤ renewal.loan.due ∧
          privileged.overridden = regular.errors ++ [renewal.loan.notExtended due] ∨
        ¬ (Unasked ∧ due ≤ renewal.loan.due) ∧ privileged.overridden = regular.errors)

/-- Without a due date both decisions refuse the renewal. -/
theorem overrideEffect_of_error {failure : Failure} {listed : List Violation} {Unasked : Prop}
    (violated : renewal.violations (some (.error failure)) ≠ []) (listedViolations : listed ≠ []) :
    renewal.OverrideEffect ((renewal.withOverride false).refused listed)
      ((renewal.withOverride true).refused (renewal.violations (some (.error failure))))
      (.error failure) Unasked where
  refused_iff := iff_of_true (not_succeeded_refused violated) ⟨failure, rfl⟩
  unchanged := fun _ => rfl
  same := fun succeeded => by simp [not_succeeded_refused listedViolations] at succeeded
  bypassed := fun _ due found => by cases found

/-- If nothing speaks against the renewal both decisions carry it out. -/
theorem overrideEffect_of_clear (noErrors : renewal.errors = [])
    (noneOverridden : renewal.overridden = []) {Unasked : Prop} :
    renewal.OverrideEffect ((renewal.withOverride false).carriedOut due)
      ((renewal.withOverride true).carriedOut due) (.ok due) Unasked := by
  have succeeded (b : Bool) : ((renewal.withOverride b).carriedOut due).succeeded = true := by
    simp [withOverride, carriedOut, Renewal.succeeded, noErrors]
  exact {
    refused_iff := by simp [succeeded true]
    unchanged := fun refused => by simp [succeeded true] at refused
    same := fun _ => ⟨rfl, rfl, noneOverridden⟩
    bypassed := fun refused => by simp [succeeded false] at refused }

/-- If something speaks against the renewal only the decision with an override carries it out. -/
theorem overrideEffect_of_violated (noErrors : renewal.errors = [])
    (violated : renewal.violations (some (.ok due)) ≠ []) :
    renewal.OverrideEffect
      ((renewal.withOverride false).refused
        (renewal.violations (renewal.regularProposal (.ok due))))
      ((renewal.withOverride true).overriding due (renewal.violations (some (.ok due)))) (.ok due)
      (¬ renewal.Permitted) := by
  have succeeded : ((renewal.withOverride true).overriding due
      (renewal.violations (some (.ok due)))).succeeded = true := by
    simp [withOverride, overriding, Renewal.succeeded, noErrors]
  have refused : ((renewal.withOverride false).refused
      (renewal.violations (renewal.regularProposal (.ok due)))).succeeded = false :=
    not_succeeded_refused (violations_regularProposal_ne_nil violated)
  refine {
    refused_iff := by simp [succeeded]
    unchanged := fun notSucceeded => by simp [succeeded] at notSucceeded
    same := fun carriedOut => by simp [refused] at carriedOut
    bypassed := ?_ }
  rintro - _ ⟨⟩
  refine ⟨rfl, rfl, rfl, ?_⟩
  have listed := violations_regular_append renewal (.ok due)
  rw [Except.bind, onDueDate_extendedTo] at listed
  by_cases permitted : renewal.Permitted
  · -- the regular decision asks for the due date, and lists what is said of it
    rw [if_pos permitted, List.append_nil] at listed
    exact .inr ⟨fun both => both.1 permitted, listed⟩
  · rw [if_neg permitted] at listed
    by_cases notLater : due ≤ renewal.loan.due
    · rw [if_pos notLater] at listed
      exact .inl ⟨permitted, notLater, listed⟩
    · rw [if_neg notLater, List.append_nil] at listed
      exact .inr ⟨fun both => notLater both.2, listed⟩

/-- **The effect of an override.** On calendar days that describe the candidate, and within the
calendar, a renewal on which nothing was decided before is decided both regularly and with an
override. With the override it is refused exactly if no due date can be calculated. It is the same
renewal if the regular one succeeds. If the regular one is refused, and there is a date, the loan is
renewed until then: against the violations of the regular decision, and against the due date itself
if that would not extend the loan and the regular decision did not ask for it. -/
theorem override_against_regular (renewal : Renewal) (now : Moment) (days : Option AdjacentDays)
    (zone : Zone) (noErrors : renewal.errors = []) (noneOverridden : renewal.overridden = [])
    (describe : ∀ given ∈ days, ∀ candidate,
      (renewal.policy.renewalCandidate renewal.loan now (some renewal.queue) zone).result =
        .ok (.ok candidate) → given.Describe candidate zone)
    (within : ∀ fault, renewal.calculatedDue now days zone = .error fault →
      ¬ fault.LeavesCalendar) :
    ∃ calculated regular privileged,
      renewal.calculatedDue now days zone = .ok calculated ∧
      (renewal.withOverride false).decide now days zone = .ok regular ∧
      (renewal.withOverride true).decide now days zone = .ok privileged ∧
      renewal.OverrideEffect regular privileged calculated
        ((renewal.withOverride false).proposedDue now days zone = .ok none) := by
  have stops := renewal.policy.stopsAtEnds_adjustedRenewal renewal.loan _ zone describe
  rw [proposedDue_regular_eq_none_iff]
  cases found : renewal.calculatedDue now days zone with
  | error fault => exact absurd (stops fault found) (within fault found)
  | ok calculated =>
    have asked : (renewal.withOverride true).proposedDue now days zone = .ok (some calculated) :=
      proposedDue_of_asked (.inl rfl) found
    have regular := proposedDue_regular found
    cases calculated with
    | error failure =>
      -- there is no due date that an override could be used for
      have violated := violations_ne_nil_of_no_due asked (by simp)
      rw [violations_withOverride] at violated
      have listed := violations_regularProposal_ne_nil violated
      exact ⟨_, _, _, rfl, DecidedAs.decide_eq (.refused (.inl rfl) listed) regular,
        DecidedAs.decide_eq (.refused (.inr (by simp)) violated) asked,
        overrideEffect_of_error violated listed⟩
    | ok due =>
      by_cases clear : renewal.violations (some (.ok due)) = []
      · -- then the renewal is permitted, so that the regular decision asks for the due date, too
        rw [regularProposal, if_pos (permitted_of_clear clear)] at regular
        exact ⟨_, _, _, rfl, DecidedAs.decide_eq (.carriedOut clear) regular,
          DecidedAs.decide_eq (.carriedOut clear) asked,
          overrideEffect_of_clear noErrors noneOverridden⟩
      · have listed := violations_regularProposal_ne_nil clear
        exact ⟨_, _, _, rfl, DecidedAs.decide_eq (.refused (.inl rfl) listed) regular,
          DecidedAs.decide_eq (.overriding rfl clear) asked,
          overrideEffect_of_violated noErrors clear⟩

/-- The renewal of the lost item under a policy that does not permit renewals. -/
def unrenewable : Renewal :=
  { ofLostItem with policy := { ofLostItem.policy with renewable := false } }

/-- A day after the renewal is a closed date, so that the item would be due two days later, which is
before its current due date. The regular decision does not find this out. -/
theorem unrenewable_overridden :
    let now : Moment := .showing ⟨738993, by decide⟩ startOfDay .utc
    let days : AdjacentDays :=
      { previous := .openAllDay ⟨738993, by decide⟩
        requested := .closed ⟨738994, by decide⟩
        next := .openAllDay ⟨738996, by decide⟩ }
    ∃ regular privileged,
      (unrenewable.withOverride false).decide now days .utc = .ok regular ∧
      (unrenewable.withOverride true).decide now days .utc = .ok privileged ∧
      regular.errors.map (·.key) =
        ["ITEM_HAS_OPEN_RECALL_REQUEST", "ITEM_STATUS_BLOCKS_RENEWAL", "LOAN_IS_NOT_RENEWABLE"] ∧
      privileged.loan.due = .endOf days.next.date .utc ∧
      privileged.overridden =
        regular.errors ++ [unrenewable.loan.notExtended privileged.loan.due] := by
  intro now days
  have candidate : (unrenewable.policy.renewalCandidate unrenewable.loan now
      (some unrenewable.queue) .utc).result.toOption.bind (·.toOption) =
        some (.showing days.requested.date startOfDay .utc) := by decide +kernel
  have moved : (unrenewable.calculatedDue now days .utc).toOption.bind (·.toOption) =
      some (.endOf days.next.date .utc) := by decide +kernel
  have refused : (unrenewable.withOverride false).decide now days .utc =
      .ok ((unrenewable.withOverride false).refused (unrenewable.violations none)) := by rfl
  obtain ⟨calculated, regular, privileged, found, decided, decidedPrivileged, effect⟩ :=
    override_against_regular unrenewable now days .utc rfl rfl
      (by
        rintro _ ⟨⟩ given h date fallsOn
        rw [h] at candidate
        obtain rfl := Option.some.inj candidate
        exact Except.ok.inj ((Moment.dateIn_showing _ _ _).symm.trans fallsOn))
      (by
        intro fault stopped
        rw [stopped] at moved
        cases moved)
  have given : calculated = .ok (.endOf days.next.date .utc) := by
    rw [found] at moved
    cases calculated with
    | error failure => cases moved
    | ok due => exact congrArg Except.ok (Option.some.inj moved)
  obtain rfl := given
  obtain rfl := Except.ok.inj (refused.symm.trans decided)
  refine ⟨_, privileged, decided, decidedPrivileged, by decide, ?_⟩
  obtain ⟨-, due, -, listed⟩ := effect.bypassed (by decide) _ rfl
  have unasked : (unrenewable.withOverride false).proposedDue now days .utc = .ok none :=
    proposedDue_regular_eq_none_iff.mpr (by decide)
  have notLater : Moment.endOf days.next.date .utc ≤ unrenewable.loan.due := by decide
  rcases listed with ⟨-, -, overridden⟩ | ⟨extended, -⟩
  · exact ⟨due, due ▸ overridden⟩
  · exact absurd ⟨unasked, notLater⟩ extended

end Renewal

end Lending
