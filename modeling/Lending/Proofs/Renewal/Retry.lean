import Lending.Proofs.Renewal.Decision
import Mathlib.Logic.Relation

/-!
# Renewals that are decided again

What became of a renewal is kept together with what it is decided on, so that it can be decided
again: after a refusal with an override, or after a success once more. A decision writes the loan or
one list of violations, and leaves in place what earlier decisions have written elsewhere. It gives
a true account of itself if it is the first one. Later on a loan may be renewed while the renewal
still counts as refused, and violations may be listed as overridden that were overridden long ago.

## Main definitions

* `Renewal.DecidedAs` — the three ways in which a decision ends
* `Renewal.Renews`, `Renewal.bypassed` — what a decision does to the loan, and against what
* `Renewal.AccountsFor` — a decision that reports what it did
* `Renewal.Retry` — a further decision on a renewal that was decided before

## Main results

* `Renewal.decidedAs_of_decide` — every decision ends in one of the three ways
* `Renewal.accountsFor_iff` — when a decision reports what it did
* `Renewal.not_succeeded_of_retries` — a refusal is never taken back
-/

namespace Lending

namespace Renewal

variable {renewal after : Renewal} {now : Moment} {days : Option AdjacentDays} {zone : Zone}
variable {proposed : Option (Outcome Moment)}

/-! ## How a decision ends -/

/-- The three ways in which a decision ends, given the proposed due date. -/
inductive DecidedAs (renewal : Renewal) : Option (Outcome Moment) → Renewal → Prop
  /-- Nothing speaks against the renewal. -/
  | carriedOut {due : Moment} (clear : renewal.violations (some (.ok due)) = []) :
      renewal.DecidedAs (some (.ok due)) (renewal.carriedOut due)
  /-- Something does, and is overridden. -/
  | overriding {due : Moment} (privileged : renewal.override = true)
      (violated : renewal.violations (some (.ok due)) ≠ []) :
      renewal.DecidedAs (some (.ok due))
        (renewal.overriding due (renewal.violations (some (.ok due))))
  /-- Something does, and there is no override, or no due date that it could be used for. -/
  | refused {proposed : Option (Outcome Moment)}
      (barred : renewal.override = false ∨ ∀ due, proposed ≠ some (.ok due))
      (violated : renewal.violations proposed ≠ []) :
      renewal.DecidedAs proposed (renewal.refused (renewal.violations proposed))

/-- No due date is proposed only without permission, and without an override. -/
theorem not_permitted_of_unasked (unasked : renewal.proposedDue now days zone = .ok none) :
    renewal.override = false ∧ ¬ renewal.Permitted := by
  simp only [proposedDue] at unasked
  split at unasked
  · cases calculated : (renewal.policy.adjustedRenewal renewal.loan now days (some renewal.queue)
      zone).result <;> simp [calculated, Except.map] at unasked
  · next barred => simpa [Permitted] using barred

/-- Without a due date something speaks against a renewal: the reason why there is none, or the lack
of permission for which none was asked for. -/
theorem violations_ne_nil_of_no_due (asked : renewal.proposedDue now days zone = .ok proposed)
    (undue : ∀ due, proposed ≠ some (.ok due)) : renewal.violations proposed ≠ [] := by
  cases proposed with
  | none =>
    obtain ⟨-, barred⟩ := not_permitted_of_unasked asked
    rw [violations_none]
    exact mt permitted_of_ownViolations_eq_nil barred
  | some calculated =>
    cases calculated with
    | ok due => exact absurd rfl (undue due)
    | error failure => simp [violations_some, onDueDate, Except.bind]

/-- Every decision ends in one of the three ways. -/
theorem decidedAs_of_decide (decided : renewal.decide now days zone = .ok after) :
    ∃ proposed, renewal.proposedDue now days zone = .ok proposed ∧
      renewal.DecidedAs proposed after := by
  unfold decide at decided
  obtain ⟨proposed, asked, ended⟩ := bind_eq_ok.mp decided
  refine ⟨proposed, asked, ?_⟩
  split at ended
  · next due =>
    by_cases clear : renewal.violations (some (.ok due)) = []
    · rw [if_pos (by simpa using clear)] at ended
      obtain rfl := Except.ok.inj ended
      exact .carriedOut clear
    · rw [if_neg (by simpa using clear)] at ended
      split at ended
      · next privileged =>
        obtain rfl := Except.ok.inj ended
        exact .overriding privileged clear
      · next regular =>
        obtain rfl := Except.ok.inj ended
        exact .refused (.inl (by simpa using regular)) clear
  · next undue =>
    obtain rfl := Except.ok.inj ended
    exact .refused (.inr undue) (violations_ne_nil_of_no_due asked undue)

/-- A decision on a proposed due date ends in no other way. -/
theorem DecidedAs.decide_eq (decided : renewal.DecidedAs proposed after)
    (asked : renewal.proposedDue now days zone = .ok proposed) :
    renewal.decide now days zone = .ok after := by
  rw [decide, asked]
  cases decided with
  | carriedOut clear => simp [bind, Except.bind, pure, Except.pure, clear]
  | overriding privileged violated =>
    simp [bind, Except.bind, pure, Except.pure, privileged, violated]
  | refused barred violated =>
    simp only [bind, Except.bind, pure, Except.pure]
    split
    · next due =>
      rcases barred with regular | undue
      · simp [violated, regular]
      · exact absurd rfl (undue due)
    · rfl

theorem not_succeeded_refused {violations : List Violation} (violated : violations ≠ []) :
    (renewal.refused violations).succeeded = false :=
  List.isEmpty_eq_false_iff.mpr violated

/-! ## What a decision reports -/

/-- Whether a decision renewed the loan, by the rules or against them. -/
def Renews (renewal after : Renewal) : Prop :=
  ∃ due, after.loan = renewal.loan.renew due renewal.policy.id ∨
    after.loan = renewal.loan.renewByOverride due renewal.policy.id

/-- The violations that a decision bypasses: with an override, whatever speaks against a renewal
until a due date that could be calculated. -/
def bypassed (renewal : Renewal) (proposed : Option (Outcome Moment)) : List Violation :=
  match proposed with
  | some (.ok _) => if renewal.override then renewal.violations proposed else []
  | _ => []

/-- A loan that was renewed counts one renewal more. -/
theorem Renews.loan_ne (renews : renewal.Renews after) : after.loan ≠ renewal.loan := by
  intro same
  obtain ⟨due, renewed | renewed⟩ := renews
  · have counted := congrArg Loan.renewalCount (same.symm.trans renewed)
    simp only [Loan.renew] at counted
    omega
  · have counted := congrArg Loan.renewalCount (same.symm.trans renewed)
    simp only [Loan.renewByOverride, Loan.renew] at counted
    omega

/-- A decision carries out the renewal exactly if it lists no violations of its own. The violations
for which the renewal was refused before are still listed then. -/
theorem DecidedAs.renews_iff (decided : renewal.DecidedAs proposed after) :
    renewal.Renews after ∧ after.errors = renewal.errors ∨
      ¬ renewal.Renews after ∧ after.errors ≠ [] := by
  cases decided with
  | carriedOut clear => exact .inl ⟨⟨_, .inl rfl⟩, rfl⟩
  | overriding privileged violated => exact .inl ⟨⟨_, .inr rfl⟩, rfl⟩
  | refused barred violated => exact .inr ⟨fun renews => renews.loan_ne rfl, violated⟩

/-- A decision counts as successful exactly if it renewed the loan and no refusal went before. -/
theorem DecidedAs.succeeded_iff (decided : renewal.DecidedAs proposed after) :
    after.succeeded = true ↔ renewal.Renews after ∧ renewal.errors = [] := by
  rw [succeeded, List.isEmpty_iff]
  rcases decided.renews_iff with ⟨renews, kept⟩ | ⟨unchanged, violated⟩
  · rw [kept, and_iff_right renews]
  · exact iff_of_false violated fun both => unchanged both.1

/-- The violations listed as overridden are those that the decision bypasses. If it bypasses none
they are those of an earlier decision. -/
theorem DecidedAs.overridden_eq (decided : renewal.DecidedAs proposed after) :
    after.overridden =
      if renewal.bypassed proposed = [] then renewal.overridden else renewal.bypassed proposed := by
  cases decided with
  | @carriedOut due clear =>
    have none : renewal.bypassed (some (.ok due)) = [] := by simp [bypassed, clear]
    rw [if_pos none, Renewal.carriedOut]
  | @overriding due privileged violated =>
    have all : renewal.bypassed (some (.ok due)) = renewal.violations (some (.ok due)) := by
      simp [bypassed, privileged]
    rw [if_neg (all ▸ violated), all, Renewal.overriding]
  | refused barred violated =>
    have none : renewal.bypassed proposed = [] := by
      unfold bypassed
      split
      · next due =>
        rcases barred with regular | undue
        · simp [regular]
        · exact absurd rfl (undue due)
      · rfl
    rw [if_pos none, Renewal.refused]

/-- A decision that reports what it did: success exactly if it renewed the loan, and as overridden
exactly the violations that it bypassed. -/
structure AccountsFor (renewal after : Renewal) (proposed : Option (Outcome Moment)) : Prop where
  succeeded_iff : after.succeeded = true ↔ renewal.Renews after
  overridden_eq : after.overridden = renewal.bypassed proposed

/-- **What earlier decisions leave behind.** A decision reports what it did exactly if it does not
renew a loan that was refused before, and does not find violations listed that were overridden
before unless it lists others in their place. -/
theorem accountsFor_iff (decided : renewal.decide now days zone = .ok after) :
    ∃ proposed, renewal.proposedDue now days zone = .ok proposed ∧
      (renewal.AccountsFor after proposed ↔
        (renewal.Renews after → renewal.errors = []) ∧
        (renewal.bypassed proposed = [] → renewal.overridden = [])) := by
  obtain ⟨proposed, asked, ended⟩ := decidedAs_of_decide decided
  refine ⟨proposed, asked, ?_, ?_⟩
  · rintro ⟨succeeded, overridden⟩
    constructor
    · intro renews
      exact (ended.succeeded_iff.mp (succeeded.mpr renews)).2
    · intro none
      rw [ended.overridden_eq, if_pos none, none] at overridden
      exact overridden
  · rintro ⟨unrefused, unlisted⟩
    constructor
    · rw [ended.succeeded_iff]
      exact and_iff_left_of_imp unrefused
    · rw [ended.overridden_eq]
      split
      · next none => rw [none, unlisted none]
      · rfl

/-- The first attempt to renew a loan of an item that was declared lost. -/
def firstAttempt : Renewal where
  loan := { id := "loan-1", due := .showing ⟨739100, by decide⟩ startOfDay .utc
            status := .declaredLost }
  policy := { id := "one-day", period := some (.of .days (some 1)) }

/-- The due date that the first attempt would give the loan. -/
def nextDay : Moment := .showing ⟨739101, by decide⟩ startOfDay .utc

/-- The second attempt, with an override, after the first one was refused. -/
def secondAttempt : Renewal :=
  { firstAttempt.refused (firstAttempt.violations (some (.ok nextDay))) with override := true }

theorem decide_firstAttempt : firstAttempt.decide firstAttempt.loan.due none .utc =
    .ok (firstAttempt.refused (firstAttempt.violations (some (.ok nextDay)))) := by
  rfl

theorem decide_secondAttempt : secondAttempt.decide secondAttempt.loan.due none .utc =
    .ok (secondAttempt.overriding nextDay (secondAttempt.violations (some (.ok nextDay)))) := by
  rfl

/-- The first attempt is refused and reports so. -/
theorem firstAttempt_accountsFor :
    ∃ after proposed, firstAttempt.decide firstAttempt.loan.due none .utc = .ok after ∧
      firstAttempt.AccountsFor after proposed ∧ after.succeeded = false := by
  obtain ⟨proposed, asked, reports⟩ := accountsFor_iff decide_firstAttempt
  exact ⟨_, proposed, decide_firstAttempt, reports.mpr ⟨fun _ => rfl, fun _ => rfl⟩, by decide⟩

/-- The second attempt renews the loan and still counts as refused. -/
theorem not_always_accountsFor : ¬ ∀ (renewal after : Renewal) (now : Moment)
    (days : Option AdjacentDays) (zone : Zone) (proposed : Option (Outcome Moment)),
    renewal.decide now days zone = .ok after →
    renewal.proposedDue now days zone = .ok proposed → renewal.AccountsFor after proposed := by
  intro reports
  have asked : secondAttempt.proposedDue secondAttempt.loan.due none .utc =
      .ok (some (.ok nextDay)) := by rfl
  have account := reports _ _ _ _ _ _ decide_secondAttempt asked
  have succeeded := account.succeeded_iff.mpr ⟨nextDay, .inr rfl⟩
  revert succeeded
  decide

/-! ## Decisions one after another -/

/-- A further decision on a renewal that was decided before. Whatever else has been changed since,
what became of the renewal before is kept with it. -/
def Retry (renewal after : Renewal) : Prop :=
  ∃ (again : Renewal) (now : Moment) (days : Option AdjacentDays) (zone : Zone),
    again.errors = renewal.errors ∧ again.overridden = renewal.overridden ∧
    again.decide now days zone = .ok after

/-- One decision replaces violations that were listed before, but it does not take them back. -/
theorem Retry.keeps (retry : renewal.Retry after) :
    (renewal.errors ≠ [] → after.errors ≠ []) ∧
      (renewal.overridden ≠ [] → after.overridden ≠ []) := by
  obtain ⟨again, now, days, zone, errors, overridden, decided⟩ := retry
  obtain ⟨proposed, -, ended⟩ := decidedAs_of_decide decided
  rw [← errors, ← overridden]
  constructor
  · intro refused
    rcases ended.renews_iff with ⟨-, kept⟩ | ⟨-, violated⟩
    · rw [kept]
      exact refused
    · exact violated
  · intro listed
    rw [ended.overridden_eq]
    split
    · exact listed
    · assumption

/-- However often a renewal is decided again, violations once listed are never taken back. -/
theorem keeps_of_retries (retries : Relation.ReflTransGen Retry renewal after) :
    (renewal.errors ≠ [] → after.errors ≠ []) ∧
      (renewal.overridden ≠ [] → after.overridden ≠ []) := by
  induction retries with
  | refl => exact ⟨id, id⟩
  | tail _ last ih => exact ⟨fun refused => last.keeps.1 (ih.1 refused),
      fun listed => last.keeps.2 (ih.2 listed)⟩

/-- A refusal is never taken back: no later decision counts as successful, though it may renew the
loan. -/
theorem not_succeeded_of_retries (retries : Relation.ReflTransGen Retry renewal after)
    (refused : renewal.succeeded = false) : after.succeeded = false := by
  have listed : renewal.errors ≠ [] := by simpa [succeeded] using refused
  simpa [succeeded] using (keeps_of_retries retries).1 listed

end Renewal

end Lending
