import Lending.Proofs.Except
import Lending.Renewal.Basic
import Mathlib.Data.List.Nodup
import Mathlib.Logic.Relation

/-!
# The head of a request queue

The period of a loan or a renewal depends on who waits for the item, and so do four of the checks
before a renewal and what they report. None of these looks further than to the head of the queue. As
long as no two open requests have the same position, the head is the open request with the least
one. So it does not matter in which order the requests were listed, or which closed requests are
listed with them.

## Main definitions

* `Request.IsFirstOpen` — the open request with the least position
* `Rearrangement` — a change to a list of requests that leaves the open ones what they are
* `RequestQueue.Alike` — queues that no decision tells apart

## Main results

* `RequestQueue.head?_ofList_eq_some_iff` — the head is the first open request
* `perm_openRequests_of_rearranged` — rearranged lists have the same open requests
* `RequestQueue.alike_of_head?_eq` — decisions only see the head
* `RequestQueue.only_head_counts` — rearranged lists give queues that no decision tells apart
-/

namespace Lending

/-! ## The first open request -/

/-- The open requests of a list. -/
def openRequests (requests : List Request) : List Request := requests.filter (·.isOpen)

/-- Whether no two open requests of a list have the same position. -/
def OpenPositionsDistinct (requests : List Request) : Prop :=
  ((openRequests requests).map (·.position)).Nodup

instance (requests : List Request) : Decidable (OpenPositionsDistinct requests) :=
  inferInstanceAs (Decidable (List.Nodup _))

/-- Whether a request is an open one of a list, and none of the open ones comes before it. -/
def Request.IsFirstOpen (request : Request) (requests : List Request) : Prop :=
  request ∈ openRequests requests ∧
    ∀ other ∈ openRequests requests, request.position ≤ other.position

theorem mem_openRequests_iff {request : Request} {requests : List Request} :
    request ∈ openRequests requests ↔ request ∈ requests ∧ request.isOpen = true :=
  List.mem_filter

/-- Where open requests have distinct positions at most one of them is the first. -/
theorem Request.IsFirstOpen.unique {a b : Request} {requests : List Request}
    (distinct : OpenPositionsDistinct requests) (ha : a.IsFirstOpen requests)
    (hb : b.IsFirstOpen requests) : a = b :=
  List.inj_on_of_nodup_map distinct ha.1 hb.1 (Int.le_antisymm (ha.2 b hb.1) (hb.2 a ha.1))

namespace RequestQueue

variable {requests : List Request} {request : Request}

theorem mem_requests_ofList : request ∈ (ofList requests).requests ↔ request ∈ requests :=
  List.mem_mergeSort

theorem head?_ofList_eq_none_iff :
    (ofList requests).head? = none ↔ openRequests requests = [] := by
  simp only [head?, openRequests, List.find?_eq_none, List.filter_eq_nil_iff, mem_requests_ofList]

/-- The head of a queue is an open request, and the open requests that it passes are behind it. -/
theorem isFirstOpen_of_head? (found : (ofList requests).head? = some request) :
    request.IsFirstOpen requests := by
  obtain ⟨isOpen, before, after, listed, closed⟩ := List.find?_eq_some_iff_append.mp found
  have member : request ∈ requests := mem_requests_ofList.mp (by simp [listed])
  refine ⟨mem_openRequests_iff.mpr ⟨member, isOpen⟩, fun other waits => ?_⟩
  obtain ⟨otherMember, otherOpen⟩ := mem_openRequests_iff.mp waits
  have ordered := (ofList requests).ordered
  rw [listed, List.pairwise_append] at ordered
  rw [← mem_requests_ofList, listed] at otherMember
  -- before the head there are closed requests only
  rcases List.mem_append.mp otherMember with passed | rest
  · have closedBefore := closed other passed
    simp [otherOpen] at closedBefore
  · rcases List.mem_cons.mp rest with rfl | behind
    · exact Int.le_refl _
    · exact (List.pairwise_cons.mp ordered.2.1).1 other behind

/-- The head of a queue is the open request with the least position. -/
theorem head?_ofList_eq_some_iff (distinct : OpenPositionsDistinct requests) :
    (ofList requests).head? = some request ↔ request.IsFirstOpen requests := by
  refine ⟨isFirstOpen_of_head?, fun first => ?_⟩
  cases found : (ofList requests).head? with
  | none => simp [head?_ofList_eq_none_iff.mp found, Request.IsFirstOpen] at first
  | some head => rw [(isFirstOpen_of_head? found).unique distinct first]

end RequestQueue

/-! ## Rearranged requests -/

/-- A change to a list of requests that leaves the open ones what they are: they are put into
another order, or a closed request is added or taken out anywhere. -/
inductive Rearrangement : List Request → List Request → Prop
  | reordered {requests others : List Request} (reordered : requests.Perm others) :
      Rearrangement requests others
  | closedAdded {request : Request} {before after : List Request}
      (closed : request.isOpen = false) :
      Rearrangement (before ++ after) (before ++ request :: after)
  | closedRemoved {request : Request} {before after : List Request}
      (closed : request.isOpen = false) :
      Rearrangement (before ++ request :: after) (before ++ after)

variable {requests others : List Request}

/-- A closed request is none of the open ones. -/
theorem openRequests_append_closed {request : Request} (closed : request.isOpen = false)
    (before after : List Request) :
    openRequests (before ++ request :: after) = openRequests (before ++ after) := by
  simp [openRequests, closed]

theorem Rearrangement.perm_openRequests (change : Rearrangement requests others) :
    (openRequests requests).Perm (openRequests others) := by
  cases change with
  | reordered reordered => exact reordered.filter _
  | closedAdded closed => rw [openRequests_append_closed closed]
  | closedRemoved closed => rw [openRequests_append_closed closed]

/-- However often a list is rearranged, it has the same open requests. -/
theorem perm_openRequests_of_rearranged
    (rearranged : Relation.ReflTransGen Rearrangement requests others) :
    (openRequests requests).Perm (openRequests others) := by
  induction rearranged with
  | refl => exact .refl _
  | tail _ change ih => exact ih.trans change.perm_openRequests

/-- The first open request depends on the open requests only. -/
theorem Request.isFirstOpen_congr {request : Request}
    (same : (openRequests requests).Perm (openRequests others)) :
    request.IsFirstOpen requests ↔ request.IsFirstOpen others := by
  simp only [IsFirstOpen, same.mem_iff]

theorem RequestQueue.head?_ofList_eq_of_perm (distinct : OpenPositionsDistinct requests)
    (same : (openRequests requests).Perm (openRequests others)) :
    (ofList requests).head? = (ofList others).head? := by
  have distinctOthers : OpenPositionsDistinct others := (same.map _).nodup_iff.mp distinct
  ext request
  rw [head?_ofList_eq_some_iff distinct, head?_ofList_eq_some_iff distinctOthers,
    Request.isFirstOpen_congr same]

/-! ## What decisions see of a queue -/

/-- A renewal while another queue waits for the item. -/
def Renewal.withQueue (renewal : Renewal) (queue : RequestQueue) : Renewal := { renewal with queue }

@[simp] theorem Renewal.override_withQueue (renewal : Renewal) (queue : RequestQueue) :
    (renewal.withQueue queue).override = renewal.override := rfl

namespace RequestQueue

variable {a b : RequestQueue}

/-- Queues that no decision tells apart: with either of them the policies give the same candidates
and the checks come to the same, and so do renewals, which keep the queue that they were decided
with. -/
structure Alike (a b : RequestQueue) : Prop where
  checkoutCandidate : ∀ (policy : LoanPolicy) (loanDate : Moment) (zone : Zone),
    policy.checkoutCandidate loanDate (some a) zone =
      policy.checkoutCandidate loanDate (some b) zone
  renewalCandidate : ∀ (policy : LoanPolicy) (loan : Loan) (now : Moment) (zone : Zone),
    policy.renewalCandidate loan now (some a) zone = policy.renewalCandidate loan now (some b) zone
  checks : ∀ (policy : LoanPolicy) (loan : Loan),
    policy.checkRenewal loan a = policy.checkRenewal loan b
  decision : ∀ (renewal : Renewal) (now : Moment) (days : Option AdjacentDays) (zone : Zone),
    (renewal.withQueue b).decide now days zone =
      ((renewal.withQueue a).decide now days zone).map (·.withQueue b)

theorem recallAtHead_congr (same : a.head? = b.head?) : a.recallAtHead = b.recallAtHead := by
  rw [recallAtHead, recallAtHead, same]

theorem holdAtHead_congr (same : a.head? = b.head?) : a.holdAtHead = b.holdAtHead := by
  rw [holdAtHead, holdAtHead, same]

end RequestQueue

namespace LoanPolicy

variable {a b : RequestQueue} (policy : LoanPolicy)

theorem checkoutCandidate_congr (same : a.head? = b.head?) (loanDate : Moment) (zone : Zone) :
    policy.checkoutCandidate loanDate (some a) zone =
      policy.checkoutCandidate loanDate (some b) zone := by
  have period : policy.checkoutPeriod (some a) = policy.checkoutPeriod (some b) := by
    simp only [checkoutPeriod, Option.any_some, RequestQueue.holdAtHead_congr same]
  simp only [checkoutCandidate, period]

theorem renewalCandidate_congr (same : a.head? = b.head?) (loan : Loan) (now : Moment)
    (zone : Zone) :
    policy.renewalCandidate loan now (some a) zone =
      policy.renewalCandidate loan now (some b) zone := by
  have period : policy.periodOfRenewal (some a) = policy.periodOfRenewal (some b) := by
    simp only [periodOfRenewal, Option.any_some, RequestQueue.holdAtHead_congr same]
  simp only [renewalCandidate, period]

theorem adjustedRenewal_congr (same : a.head? = b.head?) (loan : Loan) (now : Moment)
    (days : Option AdjacentDays) (zone : Zone) :
    policy.adjustedRenewal loan now days (some a) zone =
      policy.adjustedRenewal loan now days (some b) zone := by
  rw [adjustedRenewal, policy.renewalCandidate_congr same, adjustedRenewal]

theorem checkRenewal_congr (same : a.head? = b.head?) (loan : Loan) :
    policy.checkRenewal loan a = policy.checkRenewal loan b := by
  simp only [checkRenewal, checkNoActiveRecall, checkHoldAllowsRenewal, checkFixedHoldPeriod,
    checkFixedRenewalPeriod, RequestQueue.recallAtHead_congr same,
    RequestQueue.holdAtHead_congr same, same]

end LoanPolicy

namespace Renewal

variable {a b : RequestQueue} (renewal : Renewal) (now : Moment) (days : Option AdjacentDays)
  (zone : Zone)

theorem proposedDue_congr (same : a.head? = b.head?) :
    (renewal.withQueue a).proposedDue now days zone =
      (renewal.withQueue b).proposedDue now days zone := by
  have adjusted := renewal.policy.adjustedRenewal_congr same renewal.loan now days zone
  simp only [proposedDue, withQueue, adjusted]
  rfl

theorem violations_congr (same : a.head? = b.head?) (proposed : Option (Outcome Moment)) :
    (renewal.withQueue a).violations proposed = (renewal.withQueue b).violations proposed := by
  simp only [violations, withQueue, LoanPolicy.checkRenewal_congr renewal.policy same]

/-- With another queue of the same head a renewal is decided in the same way. -/
theorem decide_congr (same : a.head? = b.head?) :
    (renewal.withQueue b).decide now days zone =
      ((renewal.withQueue a).decide now days zone).map (·.withQueue b) := by
  unfold decide
  rw [proposedDue_congr renewal now days zone same]
  rcases (renewal.withQueue b).proposedDue now days zone with fault | _ | failure | due
  · rfl
  · simp only [bind, Except.bind, violations_congr renewal same]
    rfl
  · simp only [bind, Except.bind, violations_congr renewal same]
    rfl
  · simp only [bind, Except.bind, violations_congr renewal same]
    cases clear : ((renewal.withQueue b).violations (some (.ok due))).isEmpty
    · cases privileged : renewal.override <;> simp [privileged] <;> rfl
    · rfl

end Renewal

namespace RequestQueue

variable {a b : RequestQueue}

/-- Decisions only see the head of a queue. -/
theorem alike_of_head?_eq (same : a.head? = b.head?) : a.Alike b where
  checkoutCandidate policy loanDate zone := policy.checkoutCandidate_congr same loanDate zone
  renewalCandidate policy loan now zone := policy.renewalCandidate_congr same loan now zone
  checks policy loan := policy.checkRenewal_congr same loan
  decision renewal now days zone := renewal.decide_congr now days zone same

/-- **Only the head of a queue counts.** Let no two open requests of a list have the same position.
Then the head of their queue is the open request with the least position. If the list is put into
any other order, and closed requests are added or taken out anywhere, its queue has the same head,
and no decision on a loan or a renewal tells the two queues apart. -/
theorem only_head_counts {requests others : List Request}
    (distinct : OpenPositionsDistinct requests)
    (rearranged : Relation.ReflTransGen Rearrangement requests others) :
    (∀ request, (ofList requests).head? = some request ↔ request.IsFirstOpen requests) ∧
      ((ofList requests).head? = none ↔ openRequests requests = []) ∧
      (ofList requests).head? = (ofList others).head? ∧
      (ofList requests).Alike (ofList others) := by
  have same : (ofList requests).head? = (ofList others).head? :=
    head?_ofList_eq_of_perm distinct (perm_openRequests_of_rearranged rearranged)
  exact ⟨fun request => head?_ofList_eq_some_iff distinct, head?_ofList_eq_none_iff, same,
    alike_of_head?_eq same⟩

/-- A recall that has waited longer than a page. -/
def waitingRecall : Request := { id := "recall", kind := .recallRequest, position := 2 }

/-- The two, listed backwards, and behind them a hold that was cancelled. -/
def withCancelledHold : List Request :=
  [{ id := "page", kind := .page, position := 3 }, waitingRecall,
    { id := "hold", kind := .hold, status := .closedCancelled, position := 1 }]

/-- The two in their order, and before them a hold that was filled, at the recall's position. -/
def withFilledHold : List Request :=
  [{ id := "other hold", kind := .hold, status := .closedFilled, position := 2 }, waitingRecall,
    { id := "page", kind := .page, position := 3 }]

theorem rearranged_withFilledHold :
    Relation.ReflTransGen Rearrangement withCancelledHold withFilledHold := by
  have removed : Rearrangement withCancelledHold (withCancelledHold.take 2 ++ []) :=
    @Rearrangement.closedRemoved _ (withCancelledHold.take 2) [] rfl
  have reordered : Rearrangement (withCancelledHold.take 2) ([] ++ withFilledHold.tail) :=
    .reordered (.swap _ _ _)
  have added : Rearrangement ([] ++ withFilledHold.tail) withFilledHold := .closedAdded rfl
  exact ((Relation.ReflTransGen.single removed).tail reordered).tail added

/-- Both queues have the recall at their head, which a renewal must not pass over. -/
theorem withFilledHold_alike :
    OpenPositionsDistinct withCancelledHold ∧
      Relation.ReflTransGen Rearrangement withCancelledHold withFilledHold ∧
      (ofList withFilledHold).head? = some waitingRecall ∧
      (ofList withCancelledHold).Alike (ofList withFilledHold) := by
  have distinct : OpenPositionsDistinct withCancelledHold := by decide
  obtain ⟨head, -, same, alike⟩ := only_head_counts distinct rearranged_withFilledHold
  have first : waitingRecall.IsFirstOpen withCancelledHold := by
    constructor
    · simp [withCancelledHold, openRequests, waitingRecall, Request.isOpen, RequestStatus.isOpen]
    · decide
  exact ⟨distinct, rearranged_withFilledHold, same ▸ (head waitingRecall).mpr first, alike⟩

end RequestQueue

end Lending
