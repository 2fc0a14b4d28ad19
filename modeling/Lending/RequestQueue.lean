/-!
# Request queues

Patrons who wait for an item stand in a queue by position. Requests that have been fulfilled or
closed stay in the queue but do not count: its head is the first open request.

## Main definitions

* `Request`, `RequestQueue` — a request, and the requests for one item by position
* `RequestQueue.ofList` — the queue of a list of requests
* `RequestQueue.head?` — the first open request
-/

namespace Lending

/-- What a patron asks for. -/
inductive RequestKind | hold | recallRequest | page
deriving DecidableEq, Repr

namespace RequestKind

def all : List RequestKind := [hold, recallRequest, page]

def name : RequestKind → String
  | hold => "Hold"
  | recallRequest => "Recall"
  | page => "Page"

def named? (name : String) : Option RequestKind := all.find? (·.name = name)

end RequestKind

/-- How far a request has got. -/
inductive RequestStatus
  | openNotYetFilled | openAwaitingPickup | openInTransit | openAwaitingDelivery
  | closedFilled | closedCancelled | closedUnfilled | closedPickupExpired
deriving DecidableEq, Repr

namespace RequestStatus

def all : List RequestStatus :=
  [openNotYetFilled, openAwaitingPickup, openInTransit, openAwaitingDelivery,
    closedFilled, closedCancelled, closedUnfilled, closedPickupExpired]

def name : RequestStatus → String
  | openNotYetFilled => "Open - Not yet filled"
  | openAwaitingPickup => "Open - Awaiting pickup"
  | openInTransit => "Open - In transit"
  | openAwaitingDelivery => "Open - Awaiting delivery"
  | closedFilled => "Closed - Filled"
  | closedCancelled => "Closed - Cancelled"
  | closedUnfilled => "Closed - Unfilled"
  | closedPickupExpired => "Closed - Pickup expired"

def named? (name : String) : Option RequestStatus := all.find? (·.name = name)

def isOpen : RequestStatus → Bool
  | openNotYetFilled | openAwaitingPickup | openInTransit | openAwaitingDelivery => true
  | closedFilled | closedCancelled | closedUnfilled | closedPickupExpired => false

end RequestStatus

/-- A patron's request for an item. -/
structure Request where
  id : String
  kind : RequestKind
  status : RequestStatus := .openNotYetFilled
  position : Int := 1
deriving DecidableEq, Repr

namespace Request

def isOpen (request : Request) : Bool := request.status.isOpen

def isRecall (request : Request) : Bool := request.kind = .recallRequest

def isHold (request : Request) : Bool := request.kind = .hold

end Request

/-- The requests for one item, by position. -/
structure RequestQueue where
  requests : List Request
  ordered : requests.Pairwise (·.position ≤ ·.position)
deriving DecidableEq, Repr

namespace RequestQueue

def empty : RequestQueue := ⟨[], .nil⟩

instance : Inhabited RequestQueue := ⟨empty⟩

/-- The queue of a list of requests; requests of one position keep their order. -/
def ofList (requests : List Request) : RequestQueue where
  requests := requests.mergeSort fun a b => a.position ≤ b.position
  ordered := by
    have := @List.pairwise_mergeSort Request (fun a b => decide (a.position ≤ b.position))
      (by intro a b c hab hbc; simp only [decide_eq_true_eq] at *; omega)
      (by intro a b; simp only [Bool.or_eq_true, decide_eq_true_eq]; omega) requests
    exact this.imp fun h => by simpa using h

/-- The first open request. -/
def head? (queue : RequestQueue) : Option Request := queue.requests.find? (·.isOpen)

def recallAtHead (queue : RequestQueue) : Bool := queue.head?.any (·.isRecall)

def holdAtHead (queue : RequestQueue) : Bool := queue.head?.any (·.isHold)

def length (queue : RequestQueue) : Nat := queue.requests.length

end RequestQueue

end Lending
