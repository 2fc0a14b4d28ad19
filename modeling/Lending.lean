import Lending.Desk.Terms
import Lending.Document.Policy
import Lending.Document.Calendar
import Lending.Proofs.Rules.Inheritance
import Lending.Proofs.Rules.Precedence
import Lending.Proofs.Renewal.Decision
import Lending.Proofs.Period.Elapsed
import Lending.Proofs.Renewal.Retry
import Lending.Proofs.DueDate.Bounds
import Lending.Proofs.Overdue.Elapsed
import Lending.Proofs.Overdue.OpenMinutes
import Lending.Proofs.Overdue.ClosedTime
import Lending.Proofs.Loan.History
import Lending.Proofs.Loan.Course
import Lending.Proofs.Rules.Acceptance
import Lending.Proofs.Rules.Writing
import Lending.Proofs.Rules.Remarks
import Lending.Proofs.Rules.Selection
import Lending.Proofs.Rules.Specificity
import Lending.Proofs.Rules.Nesting
import Lending.Proofs.Time.Civil
import Lending.Proofs.DueDate.Range
import Lending.Proofs.Renewal.Override
import Lending.Proofs.Overdue.StoredDays
import Lending.Proofs.Desk.Terms
import Lending.Proofs.Desk.Additions
import Lending.Proofs.Period.WallClock
import Lending.Proofs.Schedule.Ranges
import Lending.Proofs.Overdue.Grace
import Lending.Proofs.Rules.TermOrder
import Lending.Proofs.Rules.Overriding
import Lending.Proofs.DueDate.MissingRange
import Lending.Proofs.ClosedDays.Rest
import Lending.Proofs.Time.Changes
import Lending.Proofs.Calendar.Agreement
import Lending.Proofs.Overdue.Growth
import Lending.Proofs.DueDate.Limit
import Lending.Proofs.Overdue.AllDay
import Lending.Proofs.RequestQueue.Head
import Lending.Proofs.Loan.Recalls
import Lending.Proofs.Desk.NeverOpen
import Lending.Proofs.Desk.LastAdded
import Lending.Proofs.Desk.Expiration
import Lending.Proofs.Rules.WellFormed
