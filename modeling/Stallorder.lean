import Stallorder.Offline.Purge
import Stallorder.Offline.Settlement
import Stallorder.Offline.Stranding
import Stallorder.Offline.SyncLease
import Stallorder.Offline.EventChains
import Stallorder.Offline.DrawerLimits
import Stallorder.Server.ExactlyOnce
import Stallorder.Server.Revocation
import Stallorder.Server.RiskLimits
import Stallorder.Stock.Counting
import Stallorder.Checkout.PaymentAgreement
import Stallorder.Checkout.CollectedAmount
import Stallorder.Checkout.CashPayable
import Stallorder.OnlinePayments.EventConfluence
import Stallorder.OnlinePayments.Captures
import Stallorder.Outbox.Dispatch
import Stallorder.Delivery.StatusOrder
import Stallorder.Delivery.ImportedAmounts
import Stallorder.Delivery.ProviderMoney
import Stallorder.Attendance.Turns
import Stallorder.Payroll.FinalizedPeriods
import Stallorder.Payroll.PayrollWindows
import Stallorder.Supply.FirstExpiring
import Stallorder.Supply.PurchaseAmounts
import Stallorder.Billing.PeriodPartition
import Stallorder.Billing.FootedInvoices
import Stallorder.Billing.CloseStarvation
import Stallorder.Billing.UsageSummaries
import Stallorder.Crm.LoyaltyLedger
import Stallorder.Crm.Erasure
import Stallorder.Crm.ConsentRaces
import Stallorder.Reservations.SessionAgreement
import Stallorder.EInvoice.ProviderAgreement
import Stallorder.Kitchen.BoardRuns
import Stallorder.Waitlist.QueuePositions
import Stallorder.Resilience.Recovery
import Stallorder.Resilience.SplitBrain
import Stallorder.Reports.LostRuns
import Stallorder.Reports.RunChains
import Stallorder.Printing.AttemptOutcomes
import Stallorder.Printing.QuietPrints
import Stallorder.Edits.EditReplay
import Stallorder.Cart.CartRun
import Stallorder.Pickup.CodesIdentify
