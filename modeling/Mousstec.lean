import Mousstec.Accounting.Ledger
import Mousstec.Accounting.LedgerFacts
import Mousstec.Library.Runs
import Mousstec.Printing.TreasuryRuns
import Mousstec.Printing.ChequeRuns
import Mousstec.Printing.Sync
import Mousstec.Printing.Convergence
import Mousstec.Accounting.PeriodClose
import Mousstec.Accounting.ClosedPeriods
import Mousstec.Accounting.PeriodRuns
import Mousstec.Accounting.ClosedEntries
import Mousstec.Accounting.SaleEntries
import Mousstec.Stock.TransferRuns
import Mousstec.Stock.Disassembly
import Mousstec.Cash.PaymentFacts
import Mousstec.Stock.DisassemblyRuns
import Mousstec.Library.Allocation
import Mousstec.Sales.Collection
import Mousstec.Sales.CollectionRuns
import Mousstec.Payroll.Payslips
import Mousstec.Printing.Movements
import Mousstec.Payroll.Office
import Mousstec.Payroll.Repayment
import Mousstec.Printing.Documents
import Mousstec.Printing.DocumentFacts
import Mousstec.Printing.FixedAssets
import Mousstec.Printing.AssetFacts
import Mousstec.Printing.DepreciationRuns
import Mousstec.Printing.Disposals
import Mousstec.Ecu.KLine
import Mousstec.Ecu.Strategies
import Mousstec.Ecu.StrategyRuns
import Mousstec.Ecu.Flash
import Mousstec.Ecu.FlashSteps
import Mousstec.Ecu.FlashRuns
import Mousstec.Ecu.UdsFlash
import Mousstec.Ecu.DmeSwap
import Mousstec.Ecu.DmeSwapRuns
import Mousstec.Ecu.Universal
import Mousstec.Ecu.UniversalRuns
import Mousstec.Ecu.FrmRecovery
import Mousstec.Ecu.FrmResume
import Mousstec.Ecu.BenchKeys
import Mousstec.Ecu.BenchResume
import Mousstec.Ecu.FlashResume
import Mousstec.Ecu.FullScan
import Mousstec.Ecu.ScanResume
import Mousstec.Ecu.Resumptions
import Mousstec.Billing.GrantRuns
import Mousstec.Billing.FeeGate
import Mousstec.Billing.Payments
import Mousstec.Billing.ChargeRuns
import Mousstec.Clients.DiagnosticsQuota
import Mousstec.Clients.QuotaRuns
import Mousstec.Market.AuctionRuns
import Mousstec.Clients.PlatformBilling
import Mousstec.Clients.BillingMoves
import Mousstec.Clients.PaidTime
import Mousstec.Clients.GatewayOrders
import Mousstec.Clients.CouponLimits
import Mousstec.Clients.PlanServed
import Mousstec.Library.Decimal
import Mousstec.Stock.LandedCost
import Mousstec.Stock.LandedShares
import Mousstec.Stock.LandedAllocation
import Mousstec.Robot.Outbox
import Mousstec.Robot.OutboxRuns
import Mousstec.Robot.Counter
import Mousstec.Robot.CounterRuns
import Mousstec.Obd.Link
import Mousstec.Obd.LinkRuns
import Mousstec.Obd.PrintedReplies
import Mousstec.Obd.CodeReports
import Mousstec.Obd.LookupRuns
import Mousstec.Clients.DesignCredits
import Mousstec.Clients.DesignBalance
import Mousstec.Clients.DesignRequests
import Mousstec.Clients.DesignRuns
import Mousstec.Printing.DepreciationSchedule
import Mousstec.Printing.PurchaseShares
import Mousstec.Printing.PurchaseReturnFacts
import Mousstec.Printing.PurchaseReturnRuns
import Mousstec.Stock.DisassemblyShares
import Mousstec.Sales.CommissionRuns
import Mousstec.Accounting.VatAgreement
import Mousstec.Sales.SettlementDiscount
import Mousstec.Sales.CoreRefund
import Mousstec.Stock.PurchaseInvoices
import Mousstec.Stock.VendorCredit
import Mousstec.Stock.VendorReturns
import Mousstec.Stock.VendorReturnFacts
import Mousstec.Stock.Recost
import Mousstec.Stock.RecostValue
import Mousstec.Stock.RecostRounding
import Mousstec.Attendance.DayStatus
import Mousstec.Attendance.DayRuns
import Mousstec.Attendance.EventOrder
import Mousstec.Market.Matching
import Mousstec.Market.MatchingFacts
import Mousstec.Payroll.AdvanceRequests
import Mousstec.Clients.UpgradeCredit
import Mousstec.Stock.Shipments
import Mousstec.Stock.ShipmentShares
import Mousstec.Stock.ShipmentRuns
import Mousstec.Obd.VinReplies
import Mousstec.Obd.VinReading
import Mousstec.Obd.VinAnswers
import Mousstec.Obd.VinReads
import Mousstec.Obd.VinTexts
import Mousstec.Robot.SpokenNumbers
import Mousstec.Robot.SpokenPhrases
import Mousstec.Robot.SpokenWords
import Mousstec.Robot.SpokenReading
import Mousstec.Robot.SpokenGroups
import Mousstec.Robot.SpokenAmounts
import Mousstec.Robot.SpokenTexts
import Mousstec.Cash.CommissionPayouts
import Mousstec.Cash.PayoutFacts
import Mousstec.Cash.PayoutRuns
import Mousstec.Library.Numerals
import Mousstec.Printing.DocumentNumbers
import Mousstec.Ecu.FrmRebuilds
import Mousstec.Sales.SmallDebts

