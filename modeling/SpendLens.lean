import SpendLens.Lib.Prog
import SpendLens.Lib.Interleaving
import SpendLens.Lib.EventRuns
import SpendLens.Lib.Fallible
import SpendLens.Lib.Table
import SpendLens.Lib.RowLocks
import SpendLens.Lib.Keyset
import SpendLens.Lib.Base64
import SpendLens.Lib.TextEncoding
import SpendLens.Lib.Grouping
import SpendLens.Lib.Rounding
import SpendLens.Lib.Statistics
import SpendLens.Lib.Intervals
import SpendLens.PyText
import SpendLens.Calendar
import SpendLens.Lib.Json
import SpendLens.Lib.JsonText
import SpendLens.PyDecimal
import SpendLens.Schema
import SpendLens.Statement
import SpendLens.Steps
import SpendLens.ReceiptService
import SpendLens.InboundEmail
import SpendLens.InboundDelivery
import SpendLens.Categorisation
import SpendLens.ExpenseSchema
import SpendLens.Pagination
import SpendLens.ExpenseService
import SpendLens.ExpensePages
import SpendLens.MerchantFilter
import SpendLens.Clock
import SpendLens.Numerals
import SpendLens.StateCodec
import SpendLens.WebhookSignature
import SpendLens.PubsubBody
import SpendLens.IfMatch
import SpendLens.UploadAtomicity
import SpendLens.ReceiptBlobs
import SpendLens.ConcurrentDelivery
import SpendLens.Redelivery
import SpendLens.ReceiptTasks
import SpendLens.ReceiptLifecycle
import SpendLens.ReceiptExpense
import SpendLens.Insights
import SpendLens.Patches
import SpendLens.ExpensePatches
import SpendLens.BudgetSchema
import SpendLens.BudgetService
import SpendLens.BudgetAmounts
import SpendLens.BudgetConflicts
import SpendLens.AnalyticsAgreement
import SpendLens.TrendZones
import SpendLens.Anomalies
import SpendLens.AnomalyReports
import SpendLens.BrowserTab
import SpendLens.TabSessions
import SpendLens.GmailOAuth
import SpendLens.GmailCallback
import SpendLens.GmailLinking
import SpendLens.GmailSync
import SpendLens.GmailRefinement
import SpendLens.BudgetAlert
import SpendLens.PlaceholderMerchant
import SpendLens.HistoryPaging
import SpendLens.MessageParts
import SpendLens.AttachmentBytes
import SpendLens.UploadSniffing
import SpendLens.VisionReply
import SpendLens.ProcessingOutcome
import SpendLens.DateParameters
import SpendLens.ReceiptDates
import SpendLens.ReceiptTotals
import SpendLens.WholeAmounts
import SpendLens.Booking
import SpendLens.GmailCursor
import SpendLens.ExpenseCreation
import SpendLens.ExpenseReadability
import SpendLens.Lib.Shares
import SpendLens.GmailConnections
import SpendLens.TenantShares
import SpendLens.TenantIsolation
import SpendLens.PrivateBackends
import SpendLens.Lib.UpdateLog
import SpendLens.CorrectionLog
import SpendLens.CursorTexts
import SpendLens.MonthTiling
import SpendLens.MonthTicks
import SpendLens.PayloadHandover
import SpendLens.Accounts
import SpendLens.ReceiptCard
import SpendLens.ExpenseCache
import SpendLens.EditForm
import SpendLens.Lib.Broker
import SpendLens.Celery
import SpendLens.ReceiptDuties
import SpendLens.Ingestion
import SpendLens.WorkerThreads
import SpendLens.OutstandingTasks
import SpendLens.RegistrationRace
import SpendLens.Webhooks
