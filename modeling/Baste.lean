import Baste.StepRuns
import Baste.KeyedTable
import Baste.TransactionPrograms
import Baste.TransactionSafety
import Baste.SerialExecution
import Baste.CallHistories
import Baste.ChargeOutcomes
import Baste.KeyedDatabase
import Baste.DatabaseStatements
import Baste.HalfAwayRounding
import Baste.PartialMatching
import Baste.Numerals
import Baste.FailingPrograms
import Baste.JsonText
import Baste.ScriptLexing
import Baste.ScriptCutting
import Baste.ScriptLines
import Baste.ScriptSplitting
import Baste.Schema
import Baste.ColumnValues
import Baste.StoredSchema
import Baste.StoredDatabase
import Baste.ServiceErrors
import Baste.WalletService
import Baste.BlacklistService
import Baste.OrderService
import Baste.CustomerWalletService
import Baste.DisputeService
import Baste.ChargeService
import Baste.TypedText
import Baste.BackupService
import Baste.Migrator
import Baste.ServiceCalls
import Baste.ReceiptCharges
import Baste.TopupDecisions
import Baste.CommissionLedger
import Baste.CreditLimit
import Baste.SerialCommissions
import Baste.WalletPurchases
import Baste.ChargeStock
import Baste.DeliveredTexts
import Baste.OrderOperations
import Baste.OrderFlow
import Baste.DisputeDecisions
import Baste.DisputeRefunds
import Baste.RestoreRuns
import Baste.RestoreTexts
import Baste.FailedRestore
import Baste.RestoredReferences
import Baste.BackupRoundTrip
import Baste.SafeRestore
import Baste.BackupSnapshots
import Baste.MigrationStarts
import Baste.Dispatchers
import Baste.Uppercase
import Baste.BotUpdates
import Baste.AdminBot
import Baste.AdminAccess
import Baste.ShopBot
import Baste.ResellerOrders
import Baste.ResellerCatalog
import Baste.ResellerPanel
import Baste.CustomerBot
import Baste.ShopRuns
import Baste.StaffIsolation
import Baste.InterruptedPrograms
import Baste.InterruptedApprovals
import Baste.PendingCap
import Baste.TestOrders
import Baste.AutoBlacklist
import Baste.BotManager
import Baste.MigrationScripts
import Baste.ShippedMigrations
import Baste.MigratedSchema
import Baste.BotRouters
import Baste.BotFailures
import Baste.HalfEvenRounding
import Baste.DiscountedPrices
import Baste.SequentialTestOrders
import Baste.ChargeUploads
import Baste.BulkPurchases
import Baste.SinglePurchases
import Baste.DiscountCommands
import Baste.DiscountLimits
import Baste.DiscountedSubmissions
import Baste.DatabaseFrames
import Baste.ServiceFootprints
import Baste.BotFootprints
import Baste.PanelFootprints
import Baste.CustomerFootprints
import Baste.CatalogFootprints
import Baste.ShopFootprints
import Baste.ShopMoves
import Baste.CatalogDeletions
import Baste.CatalogNames
import Baste.SoldCodes
import Baste.DeletionRaces
import Baste.PricingSteps
import Baste.PriceWarnings
import Baste.OrderOrigins
import Baste.PhoneNumbers
import Baste.BackupShapes
import Baste.Referrals
import Baste.PointRuns
import Baste.ConcurrentLookups
import Baste.BrowsingButtons
import Baste.SalesReports
import Baste.StrangerFrames
import Baste.NumericRanges
import Baste.NumericQuestions
import Baste.AdminNumbers
import Baste.ShopNumbers
import Baste.TypedNumbers
import Baste.CatalogFolders
import Baste.CatalogShelves
import Baste.CatalogSteps
import Baste.BrowsingSteps
import Baste.PurchaseDebits
import Baste.OfferedPackages
import Baste.OfferedSales
import Baste.TextRoutes
import Baste.CallbackFields
import Baste.Keyboards
import Baste.ShopCommands
import Baste.ShopButtons
import Baste.ShopKeyboards
import Baste.AdminButtons
import Baste.AdminKeyboards
import Baste.RowRetention
import Baste.RecordHistory
import Baste.BotDeeds
import Baste.ShopDeeds
import Baste.AdminDeeds
import Baste.BotRecords
import Baste.Registrations
import Baste.Dialogues
import Baste.AdminDialogue
import Baste.ShopDialogue
import Baste.BotDialogues
import Baste.OwnRecords
import Baste.OrderParties
import Baste.OwnScripts
import Baste.OwnHandlers
import Baste.CustomerIsolation
import Baste.Bans
import Baste.OrderPackages
import Baste.ReportedCommissions
import Baste.GroupedTotals
import Baste.CustomerStats
