import StoreSaas.Library.Transition
import StoreSaas.Library.Program
import StoreSaas.Library.Table
import StoreSaas.Library.ReadCommitted
import StoreSaas.Library.Sequential
import StoreSaas.Library.Unwinding
import StoreSaas.Library.Outages
import StoreSaas.Library.RelyGuarantee
import StoreSaas.Library.Autocommit
import StoreSaas.Library.Transactions
import StoreSaas.Library.AtomicCommit
import StoreSaas.Library.Footprints
import StoreSaas.Library.Base64Url
import StoreSaas.Library.Paths
import StoreSaas.Library.Utf16
import StoreSaas.Library.Paging
import StoreSaas.Library.Protocol
import StoreSaas.Library.ConnectionPool
import StoreSaas.Library.RowSecurity
import StoreSaas.Library.Slots
import StoreSaas.Library.RowInvariant
import StoreSaas.Library.Obligations
import StoreSaas.Library.LockOrder
import StoreSaas.Library.PendingWrites
import StoreSaas.Library.ForeignKeys
import StoreSaas.Library.UniqueEntries
import StoreSaas.Schema.Entities
import StoreSaas.Schema.Database
import StoreSaas.Schema.CatalogueStatements
import StoreSaas.Schema.OrderStatements
import StoreSaas.Schema.AccountStatements
import StoreSaas.Schema.StoreStatements
import StoreSaas.Schema.Statements
import StoreSaas.Services.CategoriesService
import StoreSaas.Services.ProductsService
import StoreSaas.Services.Uploads
import StoreSaas.Services.OrdersService
import StoreSaas.Services.Interceptors
import StoreSaas.Services.BillingService
import StoreSaas.Services.AuthService
import StoreSaas.Services.StoresService
import StoreSaas.Services.Guards
import StoreSaas.Services.CsrfGuard
import StoreSaas.Services.OutboxProcessor
import StoreSaas.Services.Registration
import StoreSaas.Services.AdminService
import StoreSaas.Services.Audit
import StoreSaas.Services.AuditedRoutes
import StoreSaas.Services.Calls
import StoreSaas.Services.AppRequests
import StoreSaas.Services.SecuredTables
import StoreSaas.Verified.References
import StoreSaas.Verified.StoreViews
import StoreSaas.Verified.OwnStatements
import StoreSaas.Verified.StockMoves
import StoreSaas.Verified.OrderMethods
import StoreSaas.Verified.StockConservation
import StoreSaas.Verified.ServiceStatements
import StoreSaas.Verified.RouteStatements
import StoreSaas.Verified.IntactOrder
import StoreSaas.Verified.StockTally
import StoreSaas.Verified.StockBodies
import StoreSaas.Verified.StockLedger
import StoreSaas.Verified.CancellationRace
import StoreSaas.Verified.RestockedOnce
import StoreSaas.Verified.AuthMethods
import StoreSaas.Verified.RefreshTokens
import StoreSaas.Verified.AdmissionGates
import StoreSaas.Verified.Revocation
import StoreSaas.Verified.ResetTokens
import StoreSaas.Verified.AccountRows
import StoreSaas.Verified.SeatLimit
import StoreSaas.Verified.ProductLimit
import StoreSaas.Verified.OutboxPolling
import StoreSaas.Verified.OutboxDraining
import StoreSaas.Verified.RefreshOnce
import StoreSaas.Verified.WrittenTables
import StoreSaas.Verified.OutboxDelivery
import StoreSaas.Verified.IdempotencyKeys
import StoreSaas.Verified.KeyLocks
import StoreSaas.Verified.KeyedOrders
import StoreSaas.Verified.FinishedRecords
import StoreSaas.Verified.OnePerKey
import StoreSaas.Verified.DeletedRows
import StoreSaas.Verified.PatchedColumns
import StoreSaas.Verified.OrderLines
import StoreSaas.Verified.ExactOrders
import StoreSaas.Verified.ShelfRows
import StoreSaas.Verified.OrderArithmetic
import StoreSaas.Verified.ProductLocks
import StoreSaas.Verified.ForeignKeys
import StoreSaas.Verified.HomeStores
import StoreSaas.Verified.TenantReferences
import StoreSaas.Verified.OwnCalls
import StoreSaas.Verified.Noninterference
import StoreSaas.Verified.TenantPolicies
import StoreSaas.Verified.ReturnedRows
import StoreSaas.Verified.AtomicOrders
import StoreSaas.Verified.OwnedRows
import StoreSaas.Verified.ConcurrentTenants
import StoreSaas.Verified.UniqueColumns
import StoreSaas.Verified.AccountFamilies
import StoreSaas.Verified.AccountsSound
import StoreSaas.Verified.AccountRuns
import StoreSaas.Verified.AuditSecrets
import StoreSaas.Verified.OwnEvents
import StoreSaas.Verified.AuditTrail
import StoreSaas.Verified.WebhookDeliveries
import StoreSaas.Verified.DeliveryOrder
import StoreSaas.Verified.TenantSettings
import StoreSaas.Verified.PoolWaits
import StoreSaas.Verified.ImageSignatures
import StoreSaas.Verified.StoredImages
import StoreSaas.Verified.CsrfTokens
import StoreSaas.Verified.ProductSearch
import StoreSaas.Verified.OrderDates
import StoreSaas.Verified.ListPages
import StoreSaas.Verified.CategoryChanges
import StoreSaas.Verified.FailedRegistrations
import StoreSaas.Verified.ResetRequests
import StoreSaas.Verified.PasswordChanges
import StoreSaas.Verified.CookiePaths
import StoreSaas.Verified.CookieLifetimes
