import StoreSaas.Library.ConnectionPool
import StoreSaas.Library.RowSecurity
import StoreSaas.Services.AuditedRoutes
import StoreSaas.Services.AuthCookies
import StoreSaas.Services.Calls

/-! # Requests on the application's connections

A request passes the guards and then `RlsContextInterceptor`, which opens the request's
transaction and sets `app.current_store_id` in it.  `txHost.tx` is that transaction; the
repositories that are injected take other connections.
-/

namespace StoreSaas

/-- `MailQueueService` needs no connection, and `set_config` sets the store of a transaction. -/
def pooling : Pooling statements Uuid where
  connects
    | .enqueueMail _ => false
    | .setCurrentStore _ | .product _ | .category _ | .order _ | .outbox _ | .user _ | .billing _ | .idempotency _
    | .store _ | .audit _ => true
  sets
    | .setCurrentStore storeId => some storeId
    | .enqueueMail _ | .product _ | .category _ | .order _ | .outbox _ | .user _ | .billing _ | .idempotency _
    | .store _ | .audit _ => none

/-- Requests of the application and the connections they share. -/
abbrev AppPool (ι κ α : Type) : Type := Pooled ι κ Uuid Database RowKey DbWrite statements ApiError α

/-- The statements of `ProductsService`, `CategoriesService` and `OrdersService` on their own tables. -/
def Statement.isTenant : Statement → Bool
  | .product _ | .category _ | .order _ => true
  | .setCurrentStore _ | .enqueueMail _ | .outbox _ | .user _ | .billing _ | .idempotency _ | .store _
  | .audit _ => false

def RequestOp.isTenant : RequestOp statements → Bool
  | .query op | .auto op => op.isTenant
  | .begin | .commit | .rollback => false

/-- All statements of the three services: their own tables, and the messages of `OutboxService`. -/
def Statement.isCatalogue : Statement → Bool
  | .product _ | .category _ | .order _ | .outbox _ => true
  | .setCurrentStore _ | .enqueueMail _ | .user _ | .billing _ | .idempotency _ | .store _ | .audit _ => false

/-- The statements on the tables that have no policy. -/
def Statement.isShared : Statement → Bool
  | .outbox _ | .user _ | .billing _ | .idempotency _ | .store _ | .audit _ | .enqueueMail _ => true
  | .setCurrentStore _ | .product _ | .category _ | .order _ => false

/-- What a handler inside the interceptor does: statements through `txHost.tx`, which leave the setting alone, and
    statements through injected repositories, of which no tenant table has one. -/
def RequestOp.isInside : RequestOp statements → Bool
  | .query op => (pooling.sets op).isNone
  | .auto op => op.isShared
  | .begin | .commit | .rollback => false

/-- The protocol of a request without a store: it may use transactions of its own, and sets nothing. -/
abbrev unscoped : Protocol statements ApiError SettingPhase :=
  settingProtocol pooling none (fun _ => True) fun _ => False

structure AppRequest (α : Type) where
  user : Option AuthenticatedUser
  handler : Handler α
  /-- The handler may use repositories that are not the transaction's. -/
  injects : Bool
  inside : (user.bind AuthenticatedUser.storeId).isSome = true →
    handler.Only fun op => RequestOp.isInside op = true ∧ (RequestOp.isAuto op = true → injects = true)
  outside : user.bind AuthenticatedUser.storeId = none →
    handler.Obeys unscoped (fun _ _ => True) unscoped.initial

namespace AppRequest

variable {α : Type}

def storeId (request : AppRequest α) : Option Uuid := request.user.bind AuthenticatedUser.storeId

def program (request : AppRequest α) : Handler α :=
  (StoreSuspensionGuard.canActivate request.user).autocommit >>= fun _ =>
    RlsContextInterceptor.intercept request.storeId request.handler

end AppRequest

/-! ## Routes -/

/-- The routes of a user with a store. -/
inductive StoreRoute where
  | catalogue (env : Environment) (call : Call)
  | createOrder (env : Environment) (clientKey : Option String) (dto : CreateOrderDto)
  | createCheckoutSession (provider : PaymentProvider) (clientKey : Option String) (dto : CreateCheckoutSessionDto)

/-- What the route runs inside `RlsContextInterceptor`, without its answer. -/
def StoreRoute.handler (storeId : Uuid) : StoreRoute → Handler Unit
  | .catalogue env call => (call.handler env storeId).inTransaction >>= fun _ => return ()
  | .createOrder env clientKey dto =>
    IdempotencyInterceptor.intercept (some storeId) "/orders" clientKey 201
      (OrdersService.create env storeId dto >>= fun order => return .order order).inTransaction >>= fun _ => return ()
  | .createCheckoutSession provider clientKey dto =>
    IdempotencyInterceptor.intercept (some storeId) "/billing/checkout-session" clientKey 201
      (BillingService.createCheckoutSession provider storeId dto >>= fun url =>
        return .checkoutSession url).autocommit >>= fun _ => return ()

/-- A request that has passed the guards on the token: of a user with a store, on an audited route, or on a
    public one. -/
inductive AppRoute where
  | store (user : AuthenticatedUser) (storeId : Uuid) (isStore : user.storeId = some storeId) (route : StoreRoute)
  | audited (request : AuditedHttpRequest) (routed : ∀ call, request.call = .ok call → request.Routed call)
  | tokens (config : AuthConfig) (env : AuthEnvironment) (route : TokenRoute)
  | webhook (delivered : StripeEvent)

namespace AppRoute

def user : AppRoute → Option AuthenticatedUser
  | .store user _ _ _ => some user
  | .audited request _ => some request.user
  | .tokens _ _ _ | .webhook _ => none

/-- The audit trail, the idempotency records and the other services have repositories of their own. -/
def injects : AppRoute → Bool
  | .store _ _ _ (.catalogue _ _) => false
  | .store _ _ _ (.createOrder _ clientKey _) => clientKey.any (· ≠ "")
  | .store _ _ _ (.createCheckoutSession _ _ _) | .audited _ _ | .tokens _ _ _ | .webhook _ => true

/-- The request takes other connections while it holds that of its transaction, which only a user with a store has. -/
def takesSecond (route : AppRoute) : Bool := route.injects && (route.user.bind AuthenticatedUser.storeId).isSome

def handler (crypto : Crypto) : AppRoute → Handler Unit
  | .store _ storeId _ route => route.handler storeId
  | .audited request _ =>
    AuditInterceptor.intercept request.env request.audited (Option.map Uuid.text) (request.handler crypto) >>= fun _ =>
      return ()
  | .tokens config env route => AuthController.tokens crypto config env route >>= fun _ => return ()
  | .webhook delivered => (BillingService.handleWebhook delivered).autocommit

end AppRoute

/-! ## The policies of the tenant tables -/

/-- `store_id = current_setting('app.current_store_id', true)::uuid`, for reading and for writing. -/
def tenantIsolation {Row : Type} (store : Row → Uuid) : RowPolicy Uuid Row where
  admits current row := store row = current

end StoreSaas
