import StoreSaas.Services.BillingService
import StoreSaas.Services.OrdersService

/-! # The interceptors around a handler, and `POST /orders`

`RlsContextInterceptor` is the outermost: it opens the transaction of the request.
`IdempotencyInterceptor` runs inside it, but its repository is not the transaction's:
its statements commit by themselves.
-/

namespace StoreSaas

/-- The work of one HTTP request. -/
abbrev Handler (α : Type) : Type := Request statements ApiError α

structure HttpAnswer where
  statusCode : Nat
  body : Option ResponseBody
  deriving DecidableEq

namespace RlsContextInterceptor

def intercept {α : Type} (storeId : Option Uuid) (next : Handler α) : Handler α :=
  match storeId with
  | none => next
  | some storeId =>
    Program.withTransaction ((Tx.setCurrentStore storeId).inTransaction >>= fun _ => next)

end RlsContextInterceptor

namespace IdempotencyInterceptor

def cacheKey (storeId : Option Uuid) (path clientKey : String) : String :=
  let tenant := (storeId.map Uuid.text).getD "anonymous"
  s!"{tenant}:{path}:{clientKey}"

def beingProcessed : ApiError :=
  .conflict "A request with this Idempotency-Key is already being processed"

/-- Insert the placeholder; a second request for the key loses to the primary key. -/
def reserve (cacheKey : String) : Handler Unit :=
  (Tx.idempotency (.insert ⟨cacheKey, 0, none⟩)).autocommit.tryCatch fun error =>
    if error = .uniqueViolation then .throw beingProcessed else .throw error

/-- `records.update(cacheKey, { statusCode, responseBody })`, then the body goes on. -/
def finish (cacheKey : String) (statusCode : Nat) (body : ResponseBody) : Handler HttpAnswer := do
  let _ ← (Tx.idempotency (.update cacheKey statusCode (some body))).autocommit
  return ⟨statusCode, some body⟩

/-- `records.delete(cacheKey)`, then the error goes on. -/
def release (cacheKey : String) (error : ApiError) : Handler HttpAnswer := do
  let _ ← (Tx.idempotency (.delete cacheKey)).autocommit
  Program.throw error

/-- A request with a client key on an `@Idempotent()` route. -/
def interceptKeyed (cacheKey : String) (statusCode : Nat) (next : Handler ResponseBody) : Handler HttpAnswer := do
  let existing : Option IdempotencyRecord ← (Tx.idempotency (.findOne cacheKey)).autocommit
  match existing with
  | some record =>
    if record.statusCode = 0 then Program.throw beingProcessed
    else return ⟨record.statusCode, record.responseBody⟩
  | none =>
    reserve cacheKey
    (next >>= finish cacheKey statusCode).tryCatch (release cacheKey)

def intercept (storeId : Option Uuid) (path : String) (clientKey : Option String) (statusCode : Nat)
    (next : Handler ResponseBody) : Handler HttpAnswer :=
  match clientKey with
  | none | some "" => next >>= fun body => return ⟨statusCode, some body⟩
  | some clientKey => interceptKeyed (cacheKey storeId path clientKey) statusCode next

end IdempotencyInterceptor

/-! ## Routes -/

/-- A route whose handler works in the request's transaction and nothing else. -/
def inRequest {α : Type} (storeId : Uuid) (handler : Tx α) : Handler α :=
  RlsContextInterceptor.intercept (some storeId) handler.inTransaction

/-- `POST /orders`; a created resource is answered with 201. -/
def OrdersController.create (env : Environment) (storeId : Uuid) (clientKey : Option String)
    (dto : CreateOrderDto) : Handler HttpAnswer :=
  RlsContextInterceptor.intercept (some storeId)
    (IdempotencyInterceptor.intercept (some storeId) "/orders" clientKey 201
      (OrdersService.create env storeId dto >>= fun order => return .order order).inTransaction)

/-- `POST /billing/checkout-session` -/
def BillingController.createCheckoutSession (provider : PaymentProvider) (storeId : Uuid) (clientKey : Option String)
    (dto : CreateCheckoutSessionDto) : Handler HttpAnswer :=
  RlsContextInterceptor.intercept (some storeId)
    (IdempotencyInterceptor.intercept (some storeId) "/billing/checkout-session" clientKey 201
      (BillingService.createCheckoutSession provider storeId dto >>= fun url => return .checkoutSession url).autocommit)

end StoreSaas
