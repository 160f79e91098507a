import StoreSaas.Schema.UuidInput
import StoreSaas.Services.AdminService
import StoreSaas.Services.Audit

/-! # The audited routes

The routes marked `@Audited(...)`.  `ProductsService` works in the request's transaction;
the repositories of the other services commit by themselves.  `AuditInterceptor` stands
inside `RlsContextInterceptor`, so its row is committed before the request's transaction is.
-/

namespace StoreSaas

/-- What the handler of an audited route is called with; `storeId` is the user's. -/
inductive AuditedCall where
  | createProduct (storeId : Uuid) (dto : CreateProductDto)
  | updateProduct (storeId : Uuid) (id : RouteId) (body : PatchProductBody)
  | removeProduct (storeId : Uuid) (id : RouteId)
  | updateMine (storeId : Uuid) (dto : UpdateStoreDto)
  | inviteStaff (storeId : Uuid) (dto : InviteStaffDto)
  | updateStaff (storeId : Uuid) (staffId : RouteId) (dto : UpdateStaffDto)
  | removeStaff (storeId : Uuid) (staffId : RouteId)
  | setSuspended (id : RouteId) (suspended : Bool)

namespace AuditedCall

/-- The argument of `@Audited(...)`. -/
def action : AuditedCall → String
  | .createProduct _ _ => "PRODUCT_CREATED"
  | .updateProduct _ _ _ => "PRODUCT_UPDATED"
  | .removeProduct _ _ => "PRODUCT_DELETED"
  | .updateMine _ _ => "STORE_SETTINGS_UPDATED"
  | .inviteStaff _ _ => "STAFF_INVITED"
  | .updateStaff _ _ _ => "STAFF_UPDATED"
  | .removeStaff _ _ => "STAFF_REMOVED"
  | .setSuspended _ _ => "STORE_SUSPENSION_CHANGED"

/-- The service reads its repository from the request's transaction. -/
def isTransactional : AuditedCall → Bool
  | .createProduct _ _ | .updateProduct _ _ _ | .removeProduct _ _ => true
  | .updateMine _ _ | .inviteStaff _ _ | .updateStaff _ _ _ | .removeStaff _ _ | .setSuspended _ _ => false

/-- The argument of `@Roles(...)`. -/
def roles : AuditedCall → List Role
  | .createProduct _ _ | .updateProduct _ _ _ | .removeProduct _ _ => [.storeOwner, .staff]
  | .updateMine _ _ | .inviteStaff _ _ | .updateStaff _ _ _ | .removeStaff _ _ => [.storeOwner]
  | .setSuspended _ _ => [.superAdmin]

/-- What the controller passes for `user.storeId`. -/
def storeId : AuditedCall → Option Uuid
  | .createProduct storeId _ | .updateProduct storeId _ _ | .removeProduct storeId _ | .updateMine storeId _
  | .inviteStaff storeId _ | .updateStaff storeId _ _ | .removeStaff storeId _ => some storeId
  | .setSuspended _ _ => none

/-- What the controller passes for `@Param('id')`, on the routes that have one. -/
def routeId : AuditedCall → Option RouteId
  | .updateProduct _ id _ | .removeProduct _ id | .updateStaff _ id _ | .removeStaff _ id | .setSuspended id _ => some id
  | .createProduct _ _ | .updateMine _ _ | .inviteStaff _ _ => none

section

variable (crypto : Crypto) (salt : Bytes) (env : Environment)

/-- What the service does, down to the `id` of what it returns. -/
def body : AuditedCall → Tx (Option Uuid)
  | .createProduct storeId dto => do return some (← ProductsService.create env storeId dto).id
  | .updateProduct storeId id body => do return some (← ProductsController.update env storeId id body).id
  | .removeProduct storeId id => do
    ProductsService.remove storeId id
    return none
  | .updateMine storeId dto => do return some (← StoresService.updateMine storeId dto).id
  | .inviteStaff storeId dto => do return some (← StoresService.inviteStaff crypto salt env storeId dto).id
  | .updateStaff storeId staffId dto => do
    return some (← StoresService.updateStaff crypto salt storeId staffId dto).id
  | .removeStaff storeId staffId => do
    StoresService.removeStaff storeId staffId
    return none
  | .setSuspended id suspended => do return some (← AdminService.setSuspended id suspended).id

def handler (call : AuditedCall) : Handler (Option Uuid) :=
  if call.isTransactional then (call.body crypto salt env).inTransaction else (call.body crypto salt env).autocommit

end

end AuditedCall

/-- A request to an audited route; `action` is the route's, and `call` what `ValidationPipe` makes of
    the body and of the parameters. -/
structure AuditedHttpRequest where
  env : Environment
  salt : Bytes
  user : AuthenticatedUser
  action : String
  paramId : Option String
  body : Option Json
  call : Except ApiError AuditedCall

/-- The guards have let the request through to this call, with the user's store and the route's `:id`. -/
structure AuditedHttpRequest.Routed (request : AuditedHttpRequest) (call : AuditedCall) : Prop where
  action : request.action = call.action
  role : request.user.role ∈ call.roles
  storeId : request.user.storeId = call.storeId
  param : request.paramId.map Uuid.ofText = call.routeId

namespace AuditedHttpRequest

variable (crypto : Crypto) (request : AuditedHttpRequest)

/-- What the interceptor reads of the request. -/
def audited : AuditedRequest := ⟨some request.action, some request.user, request.paramId, request.body⟩

/-- The pipe runs inside the interceptors: what it rejects is an error of the handler. -/
def handler : Handler (Option Uuid) :=
  match request.call with
  | .ok call => call.handler crypto request.salt request.env
  | .error error => .throw error

def program : Handler (Option Uuid) :=
  RlsContextInterceptor.intercept request.user.storeId
    (AuditInterceptor.intercept request.env request.audited (Option.map Uuid.text) (request.handler crypto))

end AuditedHttpRequest

end StoreSaas
