import StoreSaas.Services.Guards
import StoreSaas.Services.Interceptors

/-! # `AuditInterceptor` and `AuditLogService`

The interceptor waits for the handler and then inserts its row with a repository that is not
the transaction's: the row is committed by itself.
-/

namespace StoreSaas

/-- What the interceptor reads of a request. -/
structure AuditedRequest where
  /-- The argument of `@Audited(...)`. -/
  action : Option String
  user : Option AuthenticatedUser
  paramId : Option String
  body : Option Json

/-- `value ?? null` -/
def Json.orNull : Option Json → Option Json
  | none | some .null => none
  | some value => some value

namespace AuditInterceptor

/-- The row of a request whose handler answered with an `id`, or without one. -/
def entry (env : Environment) (request : AuditedRequest) (action : String) (user : AuthenticatedUser)
    (answerId : Option String) : AuditLog where
  id := env.newId 0
  actorUserId := user.id
  actorEmail := user.email
  actorRole := user.role
  storeId := user.storeId
  action := action
  targetId := request.paramId <|> answerId
  metadata := Json.orNull request.body
  createdAt := env.now

def intercept {α : Type} (env : Environment) (request : AuditedRequest) (answerId : α → Option String)
    (next : Handler α) : Handler α :=
  match request.action with
  | none => next
  | some action => do
    let body ← next
    match request.user with
    | none => return body
    | some user =>
      let _ ← (Tx.audit (.insert (entry env request action user (answerId body)))).autocommit
      return body

end AuditInterceptor

def AuditLogService.findForStore (rank : Uuid → Nat) (storeId : Uuid) (page limit : Option Nat) :
    Tx (Paginated AuditLog) := do
  let page := page.getD 1
  let limit := limit.getD 20
  let counted : List AuditLog × Nat ← Tx.audit (.getManyAndCount storeId page limit rank)
  return ⟨counted.1, buildPaginationMeta counted.2 page limit⟩

end StoreSaas
