import StoreSaas.Services.AuthService

/-! # The guards in front of the routes

The guards of the application run before those of a route, and `JwtAuthGuard`, which
fills in the user, before the others.  `CsrfGuard` lets every public route pass and
`ThrottlerGuard` looks at neither users nor stores; both can only reject and are left
out.
-/

namespace StoreSaas

structure AuthenticatedUser where
  id : Uuid
  email : String
  role : Role
  storeId : Option Uuid
  deriving DecidableEq

def JwtAccessStrategy.validate (payload : JwtPayload) : AuthenticatedUser :=
  ⟨payload.sub, payload.email, payload.role, payload.storeId⟩

/-- What the decorators say of a route. -/
structure Route where
  isPublic : Bool
  requiredRoles : Option (List Role)
  deriving DecidableEq

/-- The user of the request, which stays `undefined` on a public route; `access` is what the
    `jwt-access` strategy makes of the request. -/
def JwtAuthGuard.canActivate (route : Route) (access : Except ApiError AuthenticatedUser) :
    Except ApiError (Option AuthenticatedUser) :=
  if route.isPublic then .ok none else access.map some

def RolesGuard.canActivate (route : Route) (user : Option AuthenticatedUser) : Except ApiError Unit :=
  match route.requiredRoles with
  | none | some [] => .ok ()
  | some requiredRoles =>
    if user.any fun user => requiredRoles.contains user.role then .ok () else .error (.forbidden "Forbidden resource")

def StoreSuspensionGuard.canActivate (user : Option AuthenticatedUser) : Tx Unit :=
  match user.bind AuthenticatedUser.storeId with
  | none => return ()
  | some storeId => do
    let store : Option Store ← Tx.outbox (.findStore storeId)
    if (store.map Store.isSuspended) = some true then
      Tx.raise (.unauthorized "This store has been suspended. Contact support.")

/-- The guards of the application, in the order of their registration. -/
def globalGuards (route : Route) (access : Except ApiError AuthenticatedUser) : Tx (Option AuthenticatedUser) := do
  let user ← Program.ofExcept (JwtAuthGuard.canActivate route access)
  let _ ← Program.ofExcept (RolesGuard.canActivate route user)
  StoreSuspensionGuard.canActivate user
  return user

namespace AuthController

/-- Both `POST /auth/login` and `POST /auth/refresh` are `@Public()`, with no `@Roles()`. -/
def publicRoute : Route := ⟨true, none⟩

variable (crypto : Crypto) (config : AuthConfig) (env : AuthEnvironment) (access : Except ApiError AuthenticatedUser)

def postLogin (dto : LoginDto) : Tx TokenPair := do
  let _ ← globalGuards publicRoute access
  AuthService.login crypto config env dto

def postRefresh (token : SignedToken) : Tx TokenPair := do
  let _ ← globalGuards publicRoute access
  AuthController.refresh crypto config env token

end AuthController

end StoreSaas
