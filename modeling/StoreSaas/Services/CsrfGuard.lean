import StoreSaas.Library.Utf16
import StoreSaas.Services.Guards

/-! # Cookies, the CSRF guard and the two strategies

Cookies and headers are what `cookie-parser` and Node make of them: a cookie is a string, or
the value of a JSON cookie, which then counts as true; a header that is repeated is an array.
-/

namespace StoreSaas

open Utf16 (Text)

inductive CookieValue where
  | text (value : Text)
  /-- A number, `true`, an array or an object out of a `j:` cookie. -/
  | json
  deriving DecidableEq

inductive HeaderValue where
  | text (value : Text)
  | list (values : List Text)
  deriving DecidableEq

/-- What the guards read of a request; `none` is `undefined`. -/
structure HttpRequest where
  method : String
  cookies : String → Option CookieValue
  headers : String → Option HeaderValue

/-- `Boolean(value)` -/
def CookieValue.truthy : Option CookieValue → Bool
  | none => false
  | some (.text value) => value ≠ []
  | some .json => true

inductive GuardError where
  | http (error : ApiError)
  /-- The `RangeError` of `timingSafeEqual`. -/
  | rangeError
  | tooManyRequests
  deriving DecidableEq

def timingSafeEqual (left right : ByteArray) : Except GuardError Bool :=
  if left.size ≠ right.size then .error .rangeError else .ok (left.data = right.data)

/-! ## `CsrfGuard` -/

namespace CsrfGuard

def SAFE_METHODS : List String := ["GET", "HEAD", "OPTIONS"]
def CSRF_COOKIE_NAME : String := "csrf_token"
def CSRF_HEADER_NAME : String := "x-csrf-token"

def usingCookieAuth (req : HttpRequest) : Bool := CookieValue.truthy (req.cookies "access_token")

def invalid : GuardError := .http (.forbidden "Missing or invalid CSRF token")

def canActivate (isPublic : Bool) (req : HttpRequest) : Except GuardError Bool :=
  if isPublic then .ok true
  else if SAFE_METHODS.contains req.method then .ok true
  else if !usingCookieAuth req then .ok true
  else
    match req.cookies CSRF_COOKIE_NAME, req.headers CSRF_HEADER_NAME with
    | some (.text cookieToken), some (.text headerToken) =>
      if cookieToken.length = 0 ∨ cookieToken.length ≠ headerToken.length then .error invalid
      else
        match timingSafeEqual (Utf16.utf8 cookieToken) (Utf16.utf8 headerToken) with
        | .error error => .error error
        | .ok same => if !same then .error invalid else .ok true
    | _, _ => .error invalid

end CsrfGuard

/-! ## The strategies -/

section

variable (fromAuthHeaderAsBearerToken : HttpRequest → Option Text)

/-- The cookie of that name if it is a non-empty string, and the header otherwise. -/
def extractToken (cookie : String) (req : HttpRequest) : Option Text :=
  match req.cookies cookie with
  | some (.text (unit :: units)) => some (unit :: units)
  | _ => fromAuthHeaderAsBearerToken req

def extractAccessToken : HttpRequest → Option Text := extractToken fromAuthHeaderAsBearerToken "access_token"
def extractRefreshToken : HttpRequest → Option Text := extractToken fromAuthHeaderAsBearerToken "refresh_token"

end

/-! ## The guards of a route -/

/-- A route with its decorators.  No public route asks for a role, and `JwtRefreshGuard` stands on
    `POST /auth/refresh`, which is public. -/
structure HttpRoute extends Route where
  usesRefreshGuard : Bool
  roles_of_isPublic : isPublic = true → requiredRoles = none
  isPublic_of_refresh : usesRefreshGuard = true → isPublic = true

/-- What the guards ask others for. -/
structure GuardEnvironment where
  fromAuthHeaderAsBearerToken : HttpRequest → Option Text
  verifyAccess : Text → Except ApiError JwtPayload
  verifyRefresh : Text → Except ApiError JwtPayload
  isSuspended : Bool
  isThrottled : Bool

namespace GuardEnvironment

variable (env : GuardEnvironment)

def unauthorized : ApiError := .unauthorized "Unauthorized"

/-- The `jwt-access` strategy. -/
def access (req : HttpRequest) : Except ApiError AuthenticatedUser :=
  match extractAccessToken env.fromAuthHeaderAsBearerToken req with
  | none => .error unauthorized
  | some token => (env.verifyAccess token).map JwtAccessStrategy.validate

/-- The `jwt-refresh` strategy. -/
def refresh (req : HttpRequest) : Except ApiError JwtPayload :=
  match extractRefreshToken env.fromAuthHeaderAsBearerToken req with
  | none => .error unauthorized
  | some token => env.verifyRefresh token

/-- All guards in front of the handler, in their order; it runs if none of them throws. -/
def admits (route : HttpRoute) (req : HttpRequest) : Except GuardError Unit := do
  let user ← (JwtAuthGuard.canActivate route.toRoute (env.access req)).mapError .http
  if !(← CsrfGuard.canActivate route.isPublic req) then .error (.http (.forbidden "Forbidden resource"))
  (RolesGuard.canActivate route.toRoute user).mapError .http
  if env.isSuspended then .error (.http (.unauthorized "This store has been suspended. Contact support."))
  if env.isThrottled then .error .tooManyRequests
  if route.usesRefreshGuard then
    let _ ← (env.refresh req).mapError .http

end GuardEnvironment

/-- `POST /auth/refresh` -/
def AuthController.refreshRoute : HttpRoute where
  toRoute := publicRoute
  usesRefreshGuard := true
  roles_of_isPublic _ := rfl
  isPublic_of_refresh _ := rfl

end StoreSaas
