import Mathlib.Data.List.DropRight
import StoreSaas.Library.Cookies
import StoreSaas.Library.Durations
import StoreSaas.Services.Registration

/-! # The cookies of a session

`cookie.util.ts` and what `AuthController` does with it.  `res.cookie` is Express's; which
cookies it can write at all is a parameter.  The attribute `SameSite` is the same for all
cookies and left out.
-/

namespace StoreSaas

open Durations (isDigit digitsValue)

/-! ## Durations -/

/-- White space and line terminators, as `trim` has them. -/
def isJsSpace (letter : Char) : Bool :=
  let code := letter.toNat
  (9 ≤ code && code ≤ 13) || code = 32 || code = 0xA0 || code = 0x1680 || (0x2000 ≤ code && code ≤ 0x200A) ||
    code = 0x2028 || code = 0x2029 || code = 0x202F || code = 0x205F || code = 0x3000 || code = 0xFEFF

def trim (text : List Char) : List Char := (text.dropWhile isJsSpace).rdropWhile isJsSpace

/-- The units of `parseDurationToMs`. -/
def unitMs (unit : Char) : Option Nat :=
  if unit = 's' then some 1000
  else if unit = 'm' then some (60 * 1000)
  else if unit = 'h' then some (60 * 60 * 1000)
  else if unit = 'd' then some (24 * 60 * 60 * 1000)
  else none

/-- What a controller's method can throw. -/
inductive RouteError where
  | api (error : ApiError)
  /-- An `Error` with this message. -/
  | error (message : String)
  /-- What Express throws at a cookie that it cannot write. -/
  | unwritableCookie
  deriving DecidableEq

def unrecognizedDuration (duration : String) : RouteError :=
  .error s!"Unrecognized duration format: \"{duration}\" (expected e.g. \"15m\", \"7d\")"

/-- The match of `^(\d+)(s|m|h|d)$`: the value of the digits and the unit in milliseconds. -/
def matchDuration (text : List Char) : Option (Nat × Nat) :=
  let digits := text.takeWhile isDigit
  if digits = [] then none
  else
    match text.dropWhile isDigit with
    | [unit] => (unitMs unit).map fun ms => (digitsValue digits, ms)
    | _ => none

def parseDurationToMs (duration : String) : Except RouteError Nat :=
  match matchDuration (trim duration.toList) with
  | some (value, unitMs) => .ok (value * unitMs)
  | none => .error (unrecognizedDuration duration)

/-! ## The response -/

/-- The options of `res.cookie`; `maxAge` is in milliseconds. -/
structure CookieOptions where
  httpOnly : Bool
  secure : Bool
  path : List Char
  maxAge : Nat

/-- What is used of Express. -/
structure Express where
  /-- A cookie with this `maxAge` can be written now: its expiry is a `Date`. -/
  writes : (now : Timestamp) → (maxAge : Nat) → Bool

inductive ResponseOp where
  | cookie (name : String) (value : Bytes) (options : CookieOptions)

abbrev responses : Signature := ⟨ResponseOp, fun _ => Unit⟩

abbrev Response : Type → Type := Program responses RouteError

/-- A date in a header has whole seconds. -/
def utcDate (date : Timestamp) : Timestamp := date / 1000 * 1000

/-- The header that `res.cookie` appends. -/
def CookieOptions.header (options : CookieOptions) (now : Timestamp) (name : String) (value : Bytes) :
    Cookies.SetCookie Bytes :=
  ⟨name, value, options.path, some (options.maxAge / 1000 : Nat), some (utcDate (now + options.maxAge)), options.secure,
    options.httpOnly⟩

def ResponseOp.execute (express : Express) (now : Timestamp) :
    (op : responses.Op) → List (Cookies.SetCookie Bytes) →
      Except RouteError (responses.Reply op) × List (Cookies.SetCookie Bytes)
  | .cookie name value options, headers =>
    if express.writes now options.maxAge then (.ok (), headers ++ [options.header now name value])
    else (.error .unwritableCookie, headers)

def res.cookie (name : String) (value : Bytes) (options : CookieOptions) : Response Unit :=
  Program.perform (S := responses) (ResponseOp.cookie name value options)

/-! ## `cookie.util.ts` -/

def ACCESS_TOKEN_COOKIE : String := "access_token"
def REFRESH_TOKEN_COOKIE : String := "refresh_token"
def CSRF_TOKEN_COOKIE : String := "csrf_token"

structure SetAuthCookiesParams where
  accessToken : Bytes
  refreshToken : Bytes
  accessExpiry : String
  refreshExpiry : String
  secure : Bool

/-- `csrfToken` is `randomBytes(32).toString('hex')`. -/
def setAuthCookies (csrfToken : Bytes) (params : SetAuthCookiesParams) : Response Bytes := do
  let accessMaxAge ← Program.ofExcept (parseDurationToMs params.accessExpiry)
  res.cookie ACCESS_TOKEN_COOKIE params.accessToken ⟨true, params.secure, ['/'], accessMaxAge⟩
  let refreshMaxAge ← Program.ofExcept (parseDurationToMs params.refreshExpiry)
  res.cookie REFRESH_TOKEN_COOKIE params.refreshToken ⟨true, params.secure, "/auth".toList, refreshMaxAge⟩
  let csrfMaxAge ← Program.ofExcept (parseDurationToMs params.refreshExpiry)
  res.cookie CSRF_TOKEN_COOKIE csrfToken ⟨false, params.secure, ['/'], csrfMaxAge⟩
  return csrfToken

/-- `res.clearCookie` appends an empty cookie that expires at `new Date(1)`. -/
def clearedHeader (name : String) (path : List Char) (httpOnly secure : Bool) : Cookies.SetCookie Bytes :=
  ⟨name, [], path, none, some (utcDate 1), secure, httpOnly⟩

def clearAuthCookies (secure : Bool) : List (Cookies.SetCookie Bytes) :=
  [clearedHeader ACCESS_TOKEN_COOKIE ['/'] true secure, clearedHeader REFRESH_TOKEN_COOKIE "/auth".toList true secure,
    clearedHeader CSRF_TOKEN_COOKIE ['/'] false secure]

/-- How the response is made, and with which headers. -/
def Response.runOn {α : Type} (express : Express) (now : Timestamp) (response : Response α) :
    Except RouteError α × List (Cookies.SetCookie Bytes) :=
  response.runWith (ResponseOp.execute express now) []

/-! ## `AuthController` -/

/-- The settings that the controller reads. -/
structure CookieConfig where
  jwtAccessExpiry : String
  jwtRefreshExpiry : String
  cookieSecure : Bool

/-- The routes that hand out tokens. -/
inductive TokenRoute where
  | register (newId : Nat → Uuid) (dto : RegisterDto)
  | login (dto : LoginDto)
  | refresh (token : SignedToken)

namespace AuthController

def applyTokens (config : CookieConfig) (csrfToken : Bytes) (tokens : TokenPair) : Response Unit := do
  let _ ← setAuthCookies csrfToken
    ⟨tokens.accessToken, tokens.refreshToken, config.jwtAccessExpiry, config.jwtRefreshExpiry, config.cookieSecure⟩
  return ()

/-- What the route asks of the service. -/
def tokens (crypto : Crypto) (config : AuthConfig) (env : AuthEnvironment) : TokenRoute → Handler TokenPair
  | .register newId dto => AuthService.register crypto config env newId dto
  | .login dto => (AuthService.login crypto config env dto).autocommit
  | .refresh token => (AuthController.refresh crypto config env token).autocommit

/-- The service first, then the cookies: what the caller gets, the database and the headers. -/
def respond (express : Express) (now : Timestamp) (config : CookieConfig) (csrfToken : Bytes) :
    Except ApiError TokenPair × Database → Except RouteError Unit × Database × List (Cookies.SetCookie Bytes)
  | (.error error, db) => (.error (.api error), db, [])
  | (.ok tokens, db) =>
    let applied := (applyTokens config csrfToken tokens).runOn express now
    (applied.1, db, applied.2)

end AuthController

end StoreSaas
