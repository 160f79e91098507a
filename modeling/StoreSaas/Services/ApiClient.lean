import StoreSaas.Library.SingleFlight
import StoreSaas.Services.AuthCookies

/-! # `api-client.ts` of the web client

One page, any number of calls of `apiFetch`, and the variable `refreshPromise` that they
share.  A call runs from one `await` to the next without an interruption, so an event is
the answer to a request or the next stretch of one call; the order of the
events is that of the network and of the event loop.
-/

namespace StoreSaas.ApiClient

/-! ## What is sent and answered -/

/-- What `res.json()` makes of a body, or `undefined`. -/
inductive Data where
  | undefined
  | null
  | value (json : String)
  deriving DecidableEq

structure Response where
  status : Nat
  statusText : String
  contentType : Option String
  /-- `none` where `res.json()` throws. -/
  json : Option Data
  deriving DecidableEq

def Response.ok (res : Response) : Bool := 200 ≤ res.status ∧ res.status ≤ 299

inductive ErrorBody where
  | received (data : Data)
  | made (statusCode : Nat) (message error timestamp path : String)
  deriving DecidableEq

inductive ClientError where
  | apiError (status : Nat) (body : ErrorBody)
  /-- `fetch` is rejected. -/
  | network
  /-- Of `decodeURIComponent`. -/
  | uriError
  /-- Of `JSON.stringify`. -/
  | typeError
  /-- Of `res.json()`. -/
  | syntaxError
  deriving DecidableEq

inductive RequestBody where
  | undefined
  | formData (form : String)
  /-- With the text that `JSON.stringify` makes of it, if any. -/
  | value (json : Option String)
  deriving DecidableEq

structure ApiFetchOptions where
  method : Option String := none
  headers : List (String × String) := []
  body : RequestBody := .undefined
  /-- `undefined` counts as false. -/
  skipAuthRetry : Bool := false
  deriving DecidableEq

/-- What `fetch` gets.  Of two headers of one name the later one counts. -/
structure Request where
  path : String
  method : Option String
  headers : List (String × String)
  body : Option String
  deriving DecidableEq

/-! ## `getCsrfToken` -/

def hexDigit (letter : Char) : Option Nat :=
  if '0' ≤ letter ∧ letter ≤ '9' then some (letter.toNat - '0'.toNat)
  else if 'a' ≤ letter ∧ letter ≤ 'f' then some (letter.toNat - 'a'.toNat + 10)
  else if 'A' ≤ letter ∧ letter ≤ 'F' then some (letter.toNat - 'A'.toNat + 10)
  else none

/-- The octets of a text in which `%XX` stands for one of them. -/
def octets : List Char → Option (List UInt8)
  | [] => some []
  | '%' :: high :: low :: rest => do
    let octet := UInt8.ofNat (16 * (← hexDigit high) + (← hexDigit low))
    return octet :: (← octets rest)
  | letter :: rest => do
    if letter = '%' then none
    else return String.utf8EncodeChar letter ++ (← octets rest)

def decodeURIComponent (text : List Char) : Except ClientError String :=
  match (octets text).bind fun decoded => String.fromUTF8? ⟨decoded.toArray⟩ with
  | some decoded => .ok decoded
  | none => .error .uriError

/-- `(?:^|;\s*)csrf_token=([^;]+)`: the first part between semicolons that has the name and a value. -/
def matchCsrfToken (cookie : String) : Option (List Char) :=
  let parts := match cookie.toList.splitOn ';' with
    | [] => []
    | first :: rest => first :: rest.map (List.dropWhile isJsSpace)
  let values := parts.filterMap fun part =>
    if "csrf_token=".toList.isPrefixOf part then some (part.drop "csrf_token=".length) else none
  values.find? fun value => value ≠ []

/-- `cookie` is `document.cookie`, and `none` where there is no document. -/
def getCsrfToken (cookie : Option String) : Except ClientError (Option String) :=
  match cookie.bind matchCsrfToken with
  | none => .ok none
  | some value => (decodeURIComponent value).map some

def MUTATING_METHODS : List String := ["POST", "PUT", "PATCH", "DELETE"]

def csrfHeader (csrfToken : Option String) : List (String × String) :=
  (csrfToken.map fun token => ("X-CSRF-Token", token)).toList

/-! ## A call -/

inductive Outcome where
  | returned (data : Data)
  | thrown (error : ClientError)
  deriving DecidableEq

/-- The `await` at which a call stands; an answer of `none` is a rejected `fetch`. -/
inductive CallState where
  | fetching
  | fetched (res : Option Response)
  | awaitingRefresh (res : Response) (promise : Nat)
  | fetchingAgain
  | fetchedAgain (res : Option Response)
  | settled (outcome : Outcome)
  deriving DecidableEq

structure ApiCall where
  path : String
  options : ApiFetchOptions
  state : CallState
  deriving DecidableEq

def RequestBody.isFormData : RequestBody → Bool
  | formData _ => true
  | _ => false

def RequestBody.text : RequestBody → Except ClientError (Option String)
  | undefined => .ok none
  | formData form => .ok (some form)
  | value (some json) => .ok (some json)
  | value none => .error .typeError

/-- `doFetch` up to its `fetch`. -/
def ApiCall.request (call : ApiCall) (cookie : Option String) : Except ClientError Request := do
  let method := String.ofList ((call.options.method.getD "GET").toList.map Char.toUpper)
  let csrfToken ← if MUTATING_METHODS.contains method then getCsrfToken cookie else .ok none
  let contentType := if call.options.body.isFormData then [] else [("Content-Type", "application/json")]
  return {
    path := call.path
    method := call.options.method
    headers := contentType ++ csrfHeader csrfToken ++ call.options.headers
    body := ← call.options.body.text }

/-- `data ?? { … }` -/
def errorBody (res : Response) (path now : String) : Data → ErrorBody
  | .undefined | .null => .made res.status res.statusText "Error" now path
  | data => .received data

/-- `apiFetch` after its last request. -/
def ApiCall.finish (call : ApiCall) (res : Response) (now : String) : Outcome :=
  if res.status = 204 then .returned .undefined
  else
    let isJson := "application/json".toList <:+: (res.contentType.getD "").toList
    match if isJson then res.json else some .undefined with
    | none => .thrown .syntaxError
    | some data => if res.ok then .returned data else .thrown (.apiError res.status (errorBody res call.path now data))

/-! ## The page -/

inductive Sent where
  | own (call : Nat) (request : Request)
  | refresh (promise : Nat) (request : Request)
  deriving DecidableEq

structure Page where
  cookie : Option String
  calls : List ApiCall
  /-- `refreshPromise`, and all the promises it has held. -/
  refreshing : SharedFlight Bool
  /-- The requests in the order in which they were sent. -/
  wire : List Sent
  deriving DecidableEq

namespace Page

/-- The module has just been loaded. -/
def opened (cookie : Option String) : Page := ⟨cookie, [], .none, []⟩

def refreshPromise (page : Page) : Option Nat := page.refreshing.current

/-- The next call of `fetch` to `/auth/refresh`. -/
def refreshRequest (page : Page) : Except ClientError Request := do
  return {
    path := "/auth/refresh"
    method := some "POST"
    headers := csrfHeader (← getCsrfToken page.cookie)
    body := none }

/-- The inner function of `refreshAccessToken` up to its `await`; what it throws, it catches. -/
def startRefresh (page : Page) : Flight Bool × List Sent :=
  match page.refreshRequest with
  | .ok request => (.outstanding, [.refresh page.refreshing.flights.length request])
  | .error _ => (.answered false, [])

/-- With the promise that it returns. -/
def refreshAccessToken (page : Page) : Page × Nat :=
  let joined := page.refreshing.join page.startRefresh.1
  ({ page with
      refreshing := joined.1
      wire := page.wire ++ if page.refreshPromise.isNone then page.startRefresh.2 else [] }, joined.2)

def setState (id : Nat) (call : ApiCall) (state : CallState) (page : Page) : Page :=
  { page with calls := page.calls.set id { call with state } }

/-- `doFetch`, after which the call is in `state` unless it throws. -/
def doFetch (id : Nat) (call : ApiCall) (state : CallState) (page : Page) : Page :=
  match call.request page.cookie with
  | .ok request => { page.setState id call state with wire := page.wire ++ [.own id request] }
  | .error error => page.setState id call (.settled (.thrown error))

/-- A new call up to its first `await`. -/
def apiFetch (path : String) (options : ApiFetchOptions) (page : Page) : Page :=
  let call : ApiCall := ⟨path, options, .fetching⟩
  { page with calls := page.calls ++ [call] }.doFetch page.calls.length call .fetching

/-- A call from one `await` to the next, if what it waits for is there. -/
def resume (id : Nat) (call : ApiCall) (now : String) (page : Page) : Option Page :=
  match call.state with
  | .fetched none | .fetchedAgain none => some (page.setState id call (.settled (.thrown .network)))
  | .fetched (some res) =>
    if res.status = 401 ∧ !call.options.skipAuthRetry then
      some (page.refreshAccessToken.1.setState id call (.awaitingRefresh res page.refreshAccessToken.2))
    else some (page.setState id call (.settled (call.finish res now)))
  | .awaitingRefresh res promise =>
    match page.refreshing.flights[promise]? with
    | some (.landed refreshed) =>
      some <| if refreshed then page.doFetch id call .fetchingAgain
        else page.setState id call (.settled (call.finish res now))
    | _ => none
  | .fetchedAgain (some res) => some (page.setState id call (.settled (call.finish res now)))
  | .fetching | .fetchingAgain | .settled _ => none

/-- The answer to the request of a call that has one under way. -/
def answer (id : Nat) (call : ApiCall) (res : Option Response) (page : Page) : Option Page :=
  match call.state with
  | .fetching => some (page.setState id call (.fetched res))
  | .fetchingAgain => some (page.setState id call (.fetchedAgain res))
  | _ => none

end Page

inductive Event where
  /-- The cookies change, by an answer or otherwise. -/
  | setCookie (cookie : Option String)
  | apiFetch (path : String) (options : ApiFetchOptions)
  | answer (call : Nat) (res : Option Response)
  | resume (call : Nat) (now : String)
  | answerRefresh (promise : Nat) (res : Option Response)
  /-- The inner function returns and `finally` clears `refreshPromise`, before anything else is run. -/
  | settleRefresh (promise : Nat)
  deriving DecidableEq

/-- The page after an event, and `none` if it cannot happen now. -/
def Page.step (page : Page) : Event → Option Page
  | .setCookie cookie => some { page with cookie }
  | .apiFetch path options => some (page.apiFetch path options)
  | .answer id res => page.calls[id]?.bind fun call => page.answer id call res
  | .resume id now => page.calls[id]?.bind fun call => page.resume id call now
  | .answerRefresh promise res =>
    (page.refreshing.answer promise (res.any Response.ok)).map fun refreshing => { page with refreshing }
  | .settleRefresh promise => (page.refreshing.land promise).map fun refreshing => { page with refreshing }

end StoreSaas.ApiClient
