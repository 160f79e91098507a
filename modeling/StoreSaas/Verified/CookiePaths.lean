import StoreSaas.Services.AuthCookies

/-! # The paths of the session's cookies

A browser that has stored the cookies of `setAuthCookies`, and a proxy that strips a path
prefix in front of the API.  The paths of the cookies are fixed, so the refresh token goes to
its endpoint exactly where the prefix leaves that below `/auth`.
-/

namespace StoreSaas

open Cookies (UriPath Jar SetCookie)

/-! ## The proxy -/

/-- The path under which the proxy exposes the API; the empty one is the direct setup. -/
structure PathPrefix where
  chars : List Char
  isPath : chars = [] ∨ chars.head? = some '/'

namespace PathPrefix

/-- The URL path that `apiFetch` makes of a path of the API. -/
def extend (base : PathPrefix) (route : UriPath) : UriPath where
  chars := base.chars ++ route.chars
  absolute := by
    obtain isEmpty | isRooted := base.isPath
    · rw [isEmpty, List.nil_append, route.absolute]
    · rw [List.head?_append, isRooted]
      rfl

/-- `handle_path`: what follows the prefix, if the path has it. -/
def handlePath (base : PathPrefix) (path : UriPath) : Option UriPath :=
  if base.chars.isPrefixOf path.chars then
    if absolute : (path.chars.drop base.chars.length).head? = some '/' then some ⟨_, absolute⟩ else none
  else none

/-- The proxy forwards to a route what the client sends to it. -/
theorem handlePath_eq_some_iff (base : PathPrefix) (path route : UriPath) :
    base.handlePath path = some route ↔ path = base.extend route := by
  obtain ⟨chars, absolute⟩ := path
  obtain ⟨routeChars, isRoute⟩ := route
  simp only [handlePath, extend, UriPath.mk.injEq, List.isPrefixOf_iff_prefix]
  constructor
  · intro forwards
    split at forwards
    next begins =>
      obtain ⟨rest, rfl⟩ := begins
      rw [List.drop_left] at forwards
      split at forwards
      next =>
        cases forwards
        rfl
      next => cases forwards
    next => cases forwards
  · rintro rfl
    rw [if_pos (List.prefix_append _ _), dif_pos (by rw [List.drop_left]; exact isRoute)]
    simp only [List.drop_left]

/-- The prefix leaves the routes of the API below `/auth`: it is empty, or is itself `/auth` or below. -/
def StaysBelowAuth (base : PathPrefix) : Prop :=
  base.chars = [] ∨ base.chars = "/auth".toList ∨ "/auth/".toList <+: base.chars

end PathPrefix

def refreshEndpoint : UriPath := ⟨"/auth/refresh".toList, rfl⟩

/-! ## The headers -/

/-- The headers of the three cookies. -/
def sessionHeaders (now : Timestamp) (csrfToken : Bytes) (params : SetAuthCookiesParams) (accessMaxAge refreshMaxAge : Nat) :
    List (SetCookie Bytes) :=
  [CookieOptions.header ⟨true, params.secure, ['/'], accessMaxAge⟩ now ACCESS_TOKEN_COOKIE params.accessToken,
    CookieOptions.header ⟨true, params.secure, "/auth".toList, refreshMaxAge⟩ now REFRESH_TOKEN_COOKIE params.refreshToken,
    CookieOptions.header ⟨false, params.secure, ['/'], refreshMaxAge⟩ now CSRF_TOKEN_COOKIE csrfToken]

theorem execute_cookie {express : Express} {now : Timestamp} {name : String} {value : Bytes} {options : CookieOptions}
    (writes : express.writes now options.maxAge = true) (headers : List (SetCookie Bytes)) :
    ResponseOp.execute express now (.cookie name value options) headers =
      (.ok (), headers ++ [options.header now name value]) := by
  rw [ResponseOp.execute, if_pos writes]

theorem execute_cookie_unwritable {express : Express} {now : Timestamp} {name : String} {value : Bytes}
    {options : CookieOptions} (fails : express.writes now options.maxAge = false) (headers : List (SetCookie Bytes)) :
    ResponseOp.execute express now (.cookie name value options) headers = (.error .unwritableCookie, headers) := by
  rw [ResponseOp.execute, if_neg (Bool.eq_false_iff.mp fails)]

/-- `setAuthCookies` goes well exactly if both expiries are durations whose cookies can be written. -/
theorem runOn_setAuthCookies_iff {express : Express} {now : Timestamp} {csrfToken value : Bytes}
    {params : SetAuthCookiesParams} {headers : List (SetCookie Bytes)} :
    (setAuthCookies csrfToken params).runOn express now = (.ok value, headers) ↔
      ∃ accessMaxAge refreshMaxAge, parseDurationToMs params.accessExpiry = .ok accessMaxAge ∧
        parseDurationToMs params.refreshExpiry = .ok refreshMaxAge ∧ express.writes now accessMaxAge = true ∧
        express.writes now refreshMaxAge = true ∧ value = csrfToken ∧
        headers = sessionHeaders now csrfToken params accessMaxAge refreshMaxAge := by
  unfold Response.runOn setAuthCookies res.cookie
  cases isAccess : parseDurationToMs params.accessExpiry with
  | error error =>
    rw [Program.ofExcept, Program.throw_bind, Program.runWith_throw]
    simp
  | ok accessMaxAge =>
    rw [Program.ofExcept, Program.done_bind, Program.runWith_perform_bind]
    cases writesAccess : express.writes now accessMaxAge with
    | false =>
      rw [execute_cookie_unwritable writesAccess]
      simp [writesAccess]
    | true =>
      rw [execute_cookie writesAccess]
      cases isRefresh : parseDurationToMs params.refreshExpiry with
      | error error =>
        rw [Program.ofExcept, Program.onOk_ok, Program.throw_bind, Program.runWith_throw]
        simp
      | ok refreshMaxAge =>
        rw [Program.ofExcept, Program.onOk_ok, Program.done_bind, Program.runWith_perform_bind]
        cases writesRefresh : express.writes now refreshMaxAge with
        | false =>
          rw [execute_cookie_unwritable writesRefresh]
          simp [writesRefresh]
        | true =>
          rw [execute_cookie writesRefresh, Program.onOk_ok, Program.done_bind, Program.runWith_perform_bind,
            execute_cookie writesRefresh]
          constructor
          · intro ended
            cases ended
            exact ⟨accessMaxAge, refreshMaxAge, rfl, rfl, writesAccess, writesRefresh, rfl, rfl⟩
          · rintro ⟨_, _, isSame, isAlso, -, -, rfl, rfl⟩
            cases isSame
            cases isAlso
            rfl

/-! ## The browser -/

/-- A browser that has stored the cookies of a response, at a later request to the same host. -/
structure BrowserSession where
  express : Express
  now : Timestamp
  csrfToken : Bytes
  params : SetAuthCookiesParams
  headers : List (SetCookie Bytes)
  isSet : (setAuthCookies csrfToken params).runOn express now = (.ok csrfToken, headers)
  /-- What was stored before. -/
  before : Jar Bytes
  later : Timestamp
  https : Bool
  /-- `COOKIE_SECURE` is set only behind HTTPS. -/
  secured : params.secure = true → https = true

namespace BrowserSession

variable (session : BrowserSession)

def jar : Jar Bytes := session.before.receiveAll session.now session.headers

/-- The cookies of the later request. -/
def sent (path : UriPath) : Jar Bytes := session.jar.sent session.later session.https path.chars

/-- A cookie with this expiry is still there: its whole seconds are not over. -/
def Keeps (expiry : String) : Prop :=
  session.now ≤ session.later ∧
    ∃ maxAge, parseDurationToMs expiry = .ok maxAge ∧ session.later < session.now + maxAge / 1000 * 1000

/-- After a logout. -/
def cleared : Jar Bytes := session.jar.receiveAll session.later (clearAuthCookies session.params.secure)

def Sends (path : UriPath) (name : String) (value : Bytes) : Prop :=
  ∃ cookie ∈ session.sent path, cookie.name = name ∧ cookie.value = value

end BrowserSession

/-- The cookies of a session reach the endpoints behind the proxy, and a logout removes them. -/
structure PathPrefix.ReachesEndpoints (base : PathPrefix) : Prop where
  refresh : ∀ (session : BrowserSession) (path : UriPath), session.Keeps session.params.refreshExpiry →
    base.handlePath path = some refreshEndpoint → session.Sends path REFRESH_TOKEN_COOKIE session.params.refreshToken
  access : ∀ (session : BrowserSession) (path route : UriPath), session.Keeps session.params.accessExpiry →
    base.handlePath path = some route → session.Sends path ACCESS_TOKEN_COOKIE session.params.accessToken
  csrf : ∀ (session : BrowserSession) (path route : UriPath), session.Keeps session.params.refreshExpiry →
    base.handlePath path = some route → session.Sends path CSRF_TOKEN_COOKIE session.csrfToken
  logout : ∀ session : BrowserSession, ∀ cookie ∈ session.cleared, ∀ header ∈ session.headers, cookie.key ≠ header.key

/-! ## What is sent -/

namespace BrowserSession

variable {session : BrowserSession}

/-- The three cookies, each with a key of its own. -/
theorem exists_headers (session : BrowserSession) : ∃ accessMaxAge refreshMaxAge,
    parseDurationToMs session.params.accessExpiry = .ok accessMaxAge ∧
      parseDurationToMs session.params.refreshExpiry = .ok refreshMaxAge ∧
      session.headers = sessionHeaders session.now session.csrfToken session.params accessMaxAge refreshMaxAge := by
  obtain ⟨accessMaxAge, refreshMaxAge, isAccess, isRefresh, -, -, -, isHeaders⟩ := runOn_setAuthCookies_iff.mp session.isSet
  exact ⟨accessMaxAge, refreshMaxAge, isAccess, isRefresh, isHeaders⟩

theorem keys_sessionHeaders (now : Timestamp) (csrfToken : Bytes) (params : SetAuthCookiesParams)
    (accessMaxAge refreshMaxAge : Nat) :
    (sessionHeaders now csrfToken params accessMaxAge refreshMaxAge).map SetCookie.key =
      [(ACCESS_TOKEN_COOKIE, ['/']), (REFRESH_TOKEN_COOKIE, "/auth".toList), (CSRF_TOKEN_COOKIE, ['/'])] := rfl

theorem keys_clearAuthCookies (secure : Bool) : (clearAuthCookies secure).map SetCookie.key =
    [(ACCESS_TOKEN_COOKIE, ['/']), (REFRESH_TOKEN_COOKIE, "/auth".toList), (CSRF_TOKEN_COOKIE, ['/'])] := rfl

theorem alive {options : CookieOptions} {now time : Nat} (name : String) (value : Bytes) (since : now ≤ time)
    (inTime : time < now + options.maxAge / 1000 * 1000) :
    ((options.header now name value).cookie now).isExpired time = false := by
  have positive : ¬ ((options.maxAge / 1000 : Nat) : Int) ≤ 0 := by omega
  have expiry : ((options.header now name value).cookie now).expiry = some (now + options.maxAge / 1000 * 1000) := by
    simp only [SetCookie.cookie, SetCookie.expiry, CookieOptions.header, Option.map_some, if_neg positive,
      Int.toNat_natCast]
    rfl
  rw [Cookies.Cookie.isExpired, expiry, Option.any_some]
  exact decide_eq_false (Nat.not_le.mpr inTime)

/-- A cookie that has been set and has not expired goes to every path that its own path matches. -/
theorem sends_of_header (options : CookieOptions) {name : String} {value : Bytes} {path : UriPath}
    (isSet : options.header session.now name value ∈ session.headers) (since : session.now ≤ session.later)
    (inTime : session.later < session.now + options.maxAge / 1000 * 1000)
    (isSecure : options.secure = session.params.secure) (matching : Cookies.pathMatch path.chars options.path = true) :
    session.Sends path name value := by
  have stored : (options.header session.now name value).cookie session.now ∈ session.jar := by
    obtain ⟨accessMaxAge, refreshMaxAge, -, -, isHeaders⟩ := session.exists_headers
    refine Jar.mem_receiveAll ?_ isSet (alive name value (Nat.le_refl _) (Nat.lt_of_le_of_lt since inTime))
    rw [isHeaders, keys_sessionHeaders]
    decide
  refine ⟨_, Jar.mem_sent.mpr ⟨stored, alive name value since inTime, fun secureOnly => ?_, matching⟩, rfl, rfl⟩
  exact session.secured (isSecure ▸ secureOnly)

/-- What a logout leaves has another key. -/
theorem key_ne_of_cleared {cookie : Cookies.Cookie Bytes} (left : cookie ∈ session.cleared) {header : SetCookie Bytes}
    (isSet : header ∈ session.headers) : cookie.key ≠ header.key := by
  obtain ⟨accessMaxAge, refreshMaxAge, -, -, isHeaders⟩ := session.exists_headers
  obtain ⟨-, apart⟩ | ⟨⟨clearing, isClearing, rfl⟩, isAlive⟩ := Jar.mem_receiveAll_cases left
  · rw [keys_clearAuthCookies, ← keys_sessionHeaders session.now session.csrfToken session.params accessMaxAge refreshMaxAge,
      ← isHeaders] at apart
    exact fun same => apart (same ▸ List.mem_map_of_mem isSet)
  · have expired : ((clearing.cookie session.later).isExpired session.later) = true := by
      simp only [clearAuthCookies, List.mem_cons, List.not_mem_nil, or_false] at isClearing
      obtain rfl | rfl | rfl := isClearing <;> rfl
    rw [expired] at isAlive
    cases isAlive

end BrowserSession

/-! ## Which prefixes -/

namespace PathPrefix

variable (base : PathPrefix)

theorem pathMatch_refresh_iff :
    Cookies.pathMatch (base.extend refreshEndpoint).chars "/auth".toList = true ↔ base.StaysBelowAuth := by
  rw [Cookies.pathMatch_iff (by decide)]
  change base.chars ++ "/auth/refresh".toList = "/auth".toList ∨ "/auth/".toList <+: base.chars ++ "/auth/refresh".toList ↔ _
  constructor
  · rintro (same | below)
    · have lengths := congrArg List.length same
      rw [List.length_append] at lengths
      change base.chars.length + 13 = 5 at lengths
      omega
    · obtain longer | shorter := List.prefix_or_prefix_of_prefix below (List.prefix_append _ _)
      · exact .inr (.inr longer)
      · -- of the beginnings of the cookie's path only these go on in the right way
        have all : ("/auth/".toList.inits.all fun chars =>
            !"/auth/".toList.isPrefixOf (chars ++ "/auth/refresh".toList) || chars = [] || chars = "/auth".toList ||
              "/auth/".toList.isPrefixOf chars) = true := by decide
        have beginning := List.all_eq_true.mp all base.chars ((List.mem_inits _ _).mpr shorter)
        rw [List.isPrefixOf_iff_prefix.mpr below] at beginning
        unfold StaysBelowAuth
        simpa only [Bool.not_true, Bool.false_or, Bool.or_eq_true, decide_eq_true_iff, List.isPrefixOf_iff_prefix,
          or_assoc] using beginning
  · rintro (isEmpty | isAuth | ⟨rest, isBelow⟩)
    · rw [isEmpty]
      exact .inr ⟨"refresh".toList, rfl⟩
    · rw [isAuth]
      exact .inr ⟨"auth/refresh".toList, rfl⟩
    · rw [← isBelow, List.append_assoc]
      exact .inr (List.prefix_append _ _)

/-- A browser with a new session whose tokens last one day. -/
def newSession : BrowserSession where
  express := ⟨fun _ _ => true⟩
  now := 0
  csrfToken := []
  params := ⟨[], [], "1d", "1d", false⟩
  headers := sessionHeaders 0 [] ⟨[], [], "1d", "1d", false⟩ 86400000 86400000
  isSet := runOn_setAuthCookies_iff.mpr ⟨86400000, 86400000, rfl, rfl, rfl, rfl, rfl, rfl⟩
  before := []
  later := 0
  https := false
  secured := id

theorem keeps_newSession : newSession.Keeps "1d" := ⟨Nat.le_refl 0, 86400000, rfl, by decide⟩

/-- The refresh token of the new session is sent nowhere but below its own path. -/
theorem pathMatch_of_sends {path : UriPath} (sends : newSession.Sends path REFRESH_TOKEN_COOKIE []) :
    Cookies.pathMatch path.chars "/auth".toList = true := by
  obtain ⟨cookie, isSent, isRefresh, -⟩ := sends
  obtain ⟨stored, -, -, matching⟩ := Jar.mem_sent.mp isSent
  obtain ⟨before, -⟩ | ⟨⟨header, isHeader, rfl⟩, -⟩ := Jar.mem_receiveAll_cases stored
  · cases before
  · have isName : header.name = REFRESH_TOKEN_COOKIE := isRefresh
    simp only [newSession, sessionHeaders, List.mem_cons, List.not_mem_nil, or_false] at isHeader
    obtain rfl | rfl | rfl := isHeader
    · exact absurd isName (by decide)
    · exact matching
    · exact absurd isName (by decide)

/-- The cookies reach their endpoints behind exactly those prefixes that leave the routes below `/auth`. -/
theorem reachesEndpoints_iff (base : PathPrefix) : base.ReachesEndpoints ↔ base.StaysBelowAuth := by
  rw [← pathMatch_refresh_iff]
  constructor
  · intro reaches
    exact pathMatch_of_sends (reaches.refresh newSession _ keeps_newSession ((handlePath_eq_some_iff _ _ _).mpr rfl))
  · intro matching
    refine ⟨fun session path keeps forwards => ?_, fun session path route keeps _ => ?_,
      fun session path route keeps _ => ?_, fun session cookie left header isSet => session.key_ne_of_cleared left isSet⟩
    all_goals
      obtain ⟨since, maxAge, isDuration, inTime⟩ := keeps
      obtain ⟨accessMaxAge, refreshMaxAge, isAccess, isRefresh, isHeaders⟩ := session.exists_headers
    · cases isRefresh.symm.trans isDuration
      rw [(handlePath_eq_some_iff _ _ _).mp forwards]
      refine BrowserSession.sends_of_header ⟨true, session.params.secure, "/auth".toList, maxAge⟩ ?_ since inTime rfl matching
      rw [isHeaders]
      exact List.mem_cons_of_mem _ List.mem_cons_self
    · cases isAccess.symm.trans isDuration
      refine BrowserSession.sends_of_header ⟨true, session.params.secure, ['/'], maxAge⟩ ?_ since inTime rfl
        (Cookies.pathMatch_root path)
      rw [isHeaders]
      exact List.mem_cons_self
    · cases isRefresh.symm.trans isDuration
      refine BrowserSession.sends_of_header ⟨false, session.params.secure, ['/'], maxAge⟩ ?_ since inTime rfl
        (Cookies.pathMatch_root path)
      rw [isHeaders]
      exact List.mem_cons_of_mem _ (List.mem_cons_of_mem _ List.mem_cons_self)

/-- The prefix of the `Caddyfile`. -/
def caddyPrefix : PathPrefix := ⟨"/api".toList, .inr rfl⟩

theorem not_reachesEndpoints : ¬ caddyPrefix.ReachesEndpoints := by
  intro reaches
  have sends := reaches.refresh newSession (caddyPrefix.extend refreshEndpoint) keeps_newSession
    ((handlePath_eq_some_iff _ _ _).mpr rfl)
  exact absurd (pathMatch_of_sends sends) (by decide)

end PathPrefix

end StoreSaas
