import StoreSaas.Services.CsrfGuard

/-! # The double-submit tokens

The guard measures its two strings in UTF-16 units and compares them in UTF-8 bytes.  What
it makes of a request is told once, for the requests that it looks at; the routes follow.
-/

namespace StoreSaas

open Utf16 (Text)

/-! ## Two strings -/

/-- Strings of one length whose encodings `timingSafeEqual` compares, and takes for equal only if they are. -/
def Comparable (cookieToken headerToken : Text) : Prop :=
  cookieToken.length = headerToken.length →
    (Utf16.utf8 cookieToken).size = (Utf16.utf8 headerToken).size ∧
      (Utf16.scalars cookieToken = Utf16.scalars headerToken → cookieToken = headerToken)

/-- Without unpaired surrogates it is only the number of bytes that matters. -/
theorem comparable_of_wellFormed {cookieToken headerToken : Text} (isCookie : Utf16.WellFormed cookieToken)
    (isHeader : Utf16.WellFormed headerToken)
    (sizes : cookieToken.length = headerToken.length → (Utf16.utf8 cookieToken).size = (Utf16.utf8 headerToken).size) :
    Comparable cookieToken headerToken :=
  fun sameLength => ⟨sizes sameLength, isCookie.eq_of_scalars isHeader⟩

namespace HttpRequest

variable (req : HttpRequest)

/-- Cookie and header are one non-empty string. -/
def TokensMatch : Prop :=
  ∃ token, token ≠ [] ∧ req.cookies CsrfGuard.CSRF_COOKIE_NAME = some (.text token) ∧
    req.headers CsrfGuard.CSRF_HEADER_NAME = some (.text token)

/-- If cookie and header are strings, they can be compared. -/
def TokensComparable : Prop :=
  ∀ cookieToken headerToken, req.cookies CsrfGuard.CSRF_COOKIE_NAME = some (.text cookieToken) →
    req.headers CsrfGuard.CSRF_HEADER_NAME = some (.text headerToken) → Comparable cookieToken headerToken

/-- Strings of one length that the guard takes for equal are equal. -/
def TokensDistinct : Prop :=
  ∀ cookieToken headerToken, req.cookies CsrfGuard.CSRF_COOKIE_NAME = some (.text cookieToken) →
    req.headers CsrfGuard.CSRF_HEADER_NAME = some (.text headerToken) →
      cookieToken.length = headerToken.length → Utf16.scalars cookieToken = Utf16.scalars headerToken →
        cookieToken = headerToken

/-- A request that changes something. -/
def IsMutating : Prop := CsrfGuard.SAFE_METHODS.contains req.method = false

end HttpRequest

/-! ## What the guard makes of a request -/

namespace CsrfGuard

variable {req : HttpRequest}

/-- The outcome that the two tokens call for. -/
def Decides (req : HttpRequest) : Prop :=
  (req.TokensMatch → canActivate false req = .ok true) ∧
    (¬ req.TokensMatch → ∃ message, canActivate false req = .error (.http (.forbidden message)))

/-- Past its exemptions the guard rejects whatever is not a pair of strings. -/
theorem canActivate_of_not_texts (mutating : req.IsMutating) (usesCookie : usingCookieAuth req = true)
    (others : ∀ cookieToken headerToken, req.cookies CSRF_COOKIE_NAME = some (.text cookieToken) →
      req.headers CSRF_HEADER_NAME ≠ some (.text headerToken)) :
    canActivate false req = .error invalid := by
  rw [canActivate, if_neg Bool.false_ne_true, if_neg (by rw [mutating]; exact Bool.false_ne_true),
    if_neg (by rw [usesCookie]; exact Bool.false_ne_true)]
  split
  next isCookie isHeader => exact absurd isHeader (others _ _ isCookie)
  next => rfl

/-- Of two strings it is the first of four answers whose condition holds. -/
theorem canActivate_of_texts {cookieToken headerToken : Text} (mutating : req.IsMutating)
    (usesCookie : usingCookieAuth req = true) (isCookie : req.cookies CSRF_COOKIE_NAME = some (.text cookieToken))
    (isHeader : req.headers CSRF_HEADER_NAME = some (.text headerToken)) :
    canActivate false req =
      if cookieToken.length = 0 ∨ cookieToken.length ≠ headerToken.length then .error invalid
      else if (Utf16.utf8 cookieToken).size ≠ (Utf16.utf8 headerToken).size then .error .rangeError
      else if Utf16.scalars cookieToken = Utf16.scalars headerToken then .ok true
      else .error invalid := by
  rw [canActivate, if_neg Bool.false_ne_true, if_neg (by rw [mutating]; exact Bool.false_ne_true),
    if_neg (by rw [usesCookie]; exact Bool.false_ne_true), isCookie, isHeader]
  refine if_congr Iff.rfl rfl ?_
  by_cases sized : (Utf16.utf8 cookieToken).size ≠ (Utf16.utf8 headerToken).size
  · have throws : timingSafeEqual (Utf16.utf8 cookieToken) (Utf16.utf8 headerToken) = .error .rangeError := if_pos sized
    rw [if_pos sized, throws]
  · have compares : timingSafeEqual (Utf16.utf8 cookieToken) (Utf16.utf8 headerToken) =
      .ok (decide ((Utf16.utf8 cookieToken).data = (Utf16.utf8 headerToken).data)) := if_neg sized
    rw [if_neg sized, compares]
    by_cases same : Utf16.scalars cookieToken = Utf16.scalars headerToken
    · rw [decide_eq_true (congrArg ByteArray.data (Utf16.utf8_inj.mpr same)), if_pos same]
      rfl
    · rw [decide_eq_false fun bytes => same (Utf16.utf8_inj.mp (ByteArray.ext bytes)), if_neg same]
      rfl

theorem tokensMatch_iff {cookieToken headerToken : Text} (isCookie : req.cookies CSRF_COOKIE_NAME = some (.text cookieToken))
    (isHeader : req.headers CSRF_HEADER_NAME = some (.text headerToken)) :
    req.TokensMatch ↔ cookieToken ≠ [] ∧ cookieToken = headerToken := by
  constructor
  · rintro ⟨token, nonempty, inCookie, inHeader⟩
    cases isCookie.symm.trans inCookie
    cases isHeader.symm.trans inHeader
    exact ⟨nonempty, rfl⟩
  · rintro ⟨nonempty, rfl⟩
    exact ⟨_, nonempty, isCookie, isHeader⟩

/-- Of two strings the guard decides cleanly exactly if it can compare them. -/
theorem decides_texts_iff {cookieToken headerToken : Text} (mutating : req.IsMutating)
    (usesCookie : usingCookieAuth req = true) (isCookie : req.cookies CSRF_COOKIE_NAME = some (.text cookieToken))
    (isHeader : req.headers CSRF_HEADER_NAME = some (.text headerToken)) :
    Decides req ↔ Comparable cookieToken headerToken := by
  rw [Decides, tokensMatch_iff isCookie isHeader, canActivate_of_texts mutating usesCookie isCookie isHeader]
  by_cases measured : cookieToken.length = 0 ∨ cookieToken.length ≠ headerToken.length
  · rw [if_pos measured]
    have differ : ¬ (cookieToken ≠ [] ∧ cookieToken = headerToken) := by
      rintro ⟨nonempty, rfl⟩
      exact measured.elim (fun empty => nonempty (List.eq_nil_of_length_eq_zero empty)) fun shorter => shorter rfl
    refine iff_of_true ⟨fun same => absurd same differ, fun _ => ⟨_, rfl⟩⟩ fun sameLength => ?_
    have empty : cookieToken = [] :=
      measured.elim List.eq_nil_of_length_eq_zero fun shorter => absurd sameLength shorter
    have both : headerToken = [] := List.eq_nil_of_length_eq_zero (sameLength ▸ empty ▸ rfl)
    rw [empty, both]
    exact ⟨rfl, fun _ => rfl⟩
  · obtain ⟨filled, sameLength⟩ := not_or.mp measured
    have nonempty : cookieToken ≠ [] := fun isNil => filled (isNil ▸ rfl)
    have sameLength : cookieToken.length = headerToken.length := not_not.mp sameLength
    rw [if_neg measured]
    by_cases sized : (Utf16.utf8 cookieToken).size ≠ (Utf16.utf8 headerToken).size
    · -- the length check has passed, and `timingSafeEqual` throws
      rw [if_pos sized]
      refine iff_of_false (fun decides => ?_) fun comparable => sized (comparable sameLength).1
      obtain ⟨message, isForbidden⟩ := decides.2 fun same => sized (same.2 ▸ rfl)
      cases isForbidden
    · rw [if_neg sized]
      by_cases same : Utf16.scalars cookieToken = Utf16.scalars headerToken
      · rw [if_pos same]
        constructor
        · rintro ⟨-, rejects⟩ -
          refine ⟨not_not.mp sized, fun _ => ?_⟩
          by_contra differ
          obtain ⟨message, isForbidden⟩ := rejects fun both => differ both.2
          cases isForbidden
        · intro comparable
          exact ⟨fun _ => rfl, fun differ => absurd ⟨nonempty, (comparable sameLength).2 same⟩ differ⟩
      · rw [if_neg same]
        refine iff_of_true ⟨fun both => absurd (both.2 ▸ rfl) same, fun _ => ⟨_, rfl⟩⟩ fun _ => ?_
        exact ⟨not_not.mp sized, fun agrees => absurd agrees same⟩

/-- Different strings of one length and one encoding pass, however the route is marked. -/
theorem canActivate_of_same {cookieToken headerToken : Text} (mutating : req.IsMutating)
    (isCookie : req.cookies CSRF_COOKIE_NAME = some (.text cookieToken))
    (isHeader : req.headers CSRF_HEADER_NAME = some (.text headerToken))
    (sameLength : cookieToken.length = headerToken.length)
    (same : Utf16.scalars cookieToken = Utf16.scalars headerToken) (differ : cookieToken ≠ headerToken) (isPublic : Bool) :
    canActivate isPublic req = .ok true := by
  cases isPublic with
  | true => rfl
  | false =>
    cases usesCookie : usingCookieAuth req with
    | false => rw [canActivate, usesCookie, Bool.not_false, if_pos rfl, ite_self, ite_self]
    | true =>
      have filled : ¬ (cookieToken.length = 0 ∨ cookieToken.length ≠ headerToken.length) := by
        rintro (empty | shorter)
        · have isNil := List.eq_nil_of_length_eq_zero empty
          exact differ (isNil.trans (List.eq_nil_of_length_eq_zero (sameLength.symm.trans empty)).symm)
        · exact shorter sameLength
      have sized : ¬ (Utf16.utf8 cookieToken).size ≠ (Utf16.utf8 headerToken).size :=
        not_not.mpr (congrArg ByteArray.size (Utf16.utf8_inj.mpr same))
      rw [canActivate_of_texts mutating usesCookie isCookie isHeader, if_neg filled, if_neg sized, if_pos same]

/-- Past its exemptions the guard lets pass what matches, and no more than it takes for the same. -/
theorem tokensMatch_of_ok (mutating : req.IsMutating) (usesCookie : usingCookieAuth req = true)
    (distinct : req.TokensDistinct) (passes : canActivate false req = .ok true) : req.TokensMatch := by
  by_cases texts : ∃ cookieToken headerToken, req.cookies CSRF_COOKIE_NAME = some (.text cookieToken) ∧
      req.headers CSRF_HEADER_NAME = some (.text headerToken)
  · obtain ⟨cookieToken, headerToken, isCookie, isHeader⟩ := texts
    rw [canActivate_of_texts mutating usesCookie isCookie isHeader] at passes
    split at passes
    next => cases passes
    next measured =>
      obtain ⟨filled, sameLength⟩ := not_or.mp measured
      split at passes
      next => cases passes
      next =>
        split at passes
        next same =>
          have equal := distinct _ _ isCookie isHeader (not_not.mp sameLength) same
          exact (tokensMatch_iff isCookie isHeader).mpr ⟨fun isNil => filled (isNil ▸ rfl), equal⟩
        next => cases passes
  · have rejects := canActivate_of_not_texts mutating usesCookie fun _ _ isCookie isHeader =>
      texts ⟨_, _, isCookie, isHeader⟩
    cases rejects.symm.trans passes

/-- On the requests that it looks at, the guard decides cleanly exactly if it can compare the tokens. -/
theorem decides_iff (mutating : req.IsMutating) (usesCookie : usingCookieAuth req = true) :
    Decides req ↔ req.TokensComparable := by
  by_cases texts : ∃ cookieToken headerToken, req.cookies CSRF_COOKIE_NAME = some (.text cookieToken) ∧
      req.headers CSRF_HEADER_NAME = some (.text headerToken)
  · obtain ⟨cookieToken, headerToken, isCookie, isHeader⟩ := texts
    refine (decides_texts_iff mutating usesCookie isCookie isHeader).trans
      ⟨fun comparable _ _ inCookie inHeader => ?_, fun comparable => comparable _ _ isCookie isHeader⟩
    cases isCookie.symm.trans inCookie
    cases isHeader.symm.trans inHeader
    exact comparable
  · have others : ∀ cookieToken headerToken, req.cookies CSRF_COOKIE_NAME = some (.text cookieToken) →
        req.headers CSRF_HEADER_NAME ≠ some (.text headerToken) :=
      fun _ _ isCookie isHeader => texts ⟨_, _, isCookie, isHeader⟩
    refine iff_of_true ⟨?_, fun _ => ⟨_, canActivate_of_not_texts mutating usesCookie others⟩⟩ ?_
    · rintro ⟨token, -, inCookie, inHeader⟩
      exact absurd inHeader (others _ _ inCookie)
    · exact fun _ _ isCookie isHeader => absurd isHeader (others _ _ isCookie)

/-- A `POST` with an access token in its cookie, and the two tokens. -/
def postWith (cookieToken headerToken : Text) : HttpRequest where
  method := "POST"
  cookies name :=
    if name = "access_token" then some (.text [0x61]) else if name = CSRF_COOKIE_NAME then some (.text cookieToken) else none
  headers name := if name = CSRF_HEADER_NAME then some (.text headerToken) else none

theorem decides_postWith : Decides (postWith [0x74] [0x74]) ↔ (postWith [0x74] [0x74]).TokensComparable :=
  decides_iff rfl rfl

/-- One letter each, `a` and `é`, are one byte and two. -/
theorem not_decides_postWith :
    (postWith [0x61] [0xe9]).IsMutating ∧ usingCookieAuth (postWith [0x61] [0xe9]) = true ∧
      canActivate false (postWith [0x61] [0xe9]) = .error .rangeError ∧ ¬ Decides (postWith [0x61] [0xe9]) := by
  have throws : canActivate false (postWith [0x61] [0xe9]) = .error .rangeError :=
    Eq.trans (canActivate_of_texts rfl rfl rfl rfl) (by decide)
  refine ⟨rfl, rfl, throws, fun decides => ?_⟩
  obtain ⟨message, isForbidden⟩ := decides.2 fun same => absurd ((tokensMatch_iff rfl rfl).mp same).2 (by decide)
  cases throws.symm.trans isForbidden

end CsrfGuard

/-! ## Routes whose user comes out of a cookie -/

/-- The cookie from which the strategy of the route takes its token. -/
def HttpRoute.tokenCookie (route : HttpRoute) : String :=
  if route.usesRefreshGuard then "refresh_token" else "access_token"

/-- A strategy runs for the route and finds its token in the cookie. -/
def HttpRoute.TakesUserFromCookie (route : HttpRoute) (req : HttpRequest) : Prop :=
  (route.isPublic = true → route.usesRefreshGuard = true) ∧
    ∃ unit units, req.cookies route.tokenCookie = some (.text (unit :: units))

namespace GuardEnvironment

variable {env : GuardEnvironment} {route : HttpRoute} {req : HttpRequest}

/-- No request gets past `CsrfGuard` without its consent. -/
theorem canActivate_of_admits (admitted : env.admits route req = .ok ()) :
    CsrfGuard.canActivate route.isPublic req = .ok true := by
  unfold admits at admitted
  cases isUser : JwtAuthGuard.canActivate route.toRoute (env.access req) with
  | error error => rw [isUser] at admitted; cases admitted
  | ok user =>
    rw [isUser] at admitted
    cases checked : CsrfGuard.canActivate route.isPublic req with
    | error error => rw [checked] at admitted; cases admitted
    | ok passed =>
      cases passed with
      | true => rfl
      | false => rw [checked] at admitted; cases admitted

/-- An environment that has nothing against the request. -/
def welcoming (user : AuthenticatedUser) : GuardEnvironment where
  fromAuthHeaderAsBearerToken _ := none
  verifyAccess _ := .ok ⟨user.id, user.email, user.role, user.storeId⟩
  verifyRefresh _ := .ok ⟨user.id, user.email, user.role, user.storeId⟩
  isSuspended := false
  isThrottled := false

theorem exists_role (route : Route) : ∃ user, RolesGuard.canActivate route (some user) = .ok () := by
  unfold RolesGuard.canActivate
  rcases route.requiredRoles with _ | _ | ⟨role, others⟩
  · exact ⟨⟨0, "", .staff, none⟩, rfl⟩
  · exact ⟨⟨0, "", .staff, none⟩, rfl⟩
  · refine ⟨⟨0, "", role, none⟩, if_pos ?_⟩
    simp only [Option.any_some, List.contains_cons, BEq.rfl, Bool.true_or]

/-- What `CsrfGuard` lets pass can reach the handler. -/
theorem exists_admits (isCookie : route.TakesUserFromCookie req)
    (checked : CsrfGuard.canActivate route.isPublic req = .ok true) :
    ∃ env : GuardEnvironment, env.admits route req = .ok () := by
  obtain ⟨refreshes, unit, units, inCookie⟩ := isCookie
  obtain ⟨user, hasRole⟩ := exists_role route.toRoute
  refine ⟨welcoming user, ?_⟩
  unfold admits
  rw [checked]
  cases isRefresh : route.usesRefreshGuard with
  | true =>
    have isPublic := route.isPublic_of_refresh isRefresh
    have anybody : RolesGuard.canActivate route.toRoute none = .ok () := by
      rw [RolesGuard.canActivate, route.roles_of_isPublic isPublic]
    have refreshed : (welcoming user).refresh req = .ok ⟨user.id, user.email, user.role, user.storeId⟩ := by
      rw [HttpRoute.tokenCookie, isRefresh, if_pos rfl] at inCookie
      rw [refresh, extractRefreshToken, extractToken, inCookie]
      rfl
    rw [JwtAuthGuard.canActivate, if_pos isPublic, refreshed]
    change (RolesGuard.canActivate route.toRoute none).mapError _ >>= _ = _
    rw [anybody]
    rfl
  | false =>
    have notPublic : ¬ route.isPublic = true := fun isPublic => by
      rw [refreshes isPublic] at isRefresh
      cases isRefresh
    have accessed : (welcoming user).access req = .ok user := by
      rw [HttpRoute.tokenCookie, isRefresh, if_neg Bool.false_ne_true] at inCookie
      rw [access, extractAccessToken, extractToken, inCookie]
      rfl
    rw [JwtAuthGuard.canActivate, if_neg notPublic, accessed]
    change (RolesGuard.canActivate route.toRoute (some user)).mapError _ >>= _ = _
    rw [hasRole]
    rfl

/-- A mutation in the name of a cookie's user is checked for its token on every route but the one that
    takes the refresh token. -/
theorem csrfChecked_iff (mutating : req.IsMutating) (isCookie : route.TakesUserFromCookie req) :
    (∀ env : GuardEnvironment, env.admits route req = .ok () → req.TokensMatch) ↔
      (route.usesRefreshGuard = true → req.TokensMatch) ∧ req.TokensDistinct := by
  constructor
  · intro checks
    constructor
    · intro isRefresh
      have isPublic := route.isPublic_of_refresh isRefresh
      obtain ⟨env, admitted⟩ := exists_admits isCookie (by rw [CsrfGuard.canActivate, if_pos isPublic])
      exact checks env admitted
    · intro cookieToken headerToken inCookie inHeader sameLength same
      by_contra differ
      have passes := CsrfGuard.canActivate_of_same mutating inCookie inHeader sameLength same differ route.isPublic
      obtain ⟨env, admitted⟩ := exists_admits isCookie passes
      exact differ ((CsrfGuard.tokensMatch_iff inCookie inHeader).mp (checks env admitted)).2
  · rintro ⟨onRefresh, distinct⟩ env admitted
    cases isRefresh : route.usesRefreshGuard with
    | true => exact onRefresh isRefresh
    | false =>
      obtain ⟨refreshes, unit, units, inCookie⟩ := isCookie
      have notPublic : route.isPublic = false := Bool.eq_false_iff.mpr fun isPublic => by
        rw [refreshes isPublic] at isRefresh
        cases isRefresh
      have checked := canActivate_of_admits admitted
      rw [notPublic] at checked
      have usesCookie : CsrfGuard.usingCookieAuth req = true := by
        rw [HttpRoute.tokenCookie, isRefresh, if_neg Bool.false_ne_true] at inCookie
        rw [CsrfGuard.usingCookieAuth, inCookie]
        rfl
      exact CsrfGuard.tokensMatch_of_ok mutating usesCookie distinct checked

/-- A `POST` with a refresh token in its cookie, and nothing else. -/
def bareRefresh : HttpRequest where
  method := "POST"
  cookies name := if name = "refresh_token" then some (.text [0x72]) else none
  headers _ := none

theorem csrfChecked_bareRefresh :
    (∀ env : GuardEnvironment, env.admits AuthController.refreshRoute bareRefresh = .ok () → bareRefresh.TokensMatch) ↔
      (AuthController.refreshRoute.usesRefreshGuard = true → bareRefresh.TokensMatch) ∧ bareRefresh.TokensDistinct :=
  csrfChecked_iff rfl ⟨fun _ => rfl, 0x72, [], rfl⟩

/-- The refresh goes through for the user of the cookie, without any CSRF token. -/
theorem exists_admits_bareRefresh :
    bareRefresh.IsMutating ∧ AuthController.refreshRoute.TakesUserFromCookie bareRefresh ∧
      (welcoming ⟨1, "owner@corner.example", .storeOwner, some 1⟩).admits AuthController.refreshRoute bareRefresh = .ok () ∧
        ¬ bareRefresh.TokensMatch := by
  refine ⟨rfl, ⟨fun _ => rfl, 0x72, [], rfl⟩, rfl, ?_⟩
  rintro ⟨token, -, -, inHeader⟩
  cases inHeader

end GuardEnvironment

end StoreSaas
