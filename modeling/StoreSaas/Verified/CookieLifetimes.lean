import StoreSaas.Verified.AuthMethods
import StoreSaas.Verified.CookiePaths
import StoreSaas.Verified.PasswordChanges

/-! # Lifetimes of cookies and tokens

The two expiries are read twice, by `jsonwebtoken` for the tokens and by `parseDurationToMs`
for the cookies, and the second time only when the service has done its work.
-/

namespace StoreSaas

open Durations (isDigit digitsValue)

/-- `jwt.sign` reads a text as the package `ms` does, into the seconds between `iat` and `exp`; it throws where that
    is no duration. -/
def tokenSeconds (expiresIn : String) : Option Int := Durations.seconds expiresIn.toList

/-- Digits and one of the four units behind them: a duration of this many milliseconds. -/
def IsPlainDuration (text : String) (ms : Nat) : Prop :=
  ∃ digits letter unit, text.toList = digits ++ [letter] ∧ digits ≠ [] ∧ (∀ digit ∈ digits, isDigit digit = true) ∧
    unitMs letter = some unit ∧ ms = digitsValue digits * unit

/-! ## Two readers of one text -/

theorem unitMs_cases {letter : Char} {unit : Nat} (isUnit : unitMs letter = some unit) :
    (letter = 's' ∧ unit = 1000) ∨ (letter = 'm' ∧ unit = 60000) ∨ (letter = 'h' ∧ unit = 3600000) ∨
      (letter = 'd' ∧ unit = 86400000) := by
  unfold unitMs at isUnit
  split at isUnit
  next isLetter => exact .inl ⟨isLetter, (Option.some.inj isUnit).symm⟩
  next =>
    split at isUnit
    next isLetter => exact .inr (.inl ⟨isLetter, (Option.some.inj isUnit).symm⟩)
    next =>
      split at isUnit
      next isLetter => exact .inr (.inr (.inl ⟨isLetter, (Option.some.inj isUnit).symm⟩))
      next =>
        split at isUnit
        next isLetter => exact .inr (.inr (.inr ⟨isLetter, (Option.some.inj isUnit).symm⟩))
        next => cases isUnit

/-- A unit of `parseDurationToMs` is no part of a number, and the package knows it. -/
theorem unitMs_apart {letter : Char} {unit : Nat} (isUnit : unitMs letter = some unit) :
    isDigit letter = false ∧ letter ≠ '.' ∧ letter ≠ ' ' ∧ Durations.unitNamed [letter] = some unit ∧ 1000 ∣ unit := by
  obtain ⟨rfl, rfl⟩ | ⟨rfl, rfl⟩ | ⟨rfl, rfl⟩ | ⟨rfl, rfl⟩ := unitMs_cases isUnit <;> decide

theorem matchDuration_eq_some {text : List Char} {value unit : Nat} :
    matchDuration text = some (value, unit) ↔ ∃ digits letter, text = digits ++ [letter] ∧ digits ≠ [] ∧
      (∀ digit ∈ digits, isDigit digit = true) ∧ unitMs letter = some unit ∧ value = digitsValue digits := by
  constructor
  · intro matching
    unfold matchDuration at matching
    dsimp only at matching
    split at matching
    next => cases matching
    next some_digit =>
      split at matching
      next letter isRest =>
        obtain ⟨ms, isUnit, isPair⟩ := Option.map_eq_some_iff.mp matching
        cases isPair
        refine ⟨text.takeWhile isDigit, letter, ?_, some_digit, fun _ inDigits => List.mem_takeWhile_imp inDigits, isUnit, rfl⟩
        rw [← isRest, List.takeWhile_append_dropWhile]
      next => cases matching
  · rintro ⟨digits, letter, rfl, some_digit, all, isUnit, rfl⟩
    have notDigit := (unitMs_apart isUnit).1
    unfold matchDuration
    dsimp only
    rw [Durations.takeWhile_digits all notDigit, Durations.dropWhile_digits all notDigit, if_neg some_digit]
    dsimp only
    rw [isUnit]
    rfl

theorem isJsSpace_apart {letter : Char} (space : isJsSpace letter = true) :
    isDigit letter = false ∧ letter ≠ '-' ∧ letter ≠ '.' ∧ ¬ ('a' ≤ letter.toLower ∧ letter.toLower ≤ 'z') := by
  have code : letter.toNat < 33 ∨ 127 < letter.toNat := by
    simp only [isJsSpace, Bool.or_eq_true, Bool.and_eq_true, decide_eq_true_iff] at space
    omega
  have apart (other : Char) (plain : 33 ≤ other.toNat ∧ other.toNat ≤ 127) : letter ≠ other := by
    rintro rfl
    omega
  refine ⟨?_, apart '-' (by decide), apart '.' (by decide), ?_⟩
  · rw [isDigit, Bool.and_eq_false_iff, decide_eq_false_iff_not, decide_eq_false_iff_not, Char.le_def, Char.le_def]
    change ¬ 48 ≤ letter.toNat ∨ ¬ letter.toNat ≤ 57
    omega
  · have same : letter.toLower = letter := by
      refine dif_neg fun upper => ?_
      have least : 65 ≤ letter.toNat := upper.1
      have greatest : letter.toNat ≤ 90 := upper.2
      omega
    rw [same, Char.le_def, Char.le_def]
    change ¬ (97 ≤ letter.toNat ∧ letter.toNat ≤ 122)
    omega

/-- Nothing is trimmed from a text that both readers accept. -/
theorem eq_of_trim {text digits : List Char} {letter : Char} {unit : Nat} (isTrimmed : trim text = digits ++ [letter])
    (some_digit : digits ≠ []) (all : ∀ digit ∈ digits, isDigit digit = true) (isUnit : unitMs letter = some unit)
    (isRead : (Durations.read text).isSome) : text = digits ++ [letter] := by
  have noFront : text.dropWhile isJsSpace = text := by
    cases text with
    | nil => rfl
    | cons first rest =>
      cases isSpace : isJsSpace first with
      | false => rw [List.dropWhile_cons, isSpace, if_neg Bool.false_ne_true]
      | true =>
        obtain ⟨notDigit, notDash, notPoint, -⟩ := isJsSpace_apart isSpace
        rw [Durations.read_eq_none rest notDigit notDash notPoint] at isRead
        cases isRead
  have split : text = digits ++ letter :: text.rtakeWhile isJsSpace := by
    rw [trim, noFront] at isTrimmed
    have parts := List.rdropWhile_append_rtakeWhile (p := isJsSpace) (l := text)
    rw [isTrimmed, List.append_assoc] at parts
    exact parts.symm
  obtain ⟨notDigit, notPoint, notSpace, -, -⟩ := unitMs_apart isUnit
  have noBack : text.rtakeWhile isJsSpace = [] := by
    rw [split, Durations.read_digits some_digit all notDigit notPoint notSpace, Option.isSome_map] at isRead
    obtain ⟨named, isNamed⟩ := Option.isSome_iff_exists.mp isRead
    refine List.eq_nil_iff_forall_not_mem.mpr fun space inBack => ?_
    have isSpace := List.mem_rtakeWhile_imp inBack
    exact (isJsSpace_apart isSpace).2.2.2
      (Durations.isLetter_of_unitNamed isNamed space (List.mem_cons_of_mem _ (split ▸ inBack)))
  rw [noBack] at split
  exact split

/-- Of what makes a token, `parseDurationToMs` reads the plain durations. -/
theorem parseDurationToMs_iff {text : String} (signs : (tokenSeconds text).isSome) {ms : Nat} :
    parseDurationToMs text = .ok ms ↔ IsPlainDuration text ms := by
  have isRead : (Durations.read text.toList).isSome := by
    rw [tokenSeconds, Durations.seconds, Option.isSome_map] at signs
    exact signs
  unfold parseDurationToMs
  constructor
  · intro parsed
    split at parsed
    next value unit matching =>
      obtain ⟨digits, letter, isTrimmed, some_digit, all, isUnit, rfl⟩ := matchDuration_eq_some.mp matching
      refine ⟨digits, letter, unit, eq_of_trim isTrimmed some_digit all isUnit isRead, some_digit, all, isUnit, ?_⟩
      exact (Except.ok.inj parsed).symm
    next => cases parsed
  · rintro ⟨digits, letter, unit, isText, some_digit, all, isUnit, rfl⟩
    have isTrimmed : trim text.toList = digits ++ [letter] := by
      have lastUnit : isJsSpace letter = false := by
        obtain ⟨rfl, -⟩ | ⟨rfl, -⟩ | ⟨rfl, -⟩ | ⟨rfl, -⟩ := unitMs_cases isUnit <;> decide
      have firstDigit : (digits ++ [letter]).dropWhile isJsSpace = digits ++ [letter] := by
        cases digits with
        | nil => exact absurd rfl some_digit
        | cons first rest =>
          have notSpace : isJsSpace first = false := by
            refine Bool.eq_false_iff.mpr fun space => ?_
            have isFirst := all first List.mem_cons_self
            rw [(isJsSpace_apart space).1] at isFirst
            cases isFirst
          rw [List.cons_append, List.dropWhile_cons, notSpace, if_neg Bool.false_ne_true]
      rw [isText, trim, firstDigit, List.rdropWhile_concat_neg _ _ _ (Bool.eq_false_iff.mp lastUnit)]
    rw [isTrimmed, matchDuration_eq_some.mpr ⟨digits, letter, rfl, some_digit, all, isUnit, rfl⟩]

/-- The token of a plain duration lives as long. -/
theorem tokenSeconds_of_plain {text : String} {ms : Nat} (plain : IsPlainDuration text ms) :
    ∃ seconds : Nat, tokenSeconds text = some (seconds : Int) ∧ ms = 1000 * seconds := by
  obtain ⟨digits, letter, unit, isText, some_digit, all, isUnit, rfl⟩ := plain
  obtain ⟨notDigit, notPoint, notSpace, isNamed, factor, rfl⟩ := unitMs_apart isUnit
  refine ⟨digitsValue digits * factor, ?_, by rw [Nat.mul_left_comm]⟩
  rw [tokenSeconds, Durations.seconds, isText, Durations.read_digits some_digit all notDigit notPoint notSpace, isNamed]
  simp only [Option.map_some, Durations.Decimal.seconds, Bool.false_eq_true, if_false, pow_zero, mul_one, Option.some.injEq]
  rw [show ((digitsValue digits : Int) * ((1000 * factor : Nat) : Int)) = 1000 * ((digitsValue digits * factor : Nat) : Int) by
    push_cast
    exact Int.mul_left_comm _ _ _]
  exact Int.mul_ediv_cancel_left _ (by decide)

/-! ## A route that fails -/

namespace AuthController

variable (crypto : Crypto) (settings : AuthConfig) (env : AuthEnvironment)

theorem issueTokens_ne_error {user : User} {db after : Database} {error : ApiError}
    (ran : (AuthService.issueTokens crypto settings env user).runWith shop.executeOn db = (.error error, after)) : False := by
  obtain ⟨accessToken, issues⟩ := AuthService.runWith_issueTokens crypto settings env user db
  cases issues.symm.trans ran

/-- A service that hands out no tokens has changed nothing. -/
theorem unchanged_of_error (route : TokenRoute) {db after : Database} {error : ApiError}
    (ran : shop.alone (tokens crypto settings env route) db = (.error error, after)) : after = db := by
  cases route with
  | register newId dto =>
    have means := (AuthService.alone_register crypto settings env newId dto db).symm.trans ran
    cases isFound : db.users.rows.find? fun row => row.email = dto.email with
    | some user =>
      rw [isFound] at means
      cases means
      rfl
    | none =>
      rw [isFound] at means
      change Engine.andThen (AuthService.welcomed crypto settings env dto)
        (shop.transact (AuthService.createAccount crypto env newId dto) db) = _ at means
      cases transacted : shop.transact (AuthService.createAccount crypto env newId dto) db with
      | mk result stored =>
        rw [transacted] at means
        cases result with
        | error error =>
          cases means
          exact Engine.transact_eq_error transacted
        | ok user => exact (issueTokens_ne_error crypto settings env means).elim
  | login dto =>
    have means := (shop.alone_autocommit (AuthService.login crypto settings env dto) db).symm.trans ran
    obtain ⟨_, fails⟩ | ⟨user, -, issues⟩ := AuthService.runWith_login crypto settings env dto db
    · cases fails.symm.trans means
      rfl
    · exact (issueTokens_ne_error crypto settings env (issues.symm.trans means)).elim
  | refresh token =>
    have means := (shop.alone_autocommit (AuthController.refresh crypto settings env token) db).symm.trans ran
    unfold AuthController.refresh at means
    split at means
    next =>
      cases means
      rfl
    next =>
      obtain ⟨_, fails, -⟩ | ⟨user, _, -, -, -, issues⟩ := AuthService.runWith_refresh crypto settings env
        (JwtRefreshStrategy.validate (token.text crypto settings) token.payload).id
        (JwtRefreshStrategy.validate (token.text crypto settings) token.payload).refreshToken db
      · cases fails.symm.trans means
        rfl
      · exact (issueTokens_ne_error crypto settings env (issues.symm.trans means)).elim

end AuthController

/-! ## Agreement -/

/-- Neither signature of `issueTokens` throws. -/
def CookieConfig.Signs (config : CookieConfig) : Prop :=
  (tokenSeconds config.jwtAccessExpiry).isSome ∧ (tokenSeconds config.jwtRefreshExpiry).isSome

/-- The service works with the lifetimes that `jwt.sign` reads in these texts. -/
structure AuthConfig.Reads (settings : AuthConfig) (config : CookieConfig) : Prop where
  access : tokenSeconds config.jwtAccessExpiry = some settings.jwtAccessExpiry
  refresh : tokenSeconds config.jwtRefreshExpiry = some settings.jwtRefreshExpiry

/-- The cookies are set, for as long as the tokens live, and a route that fails leaves everything as it was. -/
structure LifetimesAgree (express : Express) (now : Timestamp) (config : CookieConfig) : Prop where
  cookies : ∃ accessMaxAge refreshMaxAge : Nat,
    (tokenSeconds config.jwtAccessExpiry).map (1000 * ·) = some (accessMaxAge : Int) ∧
    (tokenSeconds config.jwtRefreshExpiry).map (1000 * ·) = some (refreshMaxAge : Int) ∧
    ∀ csrfToken tokens, (AuthController.applyTokens config csrfToken tokens).runOn express now =
      (.ok (), sessionHeaders now csrfToken ⟨tokens.accessToken, tokens.refreshToken, config.jwtAccessExpiry,
        config.jwtRefreshExpiry, config.cookieSecure⟩ accessMaxAge refreshMaxAge)
  clean : ∀ crypto settings env route csrfToken db error after headers, AuthConfig.Reads settings config →
    AuthController.respond express now config csrfToken (shop.alone (AuthController.tokens crypto settings env route) db) =
      (.error error, after, headers) → after = db ∧ headers = []

theorem runOn_applyTokens_iff {express : Express} {now : Timestamp} {config : CookieConfig} {csrfToken : Bytes}
    {tokens : TokenPair} {headers : List (Cookies.SetCookie Bytes)} :
    (AuthController.applyTokens config csrfToken tokens).runOn express now = (.ok (), headers) ↔
      (setAuthCookies csrfToken ⟨tokens.accessToken, tokens.refreshToken, config.jwtAccessExpiry, config.jwtRefreshExpiry,
        config.cookieSecure⟩).runOn express now = (.ok csrfToken, headers) := by
  unfold Response.runOn AuthController.applyTokens
  rw [Program.runWith_bind]
  generalize ran : (setAuthCookies csrfToken _).runWith (ResponseOp.execute express now) [] = ended
  obtain ⟨result, set⟩ := ended
  cases result with
  | error error =>
    rw [Program.onOk_error, Program.runWith_throw]
    simp
  | ok value =>
    obtain ⟨_, _, -, -, -, -, rfl, -⟩ := runOn_setAuthCookies_iff.mp ran
    rw [Program.onOk_ok, Program.pure_eq_done, Program.runWith_done]
    simp

/-- Where `issueTokens` signs, cookies and tokens agree exactly if both expiries are plain durations whose cookies
    can be written. -/
theorem lifetimesAgree_iff {express : Express} {now : Timestamp} {config : CookieConfig} (signs : config.Signs) :
    LifetimesAgree express now config ↔
      (∃ ms, IsPlainDuration config.jwtAccessExpiry ms ∧ express.writes now ms = true) ∧
        ∃ ms, IsPlainDuration config.jwtRefreshExpiry ms ∧ express.writes now ms = true := by
  obtain ⟨signsAccess, signsRefresh⟩ := signs
  constructor
  · rintro ⟨⟨accessMaxAge, refreshMaxAge, -, -, applied⟩, -⟩
    obtain ⟨access, refresh, isAccess, isRefresh, writesAccess, writesRefresh, -, -⟩ :=
      runOn_setAuthCookies_iff.mp (runOn_applyTokens_iff.mp (applied [] ⟨[], []⟩))
    exact ⟨⟨access, (parseDurationToMs_iff signsAccess).mp isAccess, writesAccess⟩,
      refresh, (parseDurationToMs_iff signsRefresh).mp isRefresh, writesRefresh⟩
  · rintro ⟨⟨access, plainAccess, writesAccess⟩, refresh, plainRefresh, writesRefresh⟩
    have applied (csrfToken : Bytes) (tokens : TokenPair) :
        (AuthController.applyTokens config csrfToken tokens).runOn express now = (.ok (), _) :=
      runOn_applyTokens_iff.mpr (runOn_setAuthCookies_iff.mpr ⟨access, refresh,
        (parseDurationToMs_iff signsAccess).mpr plainAccess, (parseDurationToMs_iff signsRefresh).mpr plainRefresh,
        writesAccess, writesRefresh, rfl, rfl⟩)
    obtain ⟨accessSeconds, isAccess, rfl⟩ := tokenSeconds_of_plain plainAccess
    obtain ⟨refreshSeconds, isRefresh, rfl⟩ := tokenSeconds_of_plain plainRefresh
    refine ⟨⟨_, _, by rw [isAccess]; rfl, by rw [isRefresh]; rfl, applied⟩, ?_⟩
    intro crypto settings env route csrfToken db error after headers _ responds
    cases ran : shop.alone (AuthController.tokens crypto settings env route) db with
    | mk result served =>
      rw [ran] at responds
      cases result with
      | error failure =>
        cases responds
        exact ⟨AuthController.unchanged_of_error crypto settings env route ran, rfl⟩
      | ok tokens =>
        rw [AuthController.respond, applied] at responds
        cases responds

namespace SmallShop

/-- Express writes every cookie whose expiry is a `Date`. -/
def express : Express := ⟨fun now maxAge => now + maxAge ≤ 8640000000000000⟩

def daily : CookieConfig := ⟨"15m", "7d", false⟩

/-- The refresh token lives for a week, in other words. -/
def weekly : CookieConfig := ⟨"15m", "1w", false⟩

theorem isPlain_access : IsPlainDuration "15m" 900000 :=
  ⟨"15".toList, 'm', 60000, by decide, by decide,
    List.all_eq_true.mp (show ("15".toList.all isDigit) = true by decide), rfl, rfl⟩

theorem isPlain_refresh : IsPlainDuration "7d" 604800000 :=
  ⟨"7".toList, 'd', 86400000, by decide, by decide,
    List.all_eq_true.mp (show ("7".toList.all isDigit) = true by decide), rfl, rfl⟩

/-- The owner logs in. -/
def loginAnswer : Except RouteError Unit × Database × List (Cookies.SetCookie Bytes) :=
  AuthController.respond express 0 weekly []
    (shop.alone (AuthController.tokens crypto longLived morning (.login ⟨"owner@corner.example", utf8 "open sesame"⟩)) ownerOnly)

end SmallShop

theorem lifetimesAgree_daily : LifetimesAgree SmallShop.express 0 SmallShop.daily :=
  (lifetimesAgree_iff ⟨by decide, by decide⟩).mpr
    ⟨⟨900000, SmallShop.isPlain_access, rfl⟩, 604800000, SmallShop.isPlain_refresh, rfl⟩

/-- With a lifetime of one week the token is signed and its hash stored; then the login fails, with one cookie set. -/
theorem not_lifetimesAgree :
    SmallShop.weekly.Signs ∧ SmallShop.longLived.Reads SmallShop.weekly ∧
      SmallShop.loginAnswer.1 = .error (unrecognizedDuration "1w") ∧
      SmallShop.loginAnswer.2.2.map Cookies.SetCookie.name = [ACCESS_TOKEN_COOKIE] ∧
      SmallShop.loginAnswer.2.1.refreshTokenHashOf 9 ≠ SmallShop.ownerOnly.refreshTokenHashOf 9 ∧
      ¬ LifetimesAgree SmallShop.express 0 SmallShop.weekly := by
  have reads : SmallShop.longLived.Reads SmallShop.weekly := ⟨by decide, by decide⟩
  have fails : SmallShop.loginAnswer.1 = .error (unrecognizedDuration "1w") := by decide +kernel
  have partly : SmallShop.loginAnswer.2.2.map Cookies.SetCookie.name = [ACCESS_TOKEN_COOKIE] := by decide +kernel
  refine ⟨⟨by decide, by decide⟩, reads, fails, partly, by decide +kernel, fun agree => ?_⟩
  obtain ⟨-, noCookies⟩ := agree.clean SmallShop.crypto SmallShop.longLived SmallShop.morning (.login ⟨"owner@corner.example", utf8 "open sesame"⟩) []
    SmallShop.ownerOnly _ SmallShop.loginAnswer.2.1 SmallShop.loginAnswer.2.2 reads (Prod.ext fails rfl)
  rw [noCookies] at partly
  cases partly

end StoreSaas
