import StoreSaas.Services.Guards
import StoreSaas.Verified.AuthMethods
import StoreSaas.Verified.References

/-! # Who is let in

`login` keeps out the users of a suspended store, and staff beyond the plan's limit.
`refresh` looks at the stored hash alone, and on its public route the global guards see
no user to check.  Tokens therefore go to admitted users alone exactly on the requests
that `Screened` describes (`issuesToAdmitted_iff_screened`).
-/

namespace StoreSaas

/-- The store of the user is open to them. -/
structure Database.Admits (db : Database) (user : User) : Prop where
  notSuspended : ∀ store, user.storeId.bind db.stores.find = some store → store.isSuspended = false
  staffFits : user.role = .staff → ∀ store, user.storeId.bind db.stores.find = some store →
    db.staffCount store.id ≤ (((db.subscriptionOf store.id).map Subscription.plan).getD .free).maxStaff

inductive SessionRequest where
  | login (dto : LoginDto)
  | refresh (token : SignedToken)

section

variable (crypto : Crypto) (config : AuthConfig) (env : AuthEnvironment) (access : Except ApiError AuthenticatedUser)

namespace SessionRequest

def handler : SessionRequest → Tx TokenPair
  | .login dto => AuthController.postLogin crypto config env access dto
  | .refresh token => AuthController.postRefresh crypto config env access token

/-- The user whose session a request asks for. -/
def user (db : Database) : SessionRequest → Option User
  | .login dto => db.users.rows.find? fun row => row.email = dto.email
  | .refresh token => db.users.find token.payload.sub

def served (request : SessionRequest) (db : Database) : Except ApiError TokenPair × Database :=
  shop.alone (request.handler crypto config env access).autocommit db

/-- If the request is answered with tokens, its user is one whom the store admits. -/
def IssuesToAdmitted (request : SessionRequest) (db : Database) : Prop :=
  ∀ tokens, (request.served crypto config env access db).1 = .ok tokens →
    ∃ user, request.user db = some user ∧ db.Admits user

/-- The token has not expired and matches the hash stored for its user. -/
def accepts (token : SignedToken) (db : Database) : Bool :=
  !token.isExpired config env.now &&
    (db.refreshTokenHashOf token.payload.sub).any (crypto.bcryptCompare (token.text crypto config))

/-- A login, or a refresh that is either turned down or for a user whom the store admits. -/
def Screened (db : Database) : SessionRequest → Prop
  | .login _ => True
  | .refresh token => accepts crypto config env token db = true →
      ∃ user, db.users.find token.payload.sub = some user ∧ db.Admits user

end SessionRequest

end

/-! ## The gates of `login` -/

section

variable {crypto : Crypto} {config : AuthConfig} {env : AuthEnvironment} {access : Except ApiError AuthenticatedUser}
  {db : Database}

theorem ensures_assertStaffAdmitted (row : LoginRow) :
    Program.Ensures shop.executeOn (AuthService.assertStaffAdmitted row) db fun _ after =>
      after = db ∧ ∀ store subscription, row.store = some (store, subscription) → row.user.role = .staff →
        db.staffCount store.id ≤ ((subscription.map Subscription.plan).getD .free).maxStaff := by
  obtain ⟨user, loaded⟩ := row
  cases loaded with
  | none => exact Program.ensures_done ⟨rfl, fun _ _ isStore => nomatch isStore⟩
  | some loaded =>
    obtain ⟨store, subscription⟩ := loaded
    simp only [AuthService.assertStaffAdmitted]
    split
    next isStaff =>
      refine Program.ensures_perform_bind fun staffCount after ran => ?_
      cases ran
      split
      next => exact Program.ensures_throw
      next fits =>
        refine Program.ensures_done ⟨rfl, fun other plan isStore _ => ?_⟩
        cases isStore
        exact Nat.le_of_not_gt fits
    next notStaff => exact Program.ensures_done ⟨rfl, fun _ _ _ isStaff => absurd isStaff notStaff⟩

theorem ensures_login (dto : LoginDto) :
    Program.Ensures shop.executeOn (AuthService.login crypto config env dto) db fun _ _ =>
      ∃ user, (db.users.rows.find? fun row => row.email = dto.email) = some user ∧ db.Admits user := by
  refine Program.ensures_perform_bind fun found after ran => ?_
  cases ran
  cases isUser : db.users.rows.find? fun row => row.email = dto.email with
  | none => exact Program.ensures_throw
  | some user =>
    simp only [Option.map_some]
    split
    next => exact Program.ensures_throw
    next =>
      split
      next => exact Program.ensures_throw
      next isOpen =>
        refine (ensures_assertStaffAdmitted (db.loadStore user)).bind fun _ after fits => ?_
        have admits : db.Admits user := by
          refine ⟨fun store isStore => ?_, fun isStaff store isStore => ?_⟩
          · rw [Database.loadStore, isStore] at isOpen
            simpa using isOpen
          · refine fits.2 store (db.subscriptionOf store.id) ?_ isStaff
            rw [Database.loadStore, isStore]
            rfl
        exact fun _ _ _ => ⟨user, rfl, admits⟩

/-- A refresh is answered with tokens exactly if its token is accepted. -/
theorem refresh_issues_iff (token : SignedToken) :
    (∃ tokens, (SessionRequest.served crypto config env access (.refresh token) db).1 = .ok tokens) ↔
      SessionRequest.accepts crypto config env token db = true := by
  have served : SessionRequest.served crypto config env access (.refresh token) db =
      (AuthController.refresh crypto config env token).runWith shop.executeOn db := Engine.alone_autocommit _ _ _
  rw [served, SessionRequest.accepts, AuthController.refresh]
  cases expired : token.isExpired config env.now with
  | true =>
    rw [if_pos rfl]
    exact iff_of_false (fun ⟨_, isOk⟩ => nomatch isOk) Bool.false_ne_true
  | false =>
    rw [if_neg Bool.false_ne_true, Bool.not_false, Bool.true_and]
    dsimp only [JwtRefreshStrategy.validate]
    rcases AuthService.runWith_refresh crypto config env token.payload.sub (token.text crypto config) db with
      ⟨error, ran, differs⟩ | ⟨user, hash, found, stored, matching, ran⟩
    · rw [ran]
      refine iff_of_false (fun ⟨_, isOk⟩ => nomatch isOk) fun matching => ?_
      obtain ⟨hash, stored, isMatch⟩ := (Option.any_eq_true _ _).mp matching
      rw [differs hash stored] at isMatch
      cases isMatch
    · obtain ⟨accessToken, issued⟩ := AuthService.runWith_issueTokens crypto config env user db
      rw [ran, issued]
      refine iff_of_true ⟨_, rfl⟩ ?_
      rw [Database.refreshTokenHashOf, found, Option.bind_some, stored]
      exact matching

/-- Tokens go to an admitted user alone exactly if the request is screened. -/
theorem issuesToAdmitted_iff_screened (request : SessionRequest) :
    request.IssuesToAdmitted crypto config env access db ↔ request.Screened crypto config env db := by
  cases request with
  | login dto =>
    refine iff_of_true (fun tokens issued => ?_) trivial
    have served : SessionRequest.served crypto config env access (.login dto) db =
        (AuthService.login crypto config env dto).runWith shop.executeOn db := Engine.alone_autocommit _ _ _
    rw [served] at issued
    exact ensures_login dto tokens _ (Prod.ext issued rfl)
  | refresh token =>
    constructor
    · intro admitted accepted
      obtain ⟨tokens, issued⟩ := (refresh_issues_iff token).mpr accepted
      exact admitted tokens issued
    · intro screened tokens issued
      exact screened ((refresh_issues_iff token).mp ⟨tokens, issued⟩)

end

/-! ## A small shop that is suspended -/

namespace SmallShop

/-- The store was suspended while its owner had a session. -/
def suspended : Database :=
  { Database.empty with
    stores := ⟨[{ store with isSuspended := true }], List.nodup_singleton _⟩
    users := ⟨[signedIn], List.nodup_singleton _⟩ }

theorem not_admits : ¬ suspended.Admits signedIn := by
  intro admits
  cases admits.notSuspended { store with isSuspended := true } (by decide)

end SmallShop

/-- The owner of a suspended store is not logged in, but their session is refreshed. -/
theorem not_issuesToAdmitted :
    ¬ ∀ (crypto : Crypto) (config : AuthConfig) (env : AuthEnvironment) (access : Except ApiError AuthenticatedUser)
      (db : Database) (request : SessionRequest), request.IssuesToAdmitted crypto config env access db := by
  intro issuesToAdmitted
  have accepted : SessionRequest.accepts SmallShop.credulous SmallShop.longLived SmallShop.morning
      SmallShop.sessionToken SmallShop.suspended = true := by decide +kernel
  obtain ⟨tokens, issued⟩ := (refresh_issues_iff SmallShop.sessionToken).mpr accepted
  obtain ⟨user, isUser, admits⟩ := issuesToAdmitted SmallShop.credulous SmallShop.longLived SmallShop.morning
    (.error (.unauthorized "Unauthorized")) SmallShop.suspended (.refresh SmallShop.sessionToken) tokens issued
  cases isUser
  exact SmallShop.not_admits admits

end StoreSaas
