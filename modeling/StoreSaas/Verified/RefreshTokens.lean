import StoreSaas.Library.Transition
import StoreSaas.Verified.AuthMethods

/-! # Refresh tokens

`bcrypt` looks at 72 bytes of what it hashes, and the first 73 bytes of a refresh token
are the same for all tokens of a user: the header, the dot and the beginning of the
claims set, which starts with the user's id (`SignedToken.text_take`).  The stored
hash therefore tells whether the user has a live token, not which one it is.

`live` is kept beside the database for the statements: the token most recently issued
to a user, until a logout or a password reset.
-/

namespace StoreSaas

/-! ## The first bytes of a token -/

theorem length_le_utf8 (text : String) : text.toList.length ≤ (utf8 text).length := by
  unfold utf8
  induction text.toList with
  | nil => exact Nat.le_refl _
  | cons letter rest ih =>
    have present : 0 < letter.utf8Size := letter.utf8Size_pos
    rw [List.flatMap_cons, List.length_append, String.length_utf8EncodeChar, List.length_cons]
    omega

namespace SignedToken

variable (crypto : Crypto) (config : AuthConfig)

theorem le_jsonHead (payload : JwtPayload) : 27 ≤ (utf8 payload.jsonHead).length := by
  have head : ("\x7b\"sub\":\"").toList.length = 8 := by decide
  refine Nat.le_trans ?_ (length_le_utf8 _)
  rw [JwtPayload.jsonHead, String.toList_append, List.length_append, head, Uuid.text, String.toList_ofList,
    Uuid.length_chars]
  omega

/-- What all tokens of a user start with: the header, a dot, and nine groups of the claims set. -/
def front (payload : JwtPayload) : Bytes :=
  Base64Url.encode jwtHeader ++ (utf8 "." ++ Base64Url.encode ((utf8 payload.jsonHead).take 27))

theorem length_front (payload : JwtPayload) : (front payload).length = 73 := by
  have header : (Base64Url.encode jwtHeader).length = 36 := by decide
  have dot : (utf8 ".").length = 1 := by decide
  have groups : (Base64Url.encode ((utf8 payload.jsonHead).take 27)).length = 4 * 9 :=
    Base64Url.length_encode (by rw [List.length_take, Nat.min_eq_left (le_jsonHead payload)])
  rw [front, List.length_append, List.length_append, header, dot, groups]

theorem front_prefix (token : SignedToken) : front token.payload <+: token.text crypto config := by
  have whole : ((utf8 token.payload.jsonHead).take 27).length = 3 * 9 := by
    rw [List.length_take, Nat.min_eq_left (le_jsonHead token.payload)]
  -- The nine groups are encoded by themselves, whatever follows them.
  have claims (iat exp : Nat) : Base64Url.encode (token.payload.json iat exp) =
      Base64Url.encode ((utf8 token.payload.jsonHead).take 27) ++
        Base64Url.encode ((utf8 token.payload.jsonHead).drop 27 ++ utf8 (token.payload.jsonTail iat exp)) := by
    rw [← Base64Url.encode_append _ whole, ← List.append_assoc, List.take_append_drop]
    rfl
  simp only [text, sign, claims, front, List.append_assoc]
  rw [List.prefix_append_right_inj, List.prefix_append_right_inj]
  exact List.prefix_append _ _

/-- Two tokens of one user agree in the bytes that `bcrypt` looks at. -/
theorem text_take {token other : SignedToken} (same : token.payload.sub = other.payload.sub) :
    (token.text crypto config).take 72 = (other.text crypto config).take 72 := by
  obtain ⟨rest, isText⟩ := token.front_prefix crypto config
  obtain ⟨otherRest, isOther⟩ := other.front_prefix crypto config
  have sameFront : front token.payload = front other.payload := by
    simp only [front, JwtPayload.jsonHead, same]
  have within (payload : JwtPayload) : 72 ≤ (front payload).length := by rw [length_front]; omega
  rw [← isText, ← isOther, List.take_append_of_le_length (within _), List.take_append_of_le_length (within _),
    sameFront]

end SignedToken

/-- What `bcrypt` documents: it looks at the first 72 bytes. -/
def Crypto.Truncates (crypto : Crypto) : Prop :=
  ∀ salt stored presented, crypto.bcryptCompare presented (crypto.bcryptHash salt stored) = true ↔
    presented.take 72 = stored.take 72

/-! ## Calls and states -/

inductive AuthCall where
  | login (dto : LoginDto)
  | refresh (token : SignedToken)
  | logout (userId : Uuid)
  | requestPasswordReset (dto : RequestPasswordResetDto)
  | resetPassword (dto : ResetPasswordDto)

/-- The database, and beside it every user's live token: the one most recently issued, until a logout
    or a password reset. -/
structure AuthState where
  db : Database
  live : Uuid → Option Bytes

structure AuthAction where
  env : AuthEnvironment
  call : AuthCall

section

variable (crypto : Crypto) (config : AuthConfig)

namespace AuthCall

/-- The call, with the tokens it hands out. -/
def handler (env : AuthEnvironment) : AuthCall → Tx (Option TokenPair)
  | .login dto => do return some (← AuthService.login crypto config env dto)
  | .refresh token => do return some (← AuthController.refresh crypto config env token)
  | .logout userId => do
    AuthService.logout userId
    return none
  | .requestPasswordReset dto => do
    AuthService.requestPasswordReset crypto config env dto
    return none
  | .resetPassword dto => do
    AuthService.resetPassword crypto env dto
    return none

/-- The user whose session a call is about. -/
def subject (db : Database) : AuthCall → Option Uuid
  | .login dto => (db.users.rows.find? fun row => row.email = dto.email).map User.id
  | .refresh token => some token.payload.sub
  | .logout userId => some userId
  | .requestPasswordReset _ => none
  | .resetPassword dto =>
    (db.users.rows.find? fun row =>
      row.passwordResetTokenHash = some (AuthService.hashResetToken crypto dto.token)).map User.id

end AuthCall

namespace AuthAction

def served (action : AuthAction) (db : Database) : Except ApiError (Option TokenPair) × Database :=
  shop.alone (action.call.handler crypto config action.env).autocommit db

/-- A call that goes through leaves its user with the refresh token it hands out, or with none. -/
def result (action : AuthAction) (state : AuthState) : AuthState where
  db := (action.served crypto config state.db).2
  live userId :=
    match (action.served crypto config state.db).1 with
    | .error _ => state.live userId
    | .ok tokens =>
      if action.call.subject crypto state.db = some userId then tokens.map TokenPair.refreshToken
      else state.live userId

def Steps (source : AuthState) (action : AuthAction) (target : AuthState) : Prop :=
  target = action.result crypto config source

/-- A refresh with a token that has not expired goes through if and only if the token is its user's live one. -/
def RefreshesLive (source : AuthState) (action : AuthAction) : Prop :=
  ∀ token, action.call = .refresh token → token.isExpired config action.env.now = false →
    ((action.served crypto config source.db).1.isOk = true ↔
      source.live token.payload.sub = some (token.text crypto config))

/-- No token is presented that has not expired while another token of its user is live. -/
def PresentsLive (source : AuthState) (action : AuthAction) : Prop :=
  ∀ token, action.call = .refresh token → token.isExpired config action.env.now = false →
    source.live token.payload.sub = none ∨ source.live token.payload.sub = some (token.text crypto config)

end AuthAction

/-- What the database stores for a user with or without a live token. -/
inductive StoredFor (userId : Uuid) : Option Bytes → Option Bytes → Prop where
  | signedOut : StoredFor userId none none
  | signedIn (salt : Bytes) (token : SignedToken) (isUser : token.payload.sub = userId) :
    StoredFor userId (some (token.text crypto config)) (some (crypto.bcryptHash salt (token.text crypto config)))

def AuthState.Tracks (state : AuthState) : Prop :=
  ∀ userId, StoredFor crypto config userId (state.live userId) (state.db.refreshTokenHashOf userId)

/-! ## One call -/

variable {crypto config} {state : AuthState}

namespace AuthAction

variable {action : AuthAction}

theorem served_eq (action : AuthAction) (db : Database) :
    action.served crypto config db = (action.call.handler crypto config action.env).runWith shop.executeOn db :=
  Engine.alone_autocommit shop _ db

theorem tracks_of_error {error : ApiError} (tracks : state.Tracks crypto config)
    (served : action.served crypto config state.db = (.error error, state.db)) :
    (action.result crypto config state).Tracks crypto config := by
  intro userId
  simp only [result, served]
  exact tracks userId

theorem tracks_of_ok {tokens : Option TokenPair} {after : Database} (tracks : state.Tracks crypto config)
    (served : action.served crypto config state.db = (.ok tokens, after))
    (others : ∀ userId, action.call.subject crypto state.db ≠ some userId →
      after.refreshTokenHashOf userId = state.db.refreshTokenHashOf userId)
    (subject : ∀ userId, action.call.subject crypto state.db = some userId →
      StoredFor crypto config userId (tokens.map TokenPair.refreshToken) (after.refreshTokenHashOf userId)) :
    (action.result crypto config state).Tracks crypto config := by
  intro userId
  simp only [result, served]
  by_cases isSubject : action.call.subject crypto state.db = some userId
  · rw [if_pos isSubject]
    exact subject userId isSubject
  · rw [if_neg isSubject, others userId isSubject]
    exact tracks userId

/-- Issuing tokens to a user stores the hash of the new refresh token. -/
theorem tracks_of_issue {user : User} (tracks : state.Tracks crypto config)
    (stored : state.db.users.find user.id = some user)
    (isSubject : action.call.subject crypto state.db = some user.id)
    (served : action.served crypto config state.db =
      (AuthService.issueTokens crypto config action.env user >>= fun tokens => pure (some tokens)).runWith
        shop.executeOn state.db) :
    (action.result crypto config state).Tracks crypto config := by
  obtain ⟨accessToken, issued⟩ := AuthService.runWith_issueTokens crypto config action.env user state.db
  have ended := served.trans (Program.runWith_bind_ok shop.executeOn issued)
  refine tracks_of_ok tracks ended (fun userId differs => ?_) fun userId same => ?_
  · rw [Database.refreshTokenHashOf_updateUser, if_neg]
    rintro rfl
    exact differs isSubject
  · have isUser : user.id = userId := Option.some.inj (isSubject.symm.trans same)
    subst isUser
    rw [Database.refreshTokenHashOf_updateUser, if_pos rfl, stored]
    exact .signedIn action.env.salt (AuthService.issuedToken action.env user) rfl

/-- Clearing a user's stored hash goes with ending the session. -/
theorem tracks_of_clear {userId : Uuid} {changes : UserChanges} (tracks : state.Tracks crypto config)
    (clears : changes.refreshTokenHash = some none)
    (isSubject : action.call.subject crypto state.db = some userId)
    (served : action.served crypto config state.db = (.ok none, state.db.updateUser userId changes)) :
    (action.result crypto config state).Tracks crypto config := by
  refine tracks_of_ok tracks served (fun other differs => ?_) fun other same => ?_
  · rw [Database.refreshTokenHashOf_updateUser, if_neg]
    rintro rfl
    exact differs isSubject
  · have isUser : userId = other := Option.some.inj (isSubject.symm.trans same)
    subst isUser
    rw [Database.refreshTokenHashOf_updateUser, if_pos rfl, clears]
    cases state.db.users.find userId <;> exact .signedOut

/-- A refresh fails and changes nothing, or issues tokens to the user it names. -/
theorem served_refresh (env : AuthEnvironment) (token : SignedToken) (db : Database) :
    (∃ error, served crypto config ⟨env, .refresh token⟩ db = (.error error, db) ∧
      (token.isExpired config env.now = false → ∀ hash, db.refreshTokenHashOf token.payload.sub = some hash →
        crypto.bcryptCompare (token.text crypto config) hash = false)) ∨
    ∃ user hash, db.users.find token.payload.sub = some user ∧ user.refreshTokenHash = some hash ∧
      crypto.bcryptCompare (token.text crypto config) hash = true ∧
      served crypto config ⟨env, .refresh token⟩ db =
        (AuthService.issueTokens crypto config env user >>= fun tokens => pure (some tokens)).runWith
          shop.executeOn db := by
  rw [served_eq]
  change (∃ error, (AuthController.refresh crypto config env token >>= _).runWith _ _ = _ ∧ _) ∨
    ∃ user hash, _ ∧ _ ∧ _ ∧ (AuthController.refresh crypto config env token >>= _).runWith _ _ = _
  rw [Program.runWith_bind]
  cases expired : token.isExpired config env.now with
  | true => exact .inl ⟨_, by rw [AuthController.refresh, if_pos expired]; rfl, fun isFalse => nomatch isFalse⟩
  | false =>
    have behind : AuthController.refresh crypto config env token =
        AuthService.refresh crypto config env token.payload.sub (token.text crypto config) := by
      rw [AuthController.refresh, if_neg (by rw [expired]; exact Bool.false_ne_true)]
      rfl
    rw [behind]
    rcases AuthService.runWith_refresh crypto config env token.payload.sub (token.text crypto config) db with
      ⟨error, ran, rejects⟩ | ⟨user, hash, found, stored, accepts, ran⟩
    · exact .inl ⟨error, by rw [ran]; rfl, fun _ => rejects⟩
    · exact .inr ⟨user, hash, found, stored, accepts, by rw [ran, Program.runWith_bind]⟩

theorem tracks_result (action : AuthAction) (tracks : state.Tracks crypto config) :
    (action.result crypto config state).Tracks crypto config := by
  obtain ⟨env, call⟩ := action
  cases call with
  | login dto =>
    rcases AuthService.runWith_login crypto config env dto state.db with ⟨error, ran⟩ | ⟨user, found, ran⟩
    · have failed : served crypto config ⟨env, .login dto⟩ state.db = (.error error, state.db) := by
        rw [served_eq]
        change (AuthService.login crypto config env dto >>= _).runWith _ _ = _
        rw [Program.runWith_bind, ran]
        rfl
      exact tracks_of_error tracks failed
    -- a login issues to the user that it has found
    · have stored := Table.find_of_mem (List.mem_of_find?_eq_some found)
      refine tracks_of_issue tracks stored (by rw [AuthCall.subject, found]; rfl) ?_
      rw [served_eq]
      change (AuthService.login crypto config env dto >>= _).runWith _ _ = _
      rw [Program.runWith_bind, ran, ← Program.runWith_bind]
  | refresh token =>
    rcases served_refresh env token state.db with
      ⟨error, failed, -⟩ | ⟨user, hash, found, -, -, issues⟩
    · exact tracks_of_error tracks failed
    · have isUser : user.id = token.payload.sub := Table.key_of_find found
      exact tracks_of_issue tracks (isUser ▸ found) (congrArg some isUser.symm) issues
  | logout userId =>
    -- the session ends: nothing is stored that could be tracked
    have cleared : served crypto config ⟨env, .logout userId⟩ state.db =
        (.ok none, state.db.updateUser userId { UserChanges.nothing with refreshTokenHash := some none }) := by
      rw [served_eq]
      exact Program.runWith_bind_ok shop.executeOn (AuthService.runWith_logout userId state.db)
    exact tracks_of_clear tracks rfl rfl cleared
  | requestPasswordReset dto =>
    obtain ⟨after, ran, same⟩ := AuthService.runWith_requestPasswordReset crypto config env dto state.db
    have asked : served crypto config ⟨env, .requestPasswordReset dto⟩ state.db = (.ok none, after) := by
      rw [served_eq]
      exact Program.runWith_bind_ok shop.executeOn ran
    exact tracks_of_ok tracks asked (fun userId _ => AuthService.refreshTokenHashOf_of_reset same userId)
      fun userId isSubject => nomatch isSubject
  | resetPassword dto =>
    rcases AuthService.runWith_resetPassword crypto env dto state.db with ⟨error, ran⟩ | ⟨user, hash, found, ran⟩
    · have failed : served crypto config ⟨env, .resetPassword dto⟩ state.db = (.error error, state.db) := by
        rw [served_eq]
        change (AuthService.resetPassword crypto env dto >>= _).runWith _ _ = _
        rw [Program.runWith_bind, ran]
        rfl
      exact tracks_of_error tracks failed
    · have isSubject : (AuthCall.resetPassword dto).subject crypto state.db = some user.id := by
        rw [AuthCall.subject, found]
        rfl
      have cleared : served crypto config ⟨env, .resetPassword dto⟩ state.db =
          (.ok none, state.db.updateUser user.id ⟨some hash, some none, some none, some none⟩) := by
        rw [served_eq]
        exact Program.runWith_bind_ok shop.executeOn ran
      exact tracks_of_clear tracks rfl isSubject cleared

/-- A token that has not expired is accepted as soon as its user has a live token, whichever it is. -/
theorem accepts_iff {env : AuthEnvironment} {token : SignedToken} (truncates : crypto.Truncates)
    (tracks : state.Tracks crypto config) (unexpired : token.isExpired config env.now = false) :
    (served crypto config ⟨env, .refresh token⟩ state.db).1.isOk = true ↔
      (state.live token.payload.sub).isSome = true := by
  have stored := tracks token.payload.sub
  rcases served_refresh env token state.db with
    ⟨error, failed, rejects⟩ | ⟨user, hash, found, isHash, -, issues⟩
  · rw [failed]
    refine ⟨fun isOk => (nomatch isOk), fun isLive => ?_⟩
    generalize state.live token.payload.sub = live at stored isLive
    generalize hashIs : state.db.refreshTokenHashOf token.payload.sub = hash at stored
    cases stored with
    | signedOut => cases isLive
    | signedIn salt other isUser =>
      -- The stored hash is that of another token of the same user: the compared bytes are the same.
      have same := SignedToken.text_take crypto config isUser
      have differs := rejects unexpired _ hashIs
      rw [(truncates salt _ _).mpr same.symm] at differs
      cases differs
  · obtain ⟨accessToken, issued⟩ := AuthService.runWith_issueTokens crypto config env user state.db
    rw [issues.trans (Program.runWith_bind_ok shop.executeOn issued)]
    refine ⟨fun _ => ?_, fun _ => rfl⟩
    have hashIs : state.db.refreshTokenHashOf token.payload.sub = some hash := by
      rw [Database.refreshTokenHashOf, found]
      exact isHash
    rw [hashIs] at stored
    generalize state.live token.payload.sub = live at stored
    cases stored with
    | signedIn salt other isUser => rfl

theorem refreshesLive_iff (truncates : crypto.Truncates) (tracks : state.Tracks crypto config) :
    action.RefreshesLive crypto config state ↔ action.PresentsLive crypto config state := by
  obtain ⟨env, call⟩ := action
  refine forall_congr' fun token => forall_congr' fun isRefresh => forall_congr' fun unexpired => ?_
  have isCall : call = .refresh token := isRefresh
  subst isCall
  rw [accepts_iff truncates tracks unexpired]
  cases state.live token.payload.sub <;> simp

end AuthAction

end

/-! ## Runs -/

open Transition

/-- A run, given by its calls. -/
def authRunOf (crypto : Crypto) (config : AuthConfig) (start : AuthState) :
    List AuthAction → List (AuthAction × AuthState)
  | [] => []
  | action :: rest =>
    (action, action.result crypto config start) :: authRunOf crypto config (action.result crypto config start) rest

theorem run_authRunOf (crypto : Crypto) (config : AuthConfig) (start : AuthState) (actions : List AuthAction) :
    Run (AuthAction.Steps crypto config) start (authRunOf crypto config start actions) := by
  induction actions generalizing start with
  | nil => trivial
  | cons action rest ih => exact ⟨rfl, ih _⟩

/-- A refresh goes through exactly for the live token in exactly those runs in which no other token of a
    user is presented while one is live. -/
theorem refreshesLive_iff_presentsLive {crypto : Crypto} {config : AuthConfig} {start : AuthState}
    {run : List (AuthAction × AuthState)} (truncates : crypto.Truncates) (tracks : start.Tracks crypto config)
    (isRun : Run (AuthAction.Steps crypto config) start run) :
    EachStep (fun source action _ => action.RefreshesLive crypto config source) start run ↔
      EachStep (fun source action _ => action.PresentsLive crypto config source) start run := by
  refine eachStep_congr (fun source action _ sourceTracks _ => ?_) ?_ tracks isRun
  · exact AuthAction.refreshesLive_iff truncates sourceTracks
  · rintro source action target sourceTracks stepped
    have targetIs : target = action.result crypto config source := stepped
    exact targetIs ▸ action.tracks_result sourceTracks

namespace SmallShop

theorem truncates : crypto.Truncates := fun _ _ _ => beq_iff_eq

def config : AuthConfig := ⟨utf8 "access secret", 900, utf8 "refresh secret", 604800, "https://corner.example"⟩
def owner : User := ⟨9, "owner@corner.example", utf8 "open sesame", .storeOwner, some 1, none, none, none⟩

/-- The owner's account, nobody logged in. -/
def account : AuthState := ⟨{ Database.empty with users := ⟨[owner], List.nodup_singleton _⟩ }, fun _ => none⟩

theorem tracks : account.Tracks crypto config := by
  intro userId
  have signedOut : account.db.refreshTokenHashOf userId = none := by
    rw [Database.refreshTokenHashOf]
    cases found : account.db.users.find userId with
    | none => rfl
    | some user =>
      have present : user ∈ [owner] := Table.mem_of_find found
      rw [List.mem_singleton.mp present]
      rfl
  rw [signedOut]
  exact .signedOut

def loginAt (second : Nat) : AuthAction := ⟨⟨second * 1000, [], ""⟩, .login ⟨"owner@corner.example", utf8 "open sesame"⟩⟩
def token : SignedToken := ⟨owner.jwtPayload, 1⟩
def refreshAt (second : Nat) : AuthAction := ⟨⟨second * 1000, [], ""⟩, .refresh token⟩

end SmallShop

theorem refreshesLive_smallShop :
    EachStep (fun source action _ => action.RefreshesLive SmallShop.crypto SmallShop.config source) SmallShop.account
      (authRunOf SmallShop.crypto SmallShop.config SmallShop.account [SmallShop.loginAt 1, SmallShop.refreshAt 2]) := by
  refine (refreshesLive_iff_presentsLive SmallShop.truncates SmallShop.tracks (run_authRunOf _ _ _ _)).mpr
    ⟨fun token isRefresh => (nomatch isRefresh), fun token isRefresh _ => .inr ?_, trivial⟩
  cases isRefresh
  decide +kernel

/-- After a second login the token of the first one is still accepted. -/
theorem not_refreshesLive :
    ¬ ∀ crypto config start run, crypto.Truncates → start.Tracks crypto config →
      Run (AuthAction.Steps crypto config) start run →
      EachStep (fun source action _ => action.RefreshesLive crypto config source) start run := by
  intro effective
  have third := (effective SmallShop.crypto SmallShop.config SmallShop.account _ SmallShop.truncates SmallShop.tracks
    (run_authRunOf _ _ _ [SmallShop.loginAt 1, SmallShop.loginAt 2, SmallShop.refreshAt 3])).2.2.1
  have accepted := third SmallShop.token rfl (by decide +kernel)
  revert accepted
  decide +kernel

end StoreSaas
