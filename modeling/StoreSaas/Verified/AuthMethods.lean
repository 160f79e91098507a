import StoreSaas.Library.Sequential
import StoreSaas.Services.AuthService

/-! # The methods of `AuthService`, run alone

What each method returns and what it does to the stored hashes of refresh tokens.
-/

namespace StoreSaas

/-! ## Users under an update -/

namespace Database

def updateUser (db : Database) (id : Uuid) (changes : UserChanges) : Database :=
  match db.users.find id with
  | none => db
  | some row => db.write (.user (.put (changes.applyTo row)))

def refreshTokenHashOf (db : Database) (userId : Uuid) : Option Bytes :=
  (db.users.find userId).bind User.refreshTokenHash

theorem executeOn_updateUser (db : Database) (id : Uuid) (changes : UserChanges) :
    shop.executeOn (.user (.update id changes)) db = (.ok (), db.updateUser id changes) := by
  simp only [Engine.executeOn, shop, Statement.execute, UserStatement.execute, updateUser]
  cases db.users.find id <;> rfl

theorem refreshTokenHashOf_updateUser {db : Database} {id : Uuid} {changes : UserChanges} (userId : Uuid) :
    (db.updateUser id changes).refreshTokenHashOf userId =
      if userId = id then (db.users.find id).bind fun row => changes.refreshTokenHash.getD row.refreshTokenHash
      else db.refreshTokenHashOf userId := by
  simp only [updateUser, refreshTokenHashOf]
  cases found : db.users.find id with
  | none =>
    by_cases same : userId = id
    · rw [if_pos same, same, found]
      rfl
    · rw [if_neg same]
  | some row =>
    have keyIs : row.id = id := Table.key_of_find found
    simp only [write, Table.write]
    rw [Table.find_put]
    have keeps : (changes.applyTo row).id = row.id := rfl
    rw [keeps, keyIs]
    by_cases same : userId = id
    · rw [if_pos same, if_pos same]
      rfl
    · rw [if_neg same, if_neg same]

end Database

/-! ## What the methods do -/

namespace AuthService

variable (crypto : Crypto) (config : AuthConfig) (env : AuthEnvironment)

/-- The refresh token of a call to `issueTokens`. -/
def issuedToken (user : User) : SignedToken := ⟨user.jwtPayload, env.now / 1000⟩

theorem runWith_issueTokens (user : User) (db : Database) :
    ∃ accessToken, (issueTokens crypto config env user).runWith shop.executeOn db =
      (.ok ⟨accessToken, (issuedToken env user).text crypto config⟩,
        db.updateUser user.id { UserChanges.nothing with
          refreshTokenHash := some (some (crypto.bcryptHash env.salt ((issuedToken env user).text crypto config))) }) :=
  ⟨_, Program.runWith_perform_ok shop.executeOn (Database.executeOn_updateUser db user.id _)⟩

theorem runWith_assertStaffAdmitted (row : LoginRow) (db : Database) :
    (∃ error, (assertStaffAdmitted row).runWith shop.executeOn db = (.error error, db)) ∨
      (assertStaffAdmitted row).runWith shop.executeOn db = (.ok (), db) := by
  obtain ⟨user, store⟩ := row
  match store with
  | none => exact .inr rfl
  | some (store, subscription) =>
    by_cases isStaff : user.role = .staff
    · let staffCount := (db.users.rows.filter fun row => row.storeId = some store.id ∧ row.role = .staff).length
      have counted : shop.executeOn (.user (.count store.id .staff)) db = (.ok staffCount, db) := rfl
      have start : (assertStaffAdmitted ⟨user, some (store, subscription)⟩).runWith shop.executeOn db =
          Program.runWith shop.executeOn
            (if staffCount > ((subscription.map Subscription.plan).getD .free).maxStaff then Tx.raise staffLimitExceeded
              else return ()) db := by
        simp only [assertStaffAdmitted, if_pos isStaff]
        exact Program.runWith_perform_ok shop.executeOn counted
      rw [start]
      split
      next => exact .inl ⟨_, rfl⟩
      next => exact .inr rfl
    · simp only [assertStaffAdmitted, if_neg isStaff]
      exact .inr rfl

/-- A login fails and changes nothing, or issues tokens to the user with the email address. -/
theorem runWith_login (dto : LoginDto) (db : Database) :
    (∃ error, (login crypto config env dto).runWith shop.executeOn db = (.error error, db)) ∨
    ∃ user, (db.users.rows.find? fun row => row.email = dto.email) = some user ∧
      (login crypto config env dto).runWith shop.executeOn db =
        (issueTokens crypto config env user).runWith shop.executeOn db := by
  have selected : shop.executeOn (.user (.findForLogin dto.email)) db =
      (.ok ((db.users.rows.find? fun row => row.email = dto.email).map db.loadStore), db) := rfl
  have start : (login crypto config env dto).runWith shop.executeOn db = _ :=
    Program.runWith_perform_ok shop.executeOn selected
  rw [start]
  cases found : db.users.rows.find? fun row => row.email = dto.email with
  | none => exact .inl ⟨_, rfl⟩
  | some user =>
    simp only [Option.map_some]
    split
    next => exact .inl ⟨_, rfl⟩
    next =>
      split
      next => exact .inl ⟨_, rfl⟩
      next =>
        rw [Program.runWith_bind]
        rcases runWith_assertStaffAdmitted (db.loadStore user) db with ⟨error, ran⟩ | ran
        · exact .inl ⟨error, by rw [ran]; rfl⟩
        · exact .inr ⟨user, rfl, by rw [ran]; rfl⟩

/-- A refresh fails and changes nothing, or the stored hash matches and tokens are issued. -/
theorem runWith_refresh (userId : Uuid) (presented : Bytes) (db : Database) :
    (∃ error, (refresh crypto config env userId presented).runWith shop.executeOn db = (.error error, db) ∧
      ∀ hash, db.refreshTokenHashOf userId = some hash → crypto.bcryptCompare presented hash = false) ∨
    ∃ user hash, db.users.find userId = some user ∧ user.refreshTokenHash = some hash ∧
      crypto.bcryptCompare presented hash = true ∧
      (refresh crypto config env userId presented).runWith shop.executeOn db =
        (issueTokens crypto config env user).runWith shop.executeOn db := by
  have selected : shop.executeOn (.user (.findById userId)) db = (.ok (db.users.find userId), db) := rfl
  have start : (refresh crypto config env userId presented).runWith shop.executeOn db = _ :=
    Program.runWith_perform_ok shop.executeOn selected
  rw [start]
  unfold Database.refreshTokenHashOf
  cases db.users.find userId with
  | none => exact .inl ⟨_, rfl, fun _ stored => nomatch stored⟩
  | some user =>
    cases stored : user.refreshTokenHash with
    | none =>
      simp only [Option.bind_some, stored, Option.map_none]
      exact .inl ⟨_, rfl, fun _ isHash => nomatch isHash⟩
    | some hash =>
      simp only [Option.bind_some, stored, Option.map_some]
      cases matching : crypto.bcryptCompare presented hash with
      | false => exact .inl ⟨_, rfl, fun other isHash => by cases isHash; exact matching⟩
      | true => exact .inr ⟨user, hash, rfl, stored, matching, rfl⟩

theorem runWith_logout (userId : Uuid) (db : Database) :
    (logout userId).runWith shop.executeOn db =
      (.ok (), db.updateUser userId { UserChanges.nothing with refreshTokenHash := some none }) :=
  (Program.runWith_perform shop.executeOn _ db).trans (Database.executeOn_updateUser db userId _)

/-- Asking for a reset sets the columns of the reset at most. -/
theorem runWith_requestPasswordReset (dto : RequestPasswordResetDto) (db : Database) :
    ∃ after, (requestPasswordReset crypto config env dto).runWith shop.executeOn db = (.ok (), after) ∧
      (after = db ∨ ∃ userId tokenHash expiresAt, after = db.updateUser userId ⟨none, none, tokenHash, expiresAt⟩) := by
  have selected : shop.executeOn (.user (.findByEmail dto.email)) db =
      (.ok (db.users.rows.find? fun row => row.email = dto.email), db) := rfl
  have start : (requestPasswordReset crypto config env dto).runWith shop.executeOn db = _ :=
    Program.runWith_perform_ok shop.executeOn selected
  rw [start]
  cases db.users.rows.find? fun row => row.email = dto.email with
  | none => exact ⟨db, rfl, .inl rfl⟩
  | some user =>
    have marked := Database.executeOn_updateUser db user.id { UserChanges.nothing with
      passwordResetTokenHash := some (some (hashResetToken crypto (utf8 env.rawResetToken)))
      passwordResetExpiresAt := some (some (env.now + resetTokenTtl)) }
    exact ⟨db.updateUser user.id _, (Program.runWith_perform_ok shop.executeOn marked).trans rfl,
      .inr ⟨user.id, _, _, rfl⟩⟩

theorem refreshTokenHashOf_of_reset {db after : Database}
    (asked : after = db ∨ ∃ userId tokenHash expiresAt, after = db.updateUser userId ⟨none, none, tokenHash, expiresAt⟩)
    (userId : Uuid) : after.refreshTokenHashOf userId = db.refreshTokenHashOf userId := by
  obtain rfl | ⟨asker, tokenHash, expiresAt, rfl⟩ := asked
  · rfl
  · rw [Database.refreshTokenHashOf_updateUser]
    split
    next same => rw [same]; rfl
    next => rfl

/-- A reset fails and changes nothing, or clears the stored hash of the user with the reset token. -/
theorem runWith_resetPassword (dto : ResetPasswordDto) (db : Database) :
    (∃ error, (resetPassword crypto env dto).runWith shop.executeOn db = (.error error, db)) ∨
    ∃ user passwordHash,
      (db.users.rows.find? fun row => row.passwordResetTokenHash = some (hashResetToken crypto dto.token)) = some user ∧
      (resetPassword crypto env dto).runWith shop.executeOn db =
        (.ok (), db.updateUser user.id ⟨some passwordHash, some none, some none, some none⟩) := by
  have selected : shop.executeOn (.user (.findByResetTokenHash (hashResetToken crypto dto.token))) db =
      (.ok (db.users.rows.find? fun row => row.passwordResetTokenHash = some (hashResetToken crypto dto.token)), db) :=
    rfl
  have start : (resetPassword crypto env dto).runWith shop.executeOn db = _ :=
    Program.runWith_perform_ok shop.executeOn selected
  rw [start]
  cases db.users.rows.find? fun row => row.passwordResetTokenHash = some (hashResetToken crypto dto.token) with
  | none => exact .inl ⟨_, rfl⟩
  | some user =>
    cases expires : user.passwordResetExpiresAt with
    | none =>
      simp only [Option.bind_some, expires, Option.map_none]
      exact .inl ⟨_, rfl⟩
    | some expiresAt =>
      simp only [Option.bind_some, expires, Option.map_some]
      split
      next => exact .inl ⟨_, rfl⟩
      next =>
        exact .inr ⟨user, crypto.bcryptHash env.salt dto.newPassword, rfl,
          Program.runWith_perform_ok shop.executeOn (Database.executeOn_updateUser db user.id _)⟩

end AuthService

namespace SmallShop

/-- A `bcrypt` that keeps the bytes it looks at, and no other cryptography. -/
def crypto : Crypto :=
  ⟨fun _ password => password.take 72, fun password hash => password.take 72 == hash, fun _ _ => [], id⟩

/-- A `bcrypt` that accepts everything. -/
def credulous : Crypto := ⟨fun _ _ => [], fun _ _ => true, fun _ _ => [], id⟩

def longLived : AuthConfig := ⟨utf8 "access secret", 900, utf8 "refresh secret", 604800, "https://corner.example"⟩

def morning : AuthEnvironment := ⟨0, [], ""⟩

/-- An owner with a session. -/
def signedIn : User := ⟨9, "owner@corner.example", utf8 "open sesame", .storeOwner, some 1, some [], none, none⟩

/-- The owner's account, and nobody else's. -/
def ownerOnly : Database := { Database.empty with users := .singleton signedIn }

def sessionToken : SignedToken := ⟨signedIn.jwtPayload, 0⟩

end SmallShop

end StoreSaas
