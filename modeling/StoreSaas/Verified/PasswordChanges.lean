import StoreSaas.Services.Registration
import StoreSaas.Services.StoresService
import StoreSaas.Verified.RefreshTokens

/-! # Password changes end sessions

Nine calls of two services, one after the other.  Beside the database stand two clocks of
each user, the last change of the password hash and the last refresh token.  A call takes
from one tick to the next: what it changes is dated at its beginning, the token that it
hands out, always last, at its end.
-/

namespace StoreSaas

/-! ## The two columns -/

/-- The password hash and the refresh token hash of each user. -/
abbrev Secrets : Type := Uuid → Option (Bytes × Option Bytes)

namespace Database

variable {db : Database}

def secrets (db : Database) : Secrets := fun userId =>
  (db.users.find userId).map fun row => (row.passwordHash, row.refreshTokenHash)

theorem refreshTokenHashOf_eq_secrets (db : Database) (userId : Uuid) :
    db.refreshTokenHashOf userId = (db.secrets userId).bind Prod.snd := by
  simp only [refreshTokenHashOf, secrets]
  cases db.users.find userId <;> rfl

theorem secrets_put (db : Database) (row : User) :
    (db.write (.user (.put row))).secrets =
      Function.update db.secrets row.id (some (row.passwordHash, row.refreshTokenHash)) := by
  funext userId
  change ((db.users.put row).find userId).map _ = _
  by_cases same : userId = row.id
  · subst same
    rw [Table.find_put_same, Function.update_self]
    rfl
  · rw [Table.find_put_ne _ same, Function.update_of_ne same]
    rfl

theorem secrets_erase (db : Database) (id : Uuid) :
    (db.write (.user (.erase id))).secrets = Function.update db.secrets id none := by
  funext userId
  change ((db.users.erase id).find userId).map _ = _
  by_cases same : userId = id
  · subst same
    rw [Table.find_erase_same, Function.update_self]
    rfl
  · rw [Table.find_erase_ne _ same, Function.update_of_ne same]
    rfl

theorem secrets_updateUser (db : Database) (id : Uuid) (changes : UserChanges) :
    (db.updateUser id changes).secrets = Function.update db.secrets id ((db.secrets id).map fun secret =>
      (changes.passwordHash.getD secret.1, changes.refreshTokenHash.getD secret.2)) := by
  cases found : db.users.find id with
  | none =>
    have absent : db.secrets id = none := by rw [secrets, found]; rfl
    rw [updateUser, found, absent, Option.map_none, ← absent, Function.update_eq_self]
  | some row =>
    have isId : row.id = id := Table.key_of_find found
    have present : db.secrets id = some (row.passwordHash, row.refreshTokenHash) := by rw [secrets, found]; rfl
    rw [updateUser, found, present]
    refine (secrets_put db (changes.applyTo row)).trans ?_
    rw [show (changes.applyTo row).id = id from isId]
    rfl

end Database

/-! ## Calls and states -/

inductive SessionCall where
  | auth (call : AuthCall)
  | register (dto : RegisterDto)
  | inviteStaff (storeId : Uuid) (dto : InviteStaffDto)
  | updateStaff (storeId : Uuid) (staffId : RouteId) (dto : UpdateStaffDto)
  | removeStaff (storeId : Uuid) (staffId : RouteId)

structure SessionAction where
  auth : AuthEnvironment
  env : Environment
  call : SessionCall

/-- Who has tokens by the result of a call that is about `subject`. -/
def receiver (subject : Option Uuid) : Except ApiError (Option TokenPair) → Option Uuid
  | .ok (some _) => subject
  | .ok none | .error _ => none

/-- The database, and what is known of its past. -/
structure SessionState where
  db : Database
  clock : Nat
  /-- When the password hash last became another one, the creation of the user included. -/
  changedAt : Uuid → Nat
  /-- When the user last got a refresh token. -/
  issuedAt : Uuid → Nat

namespace SessionState

/-- A refresh token that is still stored was issued after the last change of the password. -/
def TokensFresh (state : SessionState) : Prop :=
  ∀ userId hash, state.db.refreshTokenHashOf userId = some hash → state.changedAt userId < state.issuedAt userId

/-- Nothing is dated in the future. -/
def Clocked (state : SessionState) : Prop :=
  ∀ userId, state.changedAt userId ≤ state.clock ∧ state.issuedAt userId ≤ state.clock

end SessionState

section

variable (crypto : Crypto) (config : AuthConfig)

namespace SessionAction

/-- The call, with the tokens it hands out. -/
def handler (action : SessionAction) : Handler (Option TokenPair) :=
  match action.call with
  | .auth call => (call.handler crypto config action.auth).autocommit
  | .register dto => do return some (← AuthService.register crypto config action.auth action.env.newId dto)
  | .inviteStaff storeId dto =>
    (StoresService.inviteStaff crypto action.auth.salt action.env storeId dto >>= fun _ => return none).autocommit
  | .updateStaff storeId staffId dto =>
    (StoresService.updateStaff crypto action.auth.salt storeId staffId dto >>= fun _ => return none).autocommit
  | .removeStaff storeId staffId => (StoresService.removeStaff storeId staffId >>= fun _ => return none).autocommit

def served (action : SessionAction) (db : Database) : Except ApiError (Option TokenPair) × Database :=
  shop.alone (action.handler crypto config) db

/-- The user whom the call's tokens are for. -/
def subject (action : SessionAction) (db : Database) : Option Uuid :=
  match action.call with
  | .auth call => call.subject crypto db
  | .register _ => some (action.env.newId 0)
  | .inviteStaff _ _ | .updateStaff _ _ _ | .removeStaff _ _ => none

/-- The user who gets tokens, if the call goes through and hands out any. -/
def issuedTo (action : SessionAction) (db : Database) : Option Uuid :=
  receiver (action.subject crypto db) (action.served crypto config db).1

/-- The password hash of the user is not what it was. -/
def changesHash (before after : Database) (userId : Uuid) : Prop :=
  (before.secrets userId).map Prod.fst ≠ (after.secrets userId).map Prod.fst

instance (before after : Database) (userId : Uuid) : Decidable (changesHash before after userId) :=
  inferInstanceAs (Decidable (_ ≠ _))

def result (action : SessionAction) (state : SessionState) : SessionState where
  db := (action.served crypto config state.db).2
  clock := state.clock + 1
  changedAt userId :=
    if changesHash state.db (action.served crypto config state.db).2 userId then state.clock else state.changedAt userId
  issuedAt userId :=
    if action.issuedTo crypto config state.db = some userId then state.clock + 1 else state.issuedAt userId

def Steps (source : SessionState) (action : SessionAction) (target : SessionState) : Prop :=
  target = action.result crypto config source

/-- The call gives a member of staff with a session another password hash. -/
def outdatesSession (action : SessionAction) (db : Database) : Bool :=
  match action.call with
  | .updateStaff storeId (some staffId) dto =>
    match dto.password.toOption, db.findStaff staffId storeId with
    | some password, some row =>
      row.refreshTokenHash.isSome && decide (crypto.bcryptHash action.auth.salt password ≠ row.passwordHash) &&
        !db.emailTaken (dto.email.toOption.getD row.email) row.id
    | _, _ => false
  | _ => false

end SessionAction

end

/-! ## One call -/

/-- What a call makes of the two columns: of one user at most. -/
inductive SessionEffect (before : Secrets) : Option Uuid → Secrets → Prop where
  | same : SessionEffect before none before
  | issue (userId : Uuid) (value : Option (Bytes × Option Bytes)) :
    SessionEffect before (some userId) (Function.update before userId value)
  | signOut (userId : Uuid) (value : Option (Bytes × Option Bytes))
    (signedOut : ∀ secret, value = some secret → secret.2 = none) :
    SessionEffect before none (Function.update before userId value)

/-- The two columns after `updateStaff`, if `hash` is what becomes of the password. -/
def Database.rekeyed (db : Database) (hash : Bytes → Bytes) (storeId : Uuid) (staffId : RouteId) (dto : UpdateStaffDto) :
    Secrets :=
  match staffId.bind fun id => db.findStaff id storeId with
  | none => db.secrets
  | some row =>
    if db.emailTaken (dto.email.toOption.getD row.email) row.id then db.secrets
    else Function.update db.secrets row.id
      (some ((dto.password.toOption.map hash).getD row.passwordHash, row.refreshTokenHash))

namespace StoresService

variable (crypto : Crypto) (salt : Bytes) (env : Environment) (storeId : Uuid) (db : Database)

theorem secrets_of_fails {op : Statement} {error : ApiError} {after : Database}
    (executed : shop.executeOn op db = (.error error, after)) : after.secrets = db.secrets := by
  rw [Engine.executeOn_eq_error executed]

theorem secrets_insertUser {entity : UserEntity} {reply : Statement.Reply (.user (.insert entity))} {after : Database}
    (executed : shop.executeOn (.user (.insert entity)) db = (.ok reply, after)) :
    ∃ hash, entity.passwordHash = some hash ∧
      after.secrets = Function.update db.secrets entity.id (some (hash, none)) := by
  obtain ⟨writes, inserted, rfl⟩ := Engine.executeOn_eq_ok executed
  obtain ⟨row, isRow, -, rfl⟩ :=
    UserStatement.execute_insert (show (UserStatement.insert entity).execute db = .ok (reply, writes) from inserted)
  obtain ⟨hash, isHash, rfl⟩ := Option.map_eq_some_iff.mp isRow
  exact ⟨hash, isHash, Database.secrets_put db _⟩

theorem executeOn_saveChanges {row : User} (found : db.users.find row.id = some row) (changes : StaffChanges) :
    shop.executeOn (.user (.saveChanges row.id changes)) db =
      if db.emailTaken (changes.applyTo row).email row.id = true then (.error .uniqueViolation, db)
      else (.ok (), db.write (.user (.put (changes.applyTo row)))) := by
  by_cases taken : db.emailTaken (changes.applyTo row).email row.id = true
  · simp only [Engine.executeOn, shop, Statement.execute, UserStatement.execute, found, if_pos taken]
  · simp only [Engine.executeOn, shop, Statement.execute, UserStatement.execute, found, if_neg taken]
    rfl

/-- An invitation adds a user without a session, or nobody. -/
theorem ends_inviteStaff (dto : InviteStaffDto) :
    Program.Ends shop.executeOn (inviteStaff crypto salt env storeId dto) db fun _ after =>
      SessionEffect db.secrets none after.secrets := by
  refine Program.ends_perform_bind (fun _ _ failed => secrets_of_fails db failed ▸ .same) fun existing _ executed => ?_
  cases executed
  cases db.users.rows.find? fun row => row.email = dto.email with
  | some _ => exact .same
  | none =>
    refine Program.ends_perform_bind (fun _ _ failed => secrets_of_fails db failed ▸ .same) fun _ _ executed => ?_
    cases executed
    refine Program.ends_perform_bind (fun _ _ failed => secrets_of_fails db failed ▸ .same) fun _ _ executed => ?_
    cases executed
    dsimp only
    split
    next => exact .same
    next =>
      refine Program.ends_perform_bind (fun _ _ failed => secrets_of_fails db failed ▸ .same) fun _ after executed => ?_
      obtain ⟨hash, -, stored⟩ := secrets_insertUser _ executed
      change SessionEffect db.secrets none after.secrets
      rw [stored]
      exact .signOut _ _ fun secret isSecret => by cases isSecret; rfl

theorem ends_findStaffOrThrow (staffId : RouteId) :
    Program.Ends shop.executeOn (findStaffOrThrow storeId staffId) db fun result after => after = db ∧
      match result with
      | .ok staff => ∃ row, (staffId.bind fun id => db.findStaff id storeId) = some row ∧ staff = row.toEntity
      | .error _ => (staffId.bind fun id => db.findStaff id storeId) = none := by
  refine Program.ends_perform_bind (fun error after failed => ⟨Engine.executeOn_eq_error failed, ?_⟩)
    fun staff after executed => ?_
  · cases staffId with
    | none => rfl
    | some id => cases failed
  · cases staffId with
    | none => cases executed
    | some id =>
      cases executed
      cases isFound : db.findStaff id storeId with
      | none => exact ⟨rfl, isFound⟩
      | some row => exact ⟨rfl, row, isFound, rfl⟩

/-- The password is all of the two columns that a change of staff can touch. -/
theorem ends_updateStaff (staffId : RouteId) (dto : UpdateStaffDto) :
    Program.Ends shop.executeOn (updateStaff crypto salt storeId staffId dto) db fun _ after =>
      after.secrets = db.rekeyed (crypto.bcryptHash salt) storeId staffId dto := by
  refine (ends_findStaffOrThrow storeId db staffId).bind (fun error after left => ?_) fun staff after left => ?_
  · obtain ⟨same, absent⟩ := left
    rw [same, Database.rekeyed, absent]
  · obtain ⟨rfl, row, isFound, rfl⟩ := left
    have isRow : after.users.find row.id = some row := by
      obtain ⟨id, -, found⟩ := Option.bind_eq_some_iff.mp isFound
      have present := (Option.filter_eq_some_iff.mp found).1
      have isId : row.id = id := Table.key_of_find present
      exact isId ▸ present
    have stored : after.secrets row.id = some (row.passwordHash, row.refreshTokenHash) := by
      rw [Database.secrets, isRow]
      rfl
    have newEmail : (changed (assign crypto salt dto row.toEntity).email row.email).getD row.email =
        dto.email.toOption.getD row.email := changed_getD _ _
    have newHash : (assign crypto salt dto row.toEntity).passwordHash = dto.password.toOption.map (crypto.bcryptHash salt) := by
      unfold assign
      cases dto.password.toOption <;> rfl
    unfold Database.rekeyed
    rw [isFound]
    dsimp only
    refine Program.ends_perform_bind (fun _ _ failed => by cases failed) fun found later executed => ?_
    have same : later = after := by cases executed; rfl
    subst later
    obtain rfl : found = some row := by cases executed; exact isRow
    dsimp only
    split
    next unchanged =>
      -- nothing was assigned that differs, so there is no `UPDATE`
      have keepsHash : dto.password.toOption.map (crypto.bcryptHash salt) = none :=
        newHash.symm.trans (congrArg StaffChanges.passwordHash unchanged)
      change after.secrets = _
      rw [keepsHash, Option.getD_none, ← stored, Function.update_eq_self, ite_self]
    next =>
      have saves := executeOn_saveChanges after isRow ((assign crypto salt dto row.toEntity).changes row)
      have email : (((assign crypto salt dto row.toEntity).changes row).applyTo row).email =
        dto.email.toOption.getD row.email := newEmail
      rw [email] at saves
      refine Program.ends_perform_bind (fun error later failed => ?_) fun _ later executed => ?_
      · by_cases taken : after.emailTaken (dto.email.toOption.getD row.email) row.id = true
        · rw [if_pos taken, Engine.executeOn_eq_error failed]
        · rw [if_neg taken] at saves
          cases saves.symm.trans failed
      · by_cases taken : after.emailTaken (dto.email.toOption.getD row.email) row.id = true
        · rw [if_pos taken] at saves
          cases saves.symm.trans executed
        · rw [if_neg taken] at saves ⊢
          cases saves.symm.trans executed
          refine (Database.secrets_put after _).trans ?_
          rw [← newHash]
          rfl

theorem ends_removeStaff (staffId : RouteId) :
    Program.Ends shop.executeOn (removeStaff storeId staffId) db fun _ after =>
      SessionEffect db.secrets none after.secrets := by
  refine (ends_findStaffOrThrow storeId db staffId).bind (fun _ _ left => left.1 ▸ .same) fun staff after left => ?_
  obtain ⟨rfl, -⟩ := left
  refine Program.ends_perform fun result later executed => ?_
  cases result with
  | error error => exact secrets_of_fails _ executed ▸ .same
  | ok reply =>
    obtain ⟨writes, deleted, rfl⟩ := Engine.executeOn_eq_ok executed
    obtain ⟨-, rfl⟩ | ⟨row, -, rfl⟩ := UserStatement.execute_delete deleted
    · exact .same
    · rw [show (shop.applyAll after [.user (.erase row.id)]).secrets = _ from Database.secrets_erase after row.id]
      exact .signOut _ none fun _ isSecret => by cases isSecret

end StoresService

namespace AuthService

variable (crypto : Crypto) (config : AuthConfig) (env : AuthEnvironment) (newId : Nat → Uuid) (dto : RegisterDto)
  (db : Database)

theorem ensures_saveOwner (entity : UserEntity) :
    Program.Ensures shop.executeOn (saveOwner entity) db fun _ after =>
      ∃ value, after.secrets = Function.update db.secrets entity.id value := by
  have asBefore : ∃ value, db.secrets = Function.update db.secrets entity.id value :=
    ⟨db.secrets entity.id, (Function.update_eq_self _ _).symm⟩
  refine Program.ensures_perform_bind fun found after executed => ?_
  have same : after = db := by cases executed; rfl
  subst after
  clear executed
  cases found with
  | none =>
    refine Program.ensures_perform fun _ after executed => ?_
    obtain ⟨hash, -, stored⟩ := StoresService.secrets_insertUser db executed
    exact ⟨_, stored⟩
  | some row =>
    refine Program.ensures_ite (Program.ensures_done asBefore) (Program.ensures_perform fun _ after executed => ?_)
    obtain ⟨writes, updated, rfl⟩ := Engine.executeOn_eq_ok executed
    obtain ⟨-, rfl⟩ | ⟨stored, present, rfl⟩ := StoreStatement.execute_updateOwner updated
    · exact asBefore
    · have isId : stored.id = entity.id := Table.key_of_find present
      rw [← isId]
      exact ⟨_, Database.secrets_put db _⟩

theorem secrets_insertStore {entity : StoreEntity} {reply : Statement.Reply (.store (.insert entity))} {after : Database}
    (executed : shop.executeOn (.store (.insert entity)) db = (.ok reply, after)) : after.secrets = db.secrets := by
  obtain ⟨writes, inserted, rfl⟩ := Engine.executeOn_eq_ok executed
  obtain ⟨row, -, -, rfl⟩ :=
    StoreStatement.execute_insert (show (StoreStatement.insert entity).execute db = .ok (reply, writes) from inserted)
  rfl

theorem ensures_createAccount :
    Program.Ensures shop.executeOn (createAccount crypto env newId dto) db fun user after => user.id = newId 0 ∧
      ∃ value, after.secrets = Function.update db.secrets (newId 0) value := by
  refine Program.ensures_perform_bind fun _ after executed => ?_
  obtain ⟨hash, -, stored⟩ := StoresService.secrets_insertUser db executed
  refine Program.ensures_perform_bind fun _ afterStore executed => ?_
  have sameStore := secrets_insertStore after executed
  refine Program.ensures_perform_bind fun _ afterSubscription executed => ?_
  have sameSubscription : afterSubscription.secrets = after.secrets := by
    obtain ⟨writes, inserted, rfl⟩ := Engine.executeOn_eq_ok executed
    obtain ⟨-, -, rfl⟩ := StoreStatement.execute_insertSubscription inserted
    exact sameStore
  refine (ensures_saveOwner afterSubscription _).bind fun _ final left => ?_
  obtain ⟨value, saved⟩ := left
  refine Program.ensures_done ⟨rfl, value, ?_⟩
  rw [saved, sameSubscription, stored]
  exact Function.update_idem ..

/-- `register` from the committed account on. -/
def welcomed (user : User) (db : Database) : Except ApiError TokenPair × Database :=
  Engine.andThen (fun _ => (issueTokens crypto config env user).runWith shop.executeOn)
    ((Tx.enqueueMail (welcomeMail dto)).runWith shop.executeOn db)

/-- `register` after the look at the email. -/
def registeredAfter (existing : Option User) : Database → Except ApiError TokenPair × Database :=
  existing.elim (fun db => Engine.andThen (welcomed crypto config env dto) (shop.transact (createAccount crypto env newId dto) db))
    fun _ db => (.error (.conflict "An account with this email already exists"), db)

theorem alone_register :
    shop.alone (register crypto config env newId dto) db =
      registeredAfter crypto config env newId dto (db.users.rows.find? fun row => row.email = dto.email) db := by
  have runs : shop.RunsAs (register crypto config env newId dto) fun db =>
      Engine.andThen (registeredAfter crypto config env newId dto)
        ((Tx.user (.findByEmail dto.email)).runWith shop.executeOn db) := by
    refine (Engine.runsAs_autocommit _).bind fun existing => ?_
    cases existing with
    | some _ => exact Engine.runsAs_throw _
    | none =>
      exact (Engine.runsAs_withTransaction _).bind fun user =>
        (Engine.runsAs_autocommit _).bind fun _ => Engine.runsAs_autocommit _
  have looked : (Tx.user (.findByEmail dto.email)).runWith shop.executeOn db =
      (.ok (db.users.rows.find? fun row => row.email = dto.email), db) := Program.runWith_perform _ _ _
  rw [runs.alone db]
  exact congrArg (Engine.andThen (registeredAfter crypto config env newId dto)) looked

/-- A registration fails and changes neither column, or leaves its owner with tokens. -/
theorem effect_register {issued : Except ApiError TokenPair} {after : Database}
    (ran : shop.alone (register crypto config env newId dto) db = (issued, after)) :
    SessionEffect db.secrets (receiver (some (newId 0)) (issued.map some)) after.secrets := by
  have means := (alone_register crypto config env newId dto db).symm.trans ran
  cases isFound : db.users.rows.find? fun row => row.email = dto.email with
  | some user =>
    rw [isFound] at means
    cases means
    exact .same
  | none =>
    rw [isFound] at means
    change Engine.andThen (welcomed crypto config env dto) (shop.transact (createAccount crypto env newId dto) db) = _ at means
    cases transacted : shop.transact (createAccount crypto env newId dto) db with
    | mk result stored =>
      rw [transacted] at means
      cases result with
      | error error =>
        rw [Engine.transact_eq_error transacted] at means
        cases means
        exact .same
      | ok user =>
        obtain ⟨isId, value, created⟩ :=
          ensures_createAccount crypto env newId dto db _ _ (Engine.transact_eq_ok transacted)
        obtain ⟨accessToken, issues⟩ := runWith_issueTokens crypto config env user stored
        have finishes : welcomed crypto config env dto user stored = _ := issues
        cases finishes.symm.trans means
        change SessionEffect db.secrets (some (newId 0)) _
        rw [Database.secrets_updateUser, isId, created, Function.update_idem]
        exact .issue _ _

end AuthService

namespace AuthAction

variable {crypto : Crypto} {config : AuthConfig} {db after : Database}

/-- Tokens for a stored user change the token hash of that user alone. -/
theorem effect_issue {env : AuthEnvironment} {user : User} {result : Except ApiError (Option TokenPair)}
    (issued : (AuthService.issueTokens crypto config env user >>= fun tokens => pure (some tokens)).runWith
      shop.executeOn db = (result, after)) :
    (∃ tokens, result = .ok (some tokens)) ∧ SessionEffect db.secrets (some user.id) after.secrets := by
  obtain ⟨accessToken, issues⟩ := AuthService.runWith_issueTokens crypto config env user db
  cases (Program.runWith_bind_ok shop.executeOn issues).symm.trans issued
  refine ⟨⟨_, rfl⟩, ?_⟩
  rw [Database.secrets_updateUser]
  exact .issue _ _

/-- A call of `AuthService` hands tokens to the user it is about, ends a session, or changes neither column. -/
theorem effect_served (action : AuthAction) {result : Except ApiError (Option TokenPair)}
    (served : action.served crypto config db = (result, after)) :
    SessionEffect db.secrets (receiver (action.call.subject crypto db) result) after.secrets := by
  obtain ⟨env, call⟩ := action
  cases call with
  | login dto =>
    rw [served_eq] at served
    change (AuthService.login crypto config env dto >>= _).runWith _ _ = _ at served
    rw [Program.runWith_bind] at served
    obtain ⟨error, ran⟩ | ⟨user, found, ran⟩ := AuthService.runWith_login crypto config env dto db
    · rw [ran] at served
      cases served
      exact .same
    · rw [ran, ← Program.runWith_bind] at served
      obtain ⟨⟨tokens, rfl⟩, issues⟩ := effect_issue served
      change SessionEffect _ ((db.users.rows.find? fun row => row.email = dto.email).map User.id) _
      rw [found]
      exact issues
  | refresh token =>
    obtain ⟨error, failed, -⟩ | ⟨user, hash, found, -, -, issued⟩ := served_refresh env token db
    · cases failed.symm.trans served
      exact .same
    · obtain ⟨⟨tokens, rfl⟩, issues⟩ := effect_issue (issued.symm.trans served)
      have isUser : user.id = token.payload.sub := Table.key_of_find found
      rw [isUser] at issues
      exact issues
  | logout userId =>
    rw [served_eq] at served
    cases (Program.runWith_bind_ok shop.executeOn (AuthService.runWith_logout userId db)).symm.trans served
    rw [Database.secrets_updateUser]
    refine .signOut _ _ fun secret isSecret => ?_
    obtain ⟨_, -, rfl⟩ := Option.map_eq_some_iff.mp isSecret
    rfl
  | requestPasswordReset dto =>
    obtain ⟨later, ran, asked⟩ := AuthService.runWith_requestPasswordReset crypto config env dto db
    rw [served_eq] at served
    cases (Program.runWith_bind_ok shop.executeOn ran).symm.trans served
    obtain rfl | ⟨userId, tokenHash, expiresAt, rfl⟩ := asked
    · exact .same
    -- neither the password nor the refresh token is touched
    · have unchanged : (db.updateUser userId ⟨none, none, tokenHash, expiresAt⟩).secrets = db.secrets := by
        have kept : ((db.secrets userId).map fun secret => (secret.1, secret.2)) = db.secrets userId := by
          cases db.secrets userId <;> rfl
        rw [Database.secrets_updateUser]
        exact (congrArg (Function.update db.secrets userId) kept).trans (Function.update_eq_self _ _)
      rw [unchanged]
      exact .same
  | resetPassword dto =>
    rw [served_eq] at served
    obtain ⟨error, ran⟩ | ⟨user, hash, found, ran⟩ := AuthService.runWith_resetPassword crypto env dto db
    · change (AuthService.resetPassword crypto env dto >>= _).runWith _ _ = _ at served
      rw [Program.runWith_bind, ran] at served
      cases served
      exact .same
    · cases (Program.runWith_bind_ok shop.executeOn ran).symm.trans served
      rw [Database.secrets_updateUser]
      -- a reset also ends the session
      refine .signOut _ _ fun secret isSecret => ?_
      obtain ⟨_, -, rfl⟩ := Option.map_eq_some_iff.mp isSecret
      rfl

end AuthAction

/-! ## One step -/

section

variable {crypto : Crypto} {config : AuthConfig} {source : SessionState} {action : SessionAction}

theorem SessionState.clocked_result (clocked : source.Clocked) : (action.result crypto config source).Clocked := by
  intro userId
  obtain ⟨changed, issued⟩ := clocked userId
  dsimp only [SessionAction.result]
  constructor
  · split <;> omega
  · split <;> omega

/-- Who still has a session after a call got its token there, or is left alone. -/
theorem SessionEffect.kept {before after : Secrets} {issuedTo : Option Uuid} {userId : Uuid} {hash : Bytes}
    (effect : SessionEffect before issuedTo after) (stored : (after userId).bind Prod.snd = some hash) :
    issuedTo = some userId ∨ after userId = before userId := by
  cases effect with
  | same => exact .inr rfl
  | issue other value =>
    by_cases isOther : userId = other
    · exact .inl (congrArg some isOther.symm)
    · exact .inr (Function.update_of_ne isOther _ _)
  | signOut other value signedOut =>
    by_cases isOther : userId = other
    · rw [isOther, Function.update_self] at stored
      obtain ⟨secret, isSecret, isHash⟩ := Option.bind_eq_some_iff.mp stored
      rw [signedOut secret isSecret] at isHash
      cases isHash
    · exact .inr (Function.update_of_ne isOther _ _)

theorem SessionState.fresh_of_effect (fresh : source.TokensFresh) (clocked : source.Clocked)
    (effect : SessionEffect source.db.secrets (action.issuedTo crypto config source.db)
      (action.served crypto config source.db).2.secrets) :
    (action.result crypto config source).TokensFresh := by
  intro userId hash stored
  rw [Database.refreshTokenHashOf_eq_secrets] at stored
  obtain ⟨changed, issued⟩ := clocked userId
  dsimp only [SessionAction.result]
  obtain isIssued | isKept := effect.kept stored
  · rw [if_pos isIssued]
    split <;> omega
  · have isStored : source.db.refreshTokenHashOf userId = some hash := by
      rw [Database.refreshTokenHashOf_eq_secrets, ← isKept]
      exact stored
    have unchanged : ¬ SessionAction.changesHash source.db (action.served crypto config source.db).2 userId :=
      fun differs => differs (congrArg (Option.map Prod.fst) isKept.symm)
    have earlier := fresh userId hash isStored
    rw [if_neg unchanged]
    split <;> omega

theorem alone_map {α β : Type} (request : Handler α) (shown : α → β) (db : Database) :
    shop.alone (request >>= fun value => return shown value) db =
      ((shop.alone request db).1.map shown, (shop.alone request db).2) := by
  unfold Engine.alone
  rw [Program.runWith_bind]
  generalize request.runWith (S := requestSignature statements) shop.performOn (Session.empty, db) = ended
  obtain ⟨result, after⟩ := ended
  cases result <;> rfl

/-- A call of `StoresService`, which hands out no tokens. -/
theorem served_store {α : Type} (body : Tx α) (db : Database) :
    shop.alone (body >>= fun _ => (return none : Tx (Option TokenPair))).autocommit db =
      ((body.runWith shop.executeOn db).1.map fun _ => none, (body.runWith shop.executeOn db).2) := by
  rw [Program.autocommit_bind, ← Engine.alone_autocommit]
  exact alone_map body.autocommit (fun _ => none) db

theorem receiver_none {α : Type} (subject : Option Uuid) (result : Except ApiError α) :
    receiver subject (result.map fun _ => none) = none := by
  cases result <;> rfl

/-- Apart from `updateStaff` no call leaves a session behind a new password. -/
theorem SessionAction.effect_served (action : SessionAction) (db : Database)
    (isOther : ∀ storeId staffId dto, action.call ≠ .updateStaff storeId staffId dto) :
    SessionEffect db.secrets (action.issuedTo crypto config db) (action.served crypto config db).2.secrets := by
  obtain ⟨auth, env, call⟩ := action
  unfold issuedTo
  cases call with
  | auth call => exact AuthAction.effect_served ⟨auth, call⟩ (Prod.eta _).symm
  | register dto =>
    have served : SessionAction.served crypto config ⟨auth, env, .register dto⟩ db = _ :=
      alone_map (AuthService.register crypto config auth env.newId dto) some db
    rw [served]
    exact AuthService.effect_register crypto config auth env.newId dto db (Prod.eta _).symm
  | inviteStaff storeId dto =>
    have served : SessionAction.served crypto config ⟨auth, env, .inviteStaff storeId dto⟩ db = _ :=
      served_store (StoresService.inviteStaff crypto auth.salt env storeId dto) db
    rw [served, receiver_none]
    exact StoresService.ends_inviteStaff crypto auth.salt env storeId db dto
  | updateStaff storeId staffId dto => exact absurd rfl (isOther storeId staffId dto)
  | removeStaff storeId staffId =>
    have served : SessionAction.served crypto config ⟨auth, env, .removeStaff storeId staffId⟩ db = _ :=
      served_store (StoresService.removeStaff storeId staffId) db
    rw [served, receiver_none]
    exact StoresService.ends_removeStaff storeId db staffId

/-- Another password hash for one user outdates the session that he has. -/
theorem SessionState.fresh_iff_of_rekeyed {row : User} {newHash : Bytes} (fresh : source.TokensFresh)
    (clocked : source.Clocked) (present : source.db.users.find row.id = some row)
    (nobody : action.issuedTo crypto config source.db = none)
    (rekeyed : (action.served crypto config source.db).2.secrets =
      Function.update source.db.secrets row.id (some (newHash, row.refreshTokenHash))) :
    (action.result crypto config source).TokensFresh ↔ (row.refreshTokenHash.isSome = true → newHash = row.passwordHash) := by
  have stored : source.db.secrets row.id = some (row.passwordHash, row.refreshTokenHash) := by
    rw [Database.secrets, present]
    rfl
  have changes (userId : Uuid) : SessionAction.changesHash source.db (action.served crypto config source.db).2 userId ↔
      userId = row.id ∧ newHash ≠ row.passwordHash := by
    unfold SessionAction.changesHash
    rw [rekeyed]
    by_cases isRow : userId = row.id
    · rw [isRow, Function.update_self, stored]
      simp [eq_comm]
    · rw [Function.update_of_ne isRow]
      simp [isRow]
  have tokenHash (userId : Uuid) :
      (action.result crypto config source).db.refreshTokenHashOf userId = source.db.refreshTokenHashOf userId := by
    rw [Database.refreshTokenHashOf_eq_secrets, Database.refreshTokenHashOf_eq_secrets]
    change ((action.served crypto config source.db).2.secrets userId).bind Prod.snd = _
    rw [rekeyed]
    by_cases isRow : userId = row.id
    · rw [isRow, Function.update_self, stored]
      rfl
    · rw [Function.update_of_ne isRow]
  have issuedAt (userId : Uuid) : (action.result crypto config source).issuedAt userId = source.issuedAt userId := by
    dsimp only [SessionAction.result]
    rw [nobody]
    rfl
  constructor
  · intro stillFresh hasSession
    -- the session is dated before this change
    by_contra differs
    obtain ⟨hash, isHash⟩ := Option.isSome_iff_exists.mp hasSession
    have isStored : source.db.refreshTokenHashOf row.id = some hash := by
      rw [Database.refreshTokenHashOf, present]
      exact isHash
    have dated := stillFresh row.id hash ((tokenHash row.id).trans isStored)
    have isChanged : (action.result crypto config source).changedAt row.id = source.clock :=
      if_pos ((changes row.id).mpr ⟨rfl, differs⟩)
    obtain ⟨-, issued⟩ := clocked row.id
    rw [isChanged, issuedAt] at dated
    omega
  · intro keeps userId hash isHash
    rw [tokenHash] at isHash
    -- who has a session has kept his password hash
    have unchanged : ¬ SessionAction.changesHash source.db (action.served crypto config source.db).2 userId := by
      rw [changes]
      rintro ⟨rfl, differs⟩
      rw [Database.refreshTokenHashOf, present] at isHash
      have hasHash : row.refreshTokenHash = some hash := isHash
      exact differs (keeps (by rw [hasHash]; rfl))
    have isKept : (action.result crypto config source).changedAt userId = source.changedAt userId := if_neg unchanged
    rw [isKept, issuedAt]
    exact fresh userId hash isHash

/-- A change of staff leaves every session fresh, except where it gives a signed-in member a new hash. -/
theorem SessionState.fresh_updateStaff {auth : AuthEnvironment} {env : Environment} {storeId : Uuid} {staffId : RouteId}
    {dto : UpdateStaffDto} (fresh : source.TokensFresh) (clocked : source.Clocked) :
    (SessionAction.result crypto config ⟨auth, env, .updateStaff storeId staffId dto⟩ source).TokensFresh ↔
      SessionAction.outdatesSession crypto ⟨auth, env, .updateStaff storeId staffId dto⟩ source.db = false := by
  have served : SessionAction.served crypto config ⟨auth, env, .updateStaff storeId staffId dto⟩ source.db = _ :=
    served_store (StoresService.updateStaff crypto auth.salt storeId staffId dto) source.db
  have nobody : SessionAction.issuedTo crypto config ⟨auth, env, .updateStaff storeId staffId dto⟩ source.db = none := by
    unfold SessionAction.issuedTo
    rw [served, receiver_none]
  have rekeyed : (SessionAction.served crypto config ⟨auth, env, .updateStaff storeId staffId dto⟩ source.db).2.secrets =
      source.db.rekeyed (crypto.bcryptHash auth.salt) storeId staffId dto := by
    rw [served]
    exact StoresService.ends_updateStaff crypto auth.salt storeId source.db staffId dto
  have unaffected (same : source.db.rekeyed (crypto.bcryptHash auth.salt) storeId staffId dto = source.db.secrets) :
      (SessionAction.result crypto config ⟨auth, env, .updateStaff storeId staffId dto⟩ source).TokensFresh := by
    refine fresh_of_effect fresh clocked ?_
    rw [nobody, rekeyed, same]
    exact .same
  cases staffId with
  -- no such id, or nobody of the store under it: nothing is written
  | none => exact iff_of_true (unaffected rfl) rfl
  | some id =>
    cases isFound : source.db.findStaff id storeId with
    | none =>
      refine iff_of_true (unaffected ?_) ?_
      · simp only [Database.rekeyed, Option.bind_some, isFound]
      · simp only [SessionAction.outdatesSession, isFound]
        cases dto.password.toOption <;> rfl
    | some row =>
      have inTable := (Option.filter_eq_some_iff.mp isFound).1
      have isId : row.id = id := Table.key_of_find inTable
      have present : source.db.users.find row.id = some row := isId ▸ inTable
      have outdates : SessionAction.outdatesSession crypto ⟨auth, env, .updateStaff storeId (some id) dto⟩ source.db = false ↔
          (source.db.emailTaken (dto.email.toOption.getD row.email) row.id = true ∨ (row.refreshTokenHash.isSome = true →
            (dto.password.toOption.map (crypto.bcryptHash auth.salt)).getD row.passwordHash = row.passwordHash)) := by
        unfold SessionAction.outdatesSession
        simp only [isFound]
        cases dto.password.toOption with
        | none => simp
        | some password =>
          simp only [Option.map_some, Option.getD_some, Bool.and_eq_false_iff, decide_eq_false_iff_not, not_not,
            Bool.not_eq_false']
          cases row.refreshTokenHash <;> simp [or_comm]
      rw [outdates]
      -- an email that is taken is refused before anything is written
      by_cases taken : source.db.emailTaken (dto.email.toOption.getD row.email) row.id = true
      · refine iff_of_true (unaffected ?_) (.inl taken)
        simp only [Database.rekeyed, Option.bind_some, isFound, if_pos taken]
      · rw [or_iff_right taken]
        refine fresh_iff_of_rekeyed fresh clocked present nobody (rekeyed.trans ?_)
        simp only [Database.rekeyed, Option.bind_some, isFound, if_neg taken]

/-- A call leaves every stored token younger than its user's password exactly if it outdates no session. -/
theorem SessionState.fresh_result (action : SessionAction) (fresh : source.TokensFresh) (clocked : source.Clocked) :
    (action.result crypto config source).TokensFresh ↔ action.outdatesSession crypto source.db = false := by
  obtain ⟨auth, env, call⟩ := action
  cases call with
  | updateStaff storeId staffId dto => exact fresh_updateStaff fresh clocked
  | auth | register | inviteStaff | removeStaff =>
    refine iff_of_true (fresh_of_effect fresh clocked (SessionAction.effect_served _ _ ?_)) rfl
    rintro _ _ _ ⟨⟩

end

/-! ## Runs -/

open Transition

/-- In exactly those runs in which `updateStaff` gives no signed-in member of staff a new password is every stored
    refresh token younger than the password, in every state. -/
theorem tokensFresh_iff {crypto : Crypto} {config : AuthConfig} {start : SessionState}
    {run : List (SessionAction × SessionState)} (fresh : start.TokensFresh) (clocked : start.Clocked)
    (isRun : Run (SessionAction.Steps crypto config) start run) :
    EachState SessionState.TokensFresh start run ↔
      EachStep (fun source action _ => action.outdatesSession crypto source.db = false) start run := by
  have stepFresh (source : SessionState) (action : SessionAction) (target : SessionState) (clocked : source.Clocked)
      (fresh : source.TokensFresh) (stepped : SessionAction.Steps crypto config source action target) :
      target.TokensFresh ↔ action.outdatesSession crypto source.db = false := by
    rw [show target = action.result crypto config source from stepped]
    exact SessionState.fresh_result action fresh clocked
  have stepClocked (source : SessionState) (action : SessionAction) (target : SessionState) (clocked : source.Clocked)
      (_ : source.TokensFresh) (stepped : SessionAction.Steps crypto config source action target)
      (_ : target.TokensFresh) : target.Clocked := by
    rw [show target = action.result crypto config source from stepped]
    exact SessionState.clocked_result clocked
  exact eachState_iff_eachStep stepFresh stepClocked clocked fresh isRun

/-- A run, given by its calls. -/
def sessionRunOf (crypto : Crypto) (config : AuthConfig) (start : SessionState) :
    List SessionAction → List (SessionAction × SessionState)
  | [] => []
  | action :: rest =>
    (action, action.result crypto config start) :: sessionRunOf crypto config (action.result crypto config start) rest

theorem run_sessionRunOf (crypto : Crypto) (config : AuthConfig) (start : SessionState) (actions : List SessionAction) :
    Run (SessionAction.Steps crypto config) start (sessionRunOf crypto config start actions) := by
  induction actions generalizing start with
  | nil => trivial
  | cons action rest ih => exact ⟨rfl, ih _⟩

namespace SmallShop

/-- Before the first registration. -/
def unused : SessionState := ⟨.empty, 0, fun _ => 0, fun _ => 0⟩

def sessionEnvironment : Environment := ⟨7, fun position => BitVec.ofNat 128 (100 + position), fun _ => 0⟩

def sessionAction (call : SessionCall) : SessionAction := ⟨morning, sessionEnvironment, call⟩

/-- The shop is opened (user 100, store 101) and a clerk is taken on. -/
def shopOpens : SessionAction := sessionAction (.register ⟨"owner@corner.example", utf8 "safe deposit", "Corner"⟩)
def clerkStarts : SessionAction :=
  ⟨morning, { sessionEnvironment with newId := fun _ => 8 }, .inviteStaff 101 ⟨"clerk@corner.example", utf8 "till number"⟩⟩
def clerkLogsIn : SessionAction := sessionAction (.auth (.login ⟨"clerk@corner.example", utf8 "till number"⟩))
def newPassword : SessionAction := sessionAction (.updateStaff 101 (some 8) ⟨.undefined, .value (utf8 "top drawer")⟩)

/-- The clerk gets a new password before his first login. -/
def newPasswordFirst : List (SessionAction × SessionState) :=
  sessionRunOf crypto longLived unused [shopOpens, clerkStarts, newPassword, clerkLogsIn]

/-- The clerk gets a new password while he is logged in. -/
def newPasswordLast : List (SessionAction × SessionState) :=
  sessionRunOf crypto longLived unused [shopOpens, clerkStarts, clerkLogsIn, newPassword]

/-- Where that ends. -/
def outdated : SessionState :=
  [shopOpens, clerkStarts, clerkLogsIn, newPassword].foldl (fun state action => action.result crypto longLived state) unused

theorem tokensFresh_unused : unused.TokensFresh := by
  intro userId hash stored
  cases stored

theorem clocked_unused : unused.Clocked := fun _ => ⟨Nat.le_refl 0, Nat.le_refl 0⟩

end SmallShop

theorem tokensFresh_smallShop : EachState SessionState.TokensFresh SmallShop.unused SmallShop.newPasswordFirst :=
  (tokensFresh_iff SmallShop.tokensFresh_unused SmallShop.clocked_unused (run_sessionRunOf _ _ _ _)).mpr
    ⟨rfl, rfl, by decide +kernel, rfl, trivial⟩

/-- The owner gives the clerk, who is logged in, a new password: his refresh token stays. -/
theorem not_tokensFresh :
    ¬ ∀ crypto config start run, SessionState.TokensFresh start → start.Clocked →
      Run (SessionAction.Steps crypto config) start run → EachState SessionState.TokensFresh start run := by
  intro always
  have fresh := (always SmallShop.crypto SmallShop.longLived SmallShop.unused SmallShop.newPasswordLast
    SmallShop.tokensFresh_unused SmallShop.clocked_unused (run_sessionRunOf _ _ _ _)).2.2.2.2
  have keepsToken : (SmallShop.outdated.db.refreshTokenHashOf 8).isSome = true := by decide +kernel
  have changedLast : ¬ SmallShop.outdated.changedAt 8 < SmallShop.outdated.issuedAt 8 := by decide +kernel
  obtain ⟨hash, stored⟩ := Option.isSome_iff_exists.mp keepsToken
  exact changedLast (fresh 8 hash stored)

end StoreSaas
