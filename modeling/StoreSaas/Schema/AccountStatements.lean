import StoreSaas.Schema.CatalogueStatements

/-! # Statements on users, subscriptions, webhook events and idempotency records

The statements of `AuthService`, `BillingService` and `IdempotencyInterceptor`.
-/

namespace StoreSaas

/-! ## Users -/

/-- The columns an `update` of a user sets. -/
structure UserChanges where
  passwordHash : Option Bytes
  refreshTokenHash : Option (Option Bytes)
  passwordResetTokenHash : Option (Option Bytes)
  passwordResetExpiresAt : Option (Option Timestamp)
  deriving DecidableEq

def UserChanges.nothing : UserChanges := ⟨none, none, none, none⟩

def UserChanges.applyTo (changes : UserChanges) (row : User) : User :=
  { row with
    passwordHash := changes.passwordHash.getD row.passwordHash
    refreshTokenHash := changes.refreshTokenHash.getD row.refreshTokenHash
    passwordResetTokenHash := changes.passwordResetTokenHash.getD row.passwordResetTokenHash
    passwordResetExpiresAt := changes.passwordResetExpiresAt.getD row.passwordResetExpiresAt }

/-- A `User` as `StoresService` holds it: the hash is a column that a `SELECT` leaves out, and is
    `undefined` unless it was assigned. -/
structure UserEntity where
  id : Uuid
  email : String
  passwordHash : Option Bytes
  role : Role
  storeId : Option Uuid
  deriving DecidableEq

def User.toEntity (row : User) : UserEntity := ⟨row.id, row.email, none, row.role, row.storeId⟩

/-- The columns that the `UPDATE` of `save` sets: an email that differs, and a hash that was assigned. -/
structure StaffChanges where
  email : Option String
  passwordHash : Option Bytes
  deriving DecidableEq

def StaffChanges.nothing : StaffChanges := ⟨none, none⟩

def UserEntity.changes (entity : UserEntity) (row : User) : StaffChanges :=
  ⟨changed entity.email row.email, entity.passwordHash⟩

def StaffChanges.applyTo (changes : StaffChanges) (row : User) : User :=
  { row with
    email := changes.email.getD row.email
    passwordHash := changes.passwordHash.getD row.passwordHash }

/-- The inserted row, unless the hash is `undefined`: the column has no default. -/
def UserEntity.toRow? (entity : UserEntity) : Option User :=
  entity.passwordHash.map fun passwordHash =>
    ⟨entity.id, entity.email, passwordHash, entity.role, entity.storeId, none, none, none⟩

/-- A user with the relations `store` and `store.subscription`. -/
structure LoginRow where
  user : User
  store : Option (Store × Option Subscription)
  deriving DecidableEq

inductive UserStatement where
  | findByEmail (email : String)
  /-- The joined `SELECT` of `AuthService.login`. -/
  | findForLogin (email : String)
  | findById (id : Uuid)
  | findByResetTokenHash (tokenHash : Bytes)
  | count (storeId : Uuid) (role : Role)
  | update (id : Uuid) (changes : UserChanges)
  | findStaff (id : RouteId) (storeId : Uuid)
  /-- The `SELECT` by primary key with which `save` starts. -/
  | reselect (entity : UserEntity)
  | insert (entity : UserEntity)
  | saveChanges (id : Uuid) (changes : StaffChanges)
  | delete (id : Uuid)

def UserStatement.Reply : UserStatement → Type
  | .findByEmail _ | .findById _ | .findByResetTokenHash _ => Option User
  | .findForLogin _ => Option LoginRow
  | .findStaff _ _ | .reselect _ => Option User
  | .count _ _ => Nat
  | .update _ _ | .insert _ | .saveChanges _ _ | .delete _ => Unit

namespace Database

def subscriptionOf (db : Database) (storeId : Uuid) : Option Subscription :=
  db.subscriptions.rows.find? fun row => row.storeId = storeId

def loadStore (db : Database) (user : User) : LoginRow :=
  ⟨user, (user.storeId.bind db.stores.find).map fun store => (store, db.subscriptionOf store.id)⟩

/-- The number of `STAFF` users of a store. -/
def staffCount (db : Database) (storeId : Uuid) : Nat :=
  (db.users.rows.filter fun row => row.storeId = some storeId ∧ row.role = .staff).length

def findStaff (db : Database) (id storeId : Uuid) : Option User :=
  (db.users.find id).filter fun row => row.storeId = some storeId ∧ row.role = .staff

/-- A user other than the one named has the email address. -/
def emailTaken (db : Database) (email : String) (id : Uuid) : Bool :=
  db.users.rows.any fun row => row.email = email ∧ row.id ≠ id

end Database

def UserStatement.execute : (statement : UserStatement) → Database →
    Except ApiError (statement.Reply × List DbWrite)
  | .findByEmail email, db => .ok (db.users.rows.find? fun row => row.email = email, [])
  | .findForLogin email, db =>
    .ok ((db.users.rows.find? fun row => row.email = email).map db.loadStore, [])
  | .findById id, db => .ok (db.users.find id, [])
  | .findByResetTokenHash tokenHash, db =>
    .ok (db.users.rows.find? fun row => row.passwordResetTokenHash = some tokenHash, [])
  | .count storeId role, db =>
    .ok ((db.users.rows.filter fun row => row.storeId = some storeId ∧ row.role = role).length, [])
  | .update id changes, db =>
    match db.users.find id with
    | none => .ok ((), [])
    | some row => .ok ((), [.user (.put (changes.applyTo row))])
  | .findStaff none _, _ => .error .invalidTextRepresentation
  | .findStaff (some id) storeId, db => .ok (db.findStaff id storeId, [])
  | .reselect entity, db => .ok (db.users.find entity.id, [])
  | .insert entity, db =>
    match entity.toRow? with
    | none => .error .notNullViolation
    | some row =>
      if ((db.users.find row.id).isSome || db.emailTaken row.email row.id) = true then .error .uniqueViolation
      else if (row.storeId.map db.storeExists) = some false then .error .foreignKeyViolation
      else .ok ((), [.user (.put row)])
  | .saveChanges id changes, db =>
    match db.users.find id with
    | none => .ok ((), [])
    | some row =>
      if db.emailTaken (changes.applyTo row).email row.id = true then .error .uniqueViolation
      else .ok ((), [.user (.put (changes.applyTo row))])
  | .delete id, db =>
    match db.users.find id with
    | none => .ok ((), [])
    | some row => .ok ((), [.user (.erase row.id)])

namespace UserStatement

theorem execute_insert {entity : UserEntity} {db : Database} {reply : (insert entity).Reply}
    {writes : List DbWrite} (executed : (insert entity).execute db = .ok (reply, writes)) :
    ∃ row, entity.toRow? = some row ∧ db.users.find row.id = none ∧ writes = [.user (.put row)] := by
  simp only [execute] at executed
  split at executed
  next => cases executed
  next row isRow =>
    split at executed
    next => cases executed
    next isNew =>
      split at executed
      next => cases executed
      next =>
        cases executed
        simp only [Bool.or_eq_true, not_or, Bool.not_eq_true, Option.isSome_eq_false_iff] at isNew
        exact ⟨row, isRow, Option.isNone_iff_eq_none.mp isNew.1, rfl⟩

theorem execute_saveChanges {id : Uuid} {changes : StaffChanges} {db : Database}
    {reply : (saveChanges id changes).Reply} {writes : List DbWrite}
    (executed : (saveChanges id changes).execute db = .ok (reply, writes)) :
    (db.users.find id = none ∧ writes = []) ∨
      ∃ row, db.users.find id = some row ∧ writes = [.user (.put (changes.applyTo row))] := by
  simp only [execute] at executed
  split at executed
  next absent => cases executed; exact .inl ⟨absent, rfl⟩
  next row present =>
    split at executed
    next => cases executed
    next => cases executed; exact .inr ⟨row, present, rfl⟩

theorem execute_delete {id : Uuid} {db : Database} {reply : (delete id).Reply} {writes : List DbWrite}
    (executed : (delete id).execute db = .ok (reply, writes)) :
    (db.users.find id = none ∧ writes = []) ∨
      ∃ row, db.users.find id = some row ∧ writes = [.user (.erase row.id)] := by
  simp only [execute] at executed
  split at executed
  next absent => cases executed; exact .inl ⟨absent, rfl⟩
  next row present => cases executed; exact .inr ⟨row, present, rfl⟩

theorem execute_update {id : Uuid} {changes : UserChanges} {db : Database}
    {reply : (update id changes).Reply} {writes : List DbWrite}
    (executed : (update id changes).execute db = .ok (reply, writes)) :
    (db.users.find id = none ∧ writes = []) ∨
      ∃ row, db.users.find id = some row ∧ writes = [.user (.put (changes.applyTo row))] := by
  simp only [execute] at executed
  split at executed
  next absent => cases executed; exact .inl ⟨absent, rfl⟩
  next row present => cases executed; exact .inr ⟨row, present, rfl⟩

end UserStatement

theorem UserStatement.execute_writes {statement : UserStatement} {db : Database} {reply : statement.Reply}
    {writes : List DbWrite} (executed : statement.execute db = .ok (reply, writes)) :
    ∀ write ∈ writes, ∃ change, write = .user change := by
  cases statement with
  | findByEmail | findForLogin | findById | findByResetTokenHash | count | reselect =>
    cases executed
    exact fun _ made => nomatch made
  | findStaff id storeId =>
    cases id with
    | none => cases executed
    | some id => cases executed; exact fun _ made => nomatch made
  | update id changes =>
    obtain ⟨-, rfl⟩ | ⟨row, -, rfl⟩ := execute_update executed
    · exact fun _ made => nomatch made
    · exact fun _ made => ⟨_, List.mem_singleton.mp made⟩
  | insert entity =>
    obtain ⟨row, -, -, rfl⟩ := execute_insert executed
    exact fun _ made => ⟨_, List.mem_singleton.mp made⟩
  | saveChanges id changes =>
    obtain ⟨-, rfl⟩ | ⟨row, -, rfl⟩ := execute_saveChanges executed
    · exact fun _ made => nomatch made
    · exact fun _ made => ⟨_, List.mem_singleton.mp made⟩
  | delete id =>
    obtain ⟨-, rfl⟩ | ⟨row, -, rfl⟩ := execute_delete executed
    · exact fun _ made => nomatch made
    · exact fun _ made => ⟨_, List.mem_singleton.mp made⟩

/-! ## Subscriptions and webhook events -/

/-- The columns `applyPlanChange` sets; a provider id that is `undefined` is left alone. -/
structure PlanChange where
  plan : Plan
  status : SubscriptionStatus
  stripeCustomerId : Option (Option String)
  stripeSubscriptionId : Option (Option String)
  deriving DecidableEq

def PlanChange.applyTo (change : PlanChange) (row : Subscription) : Subscription :=
  { row with
    plan := change.plan
    status := change.status
    stripeCustomerId := change.stripeCustomerId.getD row.stripeCustomerId
    stripeSubscriptionId := change.stripeSubscriptionId.getD row.stripeSubscriptionId }

inductive BillingStatement where
  | findWebhookEvent (eventId : String)
  /-- The `SELECT` by primary key with which `save` starts. -/
  | reselectWebhookEvent (row : WebhookEventRow)
  | insertWebhookEvent (row : WebhookEventRow)
  | updateWebhookEvent (row : WebhookEventRow)
  | findSubscriptionOf (storeId : Uuid)
  | findByStripeSubscriptionId (stripeSubscriptionId : String)
  | updateSubscription (storeId : Uuid) (change : PlanChange)

def BillingStatement.Reply : BillingStatement → Type
  | .findWebhookEvent _ | .reselectWebhookEvent _ => Option WebhookEventRow
  | .findSubscriptionOf _ | .findByStripeSubscriptionId _ => Option Subscription
  | .updateSubscription _ _ => Nat
  | .insertWebhookEvent _ | .updateWebhookEvent _ => Unit

def BillingStatement.execute : (statement : BillingStatement) → Database →
    Except ApiError (statement.Reply × List DbWrite)
  | .findWebhookEvent eventId, db => .ok (db.webhookEvents.find eventId, [])
  | .reselectWebhookEvent row, db => .ok (db.webhookEvents.find row.eventId, [])
  | .insertWebhookEvent row, db =>
    if (db.webhookEvents.find row.eventId).isSome then .error .uniqueViolation
    else .ok ((), [.webhookEvent (.put row)])
  | .updateWebhookEvent row, db =>
    match db.webhookEvents.find row.eventId with
    | none => .ok ((), [])
    | some _ => .ok ((), [.webhookEvent (.put row)])
  | .findSubscriptionOf storeId, db => .ok (db.subscriptionOf storeId, [])
  | .findByStripeSubscriptionId stripeSubscriptionId, db =>
    .ok (db.subscriptions.rows.find? fun row => row.stripeSubscriptionId = some stripeSubscriptionId, [])
  | .updateSubscription storeId change, db =>
    let matching := db.subscriptions.rows.filter fun row => row.storeId = storeId
    .ok (matching.length, matching.map fun row => .subscription (.put (change.applyTo row)))

theorem BillingStatement.execute_writes {statement : BillingStatement} {db : Database} {reply : statement.Reply}
    {writes : List DbWrite} (executed : statement.execute db = .ok (reply, writes)) :
    ∀ write ∈ writes, (∃ change, write = .subscription change) ∨ ∃ change, write = .webhookEvent change := by
  cases statement with
  | findWebhookEvent | reselectWebhookEvent | findSubscriptionOf | findByStripeSubscriptionId =>
    cases executed
    exact fun _ made => nomatch made
  | insertWebhookEvent row =>
    simp only [execute] at executed
    split at executed
    next => cases executed
    next => cases executed; exact fun _ made => .inr ⟨_, List.mem_singleton.mp made⟩
  | updateWebhookEvent row =>
    simp only [execute] at executed
    split at executed
    next => cases executed; exact fun _ made => nomatch made
    next => cases executed; exact fun _ made => .inr ⟨_, List.mem_singleton.mp made⟩
  | updateSubscription storeId change =>
    cases executed
    intro write made
    obtain ⟨row, -, rfl⟩ := List.mem_map.mp made
    exact .inl ⟨_, rfl⟩

/-! ## Idempotency records -/

inductive IdempotencyStatement where
  | findOne (id : String)
  | insert (row : IdempotencyRecord)
  | update (id : String) (statusCode : Nat) (responseBody : Option ResponseBody)
  | delete (id : String)

def IdempotencyStatement.Reply : IdempotencyStatement → Type
  | .findOne _ => Option IdempotencyRecord
  | .insert _ | .update _ _ _ | .delete _ => Unit

def IdempotencyStatement.execute : (statement : IdempotencyStatement) → Database →
    Except ApiError (statement.Reply × List DbWrite)
  | .findOne id, db => .ok (db.idempotencyRecords.find id, [])
  | .insert row, db =>
    if (db.idempotencyRecords.find row.id).isSome then .error .uniqueViolation
    else .ok ((), [.idempotencyRecord (.put row)])
  | .update id statusCode responseBody, db =>
    match db.idempotencyRecords.find id with
    | none => .ok ((), [])
    | some row => .ok ((), [.idempotencyRecord (.put ⟨row.id, statusCode, responseBody⟩)])
  | .delete id, db =>
    match db.idempotencyRecords.find id with
    | none => .ok ((), [])
    | some row => .ok ((), [.idempotencyRecord (.erase row.id)])

theorem IdempotencyStatement.execute_writes {statement : IdempotencyStatement} {db : Database}
    {reply : statement.Reply} {writes : List DbWrite} (executed : statement.execute db = .ok (reply, writes)) :
    ∀ write ∈ writes, ∃ change, write = .idempotencyRecord change := by
  cases statement with
  | findOne => cases executed; exact fun _ made => nomatch made
  | insert row =>
    simp only [execute] at executed
    split at executed
    next => cases executed
    next => cases executed; exact fun _ made => ⟨_, List.mem_singleton.mp made⟩
  | update | delete =>
    simp only [execute] at executed
    split at executed
    next => cases executed; exact fun _ made => nomatch made
    next => cases executed; exact fun _ made => ⟨_, List.mem_singleton.mp made⟩

end StoreSaas
