import StoreSaas.Schema.AccountStatements

/-! # Statements on stores and on the audit trail

The statements of `AdminService`, of the settings in `StoresService` and of the transaction
in `AuthService.register`, and those on `audit_logs`.
-/

namespace StoreSaas

/-! ## Stores -/

/-- A `Store` as the services hold it. -/
structure StoreEntity where
  id : Uuid
  name : Option String
  ownerId : Uuid
  isSuspended : Bool
  createdAt : Timestamp
  deriving DecidableEq

def Store.toEntity (row : Store) : StoreEntity := 
  ⟨row.id, some row.name, row.ownerId, row.isSuspended, row.createdAt⟩

/-- The inserted row, unless the name is `null`. -/
def StoreEntity.toRow? (entity : StoreEntity) : Option Store :=
  entity.name.map fun name => ⟨entity.id, name, entity.ownerId, entity.isSuspended, entity.createdAt⟩

/-- The columns that the `UPDATE` of `save` sets: those that differ from the row. -/
structure StoreChanges where
  name : Option (Option String)
  ownerId : Option Uuid
  isSuspended : Option Bool
  deriving DecidableEq

def StoreChanges.nothing : StoreChanges := ⟨none, none, none⟩

def StoreEntity.changes (entity : StoreEntity) (row : Store) : StoreChanges :=
  ⟨changed entity.name (some row.name), changed entity.ownerId row.ownerId, changed entity.isSuspended row.isSuspended⟩

/-- The changed row, unless the name becomes `null`. -/
def StoreChanges.applyTo? (changes : StoreChanges) (row : Store) : Option Store :=
  (changes.name.getD (some row.name)).map fun name =>
    ⟨row.id, name, changes.ownerId.getD row.ownerId, changes.isSuspended.getD row.isSuspended, row.createdAt⟩

/-- What the last `save` of a registration sets: the hash in memory was assigned, and the store is new. -/
structure OwnerChanges where
  passwordHash : Option Bytes
  storeId : Option (Option Uuid)
  deriving DecidableEq

def OwnerChanges.applyTo (changes : OwnerChanges) (row : User) : User :=
  { row with
    passwordHash := changes.passwordHash.getD row.passwordHash
    storeId := changes.storeId.getD row.storeId }

inductive StoreStatement where
  | findOne (id : RouteId)
  /-- All stores with their subscriptions, by `createdAt`, one page. -/
  | findAndCount (page limit : Nat) (rank : Uuid → Nat)
  /-- The `SELECT` by primary key with which `save` starts. -/
  | reselect (entity : StoreEntity)
  | insert (entity : StoreEntity)
  | update (id : Uuid) (changes : StoreChanges)
  | insertSubscription (row : Subscription)
  | updateOwner (id : Uuid) (changes : OwnerChanges)

def StoreStatement.Reply : StoreStatement → Type
  | .findOne _ | .reselect _ => Option Store
  | .findAndCount _ _ _ => List (Store × Option Subscription) × Nat
  | .insert _ | .update _ _ | .insertSubscription _ | .updateOwner _ _ => Unit

def StoreStatement.execute : (statement : StoreStatement) → Database →
    Except ApiError (statement.Reply × List DbWrite)
  | .findOne none, _ => .error .invalidTextRepresentation
  | .findOne (some id), db => .ok (db.stores.find id, [])
  | .findAndCount page limit rank, db =>
    let stores := joinedPageOf Store.createdAt Store.id rank page limit db.stores.rows
    replyOnce (checkOffset page limit) (stores.map fun row => (row, db.subscriptionOf row.id), db.stores.rows.length)
  | .reselect entity, db => .ok (db.stores.find entity.id, [])
  | .insert entity, db =>
    match entity.toRow? with
    | none => .error .notNullViolation
    | some row =>
      if (db.stores.find row.id).isSome then .error .uniqueViolation
      else .ok ((), [.store (.put row)])
  | .update id changes, db =>
    match db.stores.find id with
    | none => .ok ((), [])
    | some row =>
      match changes.applyTo? row with
      | none => .error .notNullViolation
      | some next => .ok ((), [.store (.put next)])
  | .insertSubscription row, db =>
    if ((db.subscriptions.find row.id).isSome || (db.subscriptionOf row.storeId).isSome) = true then
      .error .uniqueViolation
    else if db.storeExists row.storeId = false then .error .foreignKeyViolation
    else .ok ((), [.subscription (.put row)])
  | .updateOwner id changes, db =>
    match db.users.find id with
    | none => .ok ((), [])
    | some row =>
      if ((changes.applyTo row).storeId.map db.storeExists) = some false then .error .foreignKeyViolation
      else .ok ((), [.user (.put (changes.applyTo row))])

namespace StoreStatement

variable {db : Database} {writes : List DbWrite}

theorem execute_insert {entity : StoreEntity} {reply : (insert entity).Reply}
    (executed : (insert entity).execute db = .ok (reply, writes)) :
    ∃ row, entity.toRow? = some row ∧ db.stores.find row.id = none ∧ writes = [.store (.put row)] := by
  simp only [execute] at executed
  split at executed
  next => cases executed
  next row isRow =>
    split at executed
    next => cases executed
    next isNew =>
      cases executed
      exact ⟨row, isRow, Option.isNone_iff_eq_none.mp (Option.not_isSome_iff_eq_none.mp isNew ▸ rfl), rfl⟩

theorem execute_update {id : Uuid} {changes : StoreChanges} {reply : (update id changes).Reply}
    (executed : (update id changes).execute db = .ok (reply, writes)) :
    (db.stores.find id = none ∧ writes = []) ∨
      ∃ row next, db.stores.find id = some row ∧ changes.applyTo? row = some next ∧ writes = [.store (.put next)] := by
  simp only [execute] at executed
  split at executed
  next absent => cases executed; exact .inl ⟨absent, rfl⟩
  next row present =>
    split at executed
    next => cases executed
    next next isNext => cases executed; exact .inr ⟨row, next, present, isNext, rfl⟩

theorem execute_insertSubscription {row : Subscription} {reply : (insertSubscription row).Reply}
    (executed : (insertSubscription row).execute db = .ok (reply, writes)) :
    db.subscriptions.find row.id = none ∧ db.subscriptionOf row.storeId = none ∧
      writes = [.subscription (.put row)] := by
  simp only [execute] at executed
  split at executed
  next => cases executed
  next isNew =>
    split at executed
    next => cases executed
    next =>
      cases executed
      simp only [Bool.or_eq_true, not_or, Bool.not_eq_true, Option.isSome_eq_false_iff, Option.isNone_iff_eq_none] at isNew
      exact ⟨isNew.1, isNew.2, rfl⟩

theorem execute_updateOwner {id : Uuid} {changes : OwnerChanges} {reply : (updateOwner id changes).Reply}
    (executed : (updateOwner id changes).execute db = .ok (reply, writes)) :
    (db.users.find id = none ∧ writes = []) ∨
      ∃ row, db.users.find id = some row ∧ writes = [.user (.put (changes.applyTo row))] := by
  simp only [execute] at executed
  split at executed
  next absent => cases executed; exact .inl ⟨absent, rfl⟩
  next row present =>
    split at executed
    next => cases executed
    next => cases executed; exact .inr ⟨row, present, rfl⟩

theorem execute_writes {statement : StoreStatement} {reply : statement.Reply}
    (executed : statement.execute db = .ok (reply, writes)) :
    ∀ write ∈ writes, (∃ change, write = .store change) ∨ (∃ change, write = .subscription change) ∨
      ∃ change, write = .user change := by
  cases statement with
  | findOne id =>
    cases id with
    | none => cases executed
    | some id => cases executed; exact fun _ made => nomatch made
  | findAndCount =>
    rw [(replyOnce_eq_ok executed).2.2]
    exact fun _ made => nomatch made
  | reselect => cases executed; exact fun _ made => nomatch made
  | insert entity =>
    obtain ⟨row, -, -, rfl⟩ := execute_insert executed
    exact fun _ made => .inl ⟨_, List.mem_singleton.mp made⟩
  | update id changes =>
    obtain ⟨-, rfl⟩ | ⟨row, next, -, -, rfl⟩ := execute_update executed
    · exact fun _ made => nomatch made
    · exact fun _ made => .inl ⟨_, List.mem_singleton.mp made⟩
  | insertSubscription row =>
    obtain ⟨-, -, rfl⟩ := execute_insertSubscription executed
    exact fun _ made => .inr (.inl ⟨_, List.mem_singleton.mp made⟩)
  | updateOwner id changes =>
    obtain ⟨-, rfl⟩ | ⟨row, -, rfl⟩ := execute_updateOwner executed
    · exact fun _ made => nomatch made
    · exact fun _ made => .inr (.inr ⟨_, List.mem_singleton.mp made⟩)

end StoreStatement

/-! ## Locks -/

/-- A new entry of a unique index keeps others from making the same one. -/
def uniqueLock (entry : UniqueEntry) : RowLock RowKey := ⟨.uniqueEntry entry, .update⟩

def UserStatement.locks : UserStatement → Database → List (RowLock RowKey)
  | .insert entity, _ =>
    uniqueLock (.userEmail entity.email) :: referenceLocks ((entity.storeId.map RowKey.store).toList)
  | .saveChanges _ changes, _ => (changes.email.map fun email => uniqueLock (.userEmail email)).toList
  | _, _ => []

def StoreStatement.locks : StoreStatement → Database → List (RowLock RowKey)
  | .insertSubscription row, _ => uniqueLock (.subscriptionStore row.storeId) :: referenceLocks [.store row.storeId]
  | .updateOwner _ changes, _ => referenceLocks ((changes.storeId.join.map RowKey.store).toList)
  | _, _ => []

/-! ## The audit trail -/

inductive AuditStatement where
  | insert (row : AuditLog)
  /-- `where('log.storeId = :storeId').orWhere('log.targetId = :storeId')`, by `createdAt`, one page. -/
  | getManyAndCount (storeId : Uuid) (page limit : Nat) (rank : Uuid → Nat)

def AuditStatement.Reply : AuditStatement → Type
  | .insert _ => Unit
  | .getManyAndCount _ _ _ _ => List AuditLog × Nat

/-- The row is of the store, or about it. -/
def AuditLog.concerns (row : AuditLog) (storeId : Uuid) : Bool :=
  decide (row.storeId = some storeId) || decide (row.targetId = some storeId.text)

def AuditStatement.execute : (statement : AuditStatement) → Database →
    Except ApiError (statement.Reply × List DbWrite)
  | .insert row, db =>
    if (db.auditLogs.find row.id).isSome then .error .uniqueViolation
    else .ok ((), [.auditLog (.put row)])
  | .getManyAndCount storeId page limit rank, db =>
    let matching := newestFirst AuditLog.createdAt AuditLog.id rank
      (db.auditLogs.rows.filter fun row => row.concerns storeId)
    replyOnce (checkOffset page limit) (pageOf page limit matching, matching.length)

theorem AuditStatement.execute_writes {statement : AuditStatement} {db : Database} {reply : statement.Reply}
    {writes : List DbWrite} (executed : statement.execute db = .ok (reply, writes)) :
    ∀ write ∈ writes, ∃ change, write = .auditLog change := by
  cases statement with
  | getManyAndCount =>
    rw [(replyOnce_eq_ok executed).2.2]
    exact fun _ made => nomatch made
  | insert row =>
    simp only [execute] at executed
    split at executed
    next => cases executed
    next => cases executed; exact fun _ made => ⟨_, List.mem_singleton.mp made⟩

end StoreSaas
