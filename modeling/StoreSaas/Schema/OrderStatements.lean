import StoreSaas.Schema.CatalogueStatements

/-! # Statements on `orders`, `order_items` and `outbox_events`

The statements of `OrdersService` and `OutboxService`.  The items of an order come
in the order in which they were inserted, which a join leaves open.
-/

namespace StoreSaas

/-! ## Filters -/

/-- What `IsDateString` lets through, as Postgres reads it in UTC: a day, or an instant, which may lie
    before 1970, or a text that it refuses, such as 2024-02-30 and the week 2024-W10-1. -/
inductive DateString where
  | date (day : Int)
  | dateTime (instant : Int)
  | refused (sqlState : String)
  deriving DecidableEq, Repr

/-- A day without a time is its midnight. -/
def DateString.toTimestamp : DateString → Except ApiError Int
  | .date day => .ok (day * 86400000)
  | .dateTime instant => .ok instant
  | .refused sqlState => .error (.queryFailed sqlState)

structure QueryOrderDto where
  page : Option Nat
  limit : Option Nat
  status : Option OrderStatus
  fromDate : Option DateString
  toDate : Option DateString
  deriving DecidableEq

/-- A bound that is given has to be read. -/
def DateString.check : Option DateString → Except ApiError Unit
  | none => .ok ()
  | some bound => bound.toTimestamp.map fun _ => ()

def QueryOrderDto.checkDates (query : QueryOrderDto) : Except ApiError Unit := do
  DateString.check query.fromDate
  DateString.check query.toDate

def QueryOrderDto.check (query : QueryOrderDto) : Except ApiError Unit := do
  query.checkDates
  checkOffset (query.page.getD 1) (query.limit.getD 20)

theorem QueryOrderDto.checkDates_of_check {query : QueryOrderDto} (accepted : query.check = .ok ()) :
    query.checkDates = .ok () := by
  unfold check at accepted
  cases dates : query.checkDates with
  | ok => rfl
  | error error => rw [dates] at accepted; cases accepted

/-- The `where` clauses of `OrdersService.findAll`. -/
def QueryOrderDto.selects (query : QueryOrderDto) (storeId : Uuid) (row : Order) : Bool :=
  decide (row.storeId = storeId) &&
  (match query.status with
    | some status => decide (row.status = status)
    | none => true) &&
  (match query.fromDate with
    | some fromDate => fromDate.toTimestamp.toOption.any fun (lower : Int) => lower ≤ row.createdAt
    | none => true) &&
  (match query.toDate with
    | some toDate => toDate.toTimestamp.toOption.any fun (upper : Int) => row.createdAt ≤ upper
    | none => true)

/-! ## Orders and their items -/

inductive OrderStatement where
  | findOne (id : RouteId) (storeId : Uuid)
  | getMany (storeId : Uuid) (query : QueryOrderDto) (rank : Uuid → Nat)
  | getCount (storeId : Uuid) (query : QueryOrderDto)
  /-- The `SELECT`s by primary key with which `save` starts. -/
  | reselect (entity : OrderEntity)
  | insert (row : Order)
  | insertItems (rows : List OrderItem)
  | updateStatus (id : Uuid) (status : OrderStatus) (now : Timestamp)
  | updateItemProduct (id : Uuid) (productId : Option Uuid)

def OrderStatement.Reply : OrderStatement → Type
  | .findOne _ _ | .reselect _ => Option OrderEntity
  | .getMany _ _ _ => List OrderEntity
  | .getCount _ _ => Nat
  | .insert _ | .insertItems _ | .updateStatus _ _ _ | .updateItemProduct _ _ => Unit

namespace Database

def findOrder (db : Database) (id storeId : Uuid) : Option Order :=
  (db.orders.find id).filter fun row => row.storeId = storeId

def itemsOf (db : Database) (orderId : Uuid) : List OrderItem :=
  db.orderItems.rows.filter fun item => item.orderId = orderId

/-- The row with its `items` relation loaded. -/
def loadItems (db : Database) (row : Order) : OrderEntity := ⟨row, db.itemsOf row.id⟩

/-- The checks of an inserted item row. -/
def checkItem (db : Database) (row : OrderItem) : Except ApiError Unit :=
  if (fitsInteger row.quantity && fitsNumeric row.unitPrice) = false then .error .numericValueOutOfRange
  else if (db.orderItems.find row.id).isSome then .error .uniqueViolation
  else if ((db.orders.find row.orderId).isSome && db.productExists row.productId) = false then
    .error .foreignKeyViolation
  else .ok ()

/-- The rows of one `INSERT` are checked one after the other, against each other's ids as well. -/
def checkItems (db : Database) : List OrderItem → Except ApiError Unit
  | [] => .ok ()
  | row :: rest =>
    if rest.any fun other => other.id = row.id then .error .uniqueViolation
    else
      match db.checkItem row with
      | .error error => .error error
      | .ok () => db.checkItems rest

end Database

open Database in
def OrderStatement.execute : (statement : OrderStatement) → Database →
    Except ApiError (statement.Reply × List DbWrite)
  | .findOne none _, _ => .error .invalidTextRepresentation
  | .findOne (some id) storeId, db => .ok ((db.findOrder id storeId).map db.loadItems, [])
  | .getMany storeId query rank, db =>
    let matching := db.orders.rows.filter (query.selects storeId)
    let page := joinedPageOf Order.createdAt Order.id rank (query.page.getD 1) (query.limit.getD 20) matching
    replyOnce query.check (page.map db.loadItems)
  | .getCount storeId query, db =>
    replyOnce query.checkDates (db.orders.rows.filter (query.selects storeId)).length
  | .reselect entity, db => .ok ((db.orders.find entity.order.id).map db.loadItems, [])
  | .insert row, db =>
    if fitsNumeric row.total = false then .error .numericValueOutOfRange
    else if (db.orders.find row.id).isSome then .error .uniqueViolation
    else if db.storeExists row.storeId = false then .error .foreignKeyViolation
    else .ok ((), [.order (.put row)])
  | .insertItems rows, db =>
    (db.checkItems rows).map fun _ => ((), rows.map fun row => .orderItem (.put row))
  | .updateStatus id status now, db =>
    match db.orders.find id with
    | none => .ok ((), [])
    | some row => .ok ((), [.order (.put { row with status := status, updatedAt := now })])
  | .updateItemProduct id productId, db =>
    match db.orderItems.find id with
    | none => .ok ((), [])
    | some item =>
      if db.productExists productId then .ok ((), [.orderItem (.put { item with productId := productId })])
      else .error .foreignKeyViolation

def OrderStatement.locks : OrderStatement → Database → List (RowLock RowKey)
  | .insert row, _ => referenceLocks [.store row.storeId]
  | .insertItems rows, _ =>
    referenceLocks (rows.flatMap fun row => .order row.orderId :: (row.productId.map RowKey.product).toList)
  | .updateItemProduct _ productId, _ => referenceLocks ((productId.map RowKey.product).toList)
  | _, _ => []

/-! ### What the statements on orders write -/

theorem Database.findOrder_eq_some {db : Database} {id storeId : Uuid} {row : Order}
    (found : db.findOrder id storeId = some row) :
    db.orders.find id = some row ∧ row.id = id ∧ row.storeId = storeId := by
  obtain ⟨present, inStore⟩ := Option.filter_eq_some_iff.mp found
  exact ⟨present, Table.key_of_find present, of_decide_eq_true inStore⟩

theorem Database.mem_itemsOf {db : Database} {orderId : Uuid} {item : OrderItem} :
    item ∈ db.itemsOf orderId ↔ item ∈ db.orderItems.rows ∧ item.orderId = orderId := by
  simp [itemsOf, List.mem_filter]

theorem Database.checkItem_ok {db : Database} {row : OrderItem} (checked : db.checkItem row = .ok ()) :
    db.orderItems.find row.id = none ∧ (db.orders.find row.orderId).isSome = true ∧
      db.productExists row.productId = true := by
  simp only [checkItem] at checked
  split at checked
  next => cases checked
  next =>
    split at checked
    next => cases checked
    next absent =>
      split at checked
      next => cases checked
      next exist =>
        simp only [Bool.not_eq_false, Bool.and_eq_true] at exist
        exact ⟨by simpa using absent, exist⟩

/-- The rows an `INSERT` admits have new and different ids. -/
theorem Database.checkItems_ok {db : Database} {rows : List OrderItem} (checked : db.checkItems rows = .ok ()) :
    (rows.map OrderItem.id).Nodup ∧ ∀ row ∈ rows, db.checkItem row = .ok () := by
  induction rows with
  | nil => exact ⟨List.nodup_nil, fun _ present => nomatch present⟩
  | cons row rest ih =>
    simp only [checkItems] at checked
    split at checked
    next => cases checked
    next distinct =>
      split at checked
      next => cases checked
      next rowChecked =>
        obtain ⟨nodup, restChecked⟩ := ih checked
        refine ⟨List.nodup_cons.mpr ⟨fun repeated => distinct ?_, nodup⟩, ?_⟩
        · obtain ⟨other, inRest, sameId⟩ := List.mem_map.mp repeated
          exact List.any_eq_true.mpr ⟨other, inRest, decide_eq_true sameId⟩
        · exact List.forall_mem_cons.mpr ⟨rowChecked, restChecked⟩

namespace OrderStatement

/-- Whether a statement only reads. -/
def isRead : OrderStatement → Bool
  | .findOne _ _ | .getMany _ _ _ | .getCount _ _ | .reselect _ => true
  | .insert _ | .insertItems _ | .updateStatus _ _ _ | .updateItemProduct _ _ => false

theorem execute_read {statement : OrderStatement} {db : Database} {reply : statement.Reply}
    {writes : List DbWrite} (reads : statement.isRead = true)
    (executed : statement.execute db = .ok (reply, writes)) : writes = [] := by
  cases statement with
  | findOne id storeId =>
    cases id with
    | none => cases executed
    | some id => cases executed; rfl
  | getMany | getCount => exact (replyOnce_eq_ok executed).2.2
  | reselect => cases executed; rfl
  | insert | insertItems | updateStatus | updateItemProduct => cases reads

theorem execute_insert {row : Order} {db : Database} {reply : (insert row).Reply} {writes : List DbWrite}
    (executed : (insert row).execute db = .ok (reply, writes)) :
    db.orders.find row.id = none ∧ writes = [.order (.put row)] := by
  simp only [execute] at executed
  split at executed
  next => cases executed
  next =>
    split at executed
    next => cases executed
    next absent =>
      split at executed
      next => cases executed
      next => cases executed; exact ⟨by simpa using absent, rfl⟩

theorem execute_insertItems {rows : List OrderItem} {db : Database} {reply : (insertItems rows).Reply}
    {writes : List DbWrite}
    (executed : (insertItems rows).execute db = .ok (reply, writes)) :
    db.checkItems rows = .ok () ∧ writes = rows.map fun row => .orderItem (.put row) := by
  simp only [execute] at executed
  cases checked : db.checkItems rows with
  | error error => rw [checked] at executed; cases executed
  | ok _ => rw [checked] at executed; cases executed; exact ⟨rfl, rfl⟩

theorem execute_updateStatus {id : Uuid} {status : OrderStatus} {now : Timestamp} {db : Database}
    {reply : (updateStatus id status now).Reply} {writes : List DbWrite}
    (executed : (updateStatus id status now).execute db = .ok (reply, writes)) :
    (db.orders.find id = none ∧ writes = []) ∨
      ∃ row, db.orders.find id = some row ∧
        writes = [.order (.put { row with status := status, updatedAt := now })] := by
  simp only [execute] at executed
  split at executed
  next absent => cases executed; exact .inl ⟨absent, rfl⟩
  next row present => cases executed; exact .inr ⟨row, present, rfl⟩

theorem execute_updateItemProduct {id : Uuid} {productId : Option Uuid} {db : Database}
    {reply : (updateItemProduct id productId).Reply} {writes : List DbWrite}
    (executed : (updateItemProduct id productId).execute db = .ok (reply, writes)) :
    (db.orderItems.find id = none ∧ writes = []) ∨
      ∃ item, db.orderItems.find id = some item ∧
        writes = [.orderItem (.put { item with productId := productId })] := by
  simp only [execute] at executed
  split at executed
  next absent => cases executed; exact .inl ⟨absent, rfl⟩
  next item present =>
    split at executed
    next => cases executed; exact .inr ⟨item, present, rfl⟩
    next => cases executed

theorem execute_writes {statement : OrderStatement} {db : Database} {reply : statement.Reply}
    {writes : List DbWrite} (executed : statement.execute db = .ok (reply, writes)) :
    ∀ write ∈ writes, (∃ change, write = .order change) ∨ ∃ change, write = .orderItem change := by
  cases reads : statement.isRead with
  | true =>
    rw [execute_read reads executed]
    exact fun _ made => nomatch made
  | false =>
    cases statement with
    | findOne | getMany | getCount | reselect => cases reads
    | insert row =>
      rw [(execute_insert executed).2]
      exact fun _ made => .inl ⟨_, List.mem_singleton.mp made⟩
    | insertItems rows =>
      rw [(execute_insertItems executed).2]
      intro write made
      obtain ⟨row, -, rfl⟩ := List.mem_map.mp made
      exact .inr ⟨_, rfl⟩
    | updateStatus id status now =>
      obtain ⟨-, rfl⟩ | ⟨row, -, rfl⟩ := execute_updateStatus executed
      · exact fun _ made => nomatch made
      · exact fun _ made => .inl ⟨_, List.mem_singleton.mp made⟩
    | updateItemProduct id productId =>
      obtain ⟨-, rfl⟩ | ⟨item, -, rfl⟩ := execute_updateItemProduct executed
      · exact fun _ made => nomatch made
      · exact fun _ made => .inr ⟨_, List.mem_singleton.mp made⟩

end OrderStatement

/-! ## The outbox -/

/-- The statements of `OutboxService` with the lookups before it, and of `OutboxProcessor`. -/
inductive OutboxStatement where
  | findStore (id : Uuid)
  | findUser (id : Uuid)
  | insert (row : OutboxEvent)
  | findPending (take : Nat) (rank : Uuid → Nat)
  | markProcessed (id : Uuid) (now : Timestamp)

def OutboxStatement.Reply : OutboxStatement → Type
  | .findStore _ => Option Store
  | .findUser _ => Option User
  | .findPending _ _ => List OutboxEvent
  | .insert _ | .markProcessed _ _ => Unit

/-- `ORDER BY created_at ASC`; `rank` decides between rows that this leaves equal. -/
def oldestFirst (rank : Uuid → Nat) (rows : List OutboxEvent) : List OutboxEvent :=
  rows.insertionSort fun left right =>
    left.createdAt < right.createdAt ∨ (left.createdAt = right.createdAt ∧ rank left.id ≤ rank right.id)

def Database.pendingEvents (db : Database) (take : Nat) (rank : Uuid → Nat) : List OutboxEvent :=
  (oldestFirst rank (db.outboxEvents.rows.filter fun event => event.processed = false)).take take

def OutboxEvent.markProcessed (event : OutboxEvent) (now : Timestamp) : OutboxEvent :=
  { event with processed := true, processedAt := some now }

def OutboxStatement.execute : (statement : OutboxStatement) → Database →
    Except ApiError (statement.Reply × List DbWrite)
  | .findStore id, db => .ok (db.stores.find id, [])
  | .findUser id, db => .ok (db.users.find id, [])
  | .insert row, db =>
    if (db.outboxEvents.find row.id).isSome then .error .uniqueViolation
    else .ok ((), [.outboxEvent (.put row)])
  | .findPending take rank, db => .ok (db.pendingEvents take rank, [])
  | .markProcessed id now, db =>
    match db.outboxEvents.find id with
    | none => .ok ((), [])
    | some event => .ok ((), [.outboxEvent (.put (event.markProcessed now))])

/-- Whether a statement only reads. -/
def OutboxStatement.isRead : OutboxStatement → Bool
  | .findStore _ | .findUser _ | .findPending _ _ => true
  | .insert _ | .markProcessed _ _ => false

theorem OutboxStatement.execute_read {statement : OutboxStatement} {db : Database} {reply : statement.Reply}
    {writes : List DbWrite} (reads : statement.isRead = true)
    (executed : statement.execute db = .ok (reply, writes)) : writes = [] := by
  cases statement with
  | findStore | findUser | findPending => cases executed; rfl
  | insert | markProcessed => cases reads

theorem OutboxStatement.execute_insert {row : OutboxEvent} {db : Database} {reply : (insert row).Reply}
    {writes : List DbWrite}
    (executed : (insert row).execute db = .ok (reply, writes)) :
    db.outboxEvents.find row.id = none ∧ writes = [.outboxEvent (.put row)] := by
  simp only [execute] at executed
  split at executed
  next => cases executed
  next absent => cases executed; exact ⟨by simpa using absent, rfl⟩

theorem OutboxStatement.execute_markProcessed {id : Uuid} {now : Timestamp} {db : Database}
    {reply : (markProcessed id now).Reply} {writes : List DbWrite}
    (executed : (markProcessed id now).execute db = .ok (reply, writes)) :
    (db.outboxEvents.find id = none ∧ writes = []) ∨
      ∃ event, db.outboxEvents.find id = some event ∧ writes = [.outboxEvent (.put (event.markProcessed now))] := by
  simp only [execute] at executed
  split at executed
  next absent => cases executed; exact .inl ⟨absent, rfl⟩
  next event present => cases executed; exact .inr ⟨event, present, rfl⟩

theorem OutboxStatement.execute_writes {statement : OutboxStatement} {db : Database} {reply : statement.Reply}
    {writes : List DbWrite} (executed : statement.execute db = .ok (reply, writes)) :
    ∀ write ∈ writes, ∃ change, write = .outboxEvent change := by
  cases statement with
  | findStore | findUser | findPending => cases executed; exact fun _ made => nomatch made
  | insert row =>
    rw [(execute_insert executed).2]
    exact fun _ made => ⟨_, List.mem_singleton.mp made⟩
  | markProcessed id now =>
    obtain ⟨-, rfl⟩ | ⟨event, -, rfl⟩ := execute_markProcessed executed
    · exact fun _ made => nomatch made
    · exact fun _ made => ⟨_, List.mem_singleton.mp made⟩

end StoreSaas
