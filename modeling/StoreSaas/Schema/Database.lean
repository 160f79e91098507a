import StoreSaas.Library.Table
import StoreSaas.Schema.Entities

/-! # The database

The tables of the migrations, each with its primary key, and writes to single
rows.  `Database.row` is the row a key names; the two lemmas about it are what the
transaction library asks of a database.
-/

namespace StoreSaas

structure Database where
  stores : Table Store.id
  users : Table User.id
  subscriptions : Table Subscription.id
  categories : Table Category.id
  products : Table Product.id
  orders : Table Order.id
  orderItems : Table OrderItem.id
  webhookEvents : Table WebhookEventRow.eventId
  idempotencyRecords : Table IdempotencyRecord.id
  outboxEvents : Table OutboxEvent.id
  auditLogs : Table AuditLog.id

/-- An entry of a unique index other than a primary key: `users.email` and `subscriptions.store_id`. -/
inductive UniqueEntry where
  | userEmail (email : String)
  | subscriptionStore (storeId : Uuid)
  deriving DecidableEq, Repr

/-- A row, or an entry of a unique index: one that is not committed yet keeps the others waiting. -/
inductive RowKey where
  | store (id : Uuid)
  | user (id : Uuid)
  | subscription (id : Uuid)
  | category (id : Uuid)
  | product (id : Uuid)
  | order (id : Uuid)
  | orderItem (id : Uuid)
  | webhookEvent (eventId : String)
  | idempotencyRecord (id : String)
  | outboxEvent (id : Uuid)
  | auditLog (id : Uuid)
  | uniqueEntry (entry : UniqueEntry)
  deriving DecidableEq, Repr

def RowKey.Row : RowKey → Type
  | .store _ => Store
  | .user _ => User
  | .subscription _ => Subscription
  | .category _ => Category
  | .product _ => Product
  | .order _ => Order
  | .orderItem _ => OrderItem
  | .webhookEvent _ => WebhookEventRow
  | .idempotencyRecord _ => IdempotencyRecord
  | .outboxEvent _ => OutboxEvent
  | .auditLog _ => AuditLog
  | .uniqueEntry _ => Empty

/-- A write to one row of one table. -/
inductive DbWrite where
  | store (change : Table.RowWrite Store Uuid)
  | user (change : Table.RowWrite User Uuid)
  | subscription (change : Table.RowWrite Subscription Uuid)
  | category (change : Table.RowWrite Category Uuid)
  | product (change : Table.RowWrite Product Uuid)
  | order (change : Table.RowWrite Order Uuid)
  | orderItem (change : Table.RowWrite OrderItem Uuid)
  | webhookEvent (change : Table.RowWrite WebhookEventRow String)
  | idempotencyRecord (change : Table.RowWrite IdempotencyRecord String)
  | outboxEvent (change : Table.RowWrite OutboxEvent Uuid)
  | auditLog (change : Table.RowWrite AuditLog Uuid)

def DbWrite.key : DbWrite → RowKey
  | .store change => .store (change.target Store.id)
  | .user change => .user (change.target User.id)
  | .subscription change => .subscription (change.target Subscription.id)
  | .category change => .category (change.target Category.id)
  | .product change => .product (change.target Product.id)
  | .order change => .order (change.target Order.id)
  | .orderItem change => .orderItem (change.target OrderItem.id)
  | .webhookEvent change => .webhookEvent (change.target WebhookEventRow.eventId)
  | .idempotencyRecord change => .idempotencyRecord (change.target IdempotencyRecord.id)
  | .outboxEvent change => .outboxEvent (change.target OutboxEvent.id)
  | .auditLog change => .auditLog (change.target AuditLog.id)

def DbWrite.value : (write : DbWrite) → Option write.key.Row
  | .store change => change.value
  | .user change => change.value
  | .subscription change => change.value
  | .category change => change.value
  | .product change => change.value
  | .order change => change.value
  | .orderItem change => change.value
  | .webhookEvent change => change.value
  | .idempotencyRecord change => change.value
  | .outboxEvent change => change.value
  | .auditLog change => change.value

namespace Database

def row (db : Database) : (key : RowKey) → Option key.Row
  | .store id => db.stores.find id
  | .user id => db.users.find id
  | .subscription id => db.subscriptions.find id
  | .category id => db.categories.find id
  | .product id => db.products.find id
  | .order id => db.orders.find id
  | .orderItem id => db.orderItems.find id
  | .webhookEvent eventId => db.webhookEvents.find eventId
  | .idempotencyRecord id => db.idempotencyRecords.find id
  | .outboxEvent id => db.outboxEvents.find id
  | .auditLog id => db.auditLogs.find id
  | .uniqueEntry _ => none

def write (db : Database) : DbWrite → Database
  | .store change => { db with stores := db.stores.write change }
  | .user change => { db with users := db.users.write change }
  | .subscription change => { db with subscriptions := db.subscriptions.write change }
  | .category change => { db with categories := db.categories.write change }
  | .product change => { db with products := db.products.write change }
  | .order change => { db with orders := db.orders.write change }
  | .orderItem change => { db with orderItems := db.orderItems.write change }
  | .webhookEvent change => { db with webhookEvents := db.webhookEvents.write change }
  | .idempotencyRecord change => { db with idempotencyRecords := db.idempotencyRecords.write change }
  | .outboxEvent change => { db with outboxEvents := db.outboxEvents.write change }
  | .auditLog change => { db with auditLogs := db.auditLogs.write change }

theorem row_write_same (db : Database) (write : DbWrite) : (db.write write).row write.key = write.value := by
  cases write <;> exact Table.find_write_same _ _

theorem row_write_ne (db : Database) (write : DbWrite) (key : RowKey) (differs : key ≠ write.key) :
    (db.write write).row key = db.row key := by
  cases write <;> cases key <;> first
    | rfl
    | exact Table.find_write_ne _ fun same => differs (congrArg _ same)

/-- A database with nothing in it. -/
def empty : Database :=
  ⟨.empty, .empty, .empty, .empty, .empty, .empty, .empty, .empty, .empty, .empty, .empty⟩

end Database

end StoreSaas
