import StoreSaas.Schema.OrderStatements
import StoreSaas.Schema.StoreStatements

/-! # The statements as one signature

`shop` is the database engine over all statements, and `Tx` the monad in which the
services are written; one wrapper for each statement lets them read like the
repository calls of the source.
-/

namespace StoreSaas

inductive Statement where
  /-- `set_config('app.current_store_id', ..., true)` -/
  | setCurrentStore (storeId : Uuid)
  | product (statement : ProductStatement)
  | category (statement : CategoryStatement)
  | order (statement : OrderStatement)
  | outbox (statement : OutboxStatement)
  | user (statement : UserStatement)
  | billing (statement : BillingStatement)
  | idempotency (statement : IdempotencyStatement)
  | store (statement : StoreStatement)
  | audit (statement : AuditStatement)
  /-- `MailQueueService.enqueue`: not a statement, but a call that may fail like one. -/
  | enqueueMail (message : MailMessage)

def Statement.Reply : Statement → Type
  | .setCurrentStore _ | .enqueueMail _ => Unit
  | .product statement => statement.Reply
  | .category statement => statement.Reply
  | .order statement => statement.Reply
  | .outbox statement => statement.Reply
  | .user statement => statement.Reply
  | .billing statement => statement.Reply
  | .idempotency statement => statement.Reply
  | .store statement => statement.Reply
  | .audit statement => statement.Reply

def Statement.execute : (statement : Statement) → Database →
    Except ApiError (statement.Reply × List DbWrite)
  | .setCurrentStore _, _ | .enqueueMail _, _ => .ok ((), [])
  | .product statement, db => statement.execute db
  | .category statement, db => statement.execute db
  | .order statement, db => statement.execute db
  | .outbox statement, db => statement.execute db
  | .user statement, db => statement.execute db
  | .billing statement, db => statement.execute db
  | .idempotency statement, db => statement.execute db
  | .store statement, db => statement.execute db
  | .audit statement, db => statement.execute db

def Statement.locks : Statement → Database → List (RowLock RowKey)
  | .product statement, db => statement.locks db
  | .category statement, db => statement.locks db
  | .order statement, db => statement.locks db
  | .user statement, db => statement.locks db
  | .store statement, db => statement.locks db
  | .setCurrentStore _, _ | .outbox _, _ | .billing _, _ | .idempotency _, _ | .audit _, _ | .enqueueMail _, _ => []

abbrev statements : Signature := ⟨Statement, Statement.Reply⟩

/-- The database engine of the shop. -/
def shop : Engine Database RowKey DbWrite RowKey.Row statements ApiError where
  get := Database.row
  apply := Database.write
  keyOf := DbWrite.key
  valueOf := DbWrite.value
  execute := Statement.execute
  locks := Statement.locks
  get_apply_same := Database.row_write_same
  get_apply_ne := Database.row_write_ne

/-! ## What the statements write -/

namespace Statement

/-- The statements of the catalogue, the orders and the outbox that only read. -/
def isRead : Statement → Bool
  | .setCurrentStore _ | .enqueueMail _ => true
  | .product statement => statement.isRead
  | .category statement => statement.isRead
  | .order statement => statement.isRead
  | .outbox statement => statement.isRead
  | .user _ | .billing _ | .idempotency _ | .store _ | .audit _ => false

theorem execute_read {statement : Statement} {db : Database} {reply : statement.Reply} {writes : List DbWrite}
    (reads : statement.isRead = true) (executed : statement.execute db = .ok (reply, writes)) : writes = [] := by
  cases statement with
  | setCurrentStore | enqueueMail => cases executed; rfl
  | product statement => exact statement.execute_read reads executed
  | category statement => exact statement.execute_read reads executed
  | order statement => exact statement.execute_read reads executed
  | outbox statement => exact statement.execute_read reads executed
  | user | billing | idempotency | store | audit => cases reads

/-- The statements that write no product row: a category that goes takes its products along. -/
def sparesProducts : Statement → Bool
  | .product statement => statement.isRead
  | .category (.delete _) => false
  | .category _ | .order _ | .outbox _ | .user _ | .billing _ | .idempotency _ | .store _ | .audit _
  | .setCurrentStore _ | .enqueueMail _ => true

theorem sparesProducts_of_isRead {statement : Statement} (reads : statement.isRead = true) :
    statement.sparesProducts = true := by
  cases statement with
  | category statement => cases statement <;> first | rfl | cases reads
  | product statement => exact reads
  | _ => rfl

theorem execute_spares {statement : Statement} {db : Database} {reply : statement.Reply} {writes : List DbWrite}
    (spares : statement.sparesProducts = true) (executed : statement.execute db = .ok (reply, writes)) :
    ∀ write ∈ writes, ∀ p, write.key ≠ .product p := by
  intro write made p isProduct
  cases statement with
  | setCurrentStore | enqueueMail => cases executed; cases made
  | product statement =>
    rw [statement.execute_read spares executed] at made
    cases made
  | category statement =>
    have keeps : ∀ id, statement ≠ .delete id := by
      rintro id rfl
      cases spares
    obtain ⟨change, rfl⟩ := statement.execute_writes keeps executed write made
    cases isProduct
  | order statement =>
    obtain ⟨change, rfl⟩ | ⟨change, rfl⟩ := statement.execute_writes executed write made <;> cases isProduct
  | outbox statement =>
    obtain ⟨change, rfl⟩ := statement.execute_writes executed write made
    cases isProduct
  | user statement =>
    obtain ⟨change, rfl⟩ := statement.execute_writes executed write made
    cases isProduct
  | billing statement =>
    obtain ⟨change, rfl⟩ | ⟨change, rfl⟩ := statement.execute_writes executed write made <;> cases isProduct
  | idempotency statement =>
    obtain ⟨change, rfl⟩ := statement.execute_writes executed write made
    cases isProduct
  | store statement =>
    obtain ⟨change, rfl⟩ | ⟨change, rfl⟩ | ⟨change, rfl⟩ := statement.execute_writes executed write made <;> cases isProduct
  | audit statement =>
    obtain ⟨change, rfl⟩ := statement.execute_writes executed write made
    cases isProduct

end Statement

/-! ## The monad of the services -/

abbrev Tx (α : Type) : Type := Program statements ApiError α

namespace Tx

def raise {α : Type} (error : ApiError) : Tx α := .throw error

def product (statement : ProductStatement) : Tx statement.Reply :=
  Program.perform (S := statements) (Statement.product statement)

def category (statement : CategoryStatement) : Tx statement.Reply :=
  Program.perform (S := statements) (Statement.category statement)

def order (statement : OrderStatement) : Tx statement.Reply :=
  Program.perform (S := statements) (Statement.order statement)

def outbox (statement : OutboxStatement) : Tx statement.Reply :=
  Program.perform (S := statements) (Statement.outbox statement)

def user (statement : UserStatement) : Tx statement.Reply :=
  Program.perform (S := statements) (Statement.user statement)

def billing (statement : BillingStatement) : Tx statement.Reply :=
  Program.perform (S := statements) (Statement.billing statement)

def idempotency (statement : IdempotencyStatement) : Tx statement.Reply :=
  Program.perform (S := statements) (Statement.idempotency statement)

def store (statement : StoreStatement) : Tx statement.Reply :=
  Program.perform (S := statements) (Statement.store statement)

def audit (statement : AuditStatement) : Tx statement.Reply :=
  Program.perform (S := statements) (Statement.audit statement)

def enqueueMail (message : MailMessage) : Tx Unit :=
  Program.perform (S := statements) (Statement.enqueueMail message)

def setCurrentStore (storeId : Uuid) : Tx Unit :=
  Program.perform (S := statements) (Statement.setCurrentStore storeId)

end Tx

end StoreSaas
