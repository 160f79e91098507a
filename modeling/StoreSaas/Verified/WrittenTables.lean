import StoreSaas.Library.Sequential
import StoreSaas.Schema.Statements

/-! # Which tables a statement writes

A frame lemma for every statement at once: it writes no row of a table that `writesTo`
does not name, the foreign keys' `ON DELETE SET NULL` included.
-/

namespace StoreSaas

inductive TableName where
  | stores
  | users
  | subscriptions
  | categories
  | products
  | orders
  | orderItems
  | webhookEvents
  | idempotencyRecords
  | outboxEvents
  | auditLogs
  | uniqueEntries
  deriving DecidableEq

def RowKey.table : RowKey → TableName
  | .store _ => .stores
  | .user _ => .users
  | .subscription _ => .subscriptions
  | .category _ => .categories
  | .product _ => .products
  | .order _ => .orders
  | .orderItem _ => .orderItems
  | .webhookEvent _ => .webhookEvents
  | .idempotencyRecord _ => .idempotencyRecords
  | .outboxEvent _ => .outboxEvents
  | .auditLog _ => .auditLogs
  | .uniqueEntry _ => .uniqueEntries

/-- The tables that a statement may write. -/
def Statement.writesTo : Statement → TableName → Bool
  | .product (.insert _), table | .product (.update _ _ _), table | .product (.increment _ _ _ _), table =>
    table = .products
  | .product (.delete _), table => table = .products || table = .orderItems
  | .category (.insert _), table | .category (.update _ _ _), table => table = .categories
  | .category (.delete _), table => table = .categories || table = .products
  | .order (.insert _), table | .order (.updateStatus _ _ _), table => table = .orders
  | .order (.insertItems _), table | .order (.updateItemProduct _ _), table => table = .orderItems
  | .outbox (.insert _), table | .outbox (.markProcessed _ _), table => table = .outboxEvents
  | .user _, table => table = .users
  | .billing _, table => table = .subscriptions || table = .webhookEvents
  | .idempotency _, table => table = .idempotencyRecords
  | .store _, table => table = .stores || table = .subscriptions || table = .users
  | .audit _, table => table = .auditLogs
  | _, _ => false

theorem Statement.execute_table {statement : Statement} {db : Database} {reply : statement.Reply}
    {writes : List DbWrite} (executed : statement.execute db = .ok (reply, writes)) :
    ∀ write ∈ writes, statement.writesTo write.key.table = true := by
  have reads : statement.isRead = true → ∀ write ∈ writes, statement.writesTo write.key.table = true := by
    intro isRead write made
    rw [execute_read isRead executed] at made
    cases made
  -- what a statement writes has been said for each kind: here each write is matched with its table
  cases statement with
  | setCurrentStore | enqueueMail => exact reads rfl
  | product statement =>
    cases statement with
    | findOne | getManyAndCount | selectForUpdate | reselect => exact reads rfl
    | insert entity =>
      obtain ⟨row, -, -, rfl⟩ := ProductStatement.execute_insert executed
      intro write made
      cases List.mem_singleton.mp made
      rfl
    | update id changes now =>
      obtain ⟨-, rfl⟩ | ⟨row, next, -, -, -, rfl⟩ := ProductStatement.execute_update executed
      · exact fun _ made => nomatch made
      · intro write made
        cases List.mem_singleton.mp made
        rfl
    | increment id storeId quantity now =>
      obtain ⟨-, -, rfl⟩ | ⟨row, -, -, rfl⟩ := ProductStatement.execute_increment executed
      · exact fun _ made => nomatch made
      · intro write made
        cases List.mem_singleton.mp made
        rfl
    | delete id =>
      obtain ⟨-, rfl⟩ | ⟨row, -, rfl⟩ := ProductStatement.execute_delete executed
      · exact fun _ made => nomatch made
      · intro write made
        -- the product and then its order items, which are linked to nothing from now on
        rcases List.mem_cons.mp made with rfl | unlinks
        · rfl
        · obtain ⟨item, -, rfl⟩ := List.mem_map.mp unlinks
          rfl
  | category statement =>
    cases statement with
    | findOne | find | reselect => exact reads rfl
    | insert entity =>
      intro write made
      obtain ⟨change, rfl⟩ := (CategoryStatement.insert entity).execute_writes (by simp) executed write made
      rfl
    | update id name now =>
      intro write made
      obtain ⟨change, rfl⟩ := (CategoryStatement.update id name now).execute_writes (by simp) executed write made
      rfl
    | delete id =>
      simp only [execute, CategoryStatement.execute] at executed
      split at executed
      next => cases executed; exact fun _ made => nomatch made
      next row present =>
        cases executed
        intro write made
        -- the category and then its products
        rcases List.mem_cons.mp made with rfl | unlinks
        · rfl
        · obtain ⟨product, -, rfl⟩ := List.mem_map.mp unlinks
          rfl
  | order statement =>
    cases statement with
    | findOne | getMany | getCount | reselect => exact reads rfl
    | insert row =>
      obtain ⟨-, rfl⟩ := OrderStatement.execute_insert executed
      intro write made
      cases List.mem_singleton.mp made
      rfl
    | insertItems rows =>
      obtain ⟨-, rfl⟩ := OrderStatement.execute_insertItems executed
      intro write made
      obtain ⟨row, -, rfl⟩ := List.mem_map.mp made
      rfl
    | updateStatus id status now =>
      obtain ⟨-, rfl⟩ | ⟨row, -, rfl⟩ := OrderStatement.execute_updateStatus executed
      · exact fun _ made => nomatch made
      · intro write made
        cases List.mem_singleton.mp made
        rfl
    | updateItemProduct id productId =>
      obtain ⟨-, rfl⟩ | ⟨item, -, rfl⟩ := OrderStatement.execute_updateItemProduct executed
      · exact fun _ made => nomatch made
      · intro write made
        cases List.mem_singleton.mp made
        rfl
  | outbox statement =>
    cases statement with
    | findStore | findUser | findPending => exact reads rfl
    | insert row =>
      intro write made
      obtain ⟨change, rfl⟩ := (OutboxStatement.insert row).execute_writes executed write made
      rfl
    | markProcessed id now =>
      intro write made
      obtain ⟨change, rfl⟩ := (OutboxStatement.markProcessed id now).execute_writes executed write made
      rfl
  | user statement =>
    intro write made
    obtain ⟨change, rfl⟩ := statement.execute_writes executed write made
    rfl
  | billing statement =>
    intro write made
    -- billing writes subscriptions and the record of webhook events
    obtain ⟨change, rfl⟩ | ⟨change, rfl⟩ := statement.execute_writes executed write made
    · rfl
    · rfl
  | idempotency statement =>
    intro write made
    obtain ⟨change, rfl⟩ := statement.execute_writes executed write made
    rfl
  | store statement =>
    intro write made
    -- a store, its subscription or its owner
    obtain ⟨change, rfl⟩ | ⟨change, rfl⟩ | ⟨change, rfl⟩ := statement.execute_writes executed write made <;> rfl
  | audit statement =>
    intro write made
    obtain ⟨change, rfl⟩ := statement.execute_writes executed write made
    rfl

/-- A row of a table that no write is about stays as it is. -/
theorem row_applyAll_of_table {db : Database} {writes : List DbWrite} (key : RowKey)
    (elsewhere : ∀ write ∈ writes, write.key.table ≠ key.table) :
    (shop.applyAll db writes).row key = db.row key :=
  shop.get_applyAll_of_untouched fun write made same => elsewhere write made (congrArg RowKey.table same)

theorem row_executeOn_of_table {db : Database} {statement : Statement} (key : RowKey)
    (spares : statement.writesTo key.table = false) : (shop.executeOn statement db).2.row key = db.row key := by
  unfold Engine.executeOn
  split
  next reply writes executed =>
    refine row_applyAll_of_table key fun write made same => ?_
    rw [← same, Statement.execute_table executed write made] at spares
    cases spares
  next => rfl

end StoreSaas
