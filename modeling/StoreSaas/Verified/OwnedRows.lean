import StoreSaas.Library.Footprints
import StoreSaas.Verified.AtomicOrders

/-! # The rows that a store owns

The id of a row decides the store that owns it.  `partOf` is the database with the rows of
one store; the statements by which a request names its own ids only (`Statement.AtHome`)
reply and write by that part, whether or not the rows they name are still there, and write
rows of the store only.
-/

namespace StoreSaas

/-- The store of each id, those of e-mails included. -/
structure Holdings extends Homes where
  sends : Uuid → Uuid → Prop
  one_sender : ∀ event left right, sends event left → sends event right → left = right

/-- The id is the store's. -/
def Holdings.Owns (holdings : Holdings) (storeId : Uuid) : RowKey → Prop
  | .category id => holdings.home (.category id) storeId
  | .product id => holdings.home (.product id) storeId
  | .order id => holdings.home (.order id) storeId
  | .orderItem id => ∃ order, holdings.belongs id order ∧ holdings.home (.order order) storeId
  | .outboxEvent id => holdings.sends id storeId
  | .store _ | .user _ | .subscription _ | .webhookEvent _ | .idempotencyRecord _ | .auditLog _ | .uniqueEntry _ => False

variable {holdings : Holdings} {storeId : Uuid} {db : Database}

theorem Holdings.Owns.unique {key : RowKey} {other : Uuid} (owns : holdings.Owns storeId key)
    (ownsToo : holdings.Owns other key) : storeId = other := by
  cases key with
  | category | product | order => exact holdings.one_home _ _ _ owns ownsToo
  | orderItem id =>
    obtain ⟨order, belongs, home⟩ := owns
    obtain ⟨orderToo, belongsToo, homeToo⟩ := ownsToo
    cases holdings.one_order _ _ _ belongs belongsToo
    exact holdings.one_home _ _ _ home homeToo
  | outboxEvent => exact holdings.one_sender _ _ _ owns ownsToo
  | store | user | subscription | webhookEvent | idempotencyRecord | auditLog | uniqueEntry => exact owns.elim

theorem Holdings.Owns.table {key : RowKey} (owns : holdings.Owns storeId key) :
    key.table ≠ .stores ∧ key.table ≠ .users := by
  cases key with
  | store | user => exact owns.elim
  | _ => exact ⟨TableName.noConfusion, TableName.noConfusion⟩

/-! ## The part of a store -/

section Part

/-- The rows whose keys are kept, with the stores and the users. -/
def Database.partOf (db : Database) (keeps : RowKey → Bool) : Database :=
  { Database.empty with
    stores := db.stores
    users := db.users
    categories := db.categories.restrict fun row => keeps (.category row.id)
    products := db.products.restrict fun row => keeps (.product row.id)
    orders := db.orders.restrict fun row => keeps (.order row.id)
    orderItems := db.orderItems.restrict fun item => keeps (.orderItem item.id)
    outboxEvents := db.outboxEvents.restrict fun event => keeps (.outboxEvent event.id) }

theorem writesOnly_key {Row : Type} {key : Row → Uuid} {table : Table key} {change : Table.RowWrite Row Uuid}
    (keeps : Uuid → Bool) (kept : keeps (change.target key) = true) : table.WritesOnly (fun row => keeps (key row)) change where
  value row isRow := by
    cases change with
    | put stored => cases isRow; exact kept
    | erase => cases isRow
  old row found := (congrArg keeps (Table.key_of_find found)).trans kept

theorem restrict_foreign {Row : Type} {key : Row → Uuid} {table : Table key} {change : Table.RowWrite Row Uuid}
    (keeps : Uuid → Bool) (foreign : keeps (change.target key) = false) :
    (table.write change).restrict (fun row => keeps (key row)) = table.restrict fun row => keeps (key row) :=
  (writesOnly_key (fun id => !keeps id) (congrArg (!·) foreign)).restrict_other fun _ dropped =>
    (Bool.not_eq_true' _).mp dropped

/-- A row is in the part or not by its key, so that writes do not move it. -/
theorem cuts_partOf {keeps : RowKey → Bool} (owned : ∀ key, keeps key = true → holdings.Owns storeId key) :
    shop.Cuts (fun key => keeps key = true)
      (fun key => keeps key = false ∧ key.table ≠ .stores ∧ key.table ≠ .users) (·.partOf keeps) where
  own db write kept := by
    change (db.write write).partOf keeps = (db.partOf keeps).write write
    cases write with
    | category change =>
      simp only [Database.partOf, Database.write, (writesOnly_key (fun id => keeps (.category id)) kept).restrict]
    | product change =>
      simp only [Database.partOf, Database.write, (writesOnly_key (fun id => keeps (.product id)) kept).restrict]
    | order change =>
      simp only [Database.partOf, Database.write, (writesOnly_key (fun id => keeps (.order id)) kept).restrict]
    | orderItem change =>
      simp only [Database.partOf, Database.write, (writesOnly_key (fun id => keeps (.orderItem id)) kept).restrict]
    | outboxEvent change =>
      simp only [Database.partOf, Database.write, (writesOnly_key (fun id => keeps (.outboxEvent id)) kept).restrict]
    | store | user | subscription | webhookEvent | idempotencyRecord | auditLog => exact (owned _ kept).elim
  other db write isForeign := by
    obtain ⟨dropped, notStore, notUser⟩ := isForeign
    change (db.write write).partOf keeps = db.partOf keeps
    cases write with
    | category change =>
      simp only [Database.partOf, Database.write, restrict_foreign (fun id => keeps (.category id)) dropped]
    | product change =>
      simp only [Database.partOf, Database.write, restrict_foreign (fun id => keeps (.product id)) dropped]
    | order change =>
      simp only [Database.partOf, Database.write, restrict_foreign (fun id => keeps (.order id)) dropped]
    | orderItem change =>
      simp only [Database.partOf, Database.write, restrict_foreign (fun id => keeps (.orderItem id)) dropped]
    | outboxEvent change =>
      simp only [Database.partOf, Database.write, restrict_foreign (fun id => keeps (.outboxEvent id)) dropped]
    | store change => exact absurd rfl notStore
    | user change => exact absurd rfl notUser
    | subscription | webhookEvent | idempotencyRecord | auditLog => rfl

end Part

/-! ## Rows at home -/

section Home

variable {keeps : RowKey → Bool}

theorem HomeRows.linked (rows : HomeRows holdings.toHomes db) (exist : db.RefsExist) : db.Linked :=
  ShopRequest.linked_of_homeRows rows exist

theorem Holdings.home_iff {key : RowKey} {own : Uuid} (home : holdings.home key own) :
    holdings.home key storeId ↔ own = storeId :=
  ⟨holdings.one_home key own storeId home, fun same => same ▸ home⟩

theorem item_home_iff (rows : HomeRows holdings.toHomes db) (exist : db.RefsExist) {item : OrderItem}
    (present : item ∈ db.orderItems.rows) :
    holdings.Owns storeId (.orderItem item.id) ↔ (db.findOrder item.orderId storeId).isSome = true := by
  obtain ⟨belongs, -⟩ := rows.item (Table.find_of_mem present)
  obtain ⟨order, found⟩ := Option.isSome_iff_exists.mp ((rows.linked exist).itemOrder item present)
  have home := rows.order found
  constructor
  · rintro ⟨orderId, belongsToo, homeToo⟩
    cases holdings.one_order _ _ _ belongs belongsToo
    exact Option.isSome_iff_exists.mpr ⟨order, Option.filter_eq_some_iff.mpr
      ⟨found, decide_eq_true (holdings.one_home _ _ _ home homeToo)⟩⟩
  · intro isOwn
    obtain ⟨other, isOther⟩ := Option.isSome_iff_exists.mp isOwn
    obtain ⟨foundToo, -, rfl⟩ := Database.findOrder_eq_some isOther
    exact ⟨item.orderId, belongs, rows.order foundToo⟩

/-- Of rows at home, the store's part is what the store sees. -/
theorem partOf_eq (isPart : ∀ key, keeps key = true ↔ holdings.Owns storeId key)
    (rows : HomeRows holdings.toHomes db) (exist : db.RefsExist) :
    db.partOf keeps = { db.forStore storeId with
      outboxEvents := db.outboxEvents.restrict fun event => keeps (.outboxEvent event.id) } := by
  have categories : db.categories.restrict (fun row => keeps (.category row.id)) =
      db.categories.restrict fun row => row.storeId = storeId := by
    refine Table.ext (List.filter_congr fun row present => Bool.eq_iff_iff.mpr ?_)
    exact (isPart _).trans ((Holdings.home_iff (rows.category (Table.find_of_mem present))).trans decide_eq_true_iff.symm)
  have products : db.products.restrict (fun row => keeps (.product row.id)) =
      db.products.restrict fun row => row.storeId = storeId := by
    refine Table.ext (List.filter_congr fun row present => Bool.eq_iff_iff.mpr ?_)
    exact (isPart _).trans ((Holdings.home_iff (rows.product (Table.find_of_mem present)).1).trans decide_eq_true_iff.symm)
  have orders : db.orders.restrict (fun row => keeps (.order row.id)) =
      db.orders.restrict fun row => row.storeId = storeId := by
    refine Table.ext (List.filter_congr fun row present => Bool.eq_iff_iff.mpr ?_)
    exact (isPart _).trans ((Holdings.home_iff (rows.order (Table.find_of_mem present))).trans decide_eq_true_iff.symm)
  have orderItems : db.orderItems.restrict (fun item => keeps (.orderItem item.id)) =
      db.orderItems.restrict fun item => (db.findOrder item.orderId storeId).isSome := by
    refine Table.ext (List.filter_congr fun item present => Bool.eq_iff_iff.mpr ?_)
    exact (isPart _).trans (item_home_iff rows exist present)
  unfold Database.partOf Database.forStore
  rw [categories, products, orders, orderItems]

theorem findProduct_of_home (rows : HomeRows holdings.toHomes db) {id : Uuid} (home : holdings.home (.product id) storeId) :
    db.findProduct id storeId = db.products.find id := by
  cases found : db.products.find id with
  | none => exact findProduct_of_absent found
  | some row =>
    have sameStore := holdings.one_home _ _ _ (rows.product found).1 home
    exact Option.filter_eq_some_iff.mpr ⟨found, decide_eq_true sameStore⟩

theorem findCategory_of_home (rows : HomeRows holdings.toHomes db) {id : Uuid}
    (home : holdings.home (.category id) storeId) : db.findCategory id storeId = db.categories.find id := by
  cases found : db.categories.find id with
  | none => exact findCategory_of_absent found
  | some row =>
    have sameStore := holdings.one_home _ _ _ (rows.category found) home
    exact Option.filter_eq_some_iff.mpr ⟨found, decide_eq_true sameStore⟩

theorem findOrder_of_home (rows : HomeRows holdings.toHomes db) {id : Uuid} (home : holdings.home (.order id) storeId) :
    db.findOrder id storeId = db.orders.find id := by
  cases found : db.orders.find id with
  | none => exact findOrder_of_absent found
  | some row =>
    have sameStore := holdings.one_home _ _ _ (rows.order found) home
    exact Option.filter_eq_some_iff.mpr ⟨found, decide_eq_true sameStore⟩

end Home

/-! ## Statements at home -/

section AtHome

variable (holdings storeId)

/-- They name the store in what they look up, and ids of the store in all else. -/
def ProductStatement.AtHome : ProductStatement → Prop
  | .findOne _ store | .getManyAndCount store _ _ | .selectForUpdate _ store | .increment _ store _ _ => store = storeId
  | .reselect entity => holdings.home (.product entity.id) storeId
  | .insert entity => holdings.home (.product entity.id) storeId ∧
      ∀ c, entity.joinCategoryId = some c → holdings.home (.category c) storeId
  | .update id changes _ => holdings.home (.product id) storeId ∧
      ∀ c, changes.categoryId.join = some c → holdings.home (.category c) storeId
  | .delete id => holdings.home (.product id) storeId

def CategoryStatement.AtHome : CategoryStatement → Prop
  | .findOne _ store | .find store _ => store = storeId
  | .reselect entity => holdings.home (.category entity.id) storeId
  | .insert entity => holdings.home (.category entity.id) storeId
  | .update id _ _ => holdings.home (.category id) storeId
  | .delete id => holdings.home (.category id) storeId

def OrderStatement.AtHome : OrderStatement → Prop
  | .findOne _ store | .getMany store _ _ | .getCount store _ => store = storeId
  | .reselect entity => holdings.home (.order entity.order.id) storeId
  | .insert row => holdings.home (.order row.id) storeId
  | .insertItems rows => ∀ item ∈ rows, holdings.belongs item.id item.orderId ∧
      holdings.home (.order item.orderId) storeId ∧ ∀ p, item.productId = some p → holdings.home (.product p) storeId
  | .updateStatus id _ _ => holdings.home (.order id) storeId
  | .updateItemProduct id productId => holdings.Owns storeId (.orderItem id) ∧
      ∀ p, productId = some p → holdings.home (.product p) storeId

def OutboxStatement.AtHome : OutboxStatement → Prop
  | .findStore _ | .findUser _ => True
  | .insert row => holdings.sends row.id storeId
  | .findPending _ _ | .markProcessed _ _ => False

def Statement.AtHome : Statement → Prop
  | .product statement => statement.AtHome holdings storeId
  | .category statement => statement.AtHome holdings storeId
  | .order statement => statement.AtHome holdings storeId
  | .outbox statement => statement.AtHome holdings storeId
  | .setCurrentStore own => own = storeId
  | .enqueueMail _ => True
  | .user _ | .billing _ | .idempotency _ | .store _ | .audit _ => False

end AtHome

/-! ## Other stores' rows make no difference -/

section Execute

variable {keeps : RowKey → Bool}

theorem categoryExists_forStore (rows : HomeRows holdings.toHomes db) {categoryId : Option Uuid}
    (home : ∀ c, categoryId = some c → holdings.home (.category c) storeId) :
    (db.forStore storeId).categoryExists categoryId = db.categoryExists categoryId := by
  cases categoryId with
  | none => rfl
  | some c =>
    rw [Database.categoryExists, Database.categoryExists, Database.find_category_forStore,
      findCategory_of_home rows (home c rfl)]

theorem productExists_forStore (rows : HomeRows holdings.toHomes db) {productId : Option Uuid}
    (home : ∀ p, productId = some p → holdings.home (.product p) storeId) :
    (db.forStore storeId).productExists productId = db.productExists productId := by
  cases productId with
  | none => rfl
  | some p =>
    rw [Database.productExists, Database.productExists, Database.find_product_forStore,
      findProduct_of_home rows (home p rfl)]

theorem find_orderItem_forStore (rows : HomeRows holdings.toHomes db) (exist : db.RefsExist) {id : Uuid}
    (own : holdings.Owns storeId (.orderItem id)) : (db.forStore storeId).orderItems.find id = db.orderItems.find id := by
  change (db.orderItems.restrict _).find id = _
  rw [Table.find_restrict]
  cases found : db.orderItems.find id with
  | none => rfl
  | some item =>
    have present := Table.mem_of_find found
    obtain rfl : item.id = id := Table.key_of_find found
    exact Option.filter_eq_some_iff.mpr ⟨rfl, (item_home_iff rows exist present).mp own⟩

theorem ProductStatement.AtHome.execute_forStore {statement : ProductStatement}
    (atHome : statement.AtHome holdings storeId) (rows : HomeRows holdings.toHomes db) (exist : db.RefsExist) :
    statement.execute (db.forStore storeId) = statement.execute db := by
  have linked := rows.linked exist
  have byOwn (own : statement.Own storeId (fun _ => True) db) := ProductStatement.execute_forStore own
  cases statement with
  | findOne | getManyAndCount => exact byOwn ⟨atHome, linked.ownsCategories storeId⟩
  | selectForUpdate | increment => exact byOwn atHome
  | reselect entity =>
    simp only [execute, Database.find_product_forStore, findProduct_of_home rows atHome]
  | insert entity =>
    refine AtomicOrders.execute_insertProduct_congr ?_ rfl (categoryExists_forStore rows atHome.2)
    rw [Database.find_product_forStore, findProduct_of_home rows atHome.1]
  | update id changes now =>
    refine AtomicOrders.execute_update_congr ?_ fun _ => categoryExists_forStore rows atHome.2
    rw [Database.find_product_forStore, findProduct_of_home rows atHome.1]
  | delete id =>
    have same := findProduct_of_home rows atHome
    cases found : db.products.find id with
    | none => simp only [execute, Database.find_product_forStore, same, found]
    | some row => exact byOwn ⟨Option.isSome_of_mem (same.trans found), linked⟩

theorem CategoryStatement.AtHome.execute_forStore {statement : CategoryStatement}
    (atHome : statement.AtHome holdings storeId) (rows : HomeRows holdings.toHomes db) (exist : db.RefsExist) :
    statement.execute (db.forStore storeId) = statement.execute db := by
  have byOwn (own : statement.Own storeId (fun _ => True) db) := CategoryStatement.execute_forStore own
  cases statement with
  | findOne | find => exact byOwn atHome
  | reselect entity =>
    simp only [execute, Database.find_category_forStore, findCategory_of_home rows atHome]
  | insert entity =>
    have same := findCategory_of_home rows atHome
    simp only [execute]
    cases isRow : entity.toRow? with
    | none => rfl
    | some row =>
      obtain ⟨name, -, rfl⟩ := Option.map_eq_some_iff.mp isRow
      simp only [Database.find_category_forStore, same]
      rfl
  | update id name now =>
    simp only [execute, Database.find_category_forStore, findCategory_of_home rows atHome]
  | delete id =>
    have same := findCategory_of_home rows atHome
    cases found : db.categories.find id with
    | none => simp only [execute, Database.find_category_forStore, same, found]
    | some row => exact byOwn ⟨Option.isSome_of_mem (same.trans found), rows.linked exist⟩

theorem OrderStatement.AtHome.execute_forStore {statement : OrderStatement}
    (atHome : statement.AtHome holdings storeId) (rows : HomeRows holdings.toHomes db) (exist : db.RefsExist) :
    statement.execute (db.forStore storeId) = statement.execute db := by
  have byOwn (own : statement.Own storeId (fun _ => True) db) := OrderStatement.execute_forStore own
  cases statement with
  | findOne | getMany | getCount => exact byOwn atHome
  | reselect entity =>
    have same := findOrder_of_home rows atHome
    cases found : db.orders.find entity.order.id with
    | none =>
      simp only [execute, Database.find_order_forStore, same, found]
      rfl
    | some row => exact byOwn (Option.isSome_of_mem (same.trans found))
  | insert row =>
    refine AtomicOrders.execute_insertOrder_congr ?_ rfl
    rw [Database.find_order_forStore, findOrder_of_home rows atHome]
  | insertItems items =>
    refine AtomicOrders.execute_insertItems_congr fun item present => ?_
    obtain ⟨belongs, home, productHome⟩ := atHome item present
    unfold Database.checkItem
    rw [find_orderItem_forStore rows exist ⟨item.orderId, belongs, home⟩, Database.find_order_forStore,
      findOrder_of_home rows home, productExists_forStore rows productHome]
  | updateStatus id status now =>
    simp only [execute, Database.find_order_forStore, findOrder_of_home rows atHome]
  | updateItemProduct id productId =>
    simp only [execute, find_orderItem_forStore rows exist atHome.1, productExists_forStore rows atHome.2]

/-- Only the statements of the outbox look at its events. -/
theorem ProductStatement.execute_events (statement : ProductStatement) (events : Table OutboxEvent.id) :
    statement.execute { db with outboxEvents := events } = statement.execute db := by
  cases statement with
  | findOne id => cases id <;> rfl
  | _ => rfl

theorem CategoryStatement.execute_events (statement : CategoryStatement) (events : Table OutboxEvent.id) :
    statement.execute { db with outboxEvents := events } = statement.execute db := by
  cases statement with
  | findOne id => cases id <;> rfl
  | _ => rfl

theorem OrderStatement.execute_events (statement : OrderStatement) (events : Table OutboxEvent.id) :
    statement.execute { db with outboxEvents := events } = statement.execute db := by
  cases statement with
  | findOne id => cases id <;> rfl
  | insertItems => exact AtomicOrders.execute_insertItems_congr fun _ _ => rfl
  | _ => rfl

/-- A statement at home replies and writes by the store's part. -/
theorem Statement.AtHome.execute_partOf {statement : Statement} (atHome : statement.AtHome holdings storeId)
    (isPart : ∀ key, keeps key = true ↔ holdings.Owns storeId key) (rows : HomeRows holdings.toHomes db)
    (exist : db.RefsExist) : statement.execute (db.partOf keeps) = statement.execute db := by
  rw [partOf_eq isPart rows exist]
  cases statement with
  | product statement =>
    exact (statement.execute_events _).trans (ProductStatement.AtHome.execute_forStore atHome rows exist)
  | category statement =>
    exact (statement.execute_events _).trans (CategoryStatement.AtHome.execute_forStore atHome rows exist)
  | order statement =>
    exact (statement.execute_events _).trans (OrderStatement.AtHome.execute_forStore atHome rows exist)
  | outbox statement =>
    cases statement with
    | findStore | findUser => rfl
    | insert row =>
      refine AtomicOrders.execute_insertEvent_congr ?_
      change (db.outboxEvents.restrict _).find row.id = _
      have kept : keeps (.outboxEvent row.id) = true := (isPart _).mpr atHome
      rw [Table.find_restrict]
      cases found : db.outboxEvents.find row.id with
      | none => rfl
      | some event =>
        obtain sameId : event.id = row.id := Table.key_of_find found
        exact Option.filter_eq_some_iff.mpr ⟨rfl, sameId ▸ kept⟩
    | findPending | markProcessed => exact atHome.elim
  | setCurrentStore | enqueueMail => rfl
  | user | billing | idempotency | store | audit => exact atHome.elim

theorem Statement.AtHome.locks_partOf {statement : Statement} (atHome : statement.AtHome holdings storeId)
    (isPart : ∀ key, keeps key = true ↔ holdings.Owns storeId key) (rows : HomeRows holdings.toHomes db)
    (exist : db.RefsExist) : statement.locks (db.partOf keeps) = statement.locks db := by
  rw [partOf_eq isPart rows exist]
  cases statement with
  | product statement =>
    cases statement with
    | selectForUpdate id store =>
      obtain rfl : store = storeId := atHome
      change (((db.forStore store).findProduct id store).map _).toList = ((db.findProduct id store).map _).toList
      rw [Database.findProduct_forStore]
    | _ => rfl
  | category statement => cases statement <;> rfl
  | order statement => cases statement <;> rfl
  | outbox | setCurrentStore | enqueueMail => rfl
  | user | billing | idempotency | store | audit => exact atHome.elim

end Execute

/-! ## What is written is the store's -/

section Writes

variable {writes : List DbWrite}

theorem owns_unlinkProduct (rows : HomeRows holdings.toHomes db) {p : Uuid} (home : holdings.home (.product p) storeId) :
    ∀ write ∈ db.unlinkProduct p, holdings.Owns storeId write.key := by
  intro write made
  obtain ⟨item, isItem, rfl⟩ := List.mem_map.mp made
  obtain ⟨present, refers⟩ := List.mem_filter.mp isItem
  obtain ⟨belongs, -, inOrder⟩ := rows.item (Table.find_of_mem present)
  obtain ⟨store, productHome, orderHome⟩ := inOrder p (of_decide_eq_true refers)
  cases holdings.one_home _ _ _ productHome home
  exact ⟨item.orderId, belongs, orderHome⟩

theorem owns_unlinkCategory (rows : HomeRows holdings.toHomes db) {c : Uuid}
    (home : holdings.home (.category c) storeId) :
    ∀ write ∈ db.unlinkCategory c, holdings.Owns storeId write.key := by
  intro write made
  obtain ⟨row, isRow, rfl⟩ := List.mem_map.mp made
  obtain ⟨present, refers⟩ := List.mem_filter.mp isRow
  obtain ⟨productHome, inStore⟩ := rows.product (Table.find_of_mem present)
  cases holdings.one_home _ _ _ (inStore c (of_decide_eq_true refers)) home
  exact productHome

theorem ProductStatement.AtHome.writesOwn {statement : ProductStatement} {reply : statement.Reply}
    (atHome : statement.AtHome holdings storeId) (rows : HomeRows holdings.toHomes db)
    (executed : statement.execute db = .ok (reply, writes)) :
    ∀ write ∈ writes, holdings.Owns storeId write.key := by
  cases statement with
  | findOne | getManyAndCount | selectForUpdate | reselect =>
    rw [execute_read rfl executed]
    exact fun _ none => by cases none
  | insert entity =>
    obtain ⟨row, isRow, -, rfl⟩ := execute_insert executed
    obtain ⟨sameId, -⟩ := ProductEntity.toRow?_eq_some isRow
    refine List.forall_mem_singleton.mpr ?_
    change holdings.home (.product row.id) storeId
    rw [sameId]
    exact atHome.1
  | update id changes now =>
    obtain ⟨-, rfl⟩ | ⟨row, next, found, applied, -, rfl⟩ := execute_update executed
    · exact fun _ none => by cases none
    · obtain ⟨sameId, -⟩ := ProductChanges.applyTo?_eq_some applied
      refine List.forall_mem_singleton.mpr ?_
      change holdings.home (.product next.id) storeId
      rw [sameId, Table.key_of_find found]
      exact atHome.1
  | increment id store quantity now =>
    obtain rfl : store = storeId := atHome
    obtain ⟨-, -, rfl⟩ | ⟨row, found, -, rfl⟩ := execute_increment executed
    · exact fun _ none => by cases none
    · obtain ⟨present, rfl, rfl⟩ := Database.findProduct_eq_some found
      exact List.forall_mem_singleton.mpr (rows.product present).1
  | delete id =>
    obtain ⟨-, rfl⟩ | ⟨row, found, rfl⟩ := execute_delete executed
    · exact fun _ none => by cases none
    · obtain rfl : row.id = id := Table.key_of_find found
      exact List.forall_mem_cons.mpr ⟨atHome, owns_unlinkProduct rows atHome⟩

theorem CategoryStatement.AtHome.writesOwn {statement : CategoryStatement} {reply : statement.Reply}
    (atHome : statement.AtHome holdings storeId) (rows : HomeRows holdings.toHomes db)
    (executed : statement.execute db = .ok (reply, writes)) :
    ∀ write ∈ writes, holdings.Owns storeId write.key := by
  cases statement with
  | findOne id =>
    cases id <;> cases executed
    exact fun _ none => by cases none
  | find | reselect =>
    cases executed
    exact fun _ none => by cases none
  | insert entity =>
    simp only [execute] at executed
    split at executed
    next => cases executed
    next row isRow =>
      obtain ⟨name, -, rfl⟩ := Option.map_eq_some_iff.mp isRow
      split at executed
      next => cases executed
      next =>
        split at executed
        next => cases executed
        next =>
          cases executed
          exact List.forall_mem_singleton.mpr atHome
  | update id name now =>
    simp only [execute] at executed
    split at executed
    next =>
      cases executed
      exact fun _ none => by cases none
    next => cases executed
    next row name found =>
      cases executed
      obtain rfl : row.id = id := Table.key_of_find found
      exact List.forall_mem_singleton.mpr atHome
  | delete id =>
    simp only [execute] at executed
    split at executed
    next =>
      cases executed
      exact fun _ none => by cases none
    next row found =>
      cases executed
      obtain rfl : row.id = id := Table.key_of_find found
      -- the category, and the products that lose it
      exact List.forall_mem_cons.mpr ⟨atHome, owns_unlinkCategory rows atHome⟩

theorem OrderStatement.AtHome.writesOwn {statement : OrderStatement} {reply : statement.Reply}
    (atHome : statement.AtHome holdings storeId) (executed : statement.execute db = .ok (reply, writes)) :
    ∀ write ∈ writes, holdings.Owns storeId write.key := by
  cases statement with
  | findOne | getMany | getCount | reselect =>
    rw [execute_read rfl executed]
    exact fun _ none => by cases none
  | insert row =>
    obtain ⟨-, rfl⟩ := execute_insert executed
    exact List.forall_mem_singleton.mpr atHome
  | insertItems items =>
    obtain ⟨-, rfl⟩ := execute_insertItems executed
    intro write made
    obtain ⟨item, present, rfl⟩ := List.mem_map.mp made
    obtain ⟨belongs, home, -⟩ := atHome item present
    exact ⟨item.orderId, belongs, home⟩
  | updateStatus id status now =>
    obtain ⟨-, rfl⟩ | ⟨row, found, rfl⟩ := execute_updateStatus executed
    · exact fun _ none => by cases none
    · obtain rfl : row.id = id := Table.key_of_find found
      exact List.forall_mem_singleton.mpr atHome
  | updateItemProduct id productId =>
    obtain ⟨-, rfl⟩ | ⟨item, found, rfl⟩ := execute_updateItemProduct executed
    · exact fun _ none => by cases none
    · obtain rfl : item.id = id := Table.key_of_find found
      exact List.forall_mem_singleton.mpr atHome.1

/-- A statement at home writes rows of the store only. -/
theorem Statement.AtHome.writesOwn {statement : Statement} {reply : statement.Reply}
    (atHome : statement.AtHome holdings storeId) (rows : HomeRows holdings.toHomes db)
    (executed : statement.execute db = .ok (reply, writes)) :
    ∀ write ∈ writes, holdings.Owns storeId write.key := by
  cases statement with
  | product statement => exact ProductStatement.AtHome.writesOwn atHome rows executed
  | category statement => exact CategoryStatement.AtHome.writesOwn atHome rows executed
  | order statement => exact OrderStatement.AtHome.writesOwn atHome executed
  | outbox statement =>
    cases statement with
    | findStore | findUser =>
      cases executed
      exact fun _ none => by cases none
    | insert row =>
      simp only [execute, OutboxStatement.execute] at executed
      split at executed
      next => cases executed
      next =>
        cases executed
        exact List.forall_mem_singleton.mpr atHome
    | findPending | markProcessed => exact atHome.elim
  | setCurrentStore | enqueueMail =>
    cases executed
    exact fun _ none => by cases none
  | user | billing | idempotency | store | audit => exact atHome.elim

/-- The locks on the store's rows, and the shared ones on the stores that new rows refer to. -/
def Holdings.Locks (holdings : Holdings) (storeId : Uuid) (lock : RowLock RowKey) : Prop :=
  holdings.Owns storeId lock.key ∨ (lock.mode = .keyShare ∧ lock.key.table = .stores)

theorem Holdings.Locks.unique {left right : RowLock RowKey} {other : Uuid} (own : holdings.Locks storeId left)
    (ownToo : holdings.Locks other right) (conflict : left.Conflicts right) : storeId = other := by
  obtain ⟨sameKey, modes⟩ := conflict
  rcases own with owned | ⟨isShare, isStore⟩
  · rcases ownToo with ownedToo | ⟨-, isStore⟩
    · exact owned.unique (sameKey ▸ ownedToo)
    · exact absurd isStore (sameKey ▸ owned.table.1)
  · rcases ownToo with ownedToo | ⟨isShareToo, -⟩
    · exact absurd isStore (sameKey ▸ ownedToo.table.1)
    · rw [isShare, isShareToo] at modes
      cases modes

theorem locks_referenceLocks {keys : List RowKey}
    (own : ∀ key ∈ keys, holdings.Owns storeId key ∨ key.table = .stores) :
    ∀ lock ∈ referenceLocks keys, holdings.Locks storeId lock := by
  intro lock needed
  obtain ⟨key, refers, rfl⟩ := List.mem_map.mp needed
  exact (own key refers).imp_right fun isStore => ⟨rfl, isStore⟩

theorem owns_of_reference {reference : Option Uuid} {keyOf : Uuid → RowKey}
    (own : ∀ id, reference = some id → holdings.Owns storeId (keyOf id)) :
    ∀ key ∈ (reference.map keyOf).toList, holdings.Owns storeId key ∨ key.table = .stores := by
  intro key refers
  obtain ⟨id, isReference, rfl⟩ := Option.map_eq_some_iff.mp (Option.mem_toList.mp refers)
  exact .inl (own id isReference)

theorem ProductStatement.AtHome.locksNamed {statement : ProductStatement} (atHome : statement.AtHome holdings storeId)
    (rows : HomeRows holdings.toHomes db) : ∀ lock ∈ statement.locks db, holdings.Locks storeId lock := by
  cases statement with
  | selectForUpdate id store =>
    obtain rfl : store = storeId := atHome
    intro lock needed
    obtain ⟨row, found, rfl⟩ := Option.map_eq_some_iff.mp (Option.mem_toList.mp needed)
    obtain ⟨present, rfl, rfl⟩ := Database.findProduct_eq_some found
    exact .inl (rows.product present).1
  | insert entity =>
    exact locks_referenceLocks (List.forall_mem_cons.mpr ⟨.inr rfl, owns_of_reference atHome.2⟩)
  | update id changes now => exact locks_referenceLocks (owns_of_reference atHome.2)
  | _ => exact fun _ none => by cases none

theorem OrderStatement.AtHome.locksNamed {statement : OrderStatement} (atHome : statement.AtHome holdings storeId) :
    ∀ lock ∈ statement.locks db, holdings.Locks storeId lock := by
  cases statement with
  | insert row => exact locks_referenceLocks (List.forall_mem_singleton.mpr (.inr rfl))
  | insertItems items =>
    refine locks_referenceLocks fun key refers => ?_
    obtain ⟨item, present, isKey⟩ := List.mem_flatMap.mp refers
    obtain ⟨-, orderHome, productHome⟩ := atHome item present
    exact List.forall_mem_cons.mpr ⟨.inl orderHome, owns_of_reference productHome⟩ key isKey
  | updateItemProduct id productId => exact locks_referenceLocks (owns_of_reference atHome.2)
  | _ => exact fun _ none => by cases none

/-- A statement at home needs locks of the store only. -/
theorem Statement.AtHome.locksOwn {statement : Statement} {reply : statement.Reply}
    (atHome : statement.AtHome holdings storeId) (rows : HomeRows holdings.toHomes db)
    (executed : statement.execute db = .ok (reply, writes)) :
    ∀ lock ∈ shop.locksOf statement db writes, holdings.Locks storeId lock := by
  have named : ∀ lock ∈ statement.locks db, holdings.Locks storeId lock := by
    cases statement with
    | product statement => exact ProductStatement.AtHome.locksNamed atHome rows
    | order statement => exact OrderStatement.AtHome.locksNamed atHome
    | category statement =>
      cases statement with
      | insert entity => exact locks_referenceLocks (List.forall_mem_singleton.mpr (.inr rfl))
      | _ => exact fun _ none => by cases none
    | outbox | setCurrentStore | enqueueMail => exact fun _ none => by cases none
    | user | billing | idempotency | store | audit => exact atHome.elim
  intro lock needed
  rcases List.mem_append.mp needed with isNamed | isWritten
  · exact named lock isNamed
  · obtain ⟨write, made, rfl⟩ := List.mem_map.mp isWritten
    exact .inl (atHome.writesOwn rows executed write made)

end Writes

end StoreSaas
