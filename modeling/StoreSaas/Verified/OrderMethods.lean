import StoreSaas.Verified.References
import StoreSaas.Verified.StockMoves

/-! # `OrdersService.create` and `OrdersService.updateStatus`, run alone

One specification for each: what is in the database after a call that did not throw.
-/

namespace StoreSaas

/-! ## `create` -/

/-- `lines` were taken from the shelf, and an order with their items was added. -/
structure OrderCreated (before after : Database) (storeId : Uuid) (lines : List CreateOrderItemDto)
    (newOrder : Order) (rows : List OrderItem) : Prop where
  fresh : before.orders.find newOrder.id = none
  pending : newOrder.status = .pending
  inStore : newOrder.storeId = storeId
  orders : after.orders = before.orders.put newOrder
  orderItems : after.orderItems.rows = before.orderItems.rows ++ rows
  categories : after.categories = before.categories
  ofOrder : ∀ row ∈ rows, row.orderId = newOrder.id
  taken : ∀ p, quantityOf p rows = orderedQuantity p lines
  linked : ∀ row ∈ rows, 1 ≤ row.quantity ∧ ∀ p, row.productId = some p →
    ∃ product, before.products.find p = some product ∧ product.storeId = storeId
  places : ∀ p, (after.products.find p).map Product.place = (before.products.find p).map Product.place
  stock : ∀ p, after.stockOf p = before.stockOf p - orderedQuantity p lines

/-- The rows that are inserted for the items of the lines. -/
theorem rows_of_lines (env : Environment) {db : Database} {storeId : Uuid}
    {items : List OrdersService.NewItem} {lines : List CreateOrderItemDto}
    (matching : List.Forall₂ (fun (item : OrdersService.NewItem) line => item.productId = line.productId.id ∧
      item.quantity = line.quantity ∧
      ∃ row, db.products.find line.productId.id = some row ∧ row.storeId = storeId) items lines)
    (position : Nat) :
    let rows := items.mapIdx fun index => OrdersService.NewItem.toRow env (position + index)
    (∀ p, quantityOf p rows = orderedQuantity p lines) ∧
      ∀ row ∈ rows, row.orderId = env.newId 0 ∧ 1 ≤ row.quantity ∧ ∀ p, row.productId = some p →
        ∃ product, db.products.find p = some product ∧ product.storeId = storeId := by
  induction matching generalizing position with
  | nil => exact ⟨fun _ => rfl, fun _ present => nomatch present⟩
  | @cons item line restItems restLines facts rest ih =>
    obtain ⟨sameId, sameQuantity, inStore⟩ := facts
    obtain ⟨quantities, all⟩ := ih (position + 1)
    have shift : (fun index => OrdersService.NewItem.toRow env (position + 1 + index)) =
        (fun index => OrdersService.NewItem.toRow env (position + index)) ∘ (· + 1) := by
      funext index
      simp only [Function.comp, Nat.add_assoc, Nat.add_comm 1 index]
    rw [shift] at quantities all
    rw [List.mapIdx_cons]
    refine ⟨fun p => ?_, List.forall_mem_cons.mpr ⟨⟨rfl, ?_, ?_⟩, all⟩⟩
    · rw [quantityOf_cons, orderedQuantity_cons]
      congr 1
      · simp only [OrdersService.NewItem.toRow, Option.some.injEq, sameId, sameQuantity]
      · exact quantities p
    · exact line.atLeastOne.trans_eq sameQuantity.symm
    · rintro p isP
      cases isP
      rw [sameId]
      exact inStore

theorem ensures_notifyOwner (env : Environment) (storeId : Uuid) (savedOrder : Order) (db : Database) :
    Program.Ensures shop.executeOn (OrdersService.notifyOwner env storeId savedOrder) db fun _ after =>
      after = { db with outboxEvents := after.outboxEvents } := by
  unfold OrdersService.notifyOwner
  refine Program.ensures_perform_bind fun store after ran => ?_
  obtain ⟨writes, executed, rfl⟩ := Engine.executeOn_eq_ok ran
  cases executed
  split
  next => exact Program.ensures_done rfl
  next store _ =>
    refine Program.ensures_perform_bind fun owner after ran => ?_
    obtain ⟨writes, executed, rfl⟩ := Engine.executeOn_eq_ok ran
    cases executed
    split
    next => exact Program.ensures_done rfl
    next owner _ =>
      refine Program.ensures_perform fun reply after ran => ?_
      obtain ⟨writes, executed, rfl⟩ := Engine.executeOn_eq_ok ran
      obtain ⟨-, rfl⟩ := OutboxStatement.execute_insert executed
      rfl

theorem applyAll_putItems (db : Database) (rows : List OrderItem) :
    shop.applyAll db (rows.map fun row => .orderItem (.put row)) =
      { db with orderItems := rows.foldl Table.put db.orderItems } := by
  induction rows generalizing db with
  | nil => rfl
  | cons row rest ih => exact ih (db.write (.orderItem (.put row)))

/-- Inserting items changes no other table and appends the rows. -/
theorem applyAll_insertItems {db : Database} {rows : List OrderItem} (checked : db.checkItems rows = .ok ()) :
    ∃ table : Table OrderItem.id,
      shop.applyAll db (rows.map fun row => .orderItem (.put row)) = { db with orderItems := table } ∧
        table.rows = db.orderItems.rows ++ rows := by
  obtain ⟨distinct, all⟩ := Database.checkItems_ok checked
  exact ⟨_, applyAll_putItems db rows,
    Table.rows_foldl_put distinct fun row present => (Database.checkItem_ok (all row present)).1⟩

theorem ensures_create (env : Environment) (storeId : Uuid) (dto : CreateOrderDto) (db : Database) :
    Program.Ensures shop.executeOn (OrdersService.create env storeId dto) db fun entity after =>
      OrderCreated db after storeId dto.items entity.order entity.items := by
  unfold OrdersService.create
  refine (ensures_takeLines env storeId dto.items 0 [] db).bind fun taken middle moves => ?_
  obtain ⟨moved, added, isAdded, matching⟩ := moves
  rw [List.nil_append] at isAdded
  obtain ⟨quantities, linked⟩ := rows_of_lines env matching 0
  simp only [Nat.zero_add] at quantities linked
  dsimp only
  rw [isAdded]
  refine Program.ensures_perform_bind fun reply ordered ran => ?_
  obtain ⟨writes, executed, rfl⟩ := Engine.executeOn_eq_ok ran
  obtain ⟨fresh, rfl⟩ := OrderStatement.execute_insert executed
  refine Program.ensures_perform_bind fun reply itemized ran => ?_
  obtain ⟨writes, executed, rfl⟩ := Engine.executeOn_eq_ok ran
  obtain ⟨checked, rfl⟩ := OrderStatement.execute_insertItems executed
  obtain ⟨table, isTable, rows⟩ := applyAll_insertItems checked
  rw [isTable]
  refine (ensures_notifyOwner env storeId _ _).bind fun _ after notified => Program.ensures_done ?_
  exact
    { fresh := by rw [← moved.orders]; exact fresh
      pending := rfl
      inStore := rfl
      orders := by rw [notified, ← moved.orders]; rfl
      orderItems := by rw [notified, ← moved.orderItems]; exact rows
      categories := by rw [notified, ← moved.categories]; rfl
      ofOrder := fun row present => (linked row present).1
      taken := quantities
      linked := fun row present => (linked row present).2
      places := by rw [notified]; exact moved.places
      stock := by
        intro p
        rw [Int.sub_eq_add_neg, ← moved.stock p, notified]
        rfl }

/-! ## `updateStatus` -/

/-- What a cancellation brings back, when the order was not cancelled before. -/
def restocked (status : OrderStatus) (order : Order) (items : List OrderItem) (p : Uuid) : Int :=
  if OrdersService.isNewlyCancelled ⟨status⟩ order then quantityOf p items else 0

/-- `order` has become `updated`, and its items were restocked if this cancelled it. -/
structure StatusSet (before after : Database) (id storeId : Uuid) (status : OrderStatus) (order updated : Order) :
    Prop where
  found : before.findOrder id storeId = some order
  orders : after.orders = before.orders.put updated
  sameId : updated.id = id
  sameStore : updated.storeId = storeId
  newStatus : updated.status = status
  orderItems : after.orderItems = before.orderItems
  categories : after.categories = before.categories
  places : ∀ p, (after.products.find p).map Product.place = (before.products.find p).map Product.place
  stock : ∀ p, after.stockOf p = before.stockOf p + restocked status order (before.itemsOf id) p

/-- Items that are stored as they were loaded need no statement. -/
theorem saveItems_eq_done {items stored : List OrderItem}
    (same : ∀ item ∈ items, ∀ row ∈ stored, row.id = item.id → row.productId = item.productId) :
    OrdersService.saveItems items stored = .done () := by
  induction items with
  | nil => rfl
  | cons item rest ih =>
    have unchanged : stored.any (fun row => row.id = item.id ∧ row.productId ≠ item.productId) = false := by
      refine List.any_eq_false.mpr fun row present => ?_
      simpa using same item List.mem_cons_self row present
    unfold OrdersService.saveItems
    rw [unchanged]
    exact ih fun other inRest => same other (List.mem_cons_of_mem _ inRest)

theorem saveItems_itemsOf (db : Database) (id : Uuid) :
    OrdersService.saveItems (db.itemsOf id) (db.itemsOf id) = .done () :=
  saveItems_eq_done fun _ present _ rowPresent sameId =>
    congrArg OrderItem.productId (Table.eq_of_key_eq
      (Database.mem_itemsOf.mp rowPresent).1 (Database.mem_itemsOf.mp present).1 sameId)

/-- `save` of an order that was read in the same state, with another status. -/
theorem runWith_save (env : Environment) {db : Database} {order : Order} (status : OrderStatus)
    (stored : db.orders.find order.id = some order) :
    ∃ entity updated, (OrdersService.save env ⟨{ order with status := status }, db.itemsOf order.id⟩).runWith
        shop.executeOn db = (.ok entity, { db with orders := db.orders.put updated }) ∧
      updated.id = order.id ∧ updated.storeId = order.storeId ∧ updated.status = status := by
  have reselected : shop.executeOn (.order (.reselect ⟨{ order with status := status }, db.itemsOf order.id⟩)) db =
      (.ok (some (db.loadItems order)), db) := by
    change (Except.ok ((db.orders.find order.id).map db.loadItems), db) = _
    rw [stored]
    rfl
  by_cases same : status = order.status
  · refine ⟨⟨{ order with status := status }, db.itemsOf order.id⟩, order,
      (Program.runWith_perform_ok _ reselected).trans ?_, rfl, rfl, same.symm⟩
    dsimp only [Database.loadItems]
    rw [if_pos same, saveItems_itemsOf, Table.put_of_find stored]
    rfl
  · have updatedStatus : shop.executeOn (.order (.updateStatus order.id status env.now)) db =
        (.ok (), { db with orders := db.orders.put { order with status := status, updatedAt := env.now } }) := by
      simp only [Engine.executeOn, shop, Statement.execute, OrderStatement.execute, stored]
      rfl
    refine ⟨⟨{ order with status := status, updatedAt := env.now }, db.itemsOf order.id⟩,
      { order with status := status, updatedAt := env.now },
      (Program.runWith_perform_ok _ reselected).trans ?_, rfl, rfl, rfl⟩
    dsimp only [Database.loadItems]
    rw [if_neg same]
    refine (Program.runWith_perform_ok _ updatedStatus).trans ?_
    rw [saveItems_itemsOf]
    rfl

theorem ensures_findOne (storeId : Uuid) (id : RouteId) (db : Database) :
    Program.Ensures shop.executeOn (OrdersService.findOne storeId id) db fun entity after =>
      after = db ∧ ∃ uuid order, id = some uuid ∧ db.findOrder uuid storeId = some order ∧
        entity = ⟨order, db.itemsOf uuid⟩ := by
  unfold OrdersService.findOne
  refine Program.ensures_perform_bind fun found after ran => ?_
  obtain ⟨writes, executed, rfl⟩ := Engine.executeOn_eq_ok ran
  cases id with
  | none => cases executed
  | some uuid =>
    cases executed
    split
    next entity isLoaded =>
      obtain ⟨order, isFound, rfl⟩ := Option.map_eq_some_iff.mp isLoaded
      obtain ⟨-, sameId, -⟩ := Database.findOrder_eq_some isFound
      refine Program.ensures_done ⟨rfl, uuid, order, rfl, isFound, ?_⟩
      rw [Database.loadItems, sameId]
    next => exact Program.ensures_throw

theorem ensures_restockCancelled (env : Environment) (dto : UpdateOrderStatusDto) {db : Database}
    (linked : db.Linked) {order : Order} (stored : db.orders.find order.id = some order) :
    Program.Ensures shop.executeOn
      (if OrdersService.isNewlyCancelled dto order then
        OrdersService.restock env order.storeId (db.itemsOf order.id) else return ()) db
      fun _ after => StockMove db after (restocked dto.status order (db.itemsOf order.id)) := by
  split
  next cancels =>
    refine (ensures_restock env _ _ db (linked.itemsOf_inStore stored)).imp fun _ after moved =>
      moved.congr fun p => ?_
    rw [restocked, if_pos cancels]
  next keeps =>
    refine Program.ensures_done ((StockMove.refl db).congr fun p => ?_)
    rw [restocked, if_neg keeps]

theorem ensures_updateStatus (env : Environment) (storeId : Uuid) (id : RouteId) (dto : UpdateOrderStatusDto)
    {db : Database} (linked : db.Linked) :
    Program.Ensures shop.executeOn (OrdersService.updateStatus env storeId id dto) db fun _ after =>
      ∃ uuid order updated, id = some uuid ∧ StatusSet db after uuid storeId dto.status order updated := by
  unfold OrdersService.updateStatus
  refine (ensures_findOne storeId id db).bind fun entity after found => ?_
  obtain ⟨rfl, uuid, order, rfl, isFound, rfl⟩ := found
  obtain ⟨stored, rfl, rfl⟩ := Database.findOrder_eq_some isFound
  refine (ensures_restockCancelled env dto linked stored).bind fun _ middle moved => ?_
  intro entity final ran
  obtain ⟨saved, updated, saves, sameId, sameStore, newStatus⟩ :=
    runWith_save env dto.status (by rw [moved.orders]; exact stored : middle.orders.find order.id = some order)
  rw [moved.itemsOf] at saves
  cases saves.symm.trans ran
  exact ⟨order.id, order, updated, rfl,
    { found := isFound
      orders := by rw [moved.orders]
      sameId := sameId
      sameStore := sameStore
      newStatus := newStatus
      orderItems := moved.orderItems
      categories := moved.categories
      places := moved.places
      stock := moved.stock }⟩

/-- Alone, a status that is not a cancellation can always be set. -/
theorem runWith_updateStatus (env : Environment) {storeId uuid : Uuid} {dto : UpdateOrderStatusDto}
    {db : Database} {order : Order} (found : db.findOrder uuid storeId = some order)
    (keeps : OrdersService.isNewlyCancelled dto order = false) :
    ∃ entity after, (OrdersService.updateStatus env storeId (some uuid) dto).runWith shop.executeOn db =
      (.ok entity, after) := by
  obtain ⟨stored, rfl, rfl⟩ := Database.findOrder_eq_some found
  obtain ⟨entity, updated, saves, -⟩ := runWith_save env dto.status stored
  have lookedUp : (OrdersService.findOne order.storeId (some order.id)).runWith shop.executeOn db =
      (.ok ⟨order, db.itemsOf order.id⟩, db) := by
    have replied : shop.executeOn (.order (.findOne (some order.id) order.storeId)) db =
        (.ok (some (db.loadItems order)), db) := by
      change (Except.ok ((db.findOrder order.id order.storeId).map db.loadItems), db) = _
      rw [found]
      rfl
    exact (Program.runWith_perform_ok _ replied).trans rfl
  have unfolded : (OrdersService.updateStatus env order.storeId (some order.id) dto).runWith shop.executeOn db =
      _ := Program.runWith_bind_ok _ lookedUp
  have notCancelled : ¬ OrdersService.isNewlyCancelled dto order = true := by simp [keeps]
  rw [if_neg notCancelled] at unfolded
  exact ⟨entity, _, unfolded.trans saves⟩

end StoreSaas
