import StoreSaas.Verified.OrderLines

/-! # Creating an order, exactly

`runWith_create` says when `OrdersService.create` succeeds and what it leaves then; a
call that fails leaves nothing (`createsExactly`).
-/

namespace StoreSaas

/-! ## What is inserted for the lines -/

/-- The ids that the call generates are new. -/
structure FreshFor (env : Environment) (db : Database) (count : Nat) : Prop where
  order : db.orders.find (env.newId 0) = none
  event : db.outboxEvents.find (env.newId 1) = none
  items : ∀ position < count, db.orderItems.find (env.newId (2 + position)) = none
  distinct : ∀ left < count, ∀ right < count, env.newId (2 + left) = env.newId (2 + right) → left = right

theorem checkItems_of_checked {db : Database} {rows : List OrderItem} (distinct : (rows.map OrderItem.id).Nodup)
    (checked : ∀ row ∈ rows, db.checkItem row = .ok ()) : db.checkItems rows = .ok () := by
  induction rows with
  | nil => rfl
  | cons row rest ih =>
    obtain ⟨isNew, restDistinct⟩ := List.nodup_cons.mp distinct
    have noOther : (rest.any fun other => other.id = row.id) = false := by
      refine List.any_eq_false.mpr fun other inRest => ?_
      simpa using fun same : other.id = row.id => isNew (same ▸ List.mem_map_of_mem inRest)
    simp only [Database.checkItems, noOther, Bool.false_eq_true, if_false, checked row List.mem_cons_self]
    exact ih restDistinct fun other inRest => checked other (List.mem_cons_of_mem _ inRest)

/-- The item of an order that a line has become. -/
def ItemOf (db : Database) (storeId orderId : Uuid) (item : OrderItem) (line : CreateOrderItemDto) : Prop :=
  ∃ row, db.findProduct line.productId.id storeId = some row ∧ item.orderId = orderId ∧
    item.productId = some row.id ∧ item.productName = row.name ∧ item.quantity = line.quantity ∧
    item.unitPrice = row.price

def itemsTotal (items : List OrderItem) : Cents := (items.map fun item => item.unitPrice * (item.quantity : Int)).sum

section Rows

variable {env : Environment} {db : Database} {storeId : Uuid} {added : List OrdersService.NewItem}
  {lines : List CreateOrderItemDto}

/-- One row for each line, in their order. -/
theorem itemOf_rows (newItems : List.Forall₂ (NewItemOf db storeId) added lines) (position : Nat) :
    List.Forall₂ (ItemOf db storeId (env.newId 0))
      (added.mapIdx fun index => OrdersService.NewItem.toRow env (position + index)) lines := by
  induction newItems generalizing position with
  | nil => exact .nil
  | @cons item line restItems restLines isItem rest ih =>
    obtain ⟨row, found, rfl⟩ := isItem
    obtain ⟨-, sameId, -⟩ := Database.findProduct_eq_some found
    rw [List.mapIdx_cons]
    refine .cons ⟨row, found, rfl, congrArg some sameId.symm, rfl, rfl, rfl⟩ ?_
    simpa only [Nat.add_assoc, Nat.add_comm 1] using ih (position + 1)

theorem exists_of_forall₂ {α β : Type} {related : α → β → Prop} {left : List α} {right : List β}
    (matching : List.Forall₂ related left right) {item : α} (present : item ∈ left) :
    ∃ other ∈ right, related item other := by
  induction matching with
  | nil => cases present
  | cons isRelated rest ih =>
    rcases List.mem_cons.mp present with rfl | inRest
    · exact ⟨_, List.mem_cons_self, isRelated⟩
    · obtain ⟨other, inRight, both⟩ := ih inRest
      exact ⟨other, List.mem_cons_of_mem _ inRight, both⟩

/-- What the rows come to is what the lines cost. -/
theorem sum_rows {orderId : Uuid} {rows : List OrderItem} (items : List.Forall₂ (ItemOf db storeId orderId) rows lines) :
    itemsTotal rows = db.costOf lines := by
  induction items with
  | nil => rfl
  | @cons item line restRows restLines isItem rest ih =>
    obtain ⟨row, found, -, -, -, sameQuantity, samePrice⟩ := isItem
    have first : itemsTotal (item :: restRows) = item.unitPrice * item.quantity + itemsTotal restRows := rfl
    rw [first, ih, Database.costOf_cons, sameQuantity, samePrice,
      priceOf_of_find (Database.findProduct_eq_some found).1]

theorem nodup_rows (fresh : FreshFor env db added.length) :
    ((added.mapIdx (OrdersService.NewItem.toRow env)).map OrderItem.id).Nodup := by
  refine List.nodup_iff_injective_get.mpr fun left right same => ?_
  have isLeft : left.1 < added.length := by simpa using left.2
  have isRight : right.1 < added.length := by simpa using right.2
  simp only [List.get_eq_getElem, List.getElem_map, List.getElem_mapIdx, OrdersService.NewItem.toRow] at same
  exact Fin.ext (fresh.distinct left isLeft right isRight same)

end Rows

/-! ## The whole call -/

theorem runWith_notifyOwner (env : Environment) (storeId : Uuid) (savedOrder : Order) (db : Database)
    (fresh : db.outboxEvents.find (env.newId 1) = none) :
    ∃ events, (OrdersService.notifyOwner env storeId savedOrder).runWith shop.executeOn db =
      (.ok (), { db with outboxEvents := events }) := by
  have storeFound : shop.executeOn (.outbox (.findStore storeId)) db = (.ok (db.stores.find storeId), db) := rfl
  have start : (OrdersService.notifyOwner env storeId savedOrder).runWith shop.executeOn db = _ :=
    Program.runWith_perform_ok shop.executeOn storeFound
  rw [start]
  cases db.stores.find storeId with
  | none => exact ⟨db.outboxEvents, rfl⟩
  | some store =>
    have ownerFound : shop.executeOn (.outbox (.findUser store.ownerId)) db = (.ok (db.users.find store.ownerId), db) :=
      rfl
    cases isOwner : db.users.find store.ownerId with
    | none =>
      rw [isOwner] at ownerFound
      exact ⟨db.outboxEvents, Program.runWith_perform_ok shop.executeOn ownerFound⟩
    | some owner =>
      rw [isOwner] at ownerFound
      have written (message : MailMessage) :
          ∃ events, (OutboxService.writeSendEmail env message).runWith shop.executeOn db =
            (.ok (), { db with outboxEvents := events }) := by
        let event : OutboxEvent := ⟨env.newId 1, "send-email", message, false, env.now, none⟩
        have inserted : shop.executeOn (.outbox (.insert event)) db =
            (.ok (), { db with outboxEvents := db.outboxEvents.put event }) := by
          simp only [Engine.executeOn, shop, Statement.execute, OutboxStatement.execute, event, fresh]
          rfl
        exact ⟨_, (Program.runWith_perform shop.executeOn _ db).trans inserted⟩
      obtain ⟨events, ran⟩ := written _
      exact ⟨events, (Program.runWith_perform_ok shop.executeOn ownerFound).trans ran⟩

/-- The order was placed: what the lines name was taken, and one pending order stands for them. -/
structure OrderPlaced (env : Environment) (storeId : Uuid) (lines : List CreateOrderItemDto) (before after : Database)
    (entity : OrderEntity) : Prop where
  order : entity.order = ⟨env.newId 0, storeId, .pending, before.costOf lines, env.now, env.now⟩
  items : List.Forall₂ (ItemOf before storeId (env.newId 0)) entity.items lines
  total : entity.order.total = itemsTotal entity.items
  orders : after.orders.rows = before.orders.rows ++ [entity.order]
  orderItems : after.orderItems.rows = before.orderItems.rows ++ entity.items
  labels : ∀ p, (after.products.find p).map Product.label = (before.products.find p).map Product.label
  stock : ∀ p, after.stockOf p = before.stockOf p - orderedQuantity p lines
  untouched : ∀ p, (∀ line ∈ lines, line.productId.id ≠ p) → after.products.find p = before.products.find p
  others : after = { before with
    products := after.products
    orders := after.orders
    orderItems := after.orderItems
    outboxEvents := after.outboxEvents }

section Create

variable {env : Environment} {storeId : Uuid} {lines : List CreateOrderItemDto} {db middle : Database}
  {added : List OrdersService.NewItem}

theorem executeOn_insertOrder {newOrder : Order} (absent : middle.orders.find newOrder.id = none)
    (isStore : middle.storeExists newOrder.storeId = true) (fits : fitsNumeric newOrder.total = true) :
    shop.executeOn (.order (.insert newOrder)) middle =
      (.ok (), { middle with orders := middle.orders.put newOrder }) := by
  simp only [Engine.executeOn, shop, Statement.execute, OrderStatement.execute, absent, isStore, fits,
    Option.isSome_none, Bool.true_eq_false, Bool.false_eq_true, if_false]
  rfl

/-- The rows for the lines pass every check of their `INSERT`, once the order is there. -/
theorem checkItems_rows (fit : db.ColumnsFit) (stocks : db.Stocks storeId lines)
    (newItems : List.Forall₂ (NewItemOf db storeId) added lines) (taken : LinesTaken db middle lines)
    (fresh : FreshFor env db added.length) {newOrder : Order} (isNew : newOrder.id = env.newId 0) :
    Database.checkItems { middle with orders := middle.orders.put newOrder }
      (added.mapIdx (OrdersService.NewItem.toRow env)) = .ok () := by
  refine checkItems_of_checked (nodup_rows fresh) fun row present => ?_
  obtain ⟨position, inRange, rfl⟩ := List.mem_mapIdx.mp present
  obtain ⟨line, isLine, product, found, isItem⟩ := exists_of_forall₂ newItems (List.getElem_mem inRange)
  obtain ⟨present, sameId, -⟩ := Database.findProduct_eq_some found
  rw [isItem]
  have productFits := fit _ _ present
  simp only [Product.fitsColumns, fitsInteger, Bool.and_eq_true, decide_eq_true_eq] at productFits
  have asked := quantity_le_orderedQuantity isLine
  have inStock := (stocks line isLine).2
  rw [stockOf_of_find present] at inStock
  have fits : (fitsInteger line.quantity && fitsNumeric product.price) = true := by
    rw [productFits.2, Bool.and_true]
    exact decide_eq_true (by omega)
  have absent : middle.orderItems.find (env.newId (2 + position)) = none := by
    rw [taken.others]
    exact fresh.items position inRange
  have orderThere : ((middle.orders.put newOrder).find (env.newId 0)).isSome = true := by
    rw [← isNew, Table.find_put_same]
    rfl
  have productThere : (middle.products.find line.productId.id).isSome = true := by
    have sameLabel := congrArg Option.isSome (taken.labels line.productId.id)
    rwa [Option.isSome_map, present, Option.map_some] at sameLabel
  simp only [Database.checkItem, OrdersService.NewItem.toRow, Database.productExists, fits, absent, orderThere,
    productThere, Option.isSome_none, Bool.and_self, Bool.true_eq_false, Bool.false_eq_true, if_false]

/-- Once the lines are taken, only the total can be in the way. -/
theorem runWith_create_taken {dto : CreateOrderDto} (isStore : db.storeExists storeId = true) (fit : db.ColumnsFit)
    (fresh : FreshFor env db dto.items.length) (stocks : db.Stocks storeId dto.items)
    (ran : (OrdersService.takeLines env storeId dto.items 0 []).runWith shop.executeOn db =
      (.ok (db.costOf dto.items, added), middle))
    (newItems : List.Forall₂ (NewItemOf db storeId) added dto.items) (taken : LinesTaken db middle dto.items) :
    (fitsNumeric (db.costOf dto.items) = true ∧ ∃ entity after,
      (OrdersService.create env storeId dto).runWith shop.executeOn db = (.ok entity, after) ∧
        OrderPlaced env storeId dto.items db after entity) ∨
    (fitsNumeric (db.costOf dto.items) = false ∧ ∃ after,
      (OrdersService.create env storeId dto).runWith shop.executeOn db = (.error .numericValueOutOfRange, after)) := by
  let newOrder : Order := ⟨env.newId 0, storeId, .pending, db.costOf dto.items, env.now, env.now⟩
  let rows := added.mapIdx (OrdersService.NewItem.toRow env)
  have start : (OrdersService.create env storeId dto).runWith shop.executeOn db = _ :=
    Program.runWith_bind_ok shop.executeOn ran
  rw [start]
  have absent : middle.orders.find newOrder.id = none := by
    rw [taken.others]
    exact fresh.order
  have storeThere : middle.storeExists newOrder.storeId = true := by
    rw [taken.others]
    exact isStore
  cases fits : fitsNumeric (db.costOf dto.items) with
  | false =>
    -- numeric(10,2) refuses the total, after the stock has been taken
    have refused : shop.executeOn (.order (.insert newOrder)) middle = (.error .numericValueOutOfRange, middle) := by
      simp only [Engine.executeOn, shop, Statement.execute, OrderStatement.execute, newOrder, fits, if_true]
    refine .inr ⟨rfl, middle, (Program.runWith_perform_bind shop.executeOn _ _ middle).trans ?_⟩
    rw [refused]
    rfl
  | true =>
    have length : added.length = dto.items.length := newItems.length_eq
    -- the order, its items and its event follow one another, each on what the last has left
    have ordered := executeOn_insertOrder absent storeThere fits
    have checked : Database.checkItems { middle with orders := middle.orders.put newOrder } rows = .ok () :=
      checkItems_rows fit stocks newItems taken (length ▸ fresh) rfl
    obtain ⟨table, isTable, appended⟩ := applyAll_insertItems checked
    have itemized : shop.executeOn (.order (.insertItems rows)) { middle with orders := middle.orders.put newOrder } =
        (.ok (), { middle with orders := middle.orders.put newOrder, orderItems := table }) := by
      have executed : OrderStatement.execute (.insertItems rows) { middle with orders := middle.orders.put newOrder } =
          .ok ((), rows.map fun row => .orderItem (.put row)) := by
        simp only [OrderStatement.execute, rows, checked]
        rfl
      simp only [Engine.executeOn, shop, Statement.execute, executed]
      exact congrArg (Prod.mk _) isTable
    -- the event goes under an id of its own
    have eventAbsent : middle.outboxEvents.find (env.newId 1) = none := by
      rw [taken.others]
      exact fresh.event
    obtain ⟨events, notified⟩ := runWith_notifyOwner env storeId newOrder
      { middle with orders := middle.orders.put newOrder, orderItems := table } eventAbsent
    have items : List.Forall₂ (ItemOf db storeId (env.newId 0)) rows dto.items := by
      simpa only [Nat.zero_add] using itemOf_rows newItems 0
    refine .inl ⟨rfl, ⟨newOrder, rows⟩, { middle with
      orders := middle.orders.put newOrder
      orderItems := table
      outboxEvents := events }, ?_, ?_⟩
    · refine (Program.runWith_perform_ok shop.executeOn ordered).trans ?_
      refine (Program.runWith_perform_ok shop.executeOn itemized).trans ?_
      exact Program.runWith_bind_ok shop.executeOn notified
    · exact
        { order := rfl
          items := items
          total := (sum_rows items).symm
          orders := by rw [taken.others]; exact Table.rows_put_of_absent fresh.order
          orderItems := by rw [appended, taken.others]
          labels := taken.labels
          stock := taken.stock
          untouched := taken.untouched
          others := by rw [taken.others] }

/-- When the call succeeds, and what it leaves then. -/
theorem runWith_create (dto : CreateOrderDto) (isStore : db.storeExists storeId = true) (fit : db.ColumnsFit)
    (fresh : FreshFor env db dto.items.length) :
    (db.Stocks storeId dto.items ∧
      ((fitsNumeric (db.costOf dto.items) = true ∧ ∃ entity after,
          (OrdersService.create env storeId dto).runWith shop.executeOn db = (.ok entity, after) ∧
            OrderPlaced env storeId dto.items db after entity) ∨
        (fitsNumeric (db.costOf dto.items) = false ∧ ∃ after,
          (OrdersService.create env storeId dto).runWith shop.executeOn db =
            (.error .numericValueOutOfRange, after)))) ∨
    (¬ db.Stocks storeId dto.items ∧ ∃ error after,
      (OrdersService.create env storeId dto).runWith shop.executeOn db = (.error error, after) ∧
        error.isRejection = true) := by
  rcases runWith_takeLines env storeId dto.items 0 [] fit with
    ⟨stocks, added, middle, ran, newItems, taken⟩ | ⟨short, error, after, ran, rejects⟩
  · rw [Int.zero_add, List.nil_append] at ran
    exact .inl ⟨stocks, runWith_create_taken isStore fit fresh stocks ran newItems taken⟩
  · have start : (OrdersService.create env storeId dto).runWith shop.executeOn db = _ :=
      Program.runWith_bind shop.executeOn _ _ db
    exact .inr ⟨short, error, after, by rw [start, ran]; rfl, rejects⟩

end Create

/-! ## All or nothing -/

/-- The call places the order exactly if every product is in the store and has stock for the sum of
    its lines; otherwise it is turned away and nothing has changed. -/
def CreatesExactly (env : Environment) (storeId : Uuid) (dto : CreateOrderDto) (db : Database) : Prop :=
  (db.Stocks storeId dto.items ∧ ∃ entity after, serve storeId (OrdersService.create env storeId dto) db = (.ok entity, after) ∧
    OrderPlaced env storeId dto.items db after entity) ∨
  (¬ db.Stocks storeId dto.items ∧ ∃ error, serve storeId (OrdersService.create env storeId dto) db = (.error error, db) ∧
    error.isRejection = true)

theorem createsExactly {env : Environment} {storeId : Uuid} {dto : CreateOrderDto} {db : Database}
    (isStore : db.storeExists storeId = true) (fit : db.ColumnsFit) (fresh : FreshFor env db dto.items.length)
    (fits : fitsNumeric (db.costOf dto.items) = true) : CreatesExactly env storeId dto db := by
  rcases runWith_create dto isStore fit fresh with
    ⟨stocks, ⟨-, entity, after, ran, placed⟩ | ⟨tooMuch, -⟩⟩ | ⟨short, error, after, ran, rejects⟩
  · exact .inl ⟨stocks, entity, after, serve_of_ok storeId ran, placed⟩
  · cases tooMuch.symm.trans fits
  · refine .inr ⟨short, error, ?_, rejects⟩
    rw [serve_eq_transact, Engine.transact, ran]

/-! ## An order of the small shop -/

namespace SmallShop

def environment : Environment := ⟨7, fun position => BitVec.ofNat 128 (100 + position), fun _ => 0⟩

/-- One tea and two more. -/
def twoLines : CreateOrderDto :=
  ⟨[oneOf 2, twoOf 2], List.cons_ne_nil _ _⟩

theorem columnsFit : db.ColumnsFit := by
  intro p row found
  obtain rfl : row = product := List.mem_singleton.mp (Table.mem_of_find found)
  decide

theorem freshFor : FreshFor environment db 2 :=
  ⟨by decide, by decide, by decide, by decide⟩

end SmallShop

theorem createsExactly_smallShop : CreatesExactly SmallShop.environment 1 SmallShop.twoLines SmallShop.db :=
  createsExactly (by decide) SmallShop.columnsFit SmallShop.freshFor (by decide)

end StoreSaas
