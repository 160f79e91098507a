import StoreSaas.Verified.ExactOrders
import StoreSaas.Verified.TenantReferences
import StoreSaas.Verified.OwnStatements

/-! # Calls of a store

From a linked database in which the ids it inserts are not in use, every call of the
catalogue and the orders keeps to statements of its store (`own_handler`).
-/

namespace StoreSaas

/-- The statements that the body comes to are the store's, from this database. -/
abbrev Tx.Own {α : Type} (storeId : Uuid) (made : RowKey → Prop) (post : α → Database → Prop) (body : Tx α)
    (db : Database) : Prop :=
  body.Each shop.executeOn (fun db (statement : Statement) => statement.Own storeId made db) post db

section Calls

variable {env : Environment} {storeId : Uuid} {made : RowKey → Prop} {db : Database}

theorem read_executeOn {statement : Statement} {reply : statement.Reply} {after : Database}
    (reads : statement.isRead = true) (ran : shop.executeOn statement db = (.ok reply, after)) :
    after = db ∧ statement.execute db = .ok (reply, []) := by
  obtain ⟨writes, executed, rfl⟩ := Engine.executeOn_eq_ok ran
  obtain rfl := Statement.execute_read reads executed
  exact ⟨rfl, executed⟩

/-! ## Categories -/

theorem own_findOneCategory (id : RouteId) :
    Tx.Own storeId made (fun category after => after = db ∧ id = some category.id ∧
        db.findCategory category.id storeId = some category)
      (CategoriesService.findOne storeId id) db := by
  unfold CategoriesService.findOne
  refine Program.each_perform_bind rfl fun found after ran => ?_
  obtain ⟨rfl, executed⟩ := read_executeOn rfl ran
  cases id with
  | none => cases executed
  | some id =>
    have isFound : after.findCategory id storeId = found := congrArg Prod.fst (Except.ok.inj executed)
    rcases (found : Option Category) with _ | category
    · trivial
    · obtain rfl : category.id = id := Table.key_of_find (Database.findCategory_eq_some isFound).1
      exact ⟨rfl, rfl, isFound⟩

theorem own_saveCategory {entity : CategoryEntity} (present : (db.findCategory entity.id storeId).isSome = true) :
    Tx.Own storeId made (fun _ _ => True) (CategoriesService.save env entity) db := by
  unfold CategoriesService.save
  refine Program.each_perform_bind present fun found after ran => ?_
  obtain ⟨rfl, executed⟩ := read_executeOn rfl ran
  have isFound : after.categories.find entity.id = found := congrArg Prod.fst (Except.ok.inj executed)
  rcases (found : Option Category) with _ | row
  · rw [Database.find_of_category present, isFound] at present
    cases present
  · dsimp only
    exact Program.each_ite (fun _ => trivial) fun _ => Program.each_perform_bind present fun _ _ _ => trivial

theorem own_updateCategory (id : RouteId) (dto : UpdateCategoryDto) :
    Tx.Own storeId made (fun _ _ => True) (CategoriesService.update env storeId id dto) db := by
  refine (own_findOneCategory id).bind fun category after found => ?_
  obtain ⟨rfl, -, isFound⟩ := found
  exact own_saveCategory (Option.isSome_of_mem isFound)

theorem own_removeCategory (linked : db.Linked) (id : RouteId) :
    Tx.Own storeId made (fun _ _ => True) (CategoriesService.remove storeId id) db := by
  refine (own_findOneCategory id).bind fun category after found => ?_
  obtain ⟨rfl, -, isFound⟩ := found
  exact Program.each_perform (S := statements) (.category (.delete category.id)) ⟨Option.isSome_of_mem isFound, linked⟩
    fun _ _ _ => trivial

/-! ## Products -/

theorem own_findOneProduct (linked : db.Linked) (id : RouteId) :
    Tx.Own storeId made (fun entity after => after = db ∧
        ∃ row, db.findProduct row.id storeId = some row ∧ entity = db.loadCategory row)
      (ProductsService.findOne storeId id) db := by
  unfold ProductsService.findOne
  refine Program.each_perform_bind ⟨rfl, linked.ownsCategories storeId⟩ fun found after ran => ?_
  obtain ⟨rfl, executed⟩ := read_executeOn rfl ran
  cases id with
  | none => cases executed
  | some id =>
    have isFound : (after.findProduct id storeId).map after.loadCategory = found :=
      congrArg Prod.fst (Except.ok.inj executed)
    rcases (found : Option ProductEntity) with _ | entity
    · trivial
    · obtain ⟨row, isRow, rfl⟩ := Option.map_eq_some_iff.mp isFound
      obtain ⟨-, rfl, -⟩ := Database.findProduct_eq_some isRow
      exact ⟨rfl, row, isRow, rfl⟩

/-- A save of an entity whose row is in the store, where a category that it changes to is as well. -/
theorem own_saveProduct {entity : ProductEntity} (present : (db.findProduct entity.id storeId).isSome = true)
    (owns : ∀ row, db.products.find entity.id = some row → db.OwnsCategory storeId (entity.changes row).categoryId.join) :
    Tx.Own storeId made (fun _ _ => True) (ProductsService.save env entity) db := by
  unfold ProductsService.save
  refine Program.each_perform_bind present fun found after ran => ?_
  obtain ⟨rfl, executed⟩ := read_executeOn rfl ran
  have isFound : after.products.find entity.id = found := congrArg Prod.fst (Except.ok.inj executed)
  rcases (found : Option Product) with _ | row
  · rw [Database.find_of_product present, isFound] at present
    cases present
  · dsimp only
    exact Program.each_ite (fun _ => trivial) fun _ =>
      Program.each_perform_bind ⟨present, owns row isFound⟩ fun _ _ _ => trivial

theorem join_changes {entity : ProductEntity} {row : Product} {c : Uuid}
    (isCategory : (entity.changes row).categoryId.join = some c) : entity.joinCategoryId = some c := by
  simp only [ProductEntity.changes, changed] at isCategory
  split at isCategory
  next => cases isCategory
  next => exact isCategory

theorem ownsCategory_loaded (linked : db.Linked) {row : Product} (found : db.findProduct row.id storeId = some row) :
    db.OwnsCategory storeId row.categoryId := by
  obtain ⟨present, -, inStore⟩ := Database.findProduct_eq_some found
  exact linked.ownsCategories storeId row (Table.mem_of_find present) inStore

/-- The category that a loaded product is saved with is the loaded one, or its own. -/
theorem ownsCategory_join (linked : db.Linked) {row : Product} (found : db.findProduct row.id storeId = some row)
    {entity : ProductEntity} (loaded : entity.category = (db.loadCategory row).category)
    (owns : db.OwnsCategory storeId entity.categoryId) : db.OwnsCategory storeId entity.joinCategoryId := by
  unfold ProductEntity.joinCategoryId
  cases isLoaded : entity.category with
  | none => exact owns
  | some category =>
    rintro c isCategory
    cases isCategory
    obtain ⟨c, isC, categoryFound⟩ := Option.bind_eq_some_iff.mp (loaded.symm.trans isLoaded)
    obtain rfl : category.id = c := Table.key_of_find categoryFound
    exact ownsCategory_loaded linked found category.id isC

theorem own_requireCategory (categoryId : Field Uuid) :
    Tx.Own storeId made (fun _ after => after = db ∧ db.OwnsCategory storeId categoryId.toOption)
      (ProductsService.requireCategory storeId categoryId) db := by
  cases categoryId with
  | undefined | null => exact ⟨rfl, fun c isCategory => by cases isCategory⟩
  | value id =>
    refine (own_findOneCategory (some id)).bind fun category after found => ?_
    obtain ⟨rfl, isId, isFound⟩ := found
    cases isId
    refine ⟨rfl, fun c isCategory => ?_⟩
    cases isCategory
    exact Option.isSome_of_mem isFound

theorem own_createProduct (dto : CreateProductDto) (isMade : made (.product (env.newId 0)))
    (absent : db.products.find (env.newId 0) = none) :
    Tx.Own storeId made (fun _ _ => True) (ProductsService.create env storeId dto) db := by
  refine (own_requireCategory dto.categoryId).bind fun _ after owns => ?_
  obtain ⟨rfl, isOwn⟩ := owns
  exact Program.each_perform_bind ⟨rfl, isMade, absent, isOwn⟩ fun _ _ _ => trivial

theorem own_updateProduct (linked : db.Linked) (id : RouteId) (dto : UpdateProductDto) :
    Tx.Own storeId made (fun _ _ => True) (ProductsService.update env storeId id dto) db := by
  refine (own_findOneProduct linked id).bind fun entity after found => ?_
  obtain ⟨rfl, row, isRow, rfl⟩ := found
  refine (own_requireCategory dto.categoryId).bind fun _ after owns => ?_
  obtain ⟨rfl, isOwn⟩ := owns
  have given : after.OwnsCategory storeId (dto.assignTo (after.loadCategory row)).categoryId := by
    change after.OwnsCategory storeId (dto.categoryId.assign row.categoryId)
    cases isField : dto.categoryId with
    | undefined => exact ownsCategory_loaded linked isRow
    | null => exact fun _ isNone => by cases isNone
    | value id => rwa [isField] at isOwn
  have loaded : (dto.assignTo (after.loadCategory row)).category = (after.loadCategory row).category := rfl
  exact own_saveProduct (Option.isSome_of_mem isRow) fun stored _ c isCategory =>
    ownsCategory_join linked isRow loaded given c (join_changes isCategory)

theorem own_setImage (linked : db.Linked) (id : RouteId) (imageUrl : String) :
    Tx.Own storeId made (fun _ _ => True) (ProductsService.setImage env storeId id imageUrl) db := by
  refine (own_findOneProduct linked id).bind fun entity after found => ?_
  obtain ⟨rfl, row, isRow, rfl⟩ := found
  refine own_saveProduct (Option.isSome_of_mem isRow) fun stored _ c isCategory => ?_
  exact ownsCategory_join linked isRow rfl (ownsCategory_loaded linked isRow) c (join_changes isCategory)

theorem own_removeProduct (linked : db.Linked) (id : RouteId) :
    Tx.Own storeId made (fun _ _ => True) (ProductsService.remove storeId id) db := by
  refine (own_findOneProduct linked id).bind fun entity after found => ?_
  obtain ⟨rfl, row, isRow, rfl⟩ := found
  exact Program.each_perform (S := statements) (.product (.delete row.id)) ⟨Option.isSome_of_mem isRow, linked⟩ fun _ _ _ => trivial

/-! ## Creating an order -/

theorem own_takeLine (line : CreateOrderItemDto) :
    Tx.Own storeId made (fun _ _ => True) (OrdersService.takeLine env storeId line) db := by
  unfold OrdersService.takeLine
  refine Program.each_perform_bind rfl fun locked after ran => ?_
  obtain ⟨rfl, executed⟩ := read_executeOn rfl ran
  have found : after.findProduct line.productId.id storeId = locked := congrArg Prod.fst (Except.ok.inj executed)
  rcases (locked : Option Product) with _ | row
  · trivial
  · obtain ⟨present, sameId, -⟩ := Database.findProduct_eq_some found
    refine Program.each_ite (fun _ => trivial) fun _ => ?_
    refine (own_saveProduct (by rw [← sameId] at found; exact Option.isSome_of_mem found) ?_).bind fun _ _ _ => trivial
    intro stored isStored c isCategory
    rw [← sameId] at present
    cases present.symm.trans isStored
    -- the category is saved as it was read
    simp only [ProductEntity.changes, changed, ProductEntity.joinCategoryId, Product.toEntity, if_true] at isCategory
    cases isCategory

theorem own_takeLines (lines : List CreateOrderItemDto) (total : Cents) (items : List OrdersService.NewItem) :
    Tx.Own storeId made (fun _ _ => True) (OrdersService.takeLines env storeId lines total items) db := by
  induction lines generalizing total items db with
  | nil => trivial
  | cons line rest ih =>
    unfold OrdersService.takeLines
    exact (own_takeLine line).bind fun item after _ => ih _ _

theorem own_notifyOwner (order : Order) (isMade : made (.outboxEvent (env.newId 1)))
    (absent : db.outboxEvents.find (env.newId 1) = none) :
    Tx.Own storeId made (fun _ _ => True) (OrdersService.notifyOwner env storeId order) db := by
  unfold OrdersService.notifyOwner
  refine Program.each_perform_bind trivial fun store after ran => ?_
  obtain ⟨rfl, -⟩ := read_executeOn rfl ran
  rcases (store : Option Store) with _ | store
  · trivial
  · refine Program.each_perform_bind trivial fun owner after ran => ?_
    obtain ⟨rfl, -⟩ := read_executeOn rfl ran
    rcases (owner : Option User) with _ | owner
    · trivial
    · exact Program.each_perform (S := statements) (.outbox (.insert _)) ⟨isMade, absent⟩ fun _ _ _ => trivial

theorem own_createOrder (linked : db.Linked) (dto : CreateOrderDto) (orderMade : made (.order (env.newId 0)))
    (orderAbsent : db.orders.find (env.newId 0) = none)
    (items : ∀ position < dto.items.length, made (.orderItem (env.newId (2 + position))) ∧
      db.orderItems.find (env.newId (2 + position)) = none)
    (eventMade : made (.outboxEvent (env.newId 1))) (eventAbsent : db.outboxEvents.find (env.newId 1) = none) :
    Tx.Own storeId made (fun _ _ => True) (OrdersService.create env storeId dto) db := by
  refine ((own_takeLines dto.items 0 []).ensuring (ensures_takeLines env storeId dto.items 0 [] db)).bind
    fun taken middle moves => ?_
  obtain ⟨moved, added, isAdded, matching⟩ := moves
  rw [List.nil_append] at isAdded
  dsimp only
  rw [isAdded]
  -- no item can belong to an order that does not exist yet
  have noItems : middle.itemsOf (env.newId 0) = [] := by
    rw [moved.itemsOf]
    exact linked.itemsOf_of_absent orderAbsent
  have middleAbsent : middle.orders.find (env.newId 0) = none := by rw [moved.orders]; exact orderAbsent
  let newOrder : Order := ⟨env.newId 0, storeId, .pending, taken.1, env.now, env.now⟩
  refine Program.each_perform_bind ⟨rfl, orderMade, middleAbsent, noItems⟩ fun reply ordered ran => ?_
  obtain ⟨writes, executed, rfl⟩ := Engine.executeOn_eq_ok ran
  obtain ⟨-, rfl⟩ := OrderStatement.execute_insert executed
  refine Program.each_perform_bind (fun item isItem => ?_) fun reply itemized ran => ?_
  · obtain ⟨position, below, rfl⟩ := List.mem_mapIdx.mp isItem
    obtain ⟨isItemMade, itemAbsent⟩ := items position (matching.length_eq ▸ below)
    refine ⟨isItemMade, ?_, ?_, fun p isProduct => ?_⟩
    · change middle.orderItems.find (env.newId (2 + position)) = none
      rw [moved.orderItems]
      exact itemAbsent
    · have isNew : (middle.orders.put newOrder).find newOrder.id = some newOrder := Table.find_put_same ..
      exact Option.isSome_of_mem (Option.filter_eq_some_iff.mpr ⟨isNew, decide_eq_true rfl⟩)
    · cases isProduct
      -- the product of an item was found in the store, and the stock updates have not moved it
      obtain ⟨line, -, sameId, -, row, found, inStore⟩ := exists_of_forall₂ matching (List.getElem_mem below)
      rw [← sameId] at found
      have place := moved.places added[position].productId
      rw [found, Option.map_some] at place
      obtain ⟨product, productFound, samePlace⟩ := Option.map_eq_some_iff.mp place
      have sameStore : product.storeId = storeId := (congrArg Prod.fst samePlace).trans inStore
      exact Option.isSome_of_mem (Option.filter_eq_some_iff.mpr ⟨productFound, decide_eq_true sameStore⟩)
  · obtain ⟨writes, executed, rfl⟩ := Engine.executeOn_eq_ok ran
    obtain ⟨-, rfl⟩ := OrderStatement.execute_insertItems executed
    rw [applyAll_putItems]
    refine (own_notifyOwner _ eventMade ?_).bind fun _ _ _ => trivial
    change middle.outboxEvents.find (env.newId 1) = none
    rw [moved.others]
    exact eventAbsent

/-! ## Orders -/

theorem own_findOneOrder (id : RouteId) :
    Tx.Own storeId made (fun entity after => after = db ∧
        ∃ order, db.findOrder order.id storeId = some order ∧ entity = db.loadItems order)
      (OrdersService.findOne storeId id) db := by
  unfold OrdersService.findOne
  refine Program.each_perform_bind rfl fun found after ran => ?_
  obtain ⟨rfl, executed⟩ := read_executeOn rfl ran
  cases id with
  | none => cases executed
  | some id =>
    have isFound : (after.findOrder id storeId).map after.loadItems = found :=
      congrArg Prod.fst (Except.ok.inj executed)
    rcases (found : Option OrderEntity) with _ | entity
    · trivial
    · obtain ⟨order, isOrder, rfl⟩ := Option.map_eq_some_iff.mp isFound
      obtain ⟨-, rfl, -⟩ := Database.findOrder_eq_some isOrder
      exact ⟨rfl, order, isOrder, rfl⟩

theorem own_restock (items : List OrderItem) :
    Tx.Own storeId made (fun _ _ => True) (OrdersService.restock env storeId items) db := by
  induction items generalizing db with
  | nil => trivial
  | cons item rest ih =>
    unfold OrdersService.restock
    cases item.productId with
    | none => exact ih
    | some p => exact Program.each_perform_bind rfl fun _ _ _ => ih

/-- A save of an order of the store, with the items that are stored. -/
theorem own_saveOrder {entity : OrderEntity} (present : (db.findOrder entity.order.id storeId).isSome = true)
    (sameItems : entity.items = db.itemsOf entity.order.id) :
    Tx.Own storeId made (fun _ _ => True) (OrdersService.save env entity) db := by
  unfold OrdersService.save
  refine Program.each_perform_bind present fun found after ran => ?_
  obtain ⟨rfl, executed⟩ := read_executeOn rfl ran
  have isFound : (after.orders.find entity.order.id).map after.loadItems = found :=
    congrArg Prod.fst (Except.ok.inj executed)
  rcases (found : Option OrderEntity) with _ | stored
  · rw [Database.find_of_order present, Option.map_eq_none_iff.mp isFound] at present
    cases present
  · obtain ⟨order, isOrder, rfl⟩ := Option.map_eq_some_iff.mp isFound
    have isDone : OrdersService.saveItems entity.items (after.loadItems order).items = .done () := by
      rw [sameItems, ← Table.key_of_find isOrder]
      exact saveItems_itemsOf after order.id
    dsimp only
    rw [isDone]
    exact Program.each_ite (fun _ => trivial) fun _ => Program.each_perform_bind present fun _ _ _ => trivial

theorem own_updateStatus (linked : db.Linked) (id : RouteId) (dto : UpdateOrderStatusDto) :
    Tx.Own storeId made (fun _ _ => True) (OrdersService.updateStatus env storeId id dto) db := by
  unfold OrdersService.updateStatus
  refine (own_findOneOrder id).bind fun entity after found => ?_
  obtain ⟨rfl, order, isOrder, rfl⟩ := found
  obtain ⟨present, -, inStore⟩ := Database.findOrder_eq_some isOrder
  have inStores := linked.itemsOf_inStore present
  rw [inStore] at inStores
  have restocks : Tx.Own storeId made (fun _ middle => middle.orders = after.orders ∧ middle.orderItems = after.orderItems)
      (if OrdersService.isNewlyCancelled dto order = true then OrdersService.restock env storeId (after.itemsOf order.id)
        else return ()) after := by
    refine Program.each_ite (fun _ => ?_) fun _ => ⟨rfl, rfl⟩
    exact (own_restock _).ensuring ((ensures_restock env storeId _ after inStores).imp fun _ _ moved =>
      ⟨moved.orders, moved.orderItems⟩)
  refine restocks.bind fun _ middle same => own_saveOrder ?_ ?_
  · rw [Database.findOrder, same.1]
    exact Option.isSome_of_mem isOrder
  · rw [Database.itemsOf, same.2]
    rfl

/-! ## All calls -/

end Calls

/-- The ids under which the request inserts rows, the one of its e-mail included. -/
def ShopRequest.Inserts (request : ShopRequest) (key : RowKey) : Prop :=
  request.Makes key ∨ ∃ dto, request.call = .createOrder dto ∧ key = .outboxEvent (request.env.newId 1)

theorem own_handler (request : ShopRequest) {db : Database} (linked : db.Linked)
    (unused : ∀ key, request.Inserts key → db.row key = none) :
    Tx.Own request.storeId request.Inserts (fun _ _ => True) (request.call.handler request.env request.storeId) db := by
  -- the controller returns what the service returns
  have wraps {α : Type} {body : Tx α} {wrap : α → CallResult}
      (own : Tx.Own request.storeId request.Inserts (fun _ _ => True) body db) :
      Tx.Own request.storeId request.Inserts (fun _ _ => True)
        (body >>= fun value => (return wrap value : Tx CallResult)) db :=
    own.bind fun _ _ _ => trivial
  have ends {body : Tx Unit} (own : Tx.Own request.storeId request.Inserts (fun _ _ => True) body db) :
      Tx.Own request.storeId request.Inserts (fun _ _ => True)
        (body >>= fun _ => (return .nothing : Tx CallResult)) db :=
    own.bind fun _ _ _ => trivial
  obtain ⟨env, storeId, call⟩ := request
  dsimp only at wraps ends unused ⊢
  cases call with
  | createCategory dto =>
    have isMade : ShopRequest.Inserts ⟨env, storeId, .createCategory dto⟩ (.category (env.newId 0)) := .inl rfl
    exact wraps (Program.each_perform_bind ⟨rfl, isMade, unused _ isMade⟩ fun _ _ _ => trivial)
  | findAllCategories => exact wraps (Program.each_perform (S := statements) (.category _) rfl fun _ _ _ => trivial)
  | findOneCategory id => exact wraps ((own_findOneCategory id).imp fun _ _ _ => trivial)
  | updateCategory id dto => exact wraps (own_updateCategory id dto)
  | removeCategory id => exact ends (own_removeCategory linked id)
  | createProduct dto =>
    have isMade : ShopRequest.Inserts ⟨env, storeId, .createProduct dto⟩ (.product (env.newId 0)) := .inl rfl
    exact wraps (own_createProduct dto isMade (unused _ isMade))
  | findAllProducts query =>
    exact wraps (Program.each_perform_bind ⟨rfl, linked.ownsCategories storeId⟩ fun _ _ _ => trivial)
  | findOneProduct id => exact wraps ((own_findOneProduct linked id).imp fun _ _ _ => trivial)
  | updateProduct id dto => exact wraps (own_updateProduct linked id dto)
  | removeProduct id => exact ends (own_removeProduct linked id)
  | setImage id imageUrl => exact wraps (own_setImage linked id imageUrl)
  | createOrder dto =>
    have order : ShopRequest.Inserts ⟨env, storeId, .createOrder dto⟩ (.order (env.newId 0)) := .inl rfl
    have event : ShopRequest.Inserts ⟨env, storeId, .createOrder dto⟩ (.outboxEvent (env.newId 1)) :=
      .inr ⟨dto, rfl, rfl⟩
    have item (position : Nat) (below : position < dto.items.length) :
        ShopRequest.Inserts ⟨env, storeId, .createOrder dto⟩ (.orderItem (env.newId (2 + position))) :=
      .inl ⟨position, below, rfl⟩
    exact wraps (own_createOrder linked dto order (unused _ order) (fun position below =>
      ⟨item position below, unused _ (item position below)⟩) event (unused _ event))
  | findAllOrders query =>
    exact wraps (Program.each_perform_bind rfl fun _ _ _ => Program.each_perform_bind rfl fun _ _ _ => trivial)
  | findOneOrder id => exact wraps ((own_findOneOrder id).imp fun _ _ _ => trivial)
  | updateStatus id dto => exact wraps (own_updateStatus linked id dto)

end StoreSaas
