import StoreSaas.Library.RowInvariant
import StoreSaas.Verified.ForeignKeys
import StoreSaas.Verified.StockLedger

/-! # The store of a row

The id of a category, a product or an order decides its store, from its `INSERT` on, and
the id of an item decides its order.  With that, "refers to rows of its own store" is a
property of single rows (`InHome`), and each service method writes no other rows: it looks
a category or a product up with the store before it refers to it.
-/

namespace StoreSaas

section Homes

/-- The store of each id, and the order of each item: one at most, however far the run goes. -/
structure Homes where
  home : RowKey → Uuid → Prop
  belongs : Uuid → Uuid → Prop
  one_home : ∀ key left right, home key left → home key right → left = right
  one_order : ∀ item left right, belongs item left → belongs item right → left = right

/-- The row is in the store of its id, with what it refers to. -/
def InHome (homes : Homes) : (key : RowKey) → key.Row → Prop
  | .category id, row => homes.home (.category id) (Category.storeId row)
  | .product id, row => homes.home (.product id) (Product.storeId row) ∧
      ∀ c, Product.categoryId row = some c → homes.home (.category c) (Product.storeId row)
  | .order id, row => homes.home (.order id) (Order.storeId row)
  | .orderItem id, row => homes.belongs id (OrderItem.orderId row) ∧ 1 ≤ OrderItem.quantity row ∧
      ∀ p, OrderItem.productId row = some p →
        ∃ storeId, homes.home (.product p) storeId ∧ homes.home (.order (OrderItem.orderId row)) storeId
  | .store _, _ | .user _, _ | .subscription _, _ | .webhookEvent _, _ | .idempotencyRecord _, _ | .outboxEvent _, _
  | .auditLog _, _ | .uniqueEntry _, _ => True

variable {homes : Homes} {db : Database} {writes : List DbWrite}

abbrev HomeRows (homes : Homes) (db : Database) : Prop := shop.RowsOk (InHome homes) db

namespace HomeRows

theorem category (rows : HomeRows homes db) {c : Uuid} {row : Category} (found : db.categories.find c = some row) :
    homes.home (.category c) row.storeId :=
  rows (.category c) row found

theorem product (rows : HomeRows homes db) {p : Uuid} {row : Product} (found : db.products.find p = some row) :
    homes.home (.product p) row.storeId ∧ ∀ c, row.categoryId = some c → homes.home (.category c) row.storeId :=
  rows (.product p) row found

theorem order (rows : HomeRows homes db) {o : Uuid} {row : Order} (found : db.orders.find o = some row) :
    homes.home (.order o) row.storeId :=
  rows (.order o) row found

theorem item (rows : HomeRows homes db) {id : Uuid} {row : OrderItem} (found : db.orderItems.find id = some row) :
    homes.belongs id row.orderId ∧ 1 ≤ row.quantity ∧ ∀ p, row.productId = some p →
      ∃ storeId, homes.home (.product p) storeId ∧ homes.home (.order row.orderId) storeId :=
  rows (.orderItem id) row found

end HomeRows

/-! ## What the statements write -/

/-- A `DELETE` of a product, and its items without it. -/
theorem home_unlinkProduct (rows : HomeRows homes db) (p : Uuid) :
    ∀ write ∈ db.unlinkProduct p, shop.WriteOk (InHome homes) write := by
  intro write made
  obtain ⟨item, present, rfl⟩ := List.mem_map.mp made
  obtain ⟨belongs, positive, -⟩ := rows.item (Table.find_of_mem (List.mem_filter.mp present).1)
  intro row isRow
  cases isRow
  exact ⟨belongs, positive, fun _ none => nomatch none⟩

theorem home_unlinkCategory (rows : HomeRows homes db) (c : Uuid) :
    ∀ write ∈ db.unlinkCategory c, shop.WriteOk (InHome homes) write := by
  intro write made
  obtain ⟨product, present, rfl⟩ := List.mem_map.mp made
  obtain ⟨home, -⟩ := rows.product (Table.find_of_mem (List.mem_filter.mp present).1)
  intro row isRow
  cases isRow
  exact ⟨home, fun _ none => nomatch none⟩

/-- A product in memory is in its store, and so are its categories, the loaded one and the one set. -/
structure ProductEntity.InHome (homes : Homes) (entity : ProductEntity) : Prop where
  home : homes.home (.product entity.id) entity.storeId
  category : ∀ category, entity.category = some category → homes.home (.category category.id) entity.storeId
  categoryId : ∀ c, entity.categoryId = some c → homes.home (.category c) entity.storeId

theorem ProductEntity.InHome.joined {entity : ProductEntity} (inHome : entity.InHome homes) {c : Uuid}
    (joined : entity.joinCategoryId = some c) : homes.home (.category c) entity.storeId := by
  unfold joinCategoryId at joined
  split at joined
  next category isCategory => cases joined; exact inHome.category category isCategory
  next => exact inHome.categoryId c joined

theorem home_insert_product {entity : ProductEntity} {reply : Statement.Reply (.product (.insert entity))}
    (inHome : entity.InHome homes) (executed : shop.execute (.product (.insert entity)) db = .ok (reply, writes)) :
    ∀ write ∈ writes, shop.WriteOk (InHome homes) write := by
  obtain ⟨row, isRow, -, rfl⟩ := ProductStatement.execute_insert executed
  obtain ⟨sameId, sameStore, category, -⟩ := ProductEntity.toRow?_eq_some isRow
  refine List.forall_mem_singleton.mpr fun stored isStored => ?_
  cases isStored
  refine ⟨?_, fun c isCategory => ?_⟩
  · change homes.home (.product row.id) row.storeId
    rw [sameId, sameStore]
    exact inHome.home
  · rw [sameStore]
    exact inHome.joined (category.symm.trans isCategory)

theorem home_update_product {entity : ProductEntity} {row : Product} {now : Timestamp}
    {reply : (ProductStatement.update entity.id (entity.changes row) now).Reply} (rows : HomeRows homes db)
    (inHome : entity.InHome homes)
    (executed : (ProductStatement.update entity.id (entity.changes row) now).execute db = .ok (reply, writes)) :
    ∀ write ∈ writes, shop.WriteOk (InHome homes) write := by
  obtain ⟨-, rfl⟩ | ⟨stored, next, found, applied, -, rfl⟩ := ProductStatement.execute_update executed
  · exact fun _ made => nomatch made
  obtain ⟨sameId, sameStore, category, -⟩ := ProductChanges.applyTo?_eq_some applied
  obtain ⟨home, categoryHome⟩ := rows.product found
  have isEntity : stored.storeId = entity.storeId := homes.one_home _ _ _ home inHome.home
  refine List.forall_mem_singleton.mpr fun written isWritten => ?_
  cases isWritten
  refine ⟨?_, fun c isCategory => ?_⟩
  · change homes.home (.product next.id) next.storeId
    rw [sameId, sameStore, Table.key_of_find found]
    exact home
  · rw [sameStore]
    rw [category] at isCategory
    change (changed entity.joinCategoryId row.categoryId).getD stored.categoryId = some c at isCategory
    unfold changed at isCategory
    split at isCategory
    next => exact categoryHome c isCategory
    next => rw [isEntity]; exact inHome.joined isCategory

theorem home_increment {id storeId : Uuid} {quantity : Nat} {now : Timestamp}
    {reply : (ProductStatement.increment id storeId quantity now).Reply} (rows : HomeRows homes db)
    (executed : (ProductStatement.increment id storeId quantity now).execute db = .ok (reply, writes)) :
    ∀ write ∈ writes, shop.WriteOk (InHome homes) write := by
  obtain ⟨-, -, rfl⟩ | ⟨row, found, -, rfl⟩ := ProductStatement.execute_increment executed
  · exact fun _ made => nomatch made
  · obtain ⟨present, rfl, -⟩ := Database.findProduct_eq_some found
    have home := rows.product present
    refine List.forall_mem_singleton.mpr fun stored isStored => ?_
    cases isStored
    exact home

theorem home_delete_product {id : Uuid} {reply : (ProductStatement.delete id).Reply} (rows : HomeRows homes db)
    (executed : (ProductStatement.delete id).execute db = .ok (reply, writes)) :
    ∀ write ∈ writes, shop.WriteOk (InHome homes) write := by
  obtain ⟨-, rfl⟩ | ⟨row, -, rfl⟩ := ProductStatement.execute_delete executed
  · exact fun _ made => nomatch made
  · exact List.forall_mem_cons.mpr ⟨fun _ none => (nomatch none), home_unlinkProduct rows row.id⟩

theorem home_put_category {row : Category} (home : homes.home (.category row.id) row.storeId) :
    ∀ write ∈ [DbWrite.category (.put row)], shop.WriteOk (InHome homes) write := by
  refine List.forall_mem_singleton.mpr fun stored isStored => ?_
  cases isStored
  exact home

theorem home_insert_category {entity : CategoryEntity} {reply : Statement.Reply (.category (.insert entity))}
    (home : homes.home (.category entity.id) entity.storeId)
    (executed : shop.execute (.category (.insert entity)) db = .ok (reply, writes)) :
    ∀ write ∈ writes, shop.WriteOk (InHome homes) write := by
  change (CategoryStatement.insert entity).execute db = _ at executed
  simp only [CategoryStatement.execute] at executed
  split at executed
  next => cases executed
  next row isRow =>
    obtain ⟨name, -, rfl⟩ := Option.map_eq_some_iff.mp isRow
    split at executed
    next => cases executed
    next =>
      split at executed
      next => cases executed
      next => cases executed; exact home_put_category home

theorem home_update_category {id : Uuid} {name : Option String} {now : Timestamp}
    {reply : (CategoryStatement.update id name now).Reply} (rows : HomeRows homes db)
    (executed : (CategoryStatement.update id name now).execute db = .ok (reply, writes)) :
    ∀ write ∈ writes, shop.WriteOk (InHome homes) write := by
  simp only [CategoryStatement.execute] at executed
  split at executed
  next => cases executed; exact List.forall_mem_nil _
  next => cases executed
  next row name found =>
    cases executed
    have home := rows.category found
    rw [← (Table.key_of_find found : row.id = id)] at home
    exact home_put_category home

theorem home_delete_category {id : Uuid} {reply : (CategoryStatement.delete id).Reply} (rows : HomeRows homes db)
    (executed : (CategoryStatement.delete id).execute db = .ok (reply, writes)) :
    ∀ write ∈ writes, shop.WriteOk (InHome homes) write := by
  simp only [CategoryStatement.execute] at executed
  split at executed
  next => cases executed; exact List.forall_mem_nil _
  next row _ =>
    cases executed
    exact List.forall_mem_cons.mpr ⟨fun _ none => (by cases none), home_unlinkCategory rows row.id⟩

theorem home_put_order {row : Order} (home : homes.home (.order row.id) row.storeId) :
    ∀ write ∈ [DbWrite.order (.put row)], shop.WriteOk (InHome homes) write := by
  refine List.forall_mem_singleton.mpr fun stored isStored => ?_
  cases isStored
  exact home

/-- An item belongs to its order, and its product is in the order's store. -/
def OrderItem.InHome (homes : Homes) (item : OrderItem) : Prop :=
  homes.belongs item.id item.orderId ∧ 1 ≤ item.quantity ∧ ∀ p, item.productId = some p →
    ∃ storeId, homes.home (.product p) storeId ∧ homes.home (.order item.orderId) storeId

theorem home_insertItems {items : List OrderItem} (inHome : ∀ item ∈ items, item.InHome homes) :
    ∀ write ∈ items.map fun row => DbWrite.orderItem (.put row), shop.WriteOk (InHome homes) write := by
  intro write made
  obtain ⟨item, present, rfl⟩ := List.mem_map.mp made
  intro stored isStored
  cases isStored
  exact inHome item present

theorem home_updateItemProduct {item : OrderItem} {reply : (OrderStatement.updateItemProduct item.id item.productId).Reply}
    (rows : HomeRows homes db) (inHome : item.InHome homes)
    (executed : (OrderStatement.updateItemProduct item.id item.productId).execute db = .ok (reply, writes)) :
    ∀ write ∈ writes, shop.WriteOk (InHome homes) write := by
  obtain ⟨-, rfl⟩ | ⟨stored, found, rfl⟩ := OrderStatement.execute_updateItemProduct executed
  · exact fun _ made => nomatch made
  · obtain ⟨belongs, positive, -⟩ := rows.item found
    -- the stored row is of the same order
    have sameOrder : stored.orderId = item.orderId := homes.one_order _ _ _ belongs inHome.1
    refine List.forall_mem_singleton.mpr fun written isWritten => ?_
    cases isWritten
    refine ⟨?_, positive, fun p isProduct => ?_⟩
    · change homes.belongs stored.id stored.orderId
      rw [Table.key_of_find found]
      exact belongs
    · change ∃ storeId, homes.home (.product p) storeId ∧ homes.home (.order stored.orderId) storeId
      rw [sameOrder]
      exact inHome.2.2 p isProduct

/-! ## The methods -/

open Engine

theorem homes_read_bind {α : Type} {post : α → Prop} {op : Statement} {next : op.Reply → Tx α} (reads : op.isRead = true)
    (rest : ∀ reply, shop.Writes (InHome homes) post (next reply)) :
    shop.Writes (InHome homes) post (Program.perform (S := statements) op >>= next) :=
  writes_perform_bind fun view reply writes _ executed => by
    rw [Statement.execute_read reads executed]
    exact ⟨fun _ made => (nomatch made), rest reply⟩

/-! ### Categories -/

theorem homes_findOneCategory (storeId : Uuid) (id : RouteId) :
    shop.Writes (InHome homes) (fun category => id = some category.id ∧ category.storeId = storeId ∧
      homes.home (.category category.id) storeId) (CategoriesService.findOne storeId id) := by
  unfold CategoriesService.findOne
  refine writes_perform_bind fun view found writes rows executed => ?_
  cases id with
  | none => cases executed
  | some id =>
    cases executed
    refine ⟨fun _ made => (nomatch made), ?_⟩
    cases isFound : view.findCategory id storeId with
    | none => trivial
    | some category =>
      obtain ⟨present, inStore⟩ := Option.filter_eq_some_iff.mp isFound
      have sameStore : category.storeId = storeId := of_decide_eq_true inStore
      obtain rfl : category.id = id := Table.key_of_find present
      exact ⟨rfl, sameStore, sameStore ▸ HomeRows.category rows present⟩

theorem homes_saveCategory (env : Environment) {entity : CategoryEntity}
    (home : homes.home (.category entity.id) entity.storeId) :
    shop.Writes (InHome homes) (fun _ => True) (CategoriesService.save env entity) := by
  unfold CategoriesService.save
  refine writes_perform_bind fun view found writes _ executed => ?_
  cases executed
  refine ⟨fun _ made => (nomatch made), ?_⟩
  cases view.categories.find entity.id with
  | none => exact writes_perform_bind fun _ _ _ _ executed => ⟨home_insert_category home executed, trivial⟩
  | some row =>
    dsimp only
    split
    next => trivial
    next => exact writes_perform_bind fun _ _ _ rows executed => ⟨home_update_category rows executed, trivial⟩

theorem homes_createCategory {env : Environment} {storeId : Uuid} (dto : CreateCategoryDto)
    (home : homes.home (.category (env.newId 0)) storeId) :
    shop.Writes (InHome homes) (fun _ => True) (CategoriesService.create env storeId dto) := by
  unfold CategoriesService.create
  exact writes_perform_bind fun _ _ _ _ executed => ⟨home_insert_category home executed, trivial⟩

theorem homes_updateCategory (env : Environment) (storeId : Uuid) (id : RouteId) (dto : UpdateCategoryDto) :
    shop.Writes (InHome homes) (fun _ => True) (CategoriesService.update env storeId id dto) := by
  refine (homes_findOneCategory storeId id).bind fun category ⟨_, sameStore, home⟩ => ?_
  refine homes_saveCategory env ?_
  change homes.home (.category category.id) category.storeId
  rw [sameStore]
  exact home

theorem homes_removeCategory (storeId : Uuid) (id : RouteId) :
    shop.Writes (InHome homes) (fun _ => True) (CategoriesService.remove storeId id) :=
  (homes_findOneCategory storeId id).bind fun _ _ =>
    writes_perform fun _ _ _ rows executed => ⟨home_delete_category rows executed, trivial⟩

/-! ### Products -/

theorem inHome_loadCategory (rows : HomeRows homes db) {row : Product} (found : db.products.find row.id = some row) :
    (db.loadCategory row).InHome homes := by
  obtain ⟨home, categoryHome⟩ := rows.product found
  refine ⟨home, fun category isCategory => ?_, categoryHome⟩
  obtain ⟨c, isC, loaded⟩ := Option.bind_eq_some_iff.mp isCategory
  obtain rfl : category.id = c := Table.key_of_find loaded
  exact categoryHome category.id isC

theorem homes_findOneProduct (storeId : Uuid) (id : RouteId) :
    shop.Writes (InHome homes) (fun entity => entity.storeId = storeId ∧ entity.InHome homes)
      (ProductsService.findOne storeId id) := by
  unfold ProductsService.findOne
  refine writes_perform_bind fun view found writes rows executed => ?_
  cases id with
  | none => cases executed
  | some id =>
    cases executed
    refine ⟨fun _ made => (nomatch made), ?_⟩
    cases isFound : view.findProduct id storeId with
    | none => trivial
    | some row =>
      obtain ⟨present, rfl, sameStore⟩ := Database.findProduct_eq_some isFound
      exact ⟨sameStore, inHome_loadCategory rows present⟩

/-- The category that a body names has been looked up in the store. -/
theorem homes_requireCategory (storeId : Uuid) (categoryId : Field Uuid) :
    shop.Writes (InHome homes) (fun _ => ∀ c, categoryId = .value c → homes.home (.category c) storeId)
      (ProductsService.requireCategory storeId categoryId) := by
  cases categoryId with
  | undefined | null => exact fun _ none => nomatch none
  | value id =>
    refine (homes_findOneCategory storeId (some id)).bind fun category ⟨isId, _, home⟩ c isValue => ?_
    cases isValue
    cases isId
    exact home

theorem homes_saveProduct (env : Environment) {entity : ProductEntity} (inHome : entity.InHome homes) :
    shop.Writes (InHome homes) (fun _ => True) (ProductsService.save env entity) := by
  unfold ProductsService.save
  refine writes_perform_bind fun view found writes _ executed => ?_
  cases executed
  refine ⟨fun _ made => (nomatch made), ?_⟩
  cases view.products.find entity.id with
  | none => exact writes_perform_bind fun _ _ _ _ executed => ⟨home_insert_product inHome executed, trivial⟩
  | some row =>
    dsimp only
    split
    next => trivial
    next => exact writes_perform_bind fun _ _ _ rows executed => ⟨home_update_product rows inHome executed, trivial⟩

theorem homes_createProduct {env : Environment} {storeId : Uuid} (dto : CreateProductDto)
    (home : homes.home (.product (env.newId 0)) storeId) :
    shop.Writes (InHome homes) (fun _ => True) (ProductsService.create env storeId dto) := by
  unfold ProductsService.create
  refine (homes_requireCategory storeId dto.categoryId).bind fun _ required => ?_
  refine writes_perform_bind fun _ _ _ _ executed => ⟨home_insert_product ⟨home, ?_, ?_⟩ executed, trivial⟩
  · exact fun _ none => nomatch none
  · intro c isCategory
    refine required c ?_
    cases isField : dto.categoryId with
    | undefined | null => rw [isField] at isCategory; cases isCategory
    | value id => rw [isField] at isCategory; cases isCategory; rfl

/-- The body replaces the category by one of the store, by none, or leaves it. -/
theorem inHome_assignTo {entity : ProductEntity} (inHome : entity.InHome homes) {dto : UpdateProductDto}
    (required : ∀ c, dto.categoryId = .value c → homes.home (.category c) entity.storeId) :
    (dto.assignTo entity).InHome homes := by
  refine ⟨inHome.home, inHome.category, fun c isCategory => ?_⟩
  change dto.categoryId.assign entity.categoryId = some c at isCategory
  cases isField : dto.categoryId with
  | undefined => rw [isField] at isCategory; exact inHome.categoryId c isCategory
  | null => rw [isField] at isCategory; cases isCategory
  | value id => rw [isField] at isCategory; cases isCategory; exact required _ isField

theorem homes_updateProduct (env : Environment) (storeId : Uuid) (id : RouteId) (dto : UpdateProductDto) :
    shop.Writes (InHome homes) (fun _ => True) (ProductsService.update env storeId id dto) := by
  refine (homes_findOneProduct storeId id).bind fun entity ⟨sameStore, inHome⟩ => ?_
  refine (homes_requireCategory storeId dto.categoryId).bind fun _ required => ?_
  exact homes_saveProduct env (inHome_assignTo inHome (sameStore ▸ required))

theorem homes_setImage (env : Environment) (storeId : Uuid) (id : RouteId) (imageUrl : String) :
    shop.Writes (InHome homes) (fun _ => True) (ProductsService.setImage env storeId id imageUrl) :=
  (homes_findOneProduct storeId id).bind fun _ ⟨_, inHome⟩ =>
    homes_saveProduct env ⟨inHome.home, inHome.category, inHome.categoryId⟩

theorem homes_removeProduct (storeId : Uuid) (id : RouteId) :
    shop.Writes (InHome homes) (fun _ => True) (ProductsService.remove storeId id) :=
  (homes_findOneProduct storeId id).bind fun _ _ =>
    writes_perform fun _ _ _ rows executed => ⟨home_delete_product rows executed, trivial⟩

/-! ### Orders -/

theorem homes_takeLine (env : Environment) (storeId : Uuid) (line : CreateOrderItemDto) :
    shop.Writes (InHome homes) (fun item => homes.home (.product item.productId) storeId ∧ 1 ≤ item.quantity)
      (OrdersService.takeLine env storeId line) := by
  unfold OrdersService.takeLine
  refine writes_perform_bind fun view locked writes rows executed => ?_
  cases executed
  refine ⟨fun _ made => (nomatch made), ?_⟩
  cases found : view.findProduct line.productId.id storeId with
  | none => trivial
  | some product =>
    obtain ⟨present, sameId, rfl⟩ := Database.findProduct_eq_some found
    rw [← sameId] at present
    obtain ⟨home, categoryHome⟩ := HomeRows.product rows present
    dsimp only
    split
    next => trivial
    next =>
      refine (homes_saveProduct env ⟨home, fun _ loaded => ?_, categoryHome⟩).bind fun _ _ => ?_
      · cases loaded
      · exact ⟨home, line.atLeastOne⟩

theorem homes_takeLines (env : Environment) (storeId : Uuid) (lines : List CreateOrderItemDto) (total : Cents)
    {items : List OrdersService.NewItem}
    (taken : ∀ item ∈ items, homes.home (.product item.productId) storeId ∧ 1 ≤ item.quantity) :
    shop.Writes (InHome homes) (fun result => result.2.length = items.length + lines.length ∧
        ∀ item ∈ result.2, homes.home (.product item.productId) storeId ∧ 1 ≤ item.quantity)
      (OrdersService.takeLines env storeId lines total items) := by
  induction lines generalizing total items with
  | nil => exact ⟨rfl, taken⟩
  | cons line rest ih =>
    refine (homes_takeLine env storeId line).bind fun item isTaken => ?_
    refine (ih _ (List.forall_mem_append.mpr ⟨taken, List.forall_mem_singleton.mpr isTaken⟩)).imp fun result ended => ?_
    refine ⟨ended.1.trans ?_, ended.2⟩
    rw [List.length_append, List.length_singleton, List.length_cons]
    omega

theorem homes_notifyOwner (env : Environment) (storeId : Uuid) (order : Order) :
    shop.Writes (InHome homes) (fun _ => True) (OrdersService.notifyOwner env storeId order) :=
  writes_of_only (only_notifyOwner env storeId order) fun op view reply writes isMail _ executed => by
    obtain ⟨mail, rfl⟩ := isMail
    intro write made
    obtain ⟨change, rfl⟩ := mail.execute_writes executed write made
    exact fun _ _ => trivial

theorem homes_createOrder {env : Environment} {storeId : Uuid} {dto : CreateOrderDto}
    (home : homes.home (.order (env.newId 0)) storeId)
    (belongs : ∀ position < dto.items.length, homes.belongs (env.newId (2 + position)) (env.newId 0)) :
    shop.Writes (InHome homes) (fun _ => True) (OrdersService.create env storeId dto) := by
  unfold OrdersService.create
  have taking := homes_takeLines env storeId dto.items 0 (List.forall_mem_nil fun item : OrdersService.NewItem =>
    homes.home (.product item.productId) storeId ∧ 1 ≤ item.quantity)
  refine taking.bind fun ⟨total, items⟩ ⟨sameLength, inStore⟩ => ?_
  refine writes_perform_bind fun view reply writes _ executed => ?_
  obtain ⟨-, rfl⟩ := OrderStatement.execute_insert executed
  refine ⟨home_put_order home, ?_⟩
  refine writes_perform_bind fun view reply writes _ executed => ?_
  obtain ⟨-, rfl⟩ := OrderStatement.execute_insertItems executed
  refine ⟨home_insertItems fun row present => ?_, (homes_notifyOwner env storeId _).bind fun _ _ => trivial⟩
  obtain ⟨position, below, rfl⟩ := List.mem_mapIdx.mp present
  have isLine : position < dto.items.length := by
    rwa [show items.length = [].length + dto.items.length from sameLength, List.length_nil, Nat.zero_add] at below
  obtain ⟨productHome, positive⟩ := inStore _ (List.getElem_mem below)
  refine ⟨belongs position isLine, positive, fun p isProduct => ?_⟩
  cases isProduct
  exact ⟨storeId, productHome, home⟩

theorem homes_findOneOrder (storeId : Uuid) (id : RouteId) :
    shop.Writes (InHome homes) (fun entity => homes.home (.order entity.order.id) entity.order.storeId ∧
        ∀ item ∈ entity.items, item.InHome homes) (OrdersService.findOne storeId id) := by
  unfold OrdersService.findOne
  refine writes_perform_bind fun view found writes rows executed => ?_
  cases id with
  | none => cases executed
  | some id =>
    cases executed
    refine ⟨fun _ made => (nomatch made), ?_⟩
    cases isFound : view.findOrder id storeId with
    | none => trivial
    | some row =>
      obtain ⟨present, rfl, -⟩ := Database.findOrder_eq_some isFound
      refine ⟨HomeRows.order rows present, fun item isItem => ?_⟩
      exact HomeRows.item rows (Table.find_of_mem (Database.mem_itemsOf.mp isItem).1)

theorem homes_restock (env : Environment) (storeId : Uuid) (items : List OrderItem) :
    shop.Writes (InHome homes) (fun _ => True) (OrdersService.restock env storeId items) :=
  writes_of_only (only_restock env storeId items) fun op view reply writes isIncrement rows executed => by
    obtain ⟨id, quantity, rfl⟩ := isIncrement
    exact home_increment rows executed

theorem homes_saveOrder (env : Environment) {entity : OrderEntity}
    (home : homes.home (.order entity.order.id) entity.order.storeId) (inHome : ∀ item ∈ entity.items, item.InHome homes) :
    shop.Writes (InHome homes) (fun _ => True) (OrdersService.save env entity) :=
  writes_of_only (only_saveOrder env entity) fun op view reply writes saves rows executed => by
    cases saves with
    | reselect => cases executed; exact fun _ made => nomatch made
    | insert =>
      obtain ⟨-, rfl⟩ := OrderStatement.execute_insert executed
      exact home_put_order home
    | insertItems =>
      obtain ⟨-, rfl⟩ := OrderStatement.execute_insertItems executed
      exact home_insertItems inHome
    | updateStatus =>
      obtain ⟨-, rfl⟩ | ⟨row, found, rfl⟩ := OrderStatement.execute_updateStatus executed
      · exact fun _ made => nomatch made
      · have rowHome := HomeRows.order rows found
        rw [← (Table.key_of_find found : row.id = entity.order.id)] at rowHome
        exact home_put_order rowHome
    | updateItem present => exact home_updateItemProduct rows (inHome _ present) executed

theorem homes_updateStatus (env : Environment) (storeId : Uuid) (id : RouteId) (dto : UpdateOrderStatusDto) :
    shop.Writes (InHome homes) (fun _ => True) (OrdersService.updateStatus env storeId id dto) := by
  refine (homes_findOneOrder storeId id).bind fun entity ⟨home, inHome⟩ => ?_
  have restocks : shop.Writes (InHome homes) (fun _ => True) 
      (if OrdersService.isNewlyCancelled dto entity.order then OrdersService.restock env storeId entity.items else return ()) := by
    split
    next => exact homes_restock env storeId entity.items
    next => trivial
  exact restocks.bind fun _ _ => homes_saveOrder env home inHome

end Homes

end StoreSaas
