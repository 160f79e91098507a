import StoreSaas.Verified.HomeStores

/-! # References within a tenant

`order_items` has no tenant column and no foreign key mentions the store.  The foreign
keys make what a row refers to exist (`keepsForeignKeys`), and the ids that requests look
up before they refer to them make it one of the row's own store (`homes_handler`).
-/

namespace StoreSaas

/-! ## The ids that requests create -/

/-- The store that a row of the catalogue or an order carries. -/
def RowKey.storeOf : (key : RowKey) → key.Row → Option Uuid
  | .category _, row => some (Category.storeId row)
  | .product _, row => some (Product.storeId row)
  | .order _, row => some (Order.storeId row)
  | .store _, _ | .user _, _ | .subscription _, _ | .orderItem _, _ | .webhookEvent _, _ | .idempotencyRecord _, _
  | .outboxEvent _, _ | .auditLog _, _ | .uniqueEntry _, _ => none

namespace ShopRequest

/-- The request inserts the row. -/
def Makes (request : ShopRequest) (key : RowKey) : Prop :=
  match request.call, key with
  | .createCategory _, .category id => id = request.env.newId 0
  | .createProduct _, .product id => id = request.env.newId 0
  | .createOrder _, .order id => id = request.env.newId 0
  | .createOrder dto, .orderItem id => ∃ position < dto.items.length, id = request.env.newId (2 + position)
  | _, _ => False

variable {ι : Type} {start : Database} {requests : ι → ShopRequest}

/-- The ids the database generates are new, and no two requests get the same. -/
structure FreshKeys (start : Database) (requests : ι → ShopRequest) : Prop where
  unused : ∀ i key, (requests i).Makes key → start.row key = none
  distinct : ∀ i j key, (requests i).Makes key → (requests j).Makes key → i = j

/-- The store of a row of the start, or of the request that creates it. -/
def HomeOf (start : Database) (requests : ι → ShopRequest) (key : RowKey) (storeId : Uuid) : Prop :=
  (∃ row, start.row key = some row ∧ key.storeOf row = some storeId) ∨
    ∃ i, (requests i).Makes key ∧ (requests i).storeId = storeId

/-- The order of an item of the start, or of the request that creates it. -/
def OrderOf (start : Database) (requests : ι → ShopRequest) (item order : Uuid) : Prop :=
  (∃ row, start.orderItems.find item = some row ∧ row.orderId = order) ∨
    ∃ i, (requests i).Makes (.orderItem item) ∧ (requests i).env.newId 0 = order

def homes (fresh : FreshKeys start requests) : Homes where
  home := HomeOf start requests
  belongs := OrderOf start requests
  one_home := by
    rintro key left right (⟨row, found, inLeft⟩ | ⟨i, makes, rfl⟩) (⟨other, foundOther, inRight⟩ | ⟨j, makesOther, rfl⟩)
    · cases found.symm.trans foundOther
      exact Option.some.inj (inLeft.symm.trans inRight)
    · cases found.symm.trans (fresh.unused j key makesOther)
    · cases foundOther.symm.trans (fresh.unused i key makes)
    · rw [fresh.distinct i j key makes makesOther]
  one_order := by
    rintro item left right (⟨row, found, rfl⟩ | ⟨i, makes, rfl⟩) (⟨other, foundOther, rfl⟩ | ⟨j, makesOther, rfl⟩)
    · cases found.symm.trans foundOther
      rfl
    · cases found.symm.trans (fresh.unused j (.orderItem item) makesOther)
    · cases foundOther.symm.trans (fresh.unused i (.orderItem item) makes)
    · rw [fresh.distinct i j (.orderItem item) makes makesOther]

end ShopRequest

theorem SmallShop.freshKeys :
    ShopRequest.FreshKeys SmallShop.db (SmallShop.both SmallShop.orderTea SmallShop.cancelOrder) where
  unused i key makes := by
    cases i with
    | true => cases key <;> cases makes
    | false =>
      cases key with
      | order id =>
        obtain rfl : id = 200 := makes
        decide
      | orderItem id =>
        obtain ⟨position, below, rfl⟩ := makes
        obtain rfl : position = 0 := Nat.lt_one_iff.mp below
        decide
      | _ => cases makes
  distinct i j key makes makesOther := by
    cases i with
    | true => cases key <;> cases makes
    | false =>
      cases j with
      | true => cases key <;> cases makesOther
      | false => rfl

/-! ## Calls -/

/-- Every call writes rows of its own store only, and refers to no others. -/
theorem homes_handler {homes : Homes} (request : ShopRequest)
    (home : ∀ key, request.Makes key → homes.home key request.storeId)
    (belongs : ∀ item, request.Makes (.orderItem item) → homes.belongs item (request.env.newId 0)) :
    shop.Writes (InHome homes) (fun _ => True) (request.call.handler request.env request.storeId) := by
  have wraps {α : Type} {body : Tx α} {wrap : α → CallResult} (writes : shop.Writes (InHome homes) (fun _ => True) body) :
      shop.Writes (InHome homes) (fun _ => True) (body >>= fun value => (return wrap value : Tx CallResult)) :=
    writes.bind fun _ _ => trivial
  have ends {body : Tx Unit} (writes : shop.Writes (InHome homes) (fun _ => True) body) :
      shop.Writes (InHome homes) (fun _ => True) (body >>= fun _ => (return .nothing : Tx CallResult)) :=
    writes.bind fun _ _ => trivial
  obtain ⟨env, storeId, call⟩ := request
  dsimp only at home belongs ⊢
  cases call with
  | createCategory dto => exact wraps (homes_createCategory dto (home (.category (env.newId 0)) rfl))
  | findAllCategories => exact wraps (homes_read_bind rfl fun _ => trivial)
  | findOneCategory id => exact wraps ((homes_findOneCategory storeId id).imp fun _ _ => trivial)
  | updateCategory id dto => exact wraps (homes_updateCategory env storeId id dto)
  | removeCategory id => exact ends (homes_removeCategory storeId id)
  | createProduct dto => exact wraps (homes_createProduct dto (home (.product (env.newId 0)) rfl))
  | findAllProducts query => exact wraps (homes_read_bind rfl fun _ => trivial)
  | findOneProduct id => exact wraps ((homes_findOneProduct storeId id).imp fun _ _ => trivial)
  | updateProduct id dto => exact wraps (homes_updateProduct env storeId id dto)
  | removeProduct id => exact ends (homes_removeProduct storeId id)
  | setImage id imageUrl => exact wraps (homes_setImage env storeId id imageUrl)
  | createOrder dto =>
    exact wraps (homes_createOrder (home (.order (env.newId 0)) rfl) fun position below =>
      belongs (env.newId (2 + position)) ⟨position, below, rfl⟩)
  | findAllOrders query => exact wraps (homes_read_bind rfl fun _ => homes_read_bind rfl fun _ => trivial)
  | findOneOrder id => exact wraps ((homes_findOneOrder storeId id).imp fun _ _ => trivial)
  | updateStatus id dto => exact wraps (homes_updateStatus env storeId id dto)

/-! ## Runs -/

namespace ShopRequest

variable {ι : Type} {start : Database} {requests : ι → ShopRequest}

/-- What is linked at the start is at home. -/
theorem homeRows_start (linked : start.Linked) (fresh : FreshKeys start requests) : HomeRows (homes fresh) start := by
  intro key row found
  cases key with
  | category id => exact .inl ⟨row, found, rfl⟩
  | order id => exact .inl ⟨row, found, rfl⟩
  | product id =>
    refine ⟨.inl ⟨row, found, rfl⟩, fun c isCategory => ?_⟩
    obtain ⟨category, present, sameStore⟩ := linked.productCategory row (Table.mem_of_find found) c isCategory
    exact .inl ⟨category, present, congrArg some sameStore⟩
  | orderItem id =>
    have present := Table.mem_of_find found
    refine ⟨.inl ⟨row, found, rfl⟩, linked.positive row present, fun p isProduct => ?_⟩
    obtain ⟨order, orderFound⟩ := Option.isSome_iff_exists.mp (linked.itemOrder row present)
    obtain ⟨product, productFound, sameStore⟩ := linked.itemProduct row present order orderFound p isProduct
    exact ⟨order.storeId, .inl ⟨product, productFound, congrArg some sameStore⟩, .inl ⟨order, orderFound, rfl⟩⟩
  | store id | user id | subscription id | webhookEvent id | idempotencyRecord id | outboxEvent id | auditLog id => trivial
  | uniqueEntry entry => cases found

theorem refsExist_start (linked : start.Linked) : start.RefsExist := by
  intro key row found target isRef
  cases key with
  | product id =>
    obtain ⟨c, isCategory, rfl⟩ := mem_references_product.mp isRef
    obtain ⟨category, present, -⟩ := linked.productCategory row (Table.mem_of_find found) c isCategory
    exact Option.isSome_iff_exists.mpr ⟨category, present⟩
  | orderItem id =>
    have present := Table.mem_of_find found
    obtain rfl | ⟨p, isProduct, rfl⟩ := mem_references_orderItem.mp isRef
    · exact linked.itemOrder row present
    · obtain ⟨order, orderFound⟩ := Option.isSome_iff_exists.mp (linked.itemOrder row present)
      obtain ⟨product, productFound, -⟩ := linked.itemProduct row present order orderFound p isProduct
      exact Option.isSome_iff_exists.mpr ⟨product, productFound⟩
  | _ => cases isRef

/-- References that exist, from rows at home, are to rows of the same store. -/
theorem linked_of_homeRows {homes : Homes} {db : Database} (rows : HomeRows homes db) (exist : db.RefsExist) :
    db.Linked where
  itemOrder item present :=
    exist (.orderItem item.id) item (Table.find_of_mem present) (.order item.orderId) List.mem_cons_self
  itemProduct item present order orderFound p isProduct := by
    have found := Table.find_of_mem present
    obtain ⟨product, productFound⟩ := Option.isSome_iff_exists.mp
      (exist (.orderItem item.id) item found (.product p) (mem_references_orderItem.mpr (.inr ⟨p, isProduct, rfl⟩)))
    obtain ⟨storeId, productHome, orderHome⟩ := (rows.item found).2.2 p isProduct
    refine ⟨product, productFound, ?_⟩
    exact (homes.one_home _ _ _ (rows.product productFound).1 productHome).trans
      (homes.one_home _ _ _ orderHome (rows.order orderFound))
  productCategory row present c isCategory := by
    have found := Table.find_of_mem present
    obtain ⟨category, categoryFound⟩ := Option.isSome_iff_exists.mp
      (exist (.product row.id) row found (.category c) (mem_references_product.mpr ⟨c, isCategory, rfl⟩))
    refine ⟨category, categoryFound, ?_⟩
    exact homes.one_home _ _ _ (rows.category categoryFound) ((rows.product found).2 c isCategory)
  positive item present := (rows.item (Table.find_of_mem present)).2.1

/-- Each item is of the start with its order, or was created in the call that created the order. -/
def CreatedTogether (start : Database) (requests : ι → ShopRequest) (db : Database) : Prop :=
  ∀ item ∈ db.orderItems.rows,
    ((∃ stored, start.orderItems.find item.id = some stored ∧ stored.orderId = item.orderId) ∧
      (start.orders.find item.orderId).isSome = true) ∨
    ∃ i dto, (requests i).call = .createOrder dto ∧ (requests i).Makes (.order item.orderId) ∧
      (requests i).Makes (.orderItem item.id)

theorem createdTogether_of_homeRows (linked : start.Linked) (fresh : FreshKeys start requests) {db : Database}
    (rows : HomeRows (homes fresh) db) : CreatedTogether start requests db := by
  intro item present
  rcases (rows.item (Table.find_of_mem present)).1 with ⟨stored, found, sameOrder⟩ | ⟨i, makes, isOrder⟩
  · refine .inl ⟨⟨stored, found, sameOrder⟩, ?_⟩
    rw [← sameOrder]
    exact linked.itemOrder stored (Table.mem_of_find found)
  · have creates : ∃ dto, (requests i).call = .createOrder dto := by
      cases isCall : (requests i).call with
      | createOrder dto => exact ⟨dto, rfl⟩
      | _ =>
        simp only [Makes, isCall] at makes
    obtain ⟨dto, isCall⟩ := creates
    refine .inr ⟨i, dto, isCall, ?_, makes⟩
    simp only [Makes, isCall]
    exact isOrder.symm

/-- In every run the committed references are to rows of the same store, and the items of each
    order are from the call that created it. -/
theorem referencesKept [Fintype ι] [DecidableEq ι] (linked : start.Linked) (fresh : FreshKeys start requests)
    {run : List (Act ι ApiError × System ι Database RowKey DbWrite statements ApiError CallResult)}
    (isRun : Transition.Run shop.Steps (system start requests) run) :
    Transition.EachState (fun state => state.db.Linked ∧ CreatedTogether start requests state.db)
      (system start requests) run := by
  have writes (i : ι) : shop.RequestWrites (InHome (homes fresh)) (requests i).program := by
    rw [ShopRequest.program, inRequest_eq]
    have handler : shop.Writes (InHome (homes fresh)) (fun _ => True)
        ((requests i).call.handler (requests i).env (requests i).storeId) :=
      homes_handler (requests i) (fun key makes => .inr ⟨i, makes, rfl⟩) fun item makes => .inr ⟨i, makes, rfl⟩
    have sets : shop.Writes (InHome (homes fresh)) (fun _ => True) (Tx.setCurrentStore (requests i).storeId >>= fun _ =>
        (requests i).call.handler (requests i).env (requests i).storeId) :=
      homes_read_bind rfl fun _ => handler
    exact sets.inTransaction.withTransaction
  have rowsKept := Engine.rowsKept_of_run (Engine.rowsKept_start (homeRows_start linked fresh) writes) isRun
  have rules := Engine.refsRules keepsForeignKeys
  have refsKept := Engine.pendingKept_of_run rules (Engine.pendingKept_start rules (refsExist_start linked)) isRun
  refine (rowsKept.and refsKept).imp fun state kept => ?_
  obtain ⟨rows, refs⟩ := kept
  exact ⟨linked_of_homeRows rows.db refs.db, createdTogether_of_homeRows linked fresh rows.db⟩

/-- One of the three teas is ordered while an earlier order is cancelled. -/
theorem referencesKept_smallShop :
    Transition.EachState (fun state => state.db.Linked ∧
        CreatedTogether SmallShop.db (SmallShop.both SmallShop.orderTea SmallShop.cancelOrder) state.db)
      (system SmallShop.db (SmallShop.both SmallShop.orderTea SmallShop.cancelOrder))
      ((shop.trace (system SmallShop.db (SmallShop.both SmallShop.orderTea SmallShop.cancelOrder))
        SmallShop.orderThenCancel).get (by decide)) :=
  referencesKept SmallShop.linked SmallShop.freshKeys (shop.run_get_trace _)

end ShopRequest

end StoreSaas
