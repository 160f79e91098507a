import StoreSaas.Library.Unwinding
import StoreSaas.Services.Calls
import StoreSaas.Verified.References

/-! # The rows of one store

`forStore` is the database with the catalogue and the orders of one store only.  A write
within the store (`DbWrite.Within`) is a write to this view, and no other store's view
changes with it.
-/

namespace StoreSaas

/-! ## The view of a store -/

/-- The rows of a store, with the stores and the users, which all share. -/
def Database.forStore (db : Database) (storeId : Uuid) : Database :=
  { Database.empty with
    stores := db.stores
    users := db.users
    categories := db.categories.restrict fun row => row.storeId = storeId
    products := db.products.restrict fun row => row.storeId = storeId
    orders := db.orders.restrict fun row => row.storeId = storeId
    orderItems := db.orderItems.restrict fun item => (db.findOrder item.orderId storeId).isSome }

namespace Database

variable {db : Database} {storeId : Uuid}

theorem forStore_ext {left right : Database} (stores : left.stores = right.stores) (users : left.users = right.users)
    (categories : left.categories.restrict (fun row => row.storeId = storeId) =
      right.categories.restrict fun row => row.storeId = storeId)
    (products : left.products.restrict (fun row => row.storeId = storeId) =
      right.products.restrict fun row => row.storeId = storeId)
    (orders : left.orders.restrict (fun row => row.storeId = storeId) =
      right.orders.restrict fun row => row.storeId = storeId)
    (orderItems : left.orderItems.restrict (fun item => (left.findOrder item.orderId storeId).isSome) =
      right.orderItems.restrict fun item => (right.findOrder item.orderId storeId).isSome) :
    left.forStore storeId = right.forStore storeId := by
  unfold forStore
  rw [stores, users, categories, products, orders, orderItems]

theorem find_product_forStore (id : Uuid) : (db.forStore storeId).products.find id = db.findProduct id storeId :=
  Table.find_restrict ..

theorem find_category_forStore (id : Uuid) : (db.forStore storeId).categories.find id = db.findCategory id storeId :=
  Table.find_restrict ..

theorem find_order_forStore (id : Uuid) : (db.forStore storeId).orders.find id = db.findOrder id storeId :=
  Table.find_restrict ..

theorem findProduct_forStore (id : Uuid) : (db.forStore storeId).findProduct id storeId = db.findProduct id storeId := by
  rw [findProduct, find_product_forStore, findProduct, Option.filter_filter]
  simp only [Bool.and_self]

theorem findCategory_forStore (id : Uuid) :
    (db.forStore storeId).findCategory id storeId = db.findCategory id storeId := by
  rw [findCategory, find_category_forStore, findCategory, Option.filter_filter]
  simp only [Bool.and_self]

theorem findOrder_forStore (id : Uuid) : (db.forStore storeId).findOrder id storeId = db.findOrder id storeId := by
  rw [findOrder, find_order_forStore, findOrder, Option.filter_filter]
  simp only [Bool.and_self]

theorem forStore_forStore : (db.forStore storeId).forStore storeId = db.forStore storeId := by
  refine forStore_ext rfl rfl (Table.restrict_restrict ..) (Table.restrict_restrict ..) (Table.restrict_restrict ..) ?_
  simp only [findOrder_forStore]
  exact Table.restrict_restrict ..

/-- What is found with the store is found by its id. -/
theorem find_of_product {id : Uuid} (found : (db.findProduct id storeId).isSome = true) :
    db.findProduct id storeId = db.products.find id := by
  obtain ⟨row, isRow⟩ := Option.isSome_iff_exists.mp found
  rw [isRow, (findProduct_eq_some isRow).1]

theorem findCategory_eq_some {id : Uuid} {row : Category} (found : db.findCategory id storeId = some row) :
    db.categories.find id = some row ∧ row.storeId = storeId := by
  obtain ⟨present, inStore⟩ := Option.filter_eq_some_iff.mp found
  exact ⟨present, of_decide_eq_true inStore⟩

theorem find_of_category {id : Uuid} (found : (db.findCategory id storeId).isSome = true) :
    db.findCategory id storeId = db.categories.find id := by
  obtain ⟨row, isRow⟩ := Option.isSome_iff_exists.mp found
  rw [isRow, (findCategory_eq_some isRow).1]

theorem find_of_order {id : Uuid} (found : (db.findOrder id storeId).isSome = true) :
    db.findOrder id storeId = db.orders.find id := by
  obtain ⟨row, isRow⟩ := Option.isSome_iff_exists.mp found
  rw [isRow, (findOrder_eq_some isRow).1]

theorem itemsOf_forStore {id : Uuid} (found : (db.findOrder id storeId).isSome = true) :
    (db.forStore storeId).itemsOf id = db.itemsOf id := by
  unfold itemsOf
  change (db.orderItems.rows.filter _).filter _ = _
  rw [List.filter_filter]
  refine List.filter_congr fun item _ => ?_
  by_cases isOf : item.orderId = id
  · simp only [isOf, found, decide_true, Bool.and_self]
  · simp only [isOf, decide_false, Bool.false_and]

/-- What the reference names, if it names anything, is in the store. -/
def OwnsCategory (db : Database) (storeId : Uuid) (categoryId : Option Uuid) : Prop :=
  ∀ c, categoryId = some c → (db.findCategory c storeId).isSome = true

/-- The store's products refer to its categories. -/
def OwnsCategories (db : Database) (storeId : Uuid) : Prop :=
  ∀ row ∈ db.products.rows, row.storeId = storeId → db.OwnsCategory storeId row.categoryId

theorem Linked.ownsCategories (linked : db.Linked) (storeId : Uuid) : db.OwnsCategories storeId := by
  intro row present inStore c isCategory
  obtain ⟨category, found, sameStore⟩ := linked.productCategory row present c isCategory
  exact Option.isSome_iff_exists.mpr ⟨category,
    Option.filter_eq_some_iff.mpr ⟨found, decide_eq_true (sameStore.trans inStore)⟩⟩

theorem loadCategory_forStore {row : Product} (owns : db.OwnsCategory storeId row.categoryId) :
    (db.forStore storeId).loadCategory row = db.loadCategory row := by
  unfold loadCategory
  cases isCategory : row.categoryId with
  | none => rfl
  | some c => rw [Option.bind_some, Option.bind_some, find_category_forStore, find_of_category (owns c isCategory)]

end Database

/-! ## Writes within a store -/

/-- The write is to a row of the store, before and after. -/
def DbWrite.Within (storeId : Uuid) (db : Database) : DbWrite → Prop
  | .category change => db.categories.WritesOnly (fun row => row.storeId = storeId) change
  | .product change => db.products.WritesOnly (fun row => row.storeId = storeId) change
  | .order change => db.orders.WritesOnly (fun row => row.storeId = storeId) change ∧
      ∃ row, change = .put row ∧ (db.orders.find row.id = none → db.itemsOf row.id = [])
  | .orderItem change =>
    db.orderItems.WritesOnly (fun item => (db.findOrder item.orderId storeId).isSome) change
  | .outboxEvent _ => True
  | .store _ | .user _ | .subscription _ | .webhookEvent _ | .idempotencyRecord _ | .auditLog _ => False

section Writes

variable {db : Database} {storeId : Uuid} {write : DbWrite}

/-- The items of another store's order, or of an order that is written for the first time, are not looked at. -/
theorem findOrder_write_order {row : Order} (within : (DbWrite.order (.put row)).Within storeId db) (other : Uuid)
    {item : OrderItem} (present : item ∈ db.orderItems.rows) :
    ((db.write (.order (.put row))).findOrder item.orderId other).isSome =
      (db.findOrder item.orderId other).isSome := by
  obtain ⟨only, put, isPut, fresh⟩ := within
  cases isPut
  have sameStore : row.storeId = storeId := of_decide_eq_true (only.value row rfl)
  change (((db.orders.put row).find item.orderId).filter _).isSome = ((db.orders.find item.orderId).filter _).isSome
  rw [Table.find_put]
  split
  next isOf =>
    rw [isOf]
    cases found : db.orders.find row.id with
    | some old =>
      have sameOld : old.storeId = storeId := of_decide_eq_true (only.old old found)
      simp only [Option.filter_some, sameStore, sameOld]
      split <;> rfl
    | none =>
      have inItems : item ∈ db.itemsOf row.id := Database.mem_itemsOf.mpr ⟨present, isOf⟩
      rw [fresh found] at inItems
      cases inItems
  next => rfl

theorem DbWrite.Within.respects (within : write.Within storeId db) {other : Uuid} (differs : storeId ≠ other) :
    (db.write write).forStore other = db.forStore other := by
  have apart (own : Uuid) (isOwn : decide (own = storeId) = true) : decide (own = other) = false :=
    decide_eq_false fun isOther => differs ((of_decide_eq_true isOwn).symm.trans isOther)
  cases write with
  | category change =>
    exact Database.forStore_ext rfl rfl (within.restrict_other fun row => apart row.storeId) rfl rfl rfl
  | product change =>
    exact Database.forStore_ext rfl rfl rfl (within.restrict_other fun row => apart row.storeId) rfl rfl
  | order change =>
    obtain ⟨only, row, rfl, fresh⟩ := within
    refine Database.forStore_ext rfl rfl rfl rfl (only.restrict_other fun row => apart row.storeId) ?_
    refine Table.ext (List.filter_congr fun item present => ?_)
    exact findOrder_write_order ⟨only, row, rfl, fresh⟩ other present
  | orderItem change =>
    refine Database.forStore_ext rfl rfl rfl rfl rfl (within.restrict_other fun item isOwn => ?_)
    obtain ⟨order, found⟩ := Option.isSome_iff_exists.mp isOwn
    obtain ⟨present, -, inStore⟩ := Database.findOrder_eq_some found
    change ((db.orders.find item.orderId).filter _).isSome = false
    rw [present, Option.filter_some, inStore, apart storeId (decide_eq_true rfl)]
    rfl
  | outboxEvent change => rfl
  | store | user | subscription | webhookEvent | idempotencyRecord | auditLog => exact within.elim

/-- A write within the store is a write to its view. -/
theorem DbWrite.Within.forStore (within : write.Within storeId db) :
    (db.write write).forStore storeId = ((db.forStore storeId).write write).forStore storeId := by
  cases write with
  | category change =>
    have same : (db.write (.category change)).forStore storeId = (db.forStore storeId).write (.category change) := by
      simp only [Database.forStore, Database.write, within.restrict]
      rfl
    rw [← same, Database.forStore_forStore]
  | product change =>
    have same : (db.write (.product change)).forStore storeId = (db.forStore storeId).write (.product change) := by
      simp only [Database.forStore, Database.write, within.restrict]
      rfl
    rw [← same, Database.forStore_forStore]
  | order change =>
    obtain ⟨only, row, rfl, fresh⟩ := within
    have sameItems : (db.write (.order (.put row))).orderItems.restrict (fun item =>
          ((db.write (.order (.put row))).findOrder item.orderId storeId).isSome) =
        db.orderItems.restrict fun item => (db.findOrder item.orderId storeId).isSome :=
      Table.ext (List.filter_congr fun item present =>
        findOrder_write_order ⟨only, row, rfl, fresh⟩ storeId present)
    have same : (db.write (.order (.put row))).forStore storeId =
        (db.forStore storeId).write (.order (.put row)) := by
      unfold Database.forStore
      rw [sameItems]
      simp only [Database.write, only.restrict]
    rw [← same, Database.forStore_forStore]
  | orderItem change =>
    have same : (db.write (.orderItem change)).forStore storeId = (db.forStore storeId).write (.orderItem change) := by
      simp only [Database.forStore, Database.write]
      rw [← within.restrict]
      rfl
    rw [← same, Database.forStore_forStore]
  | outboxEvent change => exact Database.forStore_forStore.symm
  | store | user | subscription | webhookEvent | idempotencyRecord | auditLog => exact within.elim

/-- Each of the writes is within the store when its turn comes. -/
def WritesWithin (storeId : Uuid) : Database → List DbWrite → Prop
  | _, [] => True
  | db, write :: rest => write.Within storeId db ∧ WritesWithin storeId (db.write write) rest

theorem WritesWithin.respects {writes : List DbWrite} (within : WritesWithin storeId db writes) {other : Uuid}
    (differs : storeId ≠ other) : (shop.applyAll db writes).forStore other = db.forStore other := by
  induction writes generalizing db with
  | nil => rfl
  | cons write rest ih => exact (ih within.2).trans (within.1.respects differs)

theorem WritesWithin.forStore {left right : Database} {writes : List DbWrite}
    (withinLeft : WritesWithin storeId left writes) (withinRight : WritesWithin storeId right writes)
    (same : left.forStore storeId = right.forStore storeId) :
    (shop.applyAll left writes).forStore storeId = (shop.applyAll right writes).forStore storeId := by
  induction writes generalizing left right with
  | nil => exact same
  | cons write rest ih =>
    refine ih withinLeft.2 withinRight.2 ?_
    change (left.write write).forStore storeId = (right.write write).forStore storeId
    rw [withinLeft.1.forStore, withinRight.1.forStore, same]

end Writes

end StoreSaas
