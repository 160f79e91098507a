import StoreSaas.Services.OrdersService

/-! # References between rows

Items name orders that exist and, as long as the product exists, a product of the
order's store; products name categories of their own store.  The database only
enforces the existence; the store is the services' business.
-/

namespace StoreSaas

structure Database.Linked (db : Database) : Prop where
  itemOrder : ∀ item ∈ db.orderItems.rows, (db.orders.find item.orderId).isSome = true
  itemProduct : ∀ item ∈ db.orderItems.rows, ∀ order, db.orders.find item.orderId = some order →
    ∀ p, item.productId = some p → ∃ row, db.products.find p = some row ∧ row.storeId = order.storeId
  productCategory : ∀ row ∈ db.products.rows, ∀ c, row.categoryId = some c →
    ∃ category, db.categories.find c = some category ∧ category.storeId = row.storeId
  positive : ∀ item ∈ db.orderItems.rows, 1 ≤ item.quantity

namespace Database.Linked

variable {db : Database}

/-- The products of an order's items are in the order's store. -/
theorem itemsOf_inStore (linked : db.Linked) {order : Order} (found : db.orders.find order.id = some order) :
    ∀ item ∈ db.itemsOf order.id, ∀ p, item.productId = some p →
      ∃ row, db.products.find p = some row ∧ row.storeId = order.storeId := by
  intro item present p isP
  obtain ⟨inTable, ofOrder⟩ := Database.mem_itemsOf.mp present
  exact linked.itemProduct item inTable order (by rw [ofOrder]; exact found) p isP

/-- An order id that is not in use has no items yet. -/
theorem itemsOf_of_absent (linked : db.Linked) {id : Uuid} (absent : db.orders.find id = none) :
    db.itemsOf id = [] := by
  refine List.eq_nil_iff_forall_not_mem.mpr fun item present => ?_
  obtain ⟨inTable, ofOrder⟩ := Database.mem_itemsOf.mp present
  have exist := linked.itemOrder item inTable
  rw [ofOrder, absent] at exist
  cases exist

end Database.Linked

/-! ## A small shop -/

namespace SmallShop

def store : Store := ⟨1, "Corner", 9, false, 0⟩
def product : Product := ⟨2, 1, none, "Tea", none, 450, 3, none, 0, 0⟩
def order : Order := ⟨3, 1, .pending, 900, 0, 0⟩
def item : OrderItem := ⟨4, 3, some 2, "Tea", 2, 450, 0⟩

/-- One store with one product, three in stock after two of five were ordered. -/
def db : Database :=
  { Database.empty with
    stores := ⟨[store], List.nodup_singleton _⟩
    products := ⟨[product], List.nodup_singleton _⟩
    orders := ⟨[order], List.nodup_singleton _⟩
    orderItems := ⟨[item], List.nodup_singleton _⟩ }

theorem linked : db.Linked where
  itemOrder row present := by cases List.mem_singleton.mp present; rfl
  itemProduct row present := by
    cases List.mem_singleton.mp present
    rintro other isOther p isP
    cases isOther
    cases isP
    exact ⟨product, rfl, rfl⟩
  productCategory row present := by
    cases List.mem_singleton.mp present
    exact fun _ isC => nomatch isC
  positive row present := by cases List.mem_singleton.mp present; decide

def oneOf (product : Uuid) : CreateOrderItemDto := ⟨.ofUuid product, 1, Nat.le_refl 1⟩
def twoOf (product : Uuid) : CreateOrderItemDto := ⟨.ofUuid product, 2, Nat.le_succ 1⟩

/-- An order of one line. -/
def orderOf (line : CreateOrderItemDto) : CreateOrderDto := ⟨[line], List.cons_ne_nil line []⟩

/-- A store on the free plan, with nobody employed and nothing to sell. -/
def freeStore : Database :=
  { Database.empty with
    stores := ⟨[store], List.nodup_singleton _⟩
    subscriptions := ⟨[⟨5, 1, .free, .active, none, none⟩], List.nodup_singleton _⟩ }

end SmallShop

end StoreSaas
