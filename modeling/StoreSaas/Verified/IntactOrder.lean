import StoreSaas.Verified.References
import StoreSaas.Verified.ServiceStatements

/-! # What all transactions leave alone of an order

While orders are created and their statuses set, an existing order stays in its
store and keeps its items (`Filed`), and their products stay in that store (`Intact`).
`Harmless` is what this asks of a single write, `Statement.Bystands` of a statement that
has nothing to do with the order; `Intact.write` and `bystands_execute` connect the three.
-/

namespace StoreSaas

/-- The order `o` is in the store with these items, whose products are there as well. -/
structure Intact (o storeId : Uuid) (items : List OrderItem) (db : Database) : Prop where
  order : ∃ row, db.orders.find o = some row ∧ row.storeId = storeId
  sameItems : db.itemsOf o = items
  products : ∀ item ∈ items, ∀ p, item.productId = some p →
    ∃ row, db.products.find p = some row ∧ row.storeId = storeId

/-- A write that leaves the order in its store and its items as they are. -/
def Harmless (o storeId : Uuid) (items : List OrderItem) : DbWrite → Prop
  | .product (.put row) => (∃ item ∈ items, item.productId = some row.id) → row.storeId = storeId
  | .product (.erase id) => ∀ item ∈ items, item.productId ≠ some id
  | .order (.put row) => row.id = o → row.storeId = storeId
  | .order (.erase id) => id ≠ o
  | .orderItem (.put row) => row.orderId ≠ o ∧ row.id ∉ items.map OrderItem.id
  | .orderItem (.erase id) => id ∉ items.map OrderItem.id
  | _ => True

variable {o storeId : Uuid} {items : List OrderItem} {db : Database}

theorem Database.Linked.intact (linked : db.Linked) {order : Order} (found : db.orders.find order.id = some order) :
    Intact order.id order.storeId (db.itemsOf order.id) db :=
  ⟨⟨order, found, rfl⟩, rfl, linked.itemsOf_inStore found⟩

/-! ## Orders with their items -/

/-- The order `o` is in the store, with these items. -/
structure Filed (o storeId : Uuid) (items : List OrderItem) (db : Database) : Prop where
  order : ∃ row, db.orders.find o = some row ∧ row.storeId = storeId
  sameItems : db.itemsOf o = items

namespace Filed

theorem of_find {row : Order} (found : db.orders.find o = some row) : Filed o row.storeId (db.itemsOf o) db :=
  ⟨⟨row, found, rfl⟩, rfl⟩

/-- Rows with these ids are the items. -/
theorem orderId_of_id (filed : Filed o storeId items db) {row : OrderItem} (present : row ∈ db.orderItems.rows) :
    row.id ∈ items.map OrderItem.id ↔ row.orderId = o := by
  rw [← filed.sameItems]
  constructor
  · intro isItem
    obtain ⟨item, ofOrder, sameId⟩ := List.mem_map.mp isItem
    obtain ⟨inTable, isO⟩ := Database.mem_itemsOf.mp ofOrder
    rw [← Table.eq_of_key_eq inTable present sameId]
    exact isO
  · exact fun isO => List.mem_map_of_mem (Database.mem_itemsOf.mpr ⟨present, isO⟩)

/-- A row that is not there cannot be the order. -/
theorem ne_of_absent (filed : Filed o storeId items db) {id : Uuid} (absent : db.orders.find id = none) : id ≠ o := by
  rintro rfl
  obtain ⟨row, found, -⟩ := filed.order
  rw [absent] at found
  cases found

theorem not_item_of_absent (filed : Filed o storeId items db) {id : Uuid} (absent : db.orderItems.find id = none) :
    id ∉ items.map OrderItem.id := by
  intro isItem
  obtain ⟨item, present, rfl⟩ := List.mem_map.mp isItem
  rw [← filed.sameItems] at present
  rw [Table.find_of_mem (Database.mem_itemsOf.mp present).1] at absent
  cases absent

/-- The order stays in its store with its items under a write to another table and under a harmless one. -/
theorem write (filed : Filed o storeId items db) {write : DbWrite}
    (harmless : (∃ change, write = .product change) ∨ Harmless o storeId items write) :
    Filed o storeId items (db.write write) := by
  have isItem {row : OrderItem} (present : row ∈ db.orderItems.rows) := filed.orderId_of_id present
  obtain ⟨⟨order, found, inStore⟩, sameItems⟩ := filed
  have itemsOf_restrict (table : Table OrderItem.id) :
      (table.rows.filter fun item => item.orderId = o) = (table.restrict fun item => item.orderId = o).rows := rfl
  cases write with
  | product change => exact ⟨⟨order, found, inStore⟩, sameItems⟩
  | order change =>
    have harmless := harmless.resolve_left (by rintro ⟨_, ⟨⟩⟩)
    refine ⟨?_, sameItems⟩
    cases change with
    | put new =>
      -- the order itself is written only in its store
      change ∃ row, (db.orders.put new).find o = some row ∧ _
      rw [Table.find_put]
      split
      next same => exact ⟨new, rfl, harmless same.symm⟩
      next => exact ⟨order, found, inStore⟩
    | erase id =>
      refine ⟨order, ?_, inStore⟩
      change (db.orders.erase id).find o = some order
      rw [Table.find_erase_ne _ (Ne.symm harmless)]
      exact found
  | orderItem change =>
    have harmless := harmless.resolve_left (by rintro ⟨_, ⟨⟩⟩)
    refine ⟨⟨order, found, inStore⟩, ?_⟩
    rw [← sameItems]
    cases change with
    | put new =>
      change ((db.orderItems.put new).rows.filter fun item => item.orderId = o) = _
      -- a put of another item: neither the new nor the old row belongs to the order
      rw [itemsOf_restrict, Table.restrict_put_of_not (by simpa using harmless.1)]
      · rfl
      · intro other present
        have notItem := mt (isItem (Table.mem_of_find present)).mpr
        rw [Table.key_of_find present] at notItem
        simpa using notItem harmless.2
    | erase id =>
      change ((db.orderItems.erase id).rows.filter fun item => item.orderId = o) = _
      rw [itemsOf_restrict, Table.restrict_erase_of_not]
      · rfl
      · intro other present
        have notItem := mt (isItem (Table.mem_of_find present)).mpr
        rw [Table.key_of_find present] at notItem
        simpa using notItem harmless
  | _ => exact ⟨⟨order, found, inStore⟩, sameItems⟩

theorem applyAll (filed : Filed o storeId items db) {writes : List DbWrite}
    (harmless : ∀ write ∈ writes, (∃ change, write = .product change) ∨ Harmless o storeId items write) :
    Filed o storeId items (shop.applyAll db writes) := by
  induction writes generalizing db with
  | nil => exact filed
  | cons write rest ih =>
    obtain ⟨first, others⟩ := List.forall_mem_cons.mp harmless
    exact ih (filed.write first) others

end Filed

/-! ## Orders whose products are in the store -/

namespace Intact

theorem filed (intact : Intact o storeId items db) : Filed o storeId items db := ⟨intact.order, intact.sameItems⟩

/-- Rows with these ids are the items. -/
theorem orderId_of_id (intact : Intact o storeId items db) {row : OrderItem} (present : row ∈ db.orderItems.rows) :
    row.id ∈ items.map OrderItem.id ↔ row.orderId = o :=
  intact.filed.orderId_of_id present

theorem write (intact : Intact o storeId items db) {write : DbWrite} (harmless : Harmless o storeId items write) :
    Intact o storeId items (db.write write) := by
  obtain ⟨order, sameItems⟩ := intact.filed.write (.inr harmless)
  refine ⟨order, sameItems, fun item present p isP => ?_⟩
  obtain ⟨row, isRow, rowStore⟩ := intact.products item present p isP
  cases write with
  | product change =>
    cases change with
    | put new =>
      change ∃ row, (db.products.put new).find p = some row ∧ _
      rw [Table.find_put]
      split
      next same => exact ⟨new, rfl, harmless ⟨item, present, same ▸ isP⟩⟩
      next => exact ⟨row, isRow, rowStore⟩
    | erase id =>
      refine ⟨row, ?_, rowStore⟩
      have differs : p ≠ id := by
        rintro rfl
        exact harmless item present isP
      exact (Table.find_erase_ne db.products differs).trans isRow
  | _ => exact ⟨row, isRow, rowStore⟩

theorem applyAll (intact : Intact o storeId items db) {writes : List DbWrite}
    (harmless : ∀ write ∈ writes, Harmless o storeId items write) :
    Intact o storeId items (shop.applyAll db writes) := by
  induction writes generalizing db with
  | nil => exact intact
  | cons write rest ih =>
    obtain ⟨first, others⟩ := List.forall_mem_cons.mp harmless
    exact ih (intact.write first) others

theorem ne_of_absent (intact : Intact o storeId items db) {id : Uuid} (absent : db.orders.find id = none) : id ≠ o :=
  intact.filed.ne_of_absent absent

theorem not_item_of_absent (intact : Intact o storeId items db) {id : Uuid} (absent : db.orderItems.find id = none) :
    id ∉ items.map OrderItem.id :=
  intact.filed.not_item_of_absent absent

/-- The row of an item's product is in the store, so writing over it leaves it there. -/
theorem storeId_of_product (intact : Intact o storeId items db) {row : Product}
    (found : db.products.find row.id = some row) (isProduct : ∃ item ∈ items, item.productId = some row.id) :
    row.storeId = storeId := by
  obtain ⟨item, present, isP⟩ := isProduct
  obtain ⟨stored, isStored, inStore⟩ := intact.products item present row.id isP
  rw [found] at isStored
  cases isStored
  exact inStore

end Intact

/-! ## Statements that have nothing to do with the order -/

/-- The statements of the order methods, as long as they name other orders and items. -/
def Statement.Bystands (o : Uuid) (items : List OrderItem) : Statement → Prop
  | .product (.delete _) => False
  | .order (.insertItems rows) => ∀ row ∈ rows, row.orderId ≠ o
  | .order (.updateStatus id _ _) => id ≠ o
  | .order (.updateItemProduct id _) => id ∉ items.map OrderItem.id
  | .product _ | .order _ | .outbox _ | .setCurrentStore _ | .enqueueMail _ => True
  | .category _ | .user _ | .billing _ | .idempotency _ | .store _ | .audit _ => False

theorem bystands_product {statement : ProductStatement} {reply : statement.Reply} {writes : List DbWrite}
    (intact : Intact o storeId items db) (keeps : ∀ id, statement ≠ .delete id)
    (executed : statement.execute db = .ok (reply, writes)) :
    ∀ write ∈ writes, ∃ row, write = .product (.put row) ∧
      ((∃ item ∈ items, item.productId = some row.id) → row.storeId = storeId) := by
  cases statement with
  | findOne | getManyAndCount | selectForUpdate | reselect =>
    rw [ProductStatement.execute_read rfl executed]
    exact fun _ made => nomatch made
  | insert entity =>
    obtain ⟨row, -, absent, rfl⟩ := ProductStatement.execute_insert executed
    refine List.forall_mem_singleton.mpr ⟨row, rfl, fun ⟨item, present, isP⟩ => ?_⟩
    obtain ⟨stored, isStored, -⟩ := intact.products item present row.id isP
    rw [absent] at isStored
    cases isStored
  | update id changes now =>
    obtain ⟨-, rfl⟩ | ⟨row, next, found, applied, -, rfl⟩ := ProductStatement.execute_update executed
    · exact fun _ made => nomatch made
    · obtain ⟨sameId, sameStore, -, -⟩ := ProductChanges.applyTo?_eq_some applied
      refine List.forall_mem_singleton.mpr ⟨next, rfl, fun isProduct => ?_⟩
      rw [sameId] at isProduct
      rw [sameStore]
      exact intact.storeId_of_product (by rw [Table.key_of_find found]; exact found) isProduct
  | increment id ofStore quantity now =>
    obtain ⟨-, -, rfl⟩ | ⟨row, found, -, rfl⟩ := ProductStatement.execute_increment executed
    · exact fun _ made => nomatch made
    · obtain ⟨present, rfl, -⟩ := Database.findProduct_eq_some found
      have inStore : (∃ item ∈ items, item.productId = some row.id) → row.storeId = storeId :=
        intact.storeId_of_product present
      exact List.forall_mem_singleton.mpr ⟨_, rfl, inStore⟩
  | delete id => exact absurd rfl (keeps id)

theorem bystands_order {statement : OrderStatement} {reply : statement.Reply} {writes : List DbWrite}
    (intact : Intact o storeId items db) (bystands : (Statement.order statement).Bystands o items)
    (executed : statement.execute db = .ok (reply, writes)) :
    ∀ write ∈ writes, Harmless o storeId items write ∧ write.key ≠ .order o := by
  cases statement with
  | findOne | getMany | getCount | reselect =>
    rw [OrderStatement.execute_read rfl executed]
    exact fun _ made => nomatch made
  | insert row =>
    obtain ⟨absent, rfl⟩ := OrderStatement.execute_insert executed
    have differs := intact.ne_of_absent absent
    exact List.forall_mem_singleton.mpr
      ⟨fun same => absurd same differs, fun isOrder => differs (RowKey.order.inj isOrder)⟩
  | insertItems rows =>
    obtain ⟨checked, rfl⟩ := OrderStatement.execute_insertItems executed
    intro write made
    obtain ⟨row, present, rfl⟩ := List.mem_map.mp made
    have absent := (Database.checkItem_ok ((Database.checkItems_ok checked).2 row present)).1
    exact ⟨⟨bystands row present, intact.not_item_of_absent absent⟩, fun isOrder => nomatch isOrder⟩
  | updateStatus id status now =>
    obtain ⟨-, rfl⟩ | ⟨row, found, rfl⟩ := OrderStatement.execute_updateStatus executed
    · exact fun _ made => nomatch made
    · have differs : row.id ≠ o := by
        rw [Table.key_of_find found]
        exact bystands
      exact List.forall_mem_singleton.mpr
        ⟨fun same => absurd same differs, fun isOrder => differs (RowKey.order.inj isOrder)⟩
  | updateItemProduct id productId =>
    obtain ⟨-, rfl⟩ | ⟨item, found, rfl⟩ := OrderStatement.execute_updateItemProduct executed
    · exact fun _ made => nomatch made
    · have notItem : item.id ∉ items.map OrderItem.id := by
        rw [Table.key_of_find found]
        exact bystands
      have otherOrder := mt (intact.orderId_of_id (Table.mem_of_find found)).mpr notItem
      exact List.forall_mem_singleton.mpr ⟨⟨otherOrder, notItem⟩, fun isOrder => nomatch isOrder⟩

theorem bystands_execute {op : Statement} {reply : op.Reply} {writes : List DbWrite}
    (intact : Intact o storeId items db) (bystands : op.Bystands o items)
    (executed : op.execute db = .ok (reply, writes)) :
    ∀ write ∈ writes, Harmless o storeId items write ∧ write.key ≠ .order o := by
  cases op with
  | setCurrentStore | enqueueMail => cases executed; exact fun _ made => nomatch made
  | category | user | billing | idempotency | store | audit => cases bystands
  | outbox statement =>
    intro write made
    obtain ⟨change, rfl⟩ := statement.execute_writes executed write made
    exact ⟨trivial, fun isOrder => nomatch isOrder⟩
  | product statement =>
    have keeps : ∀ id, statement ≠ .delete id := by
      rintro id rfl
      exact bystands
    intro write made
    obtain ⟨row, rfl, inStore⟩ := bystands_product intact keeps executed write made
    exact ⟨inStore, fun isOrder => nomatch isOrder⟩
  | order statement => exact bystands_order intact bystands executed

end StoreSaas
