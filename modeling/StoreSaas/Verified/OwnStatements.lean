import StoreSaas.Library.PendingWrites
import StoreSaas.Verified.StoreViews

/-! # Statements of a store

`Statement.Own` is what the services keep to: they name the store in what they look up,
change rows they have found with it, refer to rows they have found with it, and insert rows
under ids that are not in use.  Such a statement replies and writes the same with the other
stores' rows as without (`execute_forStore`), and writes within the store (`execute_own`).
-/

namespace StoreSaas

/-! ## References within the store -/

namespace Database

def OwnsProduct (db : Database) (storeId : Uuid) (productId : Option Uuid) : Prop :=
  ∀ p, productId = some p → (db.findProduct p storeId).isSome = true

variable {db : Database} {storeId : Uuid}

theorem OwnsCategory.exists_forStore {categoryId : Option Uuid} (owns : db.OwnsCategory storeId categoryId) :
    (db.forStore storeId).categoryExists categoryId = true ∧ db.categoryExists categoryId = true := by
  cases categoryId with
  | none => exact ⟨rfl, rfl⟩
  | some c =>
    have found := owns c rfl
    refine ⟨?_, ?_⟩
    · rw [categoryExists, find_category_forStore]
      exact found
    · rw [categoryExists, ← find_of_category found]
      exact found

theorem OwnsProduct.exists_forStore {productId : Option Uuid} (owns : db.OwnsProduct storeId productId) :
    (db.forStore storeId).productExists productId = true ∧ db.productExists productId = true := by
  cases productId with
  | none => exact ⟨rfl, rfl⟩
  | some p =>
    have found := owns p rfl
    refine ⟨?_, ?_⟩
    · rw [productExists, find_product_forStore]
      exact found
    · rw [productExists, ← find_of_product found]
      exact found

/-- Only items of the store's orders refer to its products. -/
theorem unlinkProduct_own (linked : db.Linked) {p : Uuid} (found : (db.findProduct p storeId).isSome = true)
    {item : OrderItem} (present : item ∈ db.orderItems.rows) (isProduct : item.productId = some p) :
    (db.findOrder item.orderId storeId).isSome = true := by
  obtain ⟨row, isRow⟩ := Option.isSome_iff_exists.mp found
  obtain ⟨rowPresent, -, inStore⟩ := findProduct_eq_some isRow
  obtain ⟨order, orderFound⟩ := Option.isSome_iff_exists.mp (linked.itemOrder item present)
  obtain ⟨product, productFound, sameStore⟩ := linked.itemProduct item present order orderFound p isProduct
  cases rowPresent.symm.trans productFound
  exact Option.isSome_iff_exists.mpr ⟨order,
    Option.filter_eq_some_iff.mpr ⟨orderFound, decide_eq_true (sameStore.symm.trans inStore)⟩⟩

/-- Only the store's products refer to its categories. -/
theorem unlinkCategory_own (linked : db.Linked) {c : Uuid} (found : (db.findCategory c storeId).isSome = true)
    {row : Product} (present : row ∈ db.products.rows) (isCategory : row.categoryId = some c) :
    row.storeId = storeId := by
  obtain ⟨category, isRow⟩ := Option.isSome_iff_exists.mp found
  obtain ⟨categoryPresent, inStore⟩ := findCategory_eq_some isRow
  obtain ⟨other, otherFound, sameStore⟩ := linked.productCategory row present c isCategory
  cases categoryPresent.symm.trans otherFound
  exact sameStore.symm.trans inStore

theorem unlinkProduct_forStore (linked : db.Linked) {p : Uuid} (found : (db.findProduct p storeId).isSome = true) :
    (db.forStore storeId).unlinkProduct p = db.unlinkProduct p := by
  unfold unlinkProduct
  change ((db.orderItems.rows.filter _).filter _).map _ = _
  rw [List.filter_filter]
  refine congrArg (List.map _) (List.filter_congr fun item present => ?_)
  by_cases isProduct : item.productId = some p
  · simp only [isProduct, unlinkProduct_own linked found present isProduct, decide_true, Bool.and_self]
  · simp only [isProduct, decide_false, Bool.false_and]

theorem unlinkCategory_forStore (linked : db.Linked) {c : Uuid} (found : (db.findCategory c storeId).isSome = true) :
    (db.forStore storeId).unlinkCategory c = db.unlinkCategory c := by
  unfold unlinkCategory
  change ((db.products.rows.filter _).filter _).map _ = _
  rw [List.filter_filter]
  refine congrArg (List.map _) (List.filter_congr fun row present => ?_)
  by_cases isCategory : row.categoryId = some c
  · simp only [isCategory, unlinkCategory_own linked found present isCategory, decide_true, Bool.and_self]
  · simp only [isCategory, decide_false, Bool.false_and]

end Database

/-! ## Own statements -/

section Own

variable (storeId : Uuid) (made : RowKey → Prop) (db : Database)

/-- `made` are the ids under which rows are inserted. -/
def ProductStatement.Own : ProductStatement → Prop
  | .findOne _ store | .getManyAndCount store _ _ => store = storeId ∧ db.OwnsCategories storeId
  | .selectForUpdate _ store | .increment _ store _ _ => store = storeId
  | .reselect entity => (db.findProduct entity.id storeId).isSome = true
  | .insert entity => entity.storeId = storeId ∧ made (.product entity.id) ∧ db.products.find entity.id = none ∧
      db.OwnsCategory storeId entity.joinCategoryId
  | .update id changes _ => (db.findProduct id storeId).isSome = true ∧ db.OwnsCategory storeId changes.categoryId.join
  | .delete id => (db.findProduct id storeId).isSome = true ∧ db.Linked

def CategoryStatement.Own : CategoryStatement → Prop
  | .findOne _ store | .find store _ => store = storeId
  | .reselect entity => (db.findCategory entity.id storeId).isSome = true
  | .insert entity => entity.storeId = storeId ∧ made (.category entity.id) ∧ db.categories.find entity.id = none
  | .update id _ _ => (db.findCategory id storeId).isSome = true
  | .delete id => (db.findCategory id storeId).isSome = true ∧ db.Linked

def OrderStatement.Own : OrderStatement → Prop
  | .findOne _ store | .getMany store _ _ | .getCount store _ => store = storeId
  | .reselect entity => (db.findOrder entity.order.id storeId).isSome = true
  | .insert row => row.storeId = storeId ∧ made (.order row.id) ∧ db.orders.find row.id = none ∧ db.itemsOf row.id = []
  | .insertItems rows => ∀ item ∈ rows, made (.orderItem item.id) ∧ db.orderItems.find item.id = none ∧
      (db.findOrder item.orderId storeId).isSome = true ∧ db.OwnsProduct storeId item.productId
  | .updateStatus id _ _ => (db.findOrder id storeId).isSome = true
  | .updateItemProduct _ _ => False

/-- Stores and users are no store's own, and the outbox is written without being read. -/
def OutboxStatement.Own : OutboxStatement → Prop
  | .findStore _ | .findUser _ => True
  | .insert row => made (.outboxEvent row.id) ∧ db.outboxEvents.find row.id = none
  | .findPending _ _ | .markProcessed _ _ => False

def Statement.Own : Statement → Prop
  | .product statement => statement.Own storeId made db
  | .category statement => statement.Own storeId made db
  | .order statement => statement.Own storeId made db
  | .outbox statement => statement.Own made db
  | .setCurrentStore own => own = storeId
  | .enqueueMail _ => True
  | .user _ | .billing _ | .idempotency _ | .store _ | .audit _ => False

end Own

section Execute

variable {storeId : Uuid} {made : RowKey → Prop} {db : Database}

/-! ## The other stores' rows make no difference -/

theorem filter_selects_product (query : QueryProductDto) :
    (db.forStore storeId).products.rows.filter (query.selects storeId) =
      db.products.rows.filter (query.selects storeId) := by
  change (db.products.rows.filter _).filter _ = _
  rw [List.filter_filter]
  refine List.filter_congr fun row _ => ?_
  cases inStore : decide (row.storeId = storeId) with
  | true => rw [Bool.and_true]
  | false => simp only [QueryProductDto.selects, inStore, Bool.false_and]

theorem filter_selects_order (query : QueryOrderDto) :
    (db.forStore storeId).orders.rows.filter (query.selects storeId) =
      db.orders.rows.filter (query.selects storeId) := by
  change (db.orders.rows.filter _).filter _ = _
  rw [List.filter_filter]
  refine List.filter_congr fun row _ => ?_
  cases inStore : decide (row.storeId = storeId) with
  | true => rw [Bool.and_true]
  | false => simp only [QueryOrderDto.selects, inStore, Bool.false_and]

theorem storeId_of_selects_product {query : QueryProductDto} {row : Product} (selected : query.selects storeId row = true) :
    row.storeId = storeId := by
  simp only [QueryProductDto.selects, Bool.and_eq_true, decide_eq_true_eq] at selected
  exact selected.1.1.1.1

theorem storeId_of_selects_order {query : QueryOrderDto} {row : Order} (selected : query.selects storeId row = true) :
    row.storeId = storeId := by
  simp only [QueryOrderDto.selects, Bool.and_eq_true, decide_eq_true_eq] at selected
  exact selected.1.1.1

theorem findProduct_of_absent {id : Uuid} (absent : db.products.find id = none) : db.findProduct id storeId = none := by
  rw [Database.findProduct, absent, Option.filter_none]

theorem findCategory_of_absent {id : Uuid} (absent : db.categories.find id = none) :
    db.findCategory id storeId = none := by
  rw [Database.findCategory, absent, Option.filter_none]

theorem findOrder_of_absent {id : Uuid} (absent : db.orders.find id = none) : db.findOrder id storeId = none := by
  rw [Database.findOrder, absent, Option.filter_none]

theorem ProductStatement.execute_forStore {statement : ProductStatement} (own : statement.Own storeId made db) :
    statement.execute (db.forStore storeId) = statement.execute db := by
  cases statement with
  | findOne id store =>
    obtain ⟨rfl, owns⟩ := own
    cases id with
    | none => rfl
    | some id =>
      simp only [execute, Database.findProduct_forStore]
      refine congrArg (fun found => Except.ok (found, [])) (Option.map_congr fun row found => ?_)
      obtain ⟨present, -, inStore⟩ := Database.findProduct_eq_some found
      exact Database.loadCategory_forStore (owns row (Table.mem_of_find present) inStore)
  | getManyAndCount store query rank =>
    -- the join with the category reads the same row in the part of the store
    obtain ⟨rfl, owns⟩ := own
    simp only [execute, filter_selects_product]
    refine congrArg (fun rows => replyOnce query.check (rows, _)) (List.map_congr_left fun row present => ?_)
    obtain ⟨inTable, selected⟩ := List.mem_filter.mp (mem_of_mem_joinedPageOf present)
    exact Database.loadCategory_forStore (owns row inTable (storeId_of_selects_product selected))
  | selectForUpdate id store =>
    obtain rfl : store = storeId := own
    simp only [execute, Database.findProduct_forStore]
  | reselect entity =>
    simp only [execute, Database.find_product_forStore, Database.find_of_product own]
  | insert entity =>
    obtain ⟨inStore, -, absent, owns⟩ := own
    simp only [execute]
    cases isRow : entity.toRow? with
    | none => rfl
    | some row =>
      obtain ⟨sameId, -, sameCategory, -⟩ := ProductEntity.toRow?_eq_some isRow
      have exist := owns.exists_forStore
      rw [← sameCategory] at exist
      rw [← sameId] at absent
      simp only [Database.find_product_forStore, absent, findProduct_of_absent absent, exist.1, exist.2]
      rfl
  | update id changes now =>
    obtain ⟨found, owns⟩ := own
    simp only [execute, Database.find_product_forStore, Database.find_of_product found, owns.exists_forStore.1,
      owns.exists_forStore.2]
  | increment id store quantity now =>
    obtain rfl : store = storeId := own
    simp only [execute, Database.findProduct_forStore]
  | delete id =>
    obtain ⟨found, linked⟩ := own
    obtain ⟨row, isRow⟩ := Option.isSome_iff_exists.mp found
    obtain ⟨present, sameId, -⟩ := Database.findProduct_eq_some isRow
    rw [← sameId] at found
    -- the same items lose their link
    simp only [execute, Database.find_product_forStore, isRow, present, Database.unlinkProduct_forStore linked found]

theorem CategoryStatement.execute_forStore {statement : CategoryStatement} (own : statement.Own storeId made db) :
    statement.execute (db.forStore storeId) = statement.execute db := by
  cases statement with
  | findOne id store =>
    obtain rfl : store = storeId := own
    cases id with
    | none => rfl
    | some id => simp only [execute, Database.findCategory_forStore]
  | find store rank =>
    obtain rfl : store = storeId := own
    have same : (db.forStore store).categories.rows.filter (fun row => decide (row.storeId = store)) =
        db.categories.rows.filter fun row => decide (row.storeId = store) := by
      change (db.categories.rows.filter _).filter _ = _
      rw [List.filter_filter]
      simp only [Bool.and_self]
    simp only [execute, same]
  | reselect entity =>
    simp only [execute, Database.find_category_forStore, Database.find_of_category own]
  | insert entity =>
    obtain ⟨inStore, -, absent⟩ := own
    simp only [execute]
    cases isRow : entity.toRow? with
    | none => rfl
    | some row =>
      obtain ⟨name, -, rfl⟩ := Option.map_eq_some_iff.mp isRow
      simp only [Database.find_category_forStore, absent, findCategory_of_absent absent]
      rfl
  | update id name now =>
    simp only [execute, Database.find_category_forStore, Database.find_of_category own]
  | delete id =>
    obtain ⟨found, linked⟩ := own
    obtain ⟨row, isRow⟩ := Option.isSome_iff_exists.mp found
    obtain ⟨present, -⟩ := Database.findCategory_eq_some isRow
    rw [← Table.key_of_find present] at found
    simp only [execute, Database.find_category_forStore, isRow, present, Database.unlinkCategory_forStore linked found]

theorem checkItem_forStore {item : OrderItem} (absent : db.orderItems.find item.id = none)
    (inOrder : (db.findOrder item.orderId storeId).isSome = true) (owns : db.OwnsProduct storeId item.productId) :
    (db.forStore storeId).checkItem item = db.checkItem item := by
  have absentToo : (db.forStore storeId).orderItems.find item.id = none := by
    change (db.orderItems.restrict _).find item.id = none
    rw [Table.find_restrict, absent, Option.filter_none]
  unfold Database.checkItem
  rw [absentToo, absent, Database.find_order_forStore, Database.find_of_order inOrder, owns.exists_forStore.1,
    owns.exists_forStore.2]

theorem checkItems_forStore {rows : List OrderItem}
    (own : ∀ item ∈ rows, made (.orderItem item.id) ∧ db.orderItems.find item.id = none ∧
      (db.findOrder item.orderId storeId).isSome = true ∧ db.OwnsProduct storeId item.productId) :
    (db.forStore storeId).checkItems rows = db.checkItems rows := by
  induction rows with
  | nil => rfl
  | cons item rest ih =>
    obtain ⟨⟨-, absent, inOrder, owns⟩, restOwn⟩ := List.forall_mem_cons.mp own
    rw [Database.checkItems, Database.checkItems, ih restOwn, checkItem_forStore absent inOrder owns]

theorem OrderStatement.execute_forStore {statement : OrderStatement} (own : statement.Own storeId made db) :
    statement.execute (db.forStore storeId) = statement.execute db := by
  have load {order : Order} {id : Uuid} (found : db.findOrder id storeId = some order) :
      (db.forStore storeId).loadItems order = db.loadItems order := by
    obtain ⟨-, rfl, -⟩ := Database.findOrder_eq_some found
    unfold Database.loadItems
    rw [Database.itemsOf_forStore (Option.isSome_of_mem found)]
  cases statement with
  | findOne id store =>
    obtain rfl : store = storeId := own
    cases id with
    | none => rfl
    | some id =>
      simp only [execute, Database.findOrder_forStore]
      exact congrArg (fun found => Except.ok (found, [])) (Option.map_congr fun _ found => load found)
  | getMany store query rank =>
    obtain rfl : store = storeId := own
    simp only [execute, filter_selects_order]
    refine congrArg (replyOnce query.check) (List.map_congr_left fun order present => ?_)
    obtain ⟨inTable, selected⟩ := List.mem_filter.mp (mem_of_mem_joinedPageOf present)
    exact load (Option.filter_eq_some_iff.mpr
      ⟨Table.find_of_mem inTable, decide_eq_true (storeId_of_selects_order selected)⟩)
  | getCount store query =>
    obtain rfl : store = storeId := own
    simp only [execute, filter_selects_order]
  | reselect entity =>
    obtain ⟨order, found⟩ := Option.isSome_iff_exists.mp own
    obtain ⟨present, -⟩ := Database.findOrder_eq_some found
    simp only [execute, Database.find_order_forStore, found, present, Option.map_some, load found]
  | insert row =>
    obtain ⟨-, -, absent, -⟩ := own
    simp only [execute, Database.find_order_forStore, absent, findOrder_of_absent absent]
    rfl
  | insertItems rows =>
    simp only [execute, checkItems_forStore own]
  | updateStatus id status now =>
    simp only [execute, Database.find_order_forStore, Database.find_of_order own]
  | updateItemProduct id productId => exact own.elim

theorem OutboxStatement.execute_forStore {statement : OutboxStatement} (own : statement.Own made db) :
    statement.execute (db.forStore storeId) = statement.execute db := by
  cases statement with
  | findStore | findUser => rfl
  | insert row =>
    obtain ⟨-, absent⟩ := own
    have absentToo : (db.forStore storeId).outboxEvents.find row.id = none := rfl
    simp only [execute, absent, absentToo]
  | findPending | markProcessed => exact own.elim

/-- The other stores' rows make no difference to a statement of the store. -/
theorem Statement.execute_forStore {statement : Statement} (own : statement.Own storeId made db) :
    statement.execute (db.forStore storeId) = statement.execute db := by
  cases statement with
  | product statement => exact ProductStatement.execute_forStore own
  | category statement => exact CategoryStatement.execute_forStore own
  | order statement => exact OrderStatement.execute_forStore own
  | outbox statement => exact OutboxStatement.execute_forStore own
  | setCurrentStore | enqueueMail => rfl
  | user | billing | idempotency | store | audit => exact own.elim

/-! ## What is written is the store's -/

/-- The write is to a row that is there, or under an id of those that are made. -/
def DbWrite.Known (made : RowKey → Prop) (db : Database) (write : DbWrite) : Prop :=
  (db.row write.key).isSome = true ∨ made write.key

theorem writesWithin_items {writes : List DbWrite}
    (own : ∀ write ∈ writes, ∃ item, write = .orderItem (.put item) ∧
      (db.findOrder item.orderId storeId).isSome = true ∧
      ∀ old, db.orderItems.find item.id = some old → (db.findOrder old.orderId storeId).isSome = true) :
    WritesWithin storeId db writes := by
  induction writes generalizing db with
  | nil => trivial
  | cons write rest ih =>
    obtain ⟨⟨item, rfl, inOrder, old⟩, restOwn⟩ := List.forall_mem_cons.mp own
    refine ⟨⟨fun row isRow => ?_, old⟩, ih fun next inRest => ?_⟩
    · cases isRow
      exact inOrder
    · obtain ⟨other, isPut, otherOrder, otherOld⟩ := restOwn next inRest
      refine ⟨other, isPut, otherOrder, fun before found => ?_⟩
      change (db.orderItems.put item).find other.id = some before at found
      rw [Table.find_put] at found
      split at found
      next => cases found; exact inOrder
      next => exact otherOld before found

theorem writesWithin_products {writes : List DbWrite}
    (own : ∀ write ∈ writes, ∃ row, write = .product (.put row) ∧ row.storeId = storeId ∧
      ∀ old, db.products.find row.id = some old → old.storeId = storeId) :
    WritesWithin storeId db writes := by
  induction writes generalizing db with
  | nil => trivial
  | cons write rest ih =>
    obtain ⟨⟨row, rfl, inStore, old⟩, restOwn⟩ := List.forall_mem_cons.mp own
    refine ⟨⟨fun other isRow => ?_, fun other found => decide_eq_true (old other found)⟩, ih fun next inRest => ?_⟩
    · cases isRow
      exact decide_eq_true inStore
    · obtain ⟨other, isPut, otherStore, otherOld⟩ := restOwn next inRest
      refine ⟨other, isPut, otherStore, fun before found => ?_⟩
      change (db.products.put row).find other.id = some before at found
      rw [Table.find_put] at found
      split at found
      next => cases found; exact inStore
      next => exact otherOld before found

/-- A product of the store that is written over. -/
theorem within_putProduct {old row : Product} (found : db.findProduct row.id storeId = some old)
    (sameStore : row.storeId = old.storeId) :
    WritesWithin storeId db [.product (.put row)] ∧ ∀ write ∈ [DbWrite.product (.put row)], write.Known made db := by
  obtain ⟨present, -, inStore⟩ := Database.findProduct_eq_some found
  refine ⟨⟨⟨fun other isRow => ?_, fun other isOld => ?_⟩, trivial⟩, fun write isWrite => ?_⟩
  · cases isRow
    exact decide_eq_true (sameStore.trans inStore)
  · cases present.symm.trans isOld
    exact decide_eq_true inStore
  · cases List.mem_singleton.mp isWrite
    exact .inl (Option.isSome_of_mem present)

theorem ProductStatement.execute_own {statement : ProductStatement} {reply : statement.Reply} {writes : List DbWrite}
    (own : statement.Own storeId made db) (executed : statement.execute db = .ok (reply, writes)) :
    WritesWithin storeId db writes ∧ ∀ write ∈ writes, write.Known made db := by
  have nothing : WritesWithin storeId db [] ∧ ∀ write ∈ ([] : List DbWrite), write.Known made db :=
    ⟨trivial, fun _ none => nomatch none⟩
  cases statement with
  | findOne | getManyAndCount | selectForUpdate | reselect =>
    rw [execute_read rfl executed]
    exact nothing
  | insert entity =>
    obtain ⟨inStore, isMade, absent, -⟩ := own
    obtain ⟨row, isRow, -, rfl⟩ := execute_insert executed
    obtain ⟨sameId, sameStore, -⟩ := ProductEntity.toRow?_eq_some isRow
    refine ⟨⟨⟨fun other isOther => ?_, fun other isOld => ?_⟩, trivial⟩, fun write isWrite => ?_⟩
    · cases isOther
      exact decide_eq_true (sameStore.trans inStore)
    · change db.products.find row.id = some other at isOld
      rw [sameId, absent] at isOld
      cases isOld
    · cases List.mem_singleton.mp isWrite
      refine .inr ?_
      change made (.product row.id)
      rwa [sameId]
  | update id changes now =>
    obtain ⟨found, -⟩ := own
    obtain ⟨-, rfl⟩ | ⟨row, next, present, applied, -, rfl⟩ := execute_update executed
    · exact nothing
    · obtain ⟨sameId, sameStore, -⟩ := ProductChanges.applyTo?_eq_some applied
      have isRow : db.findProduct next.id storeId = some row := by
        rw [sameId, Table.key_of_find present, Database.find_of_product found, present]
      exact within_putProduct isRow sameStore
  | increment id store quantity now =>
    obtain rfl : store = storeId := own
    obtain ⟨-, -, rfl⟩ | ⟨row, found, -, rfl⟩ := execute_increment executed
    · exact nothing
    · have isRow : db.findProduct row.id store = some row := by
        rw [(Database.findProduct_eq_some found).2.1, found]
      exact within_putProduct isRow rfl
  | delete id =>
    obtain ⟨found, linked⟩ := own
    obtain ⟨-, rfl⟩ | ⟨row, present, rfl⟩ := execute_delete executed
    · exact nothing
    · obtain rfl : row.id = id := Table.key_of_find present
      have inStore : row.storeId = storeId := by
        obtain ⟨other, isOther⟩ := Option.isSome_iff_exists.mp found
        obtain ⟨otherPresent, -, otherStore⟩ := Database.findProduct_eq_some isOther
        cases present.symm.trans otherPresent
        exact otherStore
      -- the items that lose their product are in orders of the store
      have unlinked : ∀ item ∈ db.orderItems.rows.filter (fun item => item.productId = some row.id),
          (db.findOrder item.orderId storeId).isSome = true := fun item isItem => by
        obtain ⟨inTable, isProduct⟩ := List.mem_filter.mp isItem
        exact Database.unlinkProduct_own linked found inTable (of_decide_eq_true isProduct)
      have erases : (DbWrite.product (.erase row.id)).Within storeId db :=
        ⟨fun other isOther => (by cases isOther), fun other isOld => by
          cases present.symm.trans isOld
          exact decide_eq_true inStore⟩
      refine ⟨⟨erases, writesWithin_items fun write unlinks => ?_⟩, fun write isWrite => ?_⟩
      · obtain ⟨item, isItem, rfl⟩ := List.mem_map.mp unlinks
        obtain ⟨inTable, isProduct⟩ := List.mem_filter.mp isItem
        have inOrder := Database.unlinkProduct_own linked found inTable (of_decide_eq_true isProduct)
        refine ⟨_, rfl, inOrder, fun old isOld => ?_⟩
        change db.orderItems.find item.id = some old at isOld
        cases (Table.find_of_mem inTable).symm.trans isOld
        exact inOrder
      · rcases List.mem_cons.mp isWrite with rfl | unlinks
        · exact .inl (Option.isSome_of_mem present)
        · obtain ⟨item, isItem, rfl⟩ := List.mem_map.mp unlinks
          have found : db.orderItems.find item.id = some item := Table.find_of_mem (List.mem_filter.mp isItem).1
          exact .inl (Option.isSome_of_mem found)

theorem CategoryStatement.execute_own {statement : CategoryStatement} {reply : statement.Reply} {writes : List DbWrite}
    (own : statement.Own storeId made db) (executed : statement.execute db = .ok (reply, writes)) :
    WritesWithin storeId db writes ∧ ∀ write ∈ writes, write.Known made db := by
  have nothing : WritesWithin storeId db [] ∧ ∀ write ∈ ([] : List DbWrite), write.Known made db :=
    ⟨trivial, fun _ none => nomatch none⟩
  cases statement with
  | findOne | find | reselect =>
    rw [execute_read rfl executed]
    exact nothing
  | insert entity =>
    -- a new category is the store's, and its id is one that the request makes
    obtain ⟨inStore, isMade, absent⟩ := own
    simp only [execute] at executed
    split at executed
    next => cases executed
    next row isRow =>
      obtain ⟨name, -, rfl⟩ := Option.map_eq_some_iff.mp isRow
      simp only [absent, Option.isSome_none, Bool.false_eq_true, if_false] at executed
      split at executed
      next => cases executed
      next =>
        cases executed
        refine ⟨⟨⟨fun other isOther => ?_, fun other isOld => ?_⟩, trivial⟩, fun write isWrite => ?_⟩
        · cases isOther
          exact decide_eq_true inStore
        · cases absent.symm.trans isOld
        · cases List.mem_singleton.mp isWrite
          exact .inr isMade
  | update id name now =>
    simp only [execute] at executed
    split at executed
    next => cases executed; exact nothing
    next => cases executed
    next row name present =>
      cases executed
      obtain ⟨old, isOld⟩ := Option.isSome_iff_exists.mp own
      obtain ⟨oldPresent, inStore⟩ := Database.findCategory_eq_some isOld
      cases present.symm.trans oldPresent
      obtain rfl : row.id = id := Table.key_of_find present
      refine ⟨⟨⟨fun other isOther => ?_, fun other isOther => ?_⟩, trivial⟩, fun write isWrite => ?_⟩
      · cases isOther
        exact decide_eq_true inStore
      · cases present.symm.trans isOther
        exact decide_eq_true inStore
      · cases List.mem_singleton.mp isWrite
        exact .inl (Option.isSome_of_mem present)
  | delete id =>
    obtain ⟨found, linked⟩ := own
    simp only [execute] at executed
    split at executed
    next => cases executed; exact nothing
    next row present =>
      cases executed
      obtain rfl : row.id = id := Table.key_of_find present
      have erases : (DbWrite.category (.erase row.id)).Within storeId db :=
        ⟨fun other isOther => (by cases isOther), fun other isOld => by
          have foundOwn := (Database.find_of_category found).trans isOld
          exact decide_eq_true (Database.findCategory_eq_some foundOwn).2⟩
      -- the products that lose their category are the store's own, since a product links to its own store
      refine ⟨⟨erases, writesWithin_products fun write unlinks => ?_⟩, fun write isWrite => ?_⟩
      · obtain ⟨product, isProduct, rfl⟩ := List.mem_map.mp unlinks
        obtain ⟨inTable, isCategory⟩ := List.mem_filter.mp isProduct
        have inStore := Database.unlinkCategory_own linked found inTable (of_decide_eq_true isCategory)
        refine ⟨_, rfl, inStore, fun old isOld => ?_⟩
        change db.products.find product.id = some old at isOld
        cases (Table.find_of_mem inTable).symm.trans isOld
        exact inStore
      · rcases List.mem_cons.mp isWrite with rfl | unlinks
        · exact .inl (Option.isSome_of_mem present)
        · obtain ⟨product, isProduct, rfl⟩ := List.mem_map.mp unlinks
          have found : db.products.find product.id = some product := Table.find_of_mem (List.mem_filter.mp isProduct).1
          exact .inl (Option.isSome_of_mem found)

theorem OrderStatement.execute_own {statement : OrderStatement} {reply : statement.Reply} {writes : List DbWrite}
    (own : statement.Own storeId made db) (executed : statement.execute db = .ok (reply, writes)) :
    WritesWithin storeId db writes ∧ ∀ write ∈ writes, write.Known made db := by
  have nothing : WritesWithin storeId db [] ∧ ∀ write ∈ ([] : List DbWrite), write.Known made db :=
    ⟨trivial, fun _ none => nomatch none⟩
  cases statement with
  | findOne | getMany | getCount | reselect =>
    rw [execute_read rfl executed]
    exact nothing
  | insert row =>
    -- a new order comes without items, so none of them changes its store
    obtain ⟨inStore, isMade, absent, noItems⟩ := own
    obtain ⟨-, rfl⟩ := execute_insert executed
    refine ⟨⟨⟨⟨fun other isOther => ?_, fun other isOld => ?_⟩, row, rfl, fun _ => noItems⟩, trivial⟩,
      fun write isWrite => ?_⟩
    · cases isOther
      exact decide_eq_true inStore
    · cases absent.symm.trans isOld
    · cases List.mem_singleton.mp isWrite
      exact .inr isMade
  | insertItems rows =>
    obtain ⟨-, rfl⟩ := execute_insertItems executed
    refine ⟨writesWithin_items fun write isWrite => ?_, fun write isWrite => ?_⟩
    · obtain ⟨item, isItem, rfl⟩ := List.mem_map.mp isWrite
      obtain ⟨-, absent, inOrder, -⟩ := own item isItem
      exact ⟨item, rfl, inOrder, fun old isOld => by cases absent.symm.trans isOld⟩
    · obtain ⟨item, isItem, rfl⟩ := List.mem_map.mp isWrite
      exact .inr (own item isItem).1
  | updateStatus id status now =>
    obtain ⟨-, rfl⟩ | ⟨row, present, rfl⟩ := execute_updateStatus executed
    · exact nothing
    · obtain rfl : row.id = id := Table.key_of_find present
      have found := (Database.find_of_order own).trans present
      have inStore := (Database.findOrder_eq_some found).2.2
      refine ⟨⟨⟨⟨fun other isOther => ?_, fun other isOld => ?_⟩, _, rfl, fun absent => ?_⟩, trivial⟩,
        fun write isWrite => ?_⟩
      · cases isOther
        exact decide_eq_true inStore
      · cases present.symm.trans isOld
        exact decide_eq_true inStore
      · cases present.symm.trans absent
      · cases List.mem_singleton.mp isWrite
        exact .inl (Option.isSome_of_mem present)
  | updateItemProduct id productId => exact own.elim

theorem OutboxStatement.execute_own {statement : OutboxStatement} {reply : statement.Reply} {writes : List DbWrite}
    (own : statement.Own made db) (executed : statement.execute db = .ok (reply, writes)) :
    WritesWithin storeId db writes ∧ ∀ write ∈ writes, write.Known made db := by
  cases statement with
  | findStore | findUser =>
    rw [execute_read rfl executed]
    exact ⟨trivial, fun _ none => nomatch none⟩
  | insert row =>
    obtain ⟨-, rfl⟩ := execute_insert executed
    refine ⟨⟨trivial, trivial⟩, fun write isWrite => ?_⟩
    cases List.mem_singleton.mp isWrite
    exact .inr own.1
  | findPending | markProcessed => exact own.elim

/-- A statement of the store writes within it, and rows that are there or are made. -/
theorem Statement.execute_own {statement : Statement} {reply : statement.Reply} {writes : List DbWrite}
    (own : statement.Own storeId made db) (executed : statement.execute db = .ok (reply, writes)) :
    WritesWithin storeId db writes ∧ ∀ write ∈ writes, write.Known made db := by
  cases statement with
  | product statement => exact ProductStatement.execute_own own executed
  | category statement => exact CategoryStatement.execute_own own executed
  | order statement => exact OrderStatement.execute_own own executed
  | outbox statement => exact OutboxStatement.execute_own own executed
  | setCurrentStore | enqueueMail =>
    cases executed
    exact ⟨trivial, fun _ none => nomatch none⟩
  | user | billing | idempotency | store | audit => exact own.elim

/-! ## Steps -/

/-- No other store sees the statement. -/
theorem respects_executeOn {statement : Statement} (own : statement.Own storeId made db) {other : Uuid}
    (differs : storeId ≠ other) : (shop.executeOn statement db).2.forStore other = db.forStore other := by
  cases ran : shop.executeOn statement db with
  | mk result after =>
    cases result with
    | ok reply =>
      obtain ⟨writes, executed, rfl⟩ := Engine.executeOn_eq_ok ran
      exact (Statement.execute_own own executed).1.respects differs
    | error error => rw [Engine.executeOn_eq_error ran]

/-- Databases with the same rows of the store reply the same, and go on having the same. -/
theorem consistent_executeOn {statement : Statement} {madeToo : RowKey → Prop} {other : Database}
    (own : statement.Own storeId made db) (ownToo : statement.Own storeId madeToo other)
    (same : db.forStore storeId = other.forStore storeId) :
    (shop.executeOn statement db).1 = (shop.executeOn statement other).1 ∧
      (shop.executeOn statement db).2.forStore storeId = (shop.executeOn statement other).2.forStore storeId := by
  have sameResult : shop.execute statement other = shop.execute statement db :=
    (Statement.execute_forStore ownToo).symm.trans (same ▸ Statement.execute_forStore own)
  unfold Engine.executeOn
  rw [sameResult]
  cases executed : shop.execute statement db with
  | error error => exact ⟨rfl, same⟩
  | ok result =>
    obtain ⟨reply, writes⟩ := result
    exact ⟨rfl, (Statement.execute_own own executed).1.forStore
      (Statement.execute_own ownToo (sameResult.trans executed)).1 same⟩

/-- The rows that are there afterwards were there before, or are made. -/
theorem known_executeOn {statement : Statement} (own : statement.Own storeId made db) {key : RowKey}
    (present : ((shop.executeOn statement db).2.row key).isSome = true) :
    (db.row key).isSome = true ∨ made key := by
  cases ran : shop.executeOn statement db with
  | mk result after =>
    rw [ran] at present
    cases result with
    | ok reply =>
      obtain ⟨writes, executed, rfl⟩ := Engine.executeOn_eq_ok ran
      by_cases touched : ∃ write ∈ writes, write.key = key
      · obtain ⟨write, isWrite, rfl⟩ := touched
        exact (Statement.execute_own own executed).2 write isWrite
      · have untouched : (shop.applyAll db writes).row key = db.row key :=
          Engine.get_applyAll_of_not_touches (E := shop) touched
        exact .inl (untouched ▸ present)
    | error error =>
      rw [Engine.executeOn_eq_error ran] at present
      exact .inl present

end Execute

end StoreSaas
