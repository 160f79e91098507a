import Mathlib.Algebra.Order.BigOperators.Group.List
import StoreSaas.Verified.ExactOrders
import StoreSaas.Verified.ShelfRows

/-! # The arithmetic of orders and the ranges of its columns

The dtos bound prices, stocks and quantities from below only.  An order that passes the
checks can be stored exactly as long as the store could sell all it has, and an order can
be cancelled exactly as long as its quantities fit on top of the stock
(`arithmeticFits_iff`).
-/

namespace StoreSaas

/-! ## The total of a new order -/

/-- The products of a store. -/
def Database.productsOf (db : Database) (storeId : Uuid) : List Product :=
  db.products.rows.filter fun row => row.storeId = storeId

/-- What everything that the store has in stock would cost. -/
def Database.shelfValue (db : Database) (storeId : Uuid) : Cents :=
  ((db.productsOf storeId).map fun row => row.price * row.stock).sum

theorem findProduct_of_mem {db : Database} {storeId : Uuid} {row : Product} (present : row ∈ db.productsOf storeId) :
    db.findProduct row.id storeId = some row := by
  obtain ⟨inTable, inStore⟩ := List.mem_filter.mp present
  exact Option.filter_eq_some_iff.mpr ⟨Table.find_of_mem inTable, inStore⟩

theorem mem_productsOf {db : Database} {storeId p : Uuid} {row : Product} (found : db.findProduct p storeId = some row) :
    row ∈ db.productsOf storeId := by
  obtain ⟨present, inStore⟩ := Option.filter_eq_some_iff.mp found
  exact List.mem_filter.mpr ⟨Table.mem_of_find present, inStore⟩

theorem nodup_productsOf (db : Database) (storeId : Uuid) : ((db.productsOf storeId).map Product.id).Nodup :=
  db.products.nodup.sublist (List.filter_sublist.map Product.id)

/-- A sum that only one row contributes to. -/
theorem sum_map_ite_id {rows : List Product} (distinct : (rows.map Product.id).Nodup) {row : Product}
    (present : row ∈ rows) (amount : Product → Int) :
    (rows.map fun other => if row.id = other.id then amount other else 0).sum = amount row := by
  induction rows with
  | nil => cases present
  | cons head rest ih =>
    obtain ⟨isNew, restDistinct⟩ := List.nodup_cons.mp distinct
    rw [List.map_cons, List.sum_cons]
    rcases List.mem_cons.mp present with rfl | inRest
    · have nothing : (rest.map fun other => if row.id = other.id then amount other else 0).sum = 0 := by
        refine List.sum_eq_zero fun value isValue => ?_
        obtain ⟨other, inRest, rfl⟩ := List.mem_map.mp isValue
        exact if_neg fun same : row.id = other.id => isNew (same ▸ List.mem_map_of_mem inRest)
      rw [if_pos rfl, nothing, Int.add_zero]
    · have differs : row.id ≠ head.id := fun same => isNew (same ▸ List.mem_map_of_mem inRest)
      rw [if_neg differs, ih restDistinct inRest, Int.zero_add]

/-- The cost of the lines, product by product. -/
theorem costOf_eq_sum {db : Database} {storeId : Uuid} {lines : List CreateOrderItemDto}
    (inStore : ∀ line ∈ lines, (db.findProduct line.productId.id storeId).isSome = true) :
    db.costOf lines = ((db.productsOf storeId).map fun row => row.price * orderedQuantity row.id lines).sum := by
  induction lines with
  | nil => simp
  | cons line rest ih =>
    obtain ⟨isThere, restInStore⟩ := List.forall_mem_cons.mp inStore
    obtain ⟨row, found⟩ := Option.isSome_iff_exists.mp isThere
    obtain ⟨present, isId, -⟩ := Database.findProduct_eq_some found
    have ofLine := sum_map_ite_id (nodup_productsOf db storeId) (mem_productsOf found)
      fun other => other.price * (line.quantity : Int)
    have spread : ∀ other : Product, other.price * orderedQuantity other.id (line :: rest) =
        (if row.id = other.id then other.price * (line.quantity : Int) else 0) +
          other.price * orderedQuantity other.id rest := by
      intro other
      rw [orderedQuantity_cons, Int.mul_add, isId]
      split <;> simp
    simp only [spread, List.sum_map_add]
    rw [ofLine, ← ih restInStore, Database.costOf_cons, priceOf_of_find present]

/-- What passes the checks costs no more than all there is. -/
theorem costOf_le_shelfValue {db : Database} (rows : ShelfRows db) {storeId : Uuid} {lines : List CreateOrderItemDto}
    (stocks : db.Stocks storeId lines) : db.costOf lines ≤ db.shelfValue storeId := by
  rw [costOf_eq_sum fun line isLine => (stocks line isLine).1, Database.shelfValue]
  refine List.sum_le_sum fun row present => ?_
  have found := (Database.findProduct_eq_some (findProduct_of_mem present)).1
  obtain ⟨stock, price, -⟩ := rows.product found
  refine Int.mul_le_mul_of_nonneg_left ?_ price
  by_cases named : ∃ line ∈ lines, line.productId.id = row.id
  · obtain ⟨line, isLine, isRow⟩ := named
    have bounded := (stocks line isLine).2
    rwa [isRow, stockOf_of_find found] at bounded
  · rw [orderedQuantity_eq_zero fun line isLine isRow => named ⟨line, isLine, isRow⟩]
    exact stock

/-- A line for all that is in stock of a product. -/
def Product.wholeStock (row : Product) : Option CreateOrderItemDto :=
  if atLeastOne : 1 ≤ row.stock.toNat then some ⟨.ofUuid row.id, row.stock.toNat, atLeastOne⟩ else none

theorem orderedQuantity_wholeStock {rows : List Product} (nonneg : ∀ row ∈ rows, 0 ≤ row.stock) (p : Uuid) :
    orderedQuantity p (rows.filterMap Product.wholeStock) =
      (rows.map fun row => if p = row.id then row.stock else 0).sum := by
  induction rows with
  | nil => rfl
  | cons row rest ih =>
    obtain ⟨stock, restNonneg⟩ := List.forall_mem_cons.mp nonneg
    rw [List.map_cons, List.sum_cons, ← ih restNonneg, List.filterMap_cons]
    by_cases atLeastOne : 1 ≤ row.stock.toNat
    · have isLine : row.wholeStock = some ⟨.ofUuid row.id, row.stock.toNat, atLeastOne⟩ := dif_pos atLeastOne
      have quantity : ((row.stock.toNat : Nat) : Int) = row.stock := Int.toNat_of_nonneg stock
      simp only [isLine, orderedQuantity_cons, UuidText.ofUuid, quantity, eq_comm]
    · have isEmpty : row.wholeStock = none := dif_neg atLeastOne
      have nothing : row.stock = 0 := by omega
      simp only [isEmpty, nothing, ite_self, Int.zero_add]

theorem mem_wholeStock {rows : List Product} {line : CreateOrderItemDto}
    (isLine : line ∈ rows.filterMap Product.wholeStock) : ∃ row ∈ rows, line.productId.id = row.id := by
  obtain ⟨row, present, isStock⟩ := List.mem_filterMap.mp isLine
  unfold Product.wholeStock at isStock
  split at isStock
  next => cases isStock; exact ⟨row, present, rfl⟩
  next => cases isStock

section BuyAll

variable {db : Database} (rows : ShelfRows db) (storeId : Uuid)

include rows

theorem orderedQuantity_buyAll {row : Product} (present : row ∈ db.productsOf storeId) :
    orderedQuantity row.id ((db.productsOf storeId).filterMap Product.wholeStock) = row.stock := by
  have nonneg : ∀ row ∈ db.productsOf storeId, 0 ≤ row.stock := fun row isRow =>
    (rows.product (Database.findProduct_eq_some (findProduct_of_mem isRow)).1).1
  rw [orderedQuantity_wholeStock nonneg]
  exact sum_map_ite_id (nodup_productsOf db storeId) present Product.stock

/-- A store that sells all it has passes every check. -/
theorem stocks_buyAll : db.Stocks storeId ((db.productsOf storeId).filterMap Product.wholeStock) := by
  intro line isLine
  obtain ⟨row, present, isRow⟩ := mem_wholeStock isLine
  have found := findProduct_of_mem present
  rw [isRow, orderedQuantity_buyAll rows storeId present, stockOf_of_find (Database.findProduct_eq_some found).1]
  exact ⟨Option.isSome_of_mem found, le_refl _⟩

theorem costOf_buyAll : db.costOf ((db.productsOf storeId).filterMap Product.wholeStock) = db.shelfValue storeId := by
  rw [costOf_eq_sum fun line isLine => (stocks_buyAll rows storeId line isLine).1, Database.shelfValue]
  refine congrArg List.sum (List.map_congr_left fun row present => ?_)
  rw [orderedQuantity_buyAll rows storeId present]

end BuyAll

/-! ## Cancelling an order -/

/-- Bringing the items back leaves every product of the store within its column. -/
def RestockFits (db : Database) (storeId : Uuid) (items : List OrderItem) : Prop :=
  ∀ p row, db.findProduct p storeId = some row → row.stock + quantityOf p items ≤ 2147483647

theorem fitsInteger_iff {value : Int} (nonneg : 0 ≤ value) : fitsInteger value = true ↔ value ≤ 2147483647 := by
  rw [fitsInteger, decide_eq_true_eq]
  omega

/-- One increment of the loop over the items. -/
theorem executeOn_increment (env : Environment) {db : Database} (rows : ShelfRows db) (storeId p : Uuid) (quantity : Nat) :
    (db.findProduct p storeId = none ∧
      shop.executeOn (.product (.increment p storeId quantity env.now)) db = (.ok (0 : Nat), db)) ∨
    ∃ row, db.findProduct p storeId = some row ∧
      ((row.stock + quantity ≤ 2147483647 ∧
          shop.executeOn (.product (.increment p storeId quantity env.now)) db =
            (.ok (1 : Nat), db.write (.product (.put { row with stock := row.stock + quantity, updatedAt := env.now })))) ∨
        (2147483647 < row.stock + quantity ∧
          shop.executeOn (.product (.increment p storeId quantity env.now)) db =
            (.error .numericValueOutOfRange, db))) := by
  cases found : db.findProduct p storeId with
  | none =>
    refine .inl ⟨rfl, ?_⟩
    simp only [Engine.executeOn, shop, Statement.execute, ProductStatement.execute, found]
    rfl
  | some row =>
    have stock := (rows.product (Database.findProduct_eq_some found).1).1
    have isFit := fitsInteger_iff (Int.add_nonneg stock (Int.natCast_nonneg quantity))
    refine .inr ⟨row, rfl, ?_⟩
    cases fits : fitsInteger (row.stock + quantity) with
    | true =>
      refine .inl ⟨isFit.mp fits, ?_⟩
      simp only [Engine.executeOn, shop, Statement.execute, ProductStatement.execute, found, fits, if_true]
      rfl
    | false =>
      have tooMuch : ¬ row.stock + quantity ≤ 2147483647 := fun bounded => by
        cases fits.symm.trans (isFit.mpr bounded)
      refine .inr ⟨by omega, ?_⟩
      simp only [Engine.executeOn, shop, Statement.execute, ProductStatement.execute, found, fits, Bool.false_eq_true,
        if_false]

/-- The other items still fit exactly if all did, once the first one is back. -/
theorem restockFits_cons_iff {db : Database} {storeId p : Uuid} {row : Product} {item : OrderItem} {rest : List OrderItem}
    {now : Timestamp} (found : db.findProduct p storeId = some row) (isProduct : item.productId = some p) :
    RestockFits (db.write (.product (.put { row with stock := row.stock + item.quantity, updatedAt := now }))) storeId rest ↔
      RestockFits db storeId (item :: rest) := by
  obtain ⟨present, isId, inStore⟩ := Database.findProduct_eq_some found
  let next : Product := { row with stock := row.stock + item.quantity, updatedAt := now }
  have after (other : Uuid) : (db.write (.product (.put next))).findProduct other storeId =
      if other = p then some next else db.findProduct other storeId := by
    have put := Table.find_put db.products next other
    rw [show next.id = p from isId] at put
    rw [Database.findProduct, show (db.write (.product (.put next))).products.find other = _ from put]
    split
    next => exact Option.filter_eq_some_iff.mpr ⟨rfl, decide_eq_true inStore⟩
    next => rfl
  unfold RestockFits
  refine forall_congr' fun other => ?_
  rw [after, quantityOf_cons, isProduct]
  by_cases same : other = p
  · subst same
    rw [if_pos rfl, if_pos rfl, found]
    constructor
    · rintro fits stored isStored
      cases isStored
      have bounded := fits next rfl
      dsimp only [next] at bounded
      omega
    · rintro fits stored isStored
      cases isStored
      have bounded := fits row rfl
      dsimp only [next]
      omega
  · have elsewhere : ¬ some p = some other := fun equal => same (Option.some.inj equal).symm
    rw [if_neg same, if_neg elsewhere, Int.zero_add]

theorem shelfRows_executeOn {db : Database} (rows : ShelfRows db) {op : Statement} (shelves : op.Shelves) :
    ShelfRows (shop.executeOn op db).2 := by
  unfold Engine.executeOn
  cases executed : shop.execute op db with
  | error error => exact rows
  | ok result => exact rows.applyAll (execute_shelves rows shelves executed)

/-- The loop over the items goes through exactly if they fit. -/
theorem runWith_restock (env : Environment) (storeId : Uuid) (items : List OrderItem) {db : Database} (rows : ShelfRows db) :
    (RestockFits db storeId items ∧ ∃ products,
      (OrdersService.restock env storeId items).runWith shop.executeOn db =
        (.ok (), { db with products := products })) ∨
    (¬ RestockFits db storeId items ∧ ∃ after,
      (OrdersService.restock env storeId items).runWith shop.executeOn db = (.error .numericValueOutOfRange, after)) := by
  -- over the items: an increment fits or not at the stock that the items before it have left
  induction items generalizing db with
  | nil =>
    refine .inl ⟨fun p row found => ?_, db.products, rfl⟩
    obtain ⟨stock, -, fits⟩ := rows.product (Database.findProduct_eq_some found).1
    have inRange := (fitsInteger_iff stock).mp (Bool.and_eq_true_iff.mp fits).1
    rwa [quantityOf_nil, Int.add_zero]
  | cons item rest ih =>
    cases isProduct : item.productId with
    | none =>
      -- an item whose product has been deleted is passed over
      have skips : OrdersService.restock env storeId (item :: rest) = OrdersService.restock env storeId rest := by
        rw [OrdersService.restock, isProduct]
      have same : RestockFits db storeId (item :: rest) ↔ RestockFits db storeId rest := by
        simp [RestockFits, quantityOf_cons, isProduct]
      rw [skips, same]
      exact ih rows
    | some p =>
      have unfolded : OrdersService.restock env storeId (item :: rest) =
          (Program.perform (S := statements) (Statement.product (.increment p storeId item.quantity env.now)) >>=
            fun _ => OrdersService.restock env storeId rest) := by
        rw [OrdersService.restock, isProduct]
        rfl
      rw [unfolded]
      have shelved : ShelfRows (shop.executeOn (.product (.increment p storeId item.quantity env.now)) db).2 :=
        shelfRows_executeOn rows trivial
      rcases executeOn_increment env rows storeId p item.quantity with
        ⟨absent, ran⟩ | ⟨row, found, ⟨bounded, ran⟩ | ⟨tooMuch, ran⟩⟩
      · have same : RestockFits db storeId (item :: rest) ↔ RestockFits db storeId rest := by
          refine forall_congr' fun other => forall_congr' fun row => imp_congr_right fun isRow => ?_
          have differs : ¬ some p = some other := fun equal => by
            rw [← Option.some.inj equal, absent] at isRow
            cases isRow
          rw [quantityOf_cons, isProduct, if_neg differs, Int.zero_add]
        rw [Program.runWith_perform_ok shop.executeOn ran, same]
        exact ih rows
      · rw [ran] at shelved
        rw [Program.runWith_perform_ok shop.executeOn ran, ← restockFits_cons_iff found isProduct]
        exact ih shelved
      · refine .inr ⟨fun fits => ?_, db, ?_⟩
        · have all := fits p row found
          -- quantities are not negative, so what this item exceeds the whole exceeds
          have restNonneg := quantityOf_nonneg p rest
          rw [quantityOf_cons, isProduct, if_pos rfl] at all
          omega
        · rw [Program.runWith_perform_bind, ran]
          rfl

/-- An order that is not cancelled can be, exactly if its items fit on top of the stock. -/
theorem runWith_cancel (env : Environment) {db : Database} (rows : ShelfRows db) {storeId id : Uuid} {order : Order}
    (found : db.findOrder id storeId = some order) (isOpen : order.status ≠ .cancelled) :
    (RestockFits db storeId (db.itemsOf id) ∧ ∃ entity after,
      (OrdersService.updateStatus env storeId (some id) ⟨.cancelled⟩).runWith shop.executeOn db = (.ok entity, after)) ∨
    (¬ RestockFits db storeId (db.itemsOf id) ∧ ∃ after,
      (OrdersService.updateStatus env storeId (some id) ⟨.cancelled⟩).runWith shop.executeOn db =
        (.error .numericValueOutOfRange, after)) := by
  obtain ⟨stored, rfl, -⟩ := Database.findOrder_eq_some found
  have lookedUp : (OrdersService.findOne storeId (some order.id)).runWith shop.executeOn db =
      (.ok ⟨order, db.itemsOf order.id⟩, db) := by
    have replied : shop.executeOn (.order (.findOne (some order.id) storeId)) db = (.ok (some (db.loadItems order)), db) := by
      change (Except.ok ((db.findOrder order.id storeId).map db.loadItems), db) = _
      rw [found]
      rfl
    exact (Program.runWith_perform_ok _ replied).trans rfl
  have start : (OrdersService.updateStatus env storeId (some order.id) ⟨.cancelled⟩).runWith shop.executeOn db = _ :=
    Program.runWith_bind_ok shop.executeOn lookedUp
  have cancels : OrdersService.isNewlyCancelled ⟨.cancelled⟩ order = true := decide_eq_true ⟨rfl, isOpen⟩
  rw [start, if_pos cancels]
  rcases runWith_restock env storeId (db.itemsOf order.id) rows with ⟨fits, products, ran⟩ | ⟨unfit, after, ran⟩
  · have still : ({ db with products := products } : Database).orders.find order.id = some order := stored
    obtain ⟨entity, updated, saves, -⟩ := runWith_save env .cancelled still
    exact .inl ⟨fits, entity, _, (Program.runWith_bind_ok shop.executeOn ran).trans saves⟩
  · refine .inr ⟨unfit, after, ?_⟩
    rw [Program.runWith_bind, ran]
    rfl

/-! ## The claim on both -/

/-- An order that passes the checks of `create` can be stored, and an order that is not cancelled
    can be cancelled. -/
structure ArithmeticFits (db : Database) : Prop where
  total : ∀ storeId (dto : CreateOrderDto), db.Stocks storeId dto.items → fitsNumeric (db.costOf dto.items) = true
  places : ∀ env storeId (dto : CreateOrderDto), db.storeExists storeId = true → FreshFor env db dto.items.length →
    db.Stocks storeId dto.items → ∃ entity after, serve storeId (OrdersService.create env storeId dto) db = (.ok entity, after)
  cancels : ∀ env storeId id order, db.findOrder id storeId = some order → order.status ≠ .cancelled →
    ∃ entity after, serve storeId (OrdersService.updateStatus env storeId (some id) ⟨.cancelled⟩) db = (.ok entity, after)

/-- No store has more in stock than an order can cost, and no order that is not cancelled more in it
    than fits on top of the stock. -/
structure WithinColumns (db : Database) : Prop where
  shelf : ∀ storeId, db.shelfValue storeId ≤ 9999999999
  restock : ∀ storeId id order, db.findOrder id storeId = some order → order.status ≠ .cancelled →
    RestockFits db storeId (db.itemsOf id)

theorem costOf_nonneg {db : Database} (rows : ShelfRows db) (lines : List CreateOrderItemDto) : 0 ≤ db.costOf lines := by
  refine List.sum_nonneg fun value isValue => ?_
  obtain ⟨line, -, rfl⟩ := List.mem_map.mp isValue
  refine Int.mul_nonneg ?_ (Int.natCast_nonneg _)
  rw [Database.priceOf]
  cases found : db.products.find line.productId.id with
  | none => exact le_refl 0
  | some row => exact (rows.product found).2.1

theorem arithmeticFits_iff {db : Database} (rows : ShelfRows db) : ArithmeticFits db ↔ WithinColumns db := by
  constructor
  · intro fits
    refine ⟨fun storeId => ?_, fun storeId id order found isOpen => ?_⟩
    · rw [← costOf_buyAll rows storeId]
      by_cases nothing : (db.productsOf storeId).filterMap Product.wholeStock = []
      · rw [nothing, Database.costOf_nil]
        decide
      · have all := fits.total storeId ⟨_, nothing⟩ (stocks_buyAll rows storeId)
        exact (of_decide_eq_true all).2
    · obtain ⟨entity, after, served⟩ := fits.cancels ⟨0, fun _ => 0, fun _ => 0⟩ storeId id order found isOpen
      rw [serve_eq_transact] at served
      rcases runWith_cancel _ rows found isOpen with ⟨restock, -⟩ | ⟨-, failed, ran⟩
      · exact restock
      · cases (Engine.transact_eq_ok served).symm.trans ran
  · intro within
    have total : ∀ storeId (dto : CreateOrderDto), db.Stocks storeId dto.items → fitsNumeric (db.costOf dto.items) = true := by
      intro storeId dto stocks
      have atLeast := costOf_nonneg rows dto.items
      have atMost := (costOf_le_shelfValue rows stocks).trans (within.shelf storeId)
      exact decide_eq_true ⟨le_trans (by decide) atLeast, atMost⟩
    refine ⟨total, fun env storeId dto isStore fresh stocks => ?_, fun env storeId id order found isOpen => ?_⟩
    · rcases createsExactly isStore rows.columnsFit fresh (total storeId dto stocks) with
        ⟨-, entity, after, served, -⟩ | ⟨short, -⟩
      · exact ⟨entity, after, served⟩
      · exact absurd stocks short
    · rcases runWith_cancel env rows found isOpen with ⟨-, entity, after, ran⟩ | ⟨unfit, -⟩
      · exact ⟨entity, after, serve_of_ok storeId ran⟩
      · exact absurd (within.restock storeId id order found isOpen) unfit

/-- In every run of requests, the arithmetic fits in every state exactly if every state is within the columns. -/
theorem eachState_arithmeticFits_iff {ι : Type} [Fintype ι] [DecidableEq ι] {start : Database}
    {requests : ι → ShopRequest} (rows : ShelfRows start)
    {run : List (Act ι ApiError × System ι Database RowKey DbWrite statements ApiError CallResult)}
    (isRun : Transition.Run shop.Steps (ShopRequest.system start requests) run) :
    Transition.EachState (fun state => ArithmeticFits state.db) (ShopRequest.system start requests) run ↔
      Transition.EachState (fun state => WithinColumns state.db) (ShopRequest.system start requests) run :=
  (shelfRows_of_run rows isRun).congr fun _ shelved => arithmeticFits_iff shelved

/-! ## A dear product -/

namespace SmallShop

/-- Creating a product at the highest price that its column holds. -/
def dearProduct (stock : Nat) : ShopRequest :=
  ⟨environment, 1, .createProduct ⟨"Pearl", .undefined, 9999999999, .value stock, .undefined⟩⟩

theorem shelfRows : ShelfRows db := by
  rintro (_ | _ | _ | _ | p | _ | _ | _ | _ | _) row found
  case product =>
    obtain rfl : row = product := List.mem_singleton.mp (Table.mem_of_find found)
    exact ⟨by decide, by decide, by decide⟩
  all_goals trivial

/-- Nobody else is there while the product is created. -/
def createAlone : List (Act Unit ApiError) := [.run (), .run (), .run (), .run ()]

def twoPearls : CreateOrderDto := orderOf (twoOf 100)

end SmallShop

theorem eachState_arithmeticFits_smallShop :
    let run := (shop.trace (ShopRequest.system SmallShop.db fun _ => SmallShop.dearProduct 0) SmallShop.createAlone).get
      (by decide +kernel)
    Transition.EachState (fun state => ArithmeticFits state.db)
        (ShopRequest.system SmallShop.db fun _ => SmallShop.dearProduct 0) run ↔
      Transition.EachState (fun state => WithinColumns state.db)
        (ShopRequest.system SmallShop.db fun _ => SmallShop.dearProduct 0) run :=
  eachState_arithmeticFits_iff SmallShop.shelfRows (shop.run_get_trace _)

/-- Two of the dearest products are in stock, and nobody can buy both. -/
theorem not_arithmeticFits : ¬ ∀ (requests : Unit → ShopRequest)
    (run : List (Act Unit ApiError × System Unit Database RowKey DbWrite statements ApiError CallResult)),
    Transition.Run shop.Steps (ShopRequest.system SmallShop.db requests) run →
    ArithmeticFits (Transition.final (ShopRequest.system SmallShop.db requests) run).db := by
  intro fits
  have total := (fits (fun _ => SmallShop.dearProduct 2)
    ((shop.trace (ShopRequest.system SmallShop.db fun _ => SmallShop.dearProduct 2) SmallShop.createAlone).get
      (by decide +kernel)) (shop.run_get_trace _)).total 1 SmallShop.twoPearls (by decide +kernel)
  revert total
  decide +kernel

end StoreSaas
