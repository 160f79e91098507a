import StoreSaas.Services.Calls

/-! # What the order methods do to the stock when they run alone

`StockMove before after change` says that nothing but the stock of products changed
(and their `updated_at`), each by `change`.  Both loops of `OrdersService` are such
moves: `takeLines` moves the ordered quantities out, `restock` moves them back.
-/

namespace StoreSaas

/-! ## Quantities -/

/-- The stock of a product, 0 for one that does not exist. -/
def Database.stockOf (db : Database) (p : Uuid) : Int := ((db.products.find p).map Product.stock).getD 0

/-- How many of a product the items of an order stand for. -/
def quantityOf (p : Uuid) (items : List OrderItem) : Int :=
  (items.map fun item => if item.productId = some p then (item.quantity : Int) else 0).sum

/-- How many of a product the lines of a new order ask for. -/
def orderedQuantity (p : Uuid) (lines : List CreateOrderItemDto) : Int :=
  (lines.map fun line => if line.productId.id = p then (line.quantity : Int) else 0).sum

@[simp] theorem quantityOf_nil (p : Uuid) : quantityOf p [] = 0 := rfl
@[simp] theorem quantityOf_cons (p : Uuid) (item : OrderItem) (rest : List OrderItem) :
    quantityOf p (item :: rest) =
      (if item.productId = some p then (item.quantity : Int) else 0) + quantityOf p rest := rfl
@[simp] theorem orderedQuantity_nil (p : Uuid) : orderedQuantity p [] = 0 := rfl
@[simp] theorem orderedQuantity_cons (p : Uuid) (line : CreateOrderItemDto) (rest : List CreateOrderItemDto) :
    orderedQuantity p (line :: rest) =
      (if line.productId.id = p then (line.quantity : Int) else 0) + orderedQuantity p rest := rfl

theorem quantityOf_nonneg (p : Uuid) (items : List OrderItem) : 0 ≤ quantityOf p items := by
  induction items with
  | nil => exact le_refl 0
  | cons item rest ih =>
    rw [quantityOf_cons]
    split <;> omega

theorem quantityOf_pos {p : Uuid} {items : List OrderItem} {item : OrderItem} (present : item ∈ items)
    (isP : item.productId = some p) (positive : 1 ≤ item.quantity) : 0 < quantityOf p items := by
  induction items with
  | nil => cases present
  | cons head rest ih =>
    have headNonneg : 0 ≤ if head.productId = some p then (head.quantity : Int) else 0 := by split <;> omega
    rw [quantityOf_cons]
    rcases List.mem_cons.mp present with rfl | inRest
    · have restNonneg := quantityOf_nonneg p rest
      rw [if_pos isP]
      omega
    · have restPositive := ih inRest
      omega

theorem quantityOf_eq_zero {p : Uuid} {items : List OrderItem} (none : ∀ item ∈ items, item.productId ≠ some p) :
    quantityOf p items = 0 := by
  induction items with
  | nil => rfl
  | cons item rest ih =>
    rw [quantityOf_cons, if_neg (none item List.mem_cons_self), Int.zero_add]
    exact ih fun other present => none other (List.mem_cons_of_mem _ present)

/-! ## Moves -/

/-- What a stock move keeps of a product. -/
def Product.place (row : Product) : Uuid × Option Uuid := (row.storeId, row.categoryId)

structure StockMove (before after : Database) (change : Uuid → Int) : Prop where
  others : after = { before with products := after.products }
  places : ∀ p, (after.products.find p).map Product.place = (before.products.find p).map Product.place
  stock : ∀ p, after.stockOf p = before.stockOf p + change p

namespace StockMove

variable {before middle after : Database} {first second change : Uuid → Int}

theorem refl (db : Database) : StockMove db db fun _ => 0 :=
  ⟨rfl, fun _ => rfl, fun p => (Int.add_zero (db.stockOf p)).symm⟩

theorem trans (left : StockMove before middle first) (right : StockMove middle after second) :
    StockMove before after fun p => first p + second p where
  others := right.others.trans
    (congrArg (fun db : Database => { db with products := after.products }) left.others)
  places p := (right.places p).trans (left.places p)
  stock p := by rw [right.stock, left.stock, Int.add_assoc]

theorem congr (move : StockMove before after first) (same : ∀ p, first p = second p) :
    StockMove before after second :=
  ⟨move.others, move.places, fun p => by rw [move.stock, same]⟩

theorem orders (move : StockMove before after change) : after.orders = before.orders :=
  (congrArg Database.orders move.others).trans rfl

theorem orderItems (move : StockMove before after change) : after.orderItems = before.orderItems :=
  (congrArg Database.orderItems move.others).trans rfl

theorem categories (move : StockMove before after change) : after.categories = before.categories :=
  (congrArg Database.categories move.others).trans rfl

theorem itemsOf (move : StockMove before after change) (id : Uuid) : after.itemsOf id = before.itemsOf id := by
  rw [Database.itemsOf, move.orderItems, Database.itemsOf]

/-- Writing a new stock over the row of a product. -/
theorem put {db : Database} {old row : Product} (present : db.products.find row.id = some old)
    (place : row.place = old.place) :
    StockMove db (db.write (.product (.put row))) fun p => if p = row.id then row.stock - old.stock else 0 where
  others := rfl
  places p := by
    change ((db.products.put row).find p).map Product.place = _
    rw [Table.find_put]
    split
    next same => rw [same, present, Option.map_some, Option.map_some, place]
    next => rfl
  stock p := by
    change (((db.products.put row).find p).map Product.stock).getD 0 = _
    rw [Table.find_put, Database.stockOf]
    split
    next same => rw [same, present]; simp
    next => simp

end StockMove

/-! ## The statements of the two loops -/

/-- `save` of a product that was read from its row, with another stock. -/
theorem ensures_save_stock {env : Environment} {db : Database} {row : Product} {stock : Int}
    (present : db.products.find row.id = some row) :
    Program.Ensures shop.executeOn
      (ProductsService.save env { row.toEntity none with stock := some stock }) db
      fun _ after => StockMove db after fun p => if p = row.id then stock - row.stock else 0 := by
  unfold ProductsService.save
  refine Program.ensures_perform_bind fun found after ran => ?_
  obtain ⟨writes, executed, rfl⟩ := Engine.executeOn_eq_ok ran
  obtain rfl : writes = [] := by cases executed; rfl
  obtain rfl : found = some row := (congrArg Prod.fst (Except.ok.inj executed)).symm.trans present
  rw [Engine.applyAll_nil]
  dsimp only
  split
  next unchanged =>
    refine Program.ensures_done ((StockMove.refl db).congr fun p => ?_)
    have noChange : changed (some stock) (some row.stock) = none := congrArg ProductChanges.stock unchanged
    have sameStock : stock = row.stock := by
      have stored := changed_getD (some stock) (some row.stock)
      rw [noChange] at stored
      exact (Option.some.inj stored).symm
    split <;> omega
  next =>
    refine Program.ensures_perform_bind fun reply after ran => ?_
    obtain ⟨writes, executed, rfl⟩ := Engine.executeOn_eq_ok ran
    obtain ⟨absent, _⟩ | ⟨stored, next, storedAt, applied, _, rfl⟩ :=
      ProductStatement.execute_update executed
    · rw [show db.products.find row.id = none from absent] at present
      cases present
    · rw [show db.products.find row.id = some stored from storedAt] at present
      cases present
      obtain ⟨sameId, sameStore, sameCategory, newStock⟩ := ProductChanges.applyTo?_eq_some applied
      refine Program.ensures_done (StockMove.congr
        (StockMove.put (by rw [sameId]; exact storedAt : db.products.find next.id = some row) ?_) fun p => ?_)
      · refine Prod.ext sameStore (sameCategory.trans ?_)
        exact changed_getD row.categoryId row.categoryId
      · have isNew : next.stock = stock :=
          Option.some.inj (newStock.trans (changed_getD (some stock) (some row.stock)))
        rw [sameId, isNew]

/-- One round of the loop over the lines of a new order. -/
theorem ensures_takeLine (env : Environment) (storeId : Uuid) (line : CreateOrderItemDto) (db : Database) :
    Program.Ensures shop.executeOn (OrdersService.takeLine env storeId line) db fun item after =>
      StockMove db after (fun p => -(if line.productId.id = p then (line.quantity : Int) else 0)) ∧
      item.productId = line.productId.id ∧ item.quantity = line.quantity ∧
      ∃ row, db.products.find line.productId.id = some row ∧ row.storeId = storeId := by
  unfold OrdersService.takeLine
  refine Program.ensures_perform_bind fun locked after ran => ?_
  obtain ⟨writes, executed, rfl⟩ := Engine.executeOn_eq_ok ran
  obtain rfl : writes = [] := by cases executed; rfl
  rw [Engine.applyAll_nil]
  have found : db.findProduct line.productId.id storeId = locked := congrArg Prod.fst (Except.ok.inj executed)
  rcases (locked : Option Product) with _ | row
  · exact Program.ensures_throw
  · obtain ⟨present, sameId, inStore⟩ := Database.findProduct_eq_some found
    dsimp only
    split
    next => exact Program.ensures_throw
    next =>
      refine (ensures_save_stock (by rw [sameId]; exact present)).bind fun _ after moved =>
        Program.ensures_done ⟨moved.congr fun p => ?_, sameId, rfl, row, present, inStore⟩
      rw [sameId]
      by_cases same : p = line.productId.id
      · rw [if_pos same, if_pos same.symm]
        omega
      · rw [if_neg same, if_neg (Ne.symm same)]
        rfl

/-- The loop over the lines: what is taken out is what was ordered. -/
theorem ensures_takeLines (env : Environment) (storeId : Uuid) (lines : List CreateOrderItemDto) (total : Cents)
    (items : List OrdersService.NewItem) (db : Database) :
    Program.Ensures shop.executeOn (OrdersService.takeLines env storeId lines total items) db fun taken after =>
      StockMove db after (fun p => -orderedQuantity p lines) ∧
      ∃ added, taken.2 = items ++ added ∧
        List.Forall₂ (fun (item : OrdersService.NewItem) line => item.productId = line.productId.id ∧
          item.quantity = line.quantity ∧
          ∃ row, db.products.find line.productId.id = some row ∧ row.storeId = storeId) added lines := by
  induction lines generalizing total items db with
  | nil =>
    exact Program.ensures_done
      ⟨(StockMove.refl db).congr fun p => by simp, [], (List.append_nil items).symm, .nil⟩
  | cons line rest ih =>
    unfold OrdersService.takeLines
    refine (ensures_takeLine env storeId line db).bind fun item middle first => ?_
    obtain ⟨moved, sameId, sameQuantity, row, present, inStore⟩ := first
    refine (ih _ _ middle).imp fun taken after second => ?_
    obtain ⟨movedRest, added, isAdded, linked⟩ := second
    refine ⟨(moved.trans movedRest).congr fun p => ?_, item :: added, by simp [isAdded], ?_⟩
    · rw [orderedQuantity_cons]
      omega
    · refine .cons ⟨sameId, sameQuantity, row, present, inStore⟩ (linked.imp fun newItem other facts => ?_)
      obtain ⟨otherId, otherQuantity, found, foundAt, foundStore⟩ := facts
      have place := moved.places other.productId.id
      rw [foundAt, Option.map_some] at place
      obtain ⟨old, oldAt, samePlace⟩ := Option.map_eq_some_iff.mp place.symm
      exact ⟨otherId, otherQuantity, old, oldAt, (congrArg Prod.fst samePlace).trans foundStore⟩

/-- The loop over the items of a cancelled order, all of whose products are in the store. -/
theorem ensures_restock (env : Environment) (storeId : Uuid) (items : List OrderItem) (db : Database)
    (inStore : ∀ item ∈ items, ∀ p, item.productId = some p →
      ∃ row, db.products.find p = some row ∧ row.storeId = storeId) :
    Program.Ensures shop.executeOn (OrdersService.restock env storeId items) db fun _ after =>
      StockMove db after fun p => quantityOf p items := by
  induction items generalizing db with
  | nil => exact Program.ensures_done (StockMove.refl db)
  | cons item rest ih =>
    have restInStore : ∀ other ∈ rest, ∀ p, other.productId = some p →
        ∃ row, db.products.find p = some row ∧ row.storeId = storeId :=
      fun other present => inStore other (List.mem_cons_of_mem _ present)
    unfold OrdersService.restock
    cases isProduct : item.productId with
    | none =>
      -- an item whose product has been deleted is passed over
      refine (ih db restInStore).imp fun _ after moved => moved.congr fun p => ?_
      rw [quantityOf_cons, isProduct]
      simp
    | some id =>
      obtain ⟨row, present, rowStore⟩ := inStore item List.mem_cons_self id isProduct
      refine Program.ensures_perform_bind fun reply middle ran => ?_
      obtain ⟨writes, executed, rfl⟩ := Engine.executeOn_eq_ok ran
      obtain ⟨absent, -, -⟩ | ⟨old, found, -, rfl⟩ :=
        ProductStatement.execute_increment executed
      -- the product is in the store, so the `UPDATE` finds its row
      · have isFound : db.findProduct id storeId = some row :=
          Option.filter_eq_some_iff.mpr ⟨present, decide_eq_true rowStore⟩
        rw [isFound] at absent
        cases absent
      · obtain ⟨oldAt, oldId, -⟩ := Database.findProduct_eq_some found
        let new : Product := { old with stock := old.stock + item.quantity, updatedAt := env.now }
        have moved : StockMove db (db.write (.product (.put new)))
            fun p => if p = new.id then new.stock - old.stock else 0 :=
          StockMove.put (by rw [oldId]; exact oldAt : db.products.find old.id = some old) rfl
        refine (ih _ fun other inRest p isP => ?_).imp fun _ after movedRest =>
          (moved.trans movedRest).congr fun p => ?_
        -- the stock moves, no product leaves the store
        · obtain ⟨found, foundAt, foundStore⟩ := restInStore other inRest p isP
          have place := moved.places p
          rw [foundAt, Option.map_some] at place
          obtain ⟨new, newAt, samePlace⟩ := Option.map_eq_some_iff.mp place
          exact ⟨new, newAt, (congrArg Prod.fst samePlace).trans foundStore⟩
        · rw [quantityOf_cons, isProduct, oldId]
          by_cases same : p = id
          · rw [if_pos same, if_pos (by rw [same])]
            dsimp only [new]
            omega
          · rw [if_neg same, if_neg fun equal => same (Option.some.inj equal).symm]

end StoreSaas
