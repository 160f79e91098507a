import StoreSaas.Verified.OrderMethods

/-! # The loop over the lines of a new order

The loop checks and decrements line by line, and a product may stand in several lines.
`Database.Stocks` is the check on the sums; `runWith_takeLines` says that the loop goes
through exactly if it holds, and what it leaves.
-/

namespace StoreSaas

/-! ## Prices and sums -/

def Database.priceOf (db : Database) (p : Uuid) : Cents := ((db.products.find p).map Product.price).getD 0

/-- What the lines cost at the current prices. -/
def Database.costOf (db : Database) (lines : List CreateOrderItemDto) : Cents :=
  (lines.map fun line => db.priceOf line.productId.id * line.quantity).sum

@[simp] theorem Database.costOf_nil (db : Database) : db.costOf [] = 0 := rfl
@[simp] theorem Database.costOf_cons (db : Database) (line : CreateOrderItemDto) (rest : List CreateOrderItemDto) :
    db.costOf (line :: rest) = db.priceOf line.productId.id * line.quantity + db.costOf rest := rfl

/-- Every product of the lines is in the store, with enough stock for all of its lines together. -/
def Database.Stocks (db : Database) (storeId : Uuid) (lines : List CreateOrderItemDto) : Prop :=
  ∀ line ∈ lines, (db.findProduct line.productId.id storeId).isSome = true ∧
    orderedQuantity line.productId.id lines ≤ db.stockOf line.productId.id

instance (db : Database) (storeId : Uuid) (lines : List CreateOrderItemDto) : Decidable (db.Stocks storeId lines) :=
  inferInstanceAs (Decidable (∀ line ∈ lines, _))

/-- The products fit their columns. -/
def Database.ColumnsFit (db : Database) : Prop := ∀ p row, db.products.find p = some row → row.fitsColumns = true

theorem orderedQuantity_nonneg (p : Uuid) (lines : List CreateOrderItemDto) : 0 ≤ orderedQuantity p lines := by
  induction lines with
  | nil => exact le_refl 0
  | cons line rest ih =>
    rw [orderedQuantity_cons]
    split <;> omega

theorem orderedQuantity_eq_zero {p : Uuid} {lines : List CreateOrderItemDto}
    (unnamed : ∀ line ∈ lines, line.productId.id ≠ p) : orderedQuantity p lines = 0 := by
  induction lines with
  | nil => rfl
  | cons line rest ih =>
    rw [orderedQuantity_cons, if_neg (unnamed line List.mem_cons_self), Int.zero_add]
    exact ih fun other present => unnamed other (List.mem_cons_of_mem _ present)

theorem quantity_le_orderedQuantity {line : CreateOrderItemDto} {lines : List CreateOrderItemDto}
    (present : line ∈ lines) : (line.quantity : Int) ≤ orderedQuantity line.productId.id lines := by
  induction lines with
  | nil => cases present
  | cons head rest ih =>
    rw [orderedQuantity_cons]
    rcases List.mem_cons.mp present with rfl | inRest
    · have restNonneg := orderedQuantity_nonneg line.productId.id rest
      rw [if_pos rfl]
      omega
    · have fromRest := ih inRest
      split <;> omega

/-! ## What one line takes -/

/-- The row of a product of which a line has taken its quantity. -/
def Product.take (row : Product) (quantity : Nat) (now : Timestamp) : Product :=
  { row with stock := row.stock - quantity, updatedAt := now }

/-- The columns that orders leave alone. -/
def Product.label (row : Product) : Product := { row with stock := 0, updatedAt := 0 }

theorem label_take (row : Product) (quantity : Nat) (now : Timestamp) : (row.take quantity now).label = row.label := rfl

theorem stockOf_of_find {db : Database} {p : Uuid} {row : Product} (present : db.products.find p = some row) :
    db.stockOf p = row.stock := by
  rw [Database.stockOf, present, Option.map_some, Option.getD_some]

theorem priceOf_of_find {db : Database} {p : Uuid} {row : Product} (present : db.products.find p = some row) :
    db.priceOf p = row.price := by
  rw [Database.priceOf, present, Option.map_some, Option.getD_some]

/-- `save` of a product with less stock than its row, which fits the column. -/
theorem runWith_save_take (env : Environment) {db : Database} {row : Product} {quantity : Nat}
    (present : db.products.find row.id = some row) (atLeastOne : 1 ≤ quantity) (enough : ¬ row.stock < quantity)
    (fits : row.fitsColumns = true) :
    ∃ entity, (ProductsService.save env
        { row.toEntity none with stock := some (row.stock - quantity) }).runWith shop.executeOn db =
      (.ok entity, db.write (.product (.put (row.take quantity env.now)))) := by
  let entity : ProductEntity := { row.toEntity none with stock := some (row.stock - quantity) }
  have reselected : shop.executeOn (.product (.reselect entity)) db = (.ok (some row), db) := by
    change (Except.ok (db.products.find row.id), db) = _
    rw [present]
    rfl
  have differs : entity.changes row ≠ .unchanged := fun unchanged => by
    have noChange : changed (some (row.stock - quantity)) (some row.stock) = none :=
      congrArg ProductChanges.stock unchanged
    have same := (changed_getD (some (row.stock - (quantity : Int))) (some row.stock)).symm
    rw [noChange, Option.getD_none, Option.some.injEq] at same
    omega
  have applied : (entity.changes row).applyTo? row env.now = some (row.take quantity env.now) := by
    simp only [ProductEntity.changes, ProductChanges.applyTo?, changed_getD]
    rfl
  have fitsAfter : (row.take quantity env.now).fitsColumns = true := by
    simp only [Product.fitsColumns, Product.take, fitsInteger, Bool.and_eq_true, decide_eq_true_eq] at fits ⊢
    refine ⟨decide_eq_true ⟨?_, ?_⟩, fits.2⟩ <;> omega
  have sameCategory : (entity.changes row).categoryId = none := if_pos rfl
  have updated : shop.executeOn (.product (.update row.id (entity.changes row) env.now)) db =
      (.ok (), db.write (.product (.put (row.take quantity env.now)))) := by
    have executed : ProductStatement.execute (.update row.id (entity.changes row) env.now) db =
        .ok ((), [.product (.put (row.take quantity env.now))]) := by
      simp only [ProductStatement.execute, present, applied, fitsAfter, sameCategory, Database.categoryExists,
        Option.join_none, Bool.true_eq_false, if_false]
    simp only [Engine.executeOn, shop, Statement.execute, executed]
    rfl
  refine ⟨{ entity with updatedAt := env.now }, (Program.runWith_perform_ok _ reselected).trans ?_⟩
  dsimp only
  rw [if_neg differs]
  exact Program.runWith_perform_ok _ updated

/-- The item that one line becomes. -/
def NewItemOf (db : Database) (storeId : Uuid) (item : OrdersService.NewItem) (line : CreateOrderItemDto) : Prop :=
  ∃ row, db.findProduct line.productId.id storeId = some row ∧
    item = ⟨line.productId.id, row.name, line.quantity, row.price⟩

/-- What turns a line away. -/
def ApiError.isRejection : ApiError → Bool
  | .notFound _ | .badRequest _ => true
  | .conflict _ | .unauthorized _ | .forbidden _ | .queryFailed _ => false

/-- One round of the loop: the product is there and has enough, or the line is turned away. -/
theorem runWith_takeLine (env : Environment) (storeId : Uuid) (line : CreateOrderItemDto) {db : Database}
    (fit : db.ColumnsFit) :
    (∃ row, db.findProduct line.productId.id storeId = some row ∧ ¬ row.stock < line.quantity ∧
      (OrdersService.takeLine env storeId line).runWith shop.executeOn db =
        (.ok ⟨line.productId.id, row.name, line.quantity, row.price⟩,
          db.write (.product (.put (row.take line.quantity env.now))))) ∨
    ((∀ row, db.findProduct line.productId.id storeId = some row → row.stock < line.quantity) ∧
      ∃ error after, (OrdersService.takeLine env storeId line).runWith shop.executeOn db = (.error error, after) ∧
        error.isRejection = true) := by
  have selected : shop.executeOn (.product (.selectForUpdate line.productId.id storeId)) db =
      (.ok (db.findProduct line.productId.id storeId), db) := rfl
  have start : (OrdersService.takeLine env storeId line).runWith shop.executeOn db = _ :=
    Program.runWith_perform_ok shop.executeOn selected
  rw [start]
  cases found : db.findProduct line.productId.id storeId with
  | none => exact .inr ⟨fun _ isRow => (nomatch isRow), _, _, rfl, rfl⟩
  | some row =>
    obtain ⟨present, sameId, -⟩ := Database.findProduct_eq_some found
    rw [← sameId] at present
    dsimp only
    by_cases short : row.stock < line.quantity
    · rw [if_pos short]
      refine .inr ⟨fun other isRow => ?_, _, _, rfl, rfl⟩
      cases isRow
      exact short
    · obtain ⟨entity, saved⟩ := runWith_save_take env present line.atLeastOne short (fit _ _ present)
      rw [if_neg short, ← sameId]
      exact .inl ⟨row, rfl, short, Program.runWith_bind_ok shop.executeOn saved⟩

/-! ## The database once a line has taken its product -/

/-- The products fit their columns once a line has taken what was there. -/
theorem Database.ColumnsFit.take {db : Database} (fit : db.ColumnsFit) {row : Product} {quantity : Nat}
    (now : Timestamp) (fits : row.fitsColumns = true) (enough : ¬ row.stock < quantity) :
    (db.write (.product (.put (row.take quantity now)))).ColumnsFit := by
  intro p other found
  have put := Table.find_put db.products (row.take quantity now) p
  rw [show (db.write (.product (.put (row.take quantity now)))).products.find p = _ from put] at found
  split at found
  next =>
    cases found
    simp only [Product.fitsColumns, Product.take, fitsInteger, Bool.and_eq_true, decide_eq_true_eq] at fits ⊢
    exact ⟨decide_eq_true (by omega), fits.2⟩
  next => exact fit p other found

section Step

variable {db : Database} {storeId : Uuid} {line : CreateOrderItemDto} {row : Product} {now : Timestamp}

theorem find_write_take (present : db.products.find line.productId.id = some row) (p : Uuid) :
    (db.write (.product (.put (row.take line.quantity now)))).products.find p =
      if p = line.productId.id then some (row.take line.quantity now) else db.products.find p := by
  have isId : row.id = line.productId.id := Table.key_of_find present
  have put := Table.find_put db.products (row.take line.quantity now) p
  rwa [show (row.take line.quantity now).id = line.productId.id from isId] at put

theorem findProduct_write_take (present : db.products.find line.productId.id = some row) (p : Uuid) :
    (db.write (.product (.put (row.take line.quantity now)))).findProduct p storeId =
      (db.findProduct p storeId).map fun found =>
        if p = line.productId.id then found.take line.quantity now else found := by
  simp only [Database.findProduct, find_write_take present]
  by_cases same : p = line.productId.id
  · subst same
    simp only [if_true, present]
    by_cases inStore : row.storeId = storeId
    · simp [Option.filter, Product.take, inStore]
    · simp [Option.filter, Product.take, inStore]
  · simp only [if_neg same, Option.map_id']

theorem stockOf_write_take (present : db.products.find line.productId.id = some row) (p : Uuid) :
    (db.write (.product (.put (row.take line.quantity now)))).stockOf p =
      db.stockOf p - if line.productId.id = p then (line.quantity : Int) else 0 := by
  rw [Database.stockOf, find_write_take present, Database.stockOf]
  split
  next same =>
    rw [same, present, if_pos rfl]
    rfl
  next differs =>
    rw [if_neg (Ne.symm differs)]
    omega

theorem costOf_write_take (present : db.products.find line.productId.id = some row) (lines : List CreateOrderItemDto) :
    (db.write (.product (.put (row.take line.quantity now)))).costOf lines = db.costOf lines := by
  have samePrice (p : Uuid) : (db.write (.product (.put (row.take line.quantity now)))).priceOf p = db.priceOf p := by
    rw [Database.priceOf, find_write_take present, Database.priceOf]
    split
    next same =>
      rw [same, present]
      rfl
    next => rfl
  simp only [Database.costOf, samePrice]

end Step

/-! ## The loop -/

/-- The stock of the lines was taken, and nothing else changed. -/
structure LinesTaken (before after : Database) (lines : List CreateOrderItemDto) : Prop where
  others : after = { before with products := after.products }
  labels : ∀ p, (after.products.find p).map Product.label = (before.products.find p).map Product.label
  stock : ∀ p, after.stockOf p = before.stockOf p - orderedQuantity p lines
  untouched : ∀ p, (∀ line ∈ lines, line.productId.id ≠ p) → after.products.find p = before.products.find p

namespace LinesTaken

variable {before middle after : Database} {lines first second : List CreateOrderItemDto}

theorem refl (db : Database) : LinesTaken db db [] :=
  ⟨rfl, fun _ => rfl, fun p => (Int.sub_zero (db.stockOf p)).symm, fun _ _ => rfl⟩

theorem cons {line : CreateOrderItemDto} {row : Product} {now : Timestamp}
    (present : before.products.find line.productId.id = some row)
    (rest : LinesTaken (before.write (.product (.put (row.take line.quantity now)))) after lines) :
    LinesTaken before after (line :: lines) := by
  refine ⟨rest.others.trans rfl, fun p => ?_, fun p => ?_, fun p unnamed => ?_⟩
  · rw [rest.labels, find_write_take present]
    split
    next same => rw [same, present, Option.map_some, Option.map_some, label_take]
    next => rfl
  · rw [rest.stock, orderedQuantity_cons, stockOf_write_take present]
    omega
  · rw [rest.untouched p fun other inRest => unnamed other (List.mem_cons_of_mem _ inRest), find_write_take present,
      if_neg (Ne.symm (unnamed line List.mem_cons_self))]

end LinesTaken

/-- The check on the sums, with the first line taken: what is left must do for the others. -/
theorem stocks_cons_iff {db : Database} {storeId : Uuid} {line : CreateOrderItemDto} {rest : List CreateOrderItemDto}
    {row : Product} {now : Timestamp} (found : db.findProduct line.productId.id storeId = some row)
    (enough : ¬ row.stock < line.quantity) :
    db.Stocks storeId (line :: rest) ↔
      (db.write (.product (.put (row.take line.quantity now)))).Stocks storeId rest := by
  obtain ⟨present, -, -⟩ := Database.findProduct_eq_some found
  have inStock : db.stockOf line.productId.id = row.stock := stockOf_of_find present
  have stillThere (p : Uuid) : ((db.write (.product (.put (row.take line.quantity now)))).findProduct p storeId).isSome =
      (db.findProduct p storeId).isSome := by
    rw [findProduct_write_take present, Option.isSome_map]
  simp only [Database.Stocks, stillThere, stockOf_write_take present, List.forall_mem_cons, orderedQuantity_cons]
  constructor
  · rintro ⟨-, others⟩ other inRest
    obtain ⟨isThere, bounded⟩ := others other inRest
    exact ⟨isThere, by omega⟩
  · intro others
    refine ⟨⟨Option.isSome_of_mem found, ?_⟩, fun other inRest => ?_⟩
    · rw [if_pos trivial, inStock]
      by_cases again : ∃ other ∈ rest, other.productId.id = line.productId.id
      · obtain ⟨other, inRest, sameProduct⟩ := again
        have bounded := (others other inRest).2
        rw [sameProduct, if_pos rfl, inStock] at bounded
        omega
      · have nothingMore : orderedQuantity line.productId.id rest = 0 :=
          orderedQuantity_eq_zero fun other inRest sameProduct => again ⟨other, inRest, sameProduct⟩
        omega
    · obtain ⟨isThere, bounded⟩ := others other inRest
      exact ⟨isThere, by omega⟩

/-- What the loop does: if the sums are in stock, every line is taken; otherwise a line is turned away. -/
theorem runWith_takeLines (env : Environment) (storeId : Uuid) (lines : List CreateOrderItemDto) (total : Cents)
    (items : List OrdersService.NewItem) {db : Database} (fit : db.ColumnsFit) :
    (db.Stocks storeId lines ∧ ∃ added after,
      (OrdersService.takeLines env storeId lines total items).runWith shop.executeOn db =
        (.ok (total + db.costOf lines, items ++ added), after) ∧
      List.Forall₂ (NewItemOf db storeId) added lines ∧ LinesTaken db after lines) ∨
    (¬ db.Stocks storeId lines ∧ ∃ error after,
      (OrdersService.takeLines env storeId lines total items).runWith shop.executeOn db = (.error error, after) ∧
        error.isRejection = true) := by
  -- over the lines: the sums of the rest are against the stock that this line leaves
  induction lines generalizing total items db with
  | nil =>
    refine .inl ⟨fun _ isLine => (nomatch isLine), [], db, ?_, .nil, .refl db⟩
    rw [Database.costOf_nil, Int.add_zero, List.append_nil]
    rfl
  | cons line rest ih =>
    rcases runWith_takeLine env storeId line fit with ⟨row, found, enough, ran⟩ | ⟨short, error, after, ran, rejects⟩
    · obtain ⟨present, -, -⟩ := Database.findProduct_eq_some found
      have start : (OrdersService.takeLines env storeId (line :: rest) total items).runWith shop.executeOn db = _ :=
        Program.runWith_bind_ok shop.executeOn ran
      rw [start, stocks_cons_iff found enough]
      rcases ih (total + row.price * line.quantity)
          (items ++ [⟨line.productId.id, row.name, line.quantity, row.price⟩])
          (fit.take env.now (fit _ _ present) enough) with
        ⟨stocks, added, after, restRan, newItems, taken⟩ | failed
      · refine .inl ⟨stocks, _ :: added, after, ?_, .cons ⟨row, found, rfl⟩ ?_, .cons present taken⟩
        · rw [costOf_write_take present] at restRan
          rw [restRan, Database.costOf_cons, priceOf_of_find present, List.append_assoc, List.singleton_append,
            Int.add_assoc]
        · refine newItems.imp fun item other => ?_
          -- a later line reads the same name and price: only the stock has changed
          rintro ⟨left, isLeft, rfl⟩
          rw [findProduct_write_take present] at isLeft
          obtain ⟨before, isBefore, rfl⟩ := Option.map_eq_some_iff.mp isLeft
          refine ⟨before, isBefore, ?_⟩
          split <;> rfl
      · exact .inr failed
    · have start : (OrdersService.takeLines env storeId (line :: rest) total items).runWith shop.executeOn db = _ :=
        Program.runWith_bind shop.executeOn _ _ db
      refine .inr ⟨fun stocks => ?_, error, after, by rw [start, ran]; rfl, rejects⟩
      obtain ⟨isThere, bounded⟩ := stocks line List.mem_cons_self
      obtain ⟨row, found⟩ := Option.isSome_iff_exists.mp isThere
      -- a sum of quantities is at least the quantity of this line
      have asked : (line.quantity : Int) ≤ orderedQuantity line.productId.id (line :: rest) :=
        quantity_le_orderedQuantity List.mem_cons_self
      rw [stockOf_of_find (Database.findProduct_eq_some found).1] at bounded
      have tooLittle := short row found
      omega

end StoreSaas
