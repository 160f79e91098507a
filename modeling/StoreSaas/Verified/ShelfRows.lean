import StoreSaas.Library.RowInvariant
import StoreSaas.Verified.StockLedger

/-! # The columns of products

Prices and stocks stay where the dtos and the columns put them: not negative, and within
the ranges of their columns.  This is a property of single rows, so it holds in every run
of requests to the catalogue and the orders (`shelfRows_of_run`).
-/

namespace StoreSaas

/-- The product's price and stock are not negative and fit their columns. -/
def OnShelf : (key : RowKey) → key.Row → Prop
  | .product _, row => 0 ≤ Product.stock row ∧ 0 ≤ Product.price row ∧ Product.fitsColumns row = true
  | .store _, _ | .user _, _ | .subscription _, _ | .category _, _ | .order _, _ | .orderItem _, _
  | .webhookEvent _, _ | .idempotencyRecord _, _ | .outboxEvent _, _ | .auditLog _, _ | .uniqueEntry _, _ => True

abbrev ShelfRows (db : Database) : Prop := shop.RowsOk OnShelf db

theorem ShelfRows.product {db : Database} (rows : ShelfRows db) {p : Uuid} {row : Product}
    (found : db.products.find p = some row) : 0 ≤ row.stock ∧ 0 ≤ row.price ∧ row.fitsColumns = true :=
  rows (.product p) row found

theorem ShelfRows.columnsFit {db : Database} (rows : ShelfRows db) :
    ∀ p row, db.products.find p = some row → row.fitsColumns = true :=
  fun _ _ found => (rows.product found).2.2

/-! ## Statements -/

/-- A value that is set, if any is, is not negative. -/
def SetsNonneg (value : Option Int) : Prop := ∀ given, value = some given → 0 ≤ given

def ProductEntity.Nonneg (entity : ProductEntity) : Prop := SetsNonneg entity.stock ∧ SetsNonneg entity.price

def ProductChanges.Nonneg (changes : ProductChanges) : Prop := SetsNonneg changes.stock.join ∧ SetsNonneg changes.price.join

/-- The statements that put no negative price or stock into a product. -/
def Statement.Shelves : Statement → Prop
  | .product (.insert entity) => entity.Nonneg
  | .product (.update _ changes _) => changes.Nonneg
  | _ => True

theorem changes_nonneg {entity : ProductEntity} (nonneg : entity.Nonneg) (row : Product) :
    (entity.changes row).Nonneg := by
  have kept {inMemory inRow : Option Int} (isNonneg : SetsNonneg inMemory) : SetsNonneg (changed inMemory inRow).join := by
    unfold changed
    split
    next => exact fun _ isSet => nomatch isSet
    next => exact isNonneg
  exact ⟨kept nonneg.1, kept nonneg.2⟩

theorem writeOk_of_key {write : DbWrite} (elsewhere : ∀ p, write.key ≠ .product p) : shop.WriteOk OnShelf write := by
  intro row _
  cases write with
  | product change => exact absurd rfl (elsewhere _)
  | _ => trivial

theorem writeOk_put {row : Product} (nonneg : 0 ≤ row.stock ∧ 0 ≤ row.price) (fits : row.fitsColumns = true) :
    shop.WriteOk OnShelf (.product (.put row)) := by
  intro stored isStored
  cases isStored
  exact ⟨nonneg.1, nonneg.2, fits⟩

section Execute

variable {db : Database} {writes : List DbWrite}

theorem execute_insert_shelf {entity : ProductEntity} {reply : (ProductStatement.insert entity).Reply}
    (nonneg : entity.Nonneg) (executed : (ProductStatement.insert entity).execute db = .ok (reply, writes)) :
    ∀ write ∈ writes, shop.WriteOk OnShelf write := by
  simp only [ProductStatement.execute] at executed
  split at executed
  next => cases executed
  next row isRow =>
    split at executed
    next => cases executed
    next fits =>
      split at executed
      next => cases executed
      next =>
        split at executed
        next => cases executed
        next =>
          cases executed
          refine List.forall_mem_singleton.mpr (writeOk_put ?_ (Bool.eq_true_of_not_eq_false fits))
          simp only [ProductEntity.toRow?] at isRow
          split at isRow
          next name price stock _ isPrice isStock =>
            cases isRow
            exact ⟨nonneg.1 stock isStock, nonneg.2 price isPrice⟩
          next => cases isRow

theorem execute_update_shelf {id : Uuid} {changes : ProductChanges} {now : Timestamp}
    {reply : (ProductStatement.update id changes now).Reply} (rows : ShelfRows db) (nonneg : changes.Nonneg)
    (executed : (ProductStatement.update id changes now).execute db = .ok (reply, writes)) :
    ∀ write ∈ writes, shop.WriteOk OnShelf write := by
  have set {change : Option (Option Int)} {old new : Int} (isNonneg : SetsNonneg change.join) (oldNonneg : 0 ≤ old)
      (isNew : change.getD (some old) = some new) : 0 ≤ new := by
    cases change with
    | none => cases isNew; exact oldNonneg
    | some given => exact isNonneg new isNew
  simp only [ProductStatement.execute] at executed
  split at executed
  next => cases executed; exact List.forall_mem_nil _
  next row found =>
    split at executed
    next => cases executed
    next next applied =>
      split at executed
      next => cases executed
      next fits =>
        split at executed
        next => cases executed
        next =>
          cases executed
          obtain ⟨oldStock, oldPrice, -⟩ := rows.product found
          refine List.forall_mem_singleton.mpr (writeOk_put ?_ (Bool.eq_true_of_not_eq_false fits))
          simp only [ProductChanges.applyTo?] at applied
          split at applied
          next name price stock _ isPrice isStock =>
            cases applied
            exact ⟨set nonneg.1 oldStock isStock, set nonneg.2 oldPrice isPrice⟩
          next => cases applied

theorem execute_increment_shelf {id storeId : Uuid} {quantity : Nat} {now : Timestamp}
    {reply : (ProductStatement.increment id storeId quantity now).Reply} (rows : ShelfRows db)
    (executed : (ProductStatement.increment id storeId quantity now).execute db = .ok (reply, writes)) :
    ∀ write ∈ writes, shop.WriteOk OnShelf write := by
  simp only [ProductStatement.execute] at executed
  split at executed
  next => cases executed; exact List.forall_mem_nil _
  next row found =>
    split at executed
    next fits =>
      cases executed
      obtain ⟨oldStock, oldPrice, oldFits⟩ := rows.product (Database.findProduct_eq_some found).1
      refine List.forall_mem_singleton.mpr (writeOk_put ⟨?_, oldPrice⟩ ?_)
      · exact Int.add_nonneg oldStock (Int.natCast_nonneg quantity)
      · simp only [Product.fitsColumns, Bool.and_eq_true] at oldFits ⊢
        exact ⟨fits, oldFits.2⟩
    next => cases executed

/-- A statement that puts no negative value keeps the products on the shelf. -/
theorem execute_shelves {statement : Statement} {reply : statement.Reply} (rows : ShelfRows db)
    (shelves : statement.Shelves) (executed : statement.execute db = .ok (reply, writes)) :
    ∀ write ∈ writes, shop.WriteOk OnShelf write := by
  cases spares : statement.sparesProducts with
  | true => exact fun write made => writeOk_of_key (Statement.execute_spares spares executed write made)
  | false =>
    cases statement with
    | product statement =>
      cases statement with
      | insert entity => exact execute_insert_shelf shelves executed
      | update id changes now => exact execute_update_shelf rows shelves executed
      | increment id storeId quantity now => exact execute_increment_shelf rows executed
      | delete id =>
        obtain ⟨-, rfl⟩ | ⟨row, -, rfl⟩ := ProductStatement.execute_delete executed
        · exact List.forall_mem_nil _
        · refine List.forall_mem_cons.mpr ⟨fun _ isPut => (by cases isPut), fun write unlinks => ?_⟩
          obtain ⟨item, -, rfl⟩ := List.mem_map.mp unlinks
          exact writeOk_of_key fun _ isProduct => by cases isProduct
      | findOne | getManyAndCount | selectForUpdate | reselect => cases spares
    | category statement =>
      cases statement with
      | delete id =>
        simp only [Statement.execute, CategoryStatement.execute] at executed
        split at executed
        next => cases executed; exact List.forall_mem_nil _
        next row _ =>
          cases executed
          refine List.forall_mem_cons.mpr ⟨writeOk_of_key fun _ isProduct => (by cases isProduct), fun write unlinks => ?_⟩
          obtain ⟨product, isProduct, rfl⟩ := List.mem_map.mp unlinks
          obtain ⟨stock, price, fits⟩ := rows.product (Table.find_of_mem (List.mem_filter.mp isProduct).1)
          exact writeOk_put ⟨stock, price⟩ fits
      | _ => cases spares
    | _ => cases spares

end Execute

/-! ## Methods -/

section Methods

variable {env : Environment} {storeId : Uuid}

theorem writes_of_shelves {α : Type} {body : Tx α} (only : body.Only Statement.Shelves) :
    shop.Writes OnShelf (fun _ => True) body :=
  Engine.writes_of_only only fun _ _ _ _ shelves rows executed => execute_shelves rows shelves executed

theorem writes_shelves_bind {α : Type} {post : α → Prop} {op : Statement} {next : op.Reply → Tx α} (shelves : op.Shelves)
    (rest : ∀ reply, shop.Writes OnShelf post (next reply)) :
    shop.Writes OnShelf post (Program.perform (S := statements) op >>= next) :=
  Engine.writes_perform_bind fun _ reply _ rows executed => ⟨execute_shelves rows shelves executed, rest reply⟩

theorem writes_shelves {op : Statement} (shelves : op.Shelves) :
    shop.Writes OnShelf (fun _ => True) (Program.perform (S := statements) op) :=
  Engine.writes_perform fun _ _ _ rows executed => ⟨execute_shelves rows shelves executed, trivial⟩

theorem shelves_of_isRead {op : Statement} (reads : op.isRead = true) : op.Shelves := by
  cases op with
  | product statement =>
    cases statement with
    | insert | update | increment | delete => cases reads
    | _ => trivial
  | _ => trivial

theorem writes_reads {α : Type} {body : Tx α} (only : body.Only fun op : Statement => op.isRead = true) :
    shop.Writes OnShelf (fun _ => True) body :=
  writes_of_shelves (only.imp fun _ => shelves_of_isRead)

theorem entity_nonneg {db : Database} (rows : ShelfRows db) {p : Uuid} {row : Product}
    (found : db.products.find p = some row) (category : Option Category) : (row.toEntity category).Nonneg := by
  obtain ⟨stock, price, -⟩ := rows.product found
  exact ⟨fun _ isStock => Option.some.inj isStock ▸ stock, fun _ isPrice => Option.some.inj isPrice ▸ price⟩

theorem writes_findOneProduct (id : RouteId) :
    shop.Writes OnShelf ProductEntity.Nonneg (ProductsService.findOne storeId id) := by
  have shelves : Statement.Shelves (.product (.findOne id storeId)) := trivial
  refine Engine.writes_perform_bind fun view found made rows executed => ⟨execute_shelves rows shelves executed, ?_⟩
  cases id with
  | none => cases executed
  | some id =>
    cases executed
    split
    next entity isLoaded =>
      obtain ⟨row, isFound, rfl⟩ := Option.map_eq_some_iff.mp isLoaded
      exact entity_nonneg rows (Database.findProduct_eq_some isFound).1 _
    next => trivial

theorem writes_saveProduct {entity : ProductEntity} (nonneg : entity.Nonneg) :
    shop.Writes OnShelf (fun _ => True) (ProductsService.save env entity) := by
  refine writes_shelves_bind trivial fun found => ?_
  cases found with
  | none => exact writes_shelves_bind nonneg fun _ => trivial
  | some row =>
    dsimp only
    split
    next => trivial
    next => exact writes_shelves_bind (changes_nonneg nonneg row) fun _ => trivial

theorem writes_createProduct (dto : CreateProductDto) :
    shop.Writes OnShelf (fun _ => True) (ProductsService.create env storeId dto) := by
  refine (writes_reads (only_requireCategory storeId dto.categoryId)).bind fun _ _ => ?_
  refine writes_shelves_bind ⟨fun _ isStock => ?_, fun _ isPrice => ?_⟩ fun _ => trivial
  · cases isStock
    exact Int.natCast_nonneg _
  · cases isPrice
    exact Int.natCast_nonneg _

/-- The assigned fields come from a dto that holds no negative number. -/
theorem assignTo_nonneg (dto : UpdateProductDto) {entity : ProductEntity} (nonneg : entity.Nonneg) :
    (dto.assignTo entity).Nonneg := by
  constructor
  · intro stock isStock
    cases isGiven : dto.stock with
    | undefined => exact nonneg.1 stock (by simpa only [UpdateProductDto.assignTo, isGiven] using isStock)
    | null => simp only [UpdateProductDto.assignTo, isGiven] at isStock; cases isStock
    | value given =>
      simp only [UpdateProductDto.assignTo, isGiven, Option.some.injEq] at isStock
      exact isStock ▸ Int.natCast_nonneg given
  · intro price isPrice
    cases isGiven : dto.price with
    | undefined => exact nonneg.2 price (by simpa only [UpdateProductDto.assignTo, isGiven] using isPrice)
    | null => simp only [UpdateProductDto.assignTo, isGiven] at isPrice; cases isPrice
    | value given =>
      simp only [UpdateProductDto.assignTo, isGiven, Option.some.injEq] at isPrice
      exact isPrice ▸ Int.natCast_nonneg given

theorem writes_updateProduct (id : RouteId) (dto : UpdateProductDto) :
    shop.Writes OnShelf (fun _ => True) (ProductsService.update env storeId id dto) := by
  refine (writes_findOneProduct id).bind fun product nonneg => ?_
  refine (writes_reads (only_requireCategory storeId dto.categoryId)).bind fun _ _ => ?_
  exact writes_saveProduct (assignTo_nonneg dto nonneg)

theorem writes_setImage (id : RouteId) (imageUrl : String) :
    shop.Writes OnShelf (fun _ => True) (ProductsService.setImage env storeId id imageUrl) :=
  (writes_findOneProduct id).bind fun _ nonneg => writes_saveProduct nonneg

theorem writes_takeLine (line : CreateOrderItemDto) :
    shop.Writes OnShelf (fun _ => True) (OrdersService.takeLine env storeId line) := by
  have shelves : Statement.Shelves (.product (.selectForUpdate line.productId.id storeId)) := trivial
  refine Engine.writes_perform_bind fun view locked made rows executed => ⟨execute_shelves rows shelves executed, ?_⟩
  have found : view.findProduct line.productId.id storeId = locked := congrArg Prod.fst (Except.ok.inj executed)
  rcases (locked : Option Product) with _ | product
  · trivial
  · dsimp only
    split
    next => trivial
    next enough =>
      obtain ⟨-, price⟩ := entity_nonneg rows (Database.findProduct_eq_some found).1 none
      have nonneg : ({ product.toEntity none with stock := some (product.stock - line.quantity) } : ProductEntity).Nonneg := by
        refine ⟨fun stock isStock => ?_, price⟩
        cases isStock
        omega
      exact (writes_saveProduct nonneg).bind fun _ _ => trivial

theorem writes_takeLines (lines : List CreateOrderItemDto) (total : Cents) (items : List OrdersService.NewItem) :
    shop.Writes OnShelf (fun _ => True) (OrdersService.takeLines env storeId lines total items) := by
  induction lines generalizing total items with
  | nil => trivial
  | cons line rest ih => exact (writes_takeLine line).bind fun _ _ => ih _ _

theorem writes_createOrder (dto : CreateOrderDto) :
    shop.Writes OnShelf (fun _ => True) (OrdersService.create env storeId dto) := by
  refine (writes_takeLines dto.items 0 []).bind fun taken _ => ?_
  refine writes_shelves_bind trivial fun _ => writes_shelves_bind trivial fun _ => ?_
  have notifies : (OrdersService.notifyOwner env storeId
      ⟨env.newId 0, storeId, .pending, taken.1, env.now, env.now⟩).Only Statement.Shelves :=
    (only_notifyOwner env storeId _).imp fun _ ⟨_, isMail⟩ => by rw [isMail]; trivial
  exact (writes_of_shelves notifies).bind fun _ _ => trivial

theorem writes_updateStatus (id : RouteId) (dto : UpdateOrderStatusDto) :
    shop.Writes OnShelf (fun _ => True) (OrdersService.updateStatus env storeId id dto) := by
  refine writes_of_shelves ((only_updateStatus env storeId id dto).imp fun op restocks => ?_)
  cases op with
  | product statement =>
    cases statement with
    | insert | update => cases restocks
    | _ => trivial
  | _ => trivial

theorem writes_saveCategory (entity : CategoryEntity) :
    shop.Writes OnShelf (fun _ => True) (CategoriesService.save env entity) := by
  refine writes_shelves_bind trivial fun found => ?_
  cases found with
  | none => exact writes_shelves_bind trivial fun _ => trivial
  | some row =>
    dsimp only
    split
    next => trivial
    next => exact writes_shelves_bind trivial fun _ => trivial

/-- Every call keeps the products on the shelf. -/
theorem writes_handler (call : Call) : shop.Writes OnShelf (fun _ => True) (call.handler env storeId) := by
  have wraps {α : Type} {body : Tx α} {wrap : α → CallResult} (writes : shop.Writes OnShelf (fun _ => True) body) :
      shop.Writes OnShelf (fun _ => True) (body >>= fun value => (return wrap value : Tx CallResult)) :=
    writes.bind fun _ _ => trivial
  have ends {body : Tx Unit} (writes : shop.Writes OnShelf (fun _ => True) body) :
      shop.Writes OnShelf (fun _ => True) (body >>= fun _ => (return .nothing : Tx CallResult)) :=
    writes.bind fun _ _ => trivial
  have finds (id : RouteId) := writes_reads (only_findOneCategory storeId id)
  cases call with
  | createCategory dto => exact wraps (writes_shelves_bind trivial fun _ => trivial)
  | findAllCategories => exact writes_shelves_bind trivial fun _ => trivial
  | findOneCategory id => exact wraps (finds id)
  | updateCategory id dto => exact wraps ((finds id).bind fun _ _ => writes_saveCategory _)
  | removeCategory id =>
    exact ends ((finds id).bind fun category _ => writes_shelves trivial)
  | createProduct dto => exact wraps (writes_createProduct dto)
  | findAllProducts query => exact wraps (writes_shelves_bind trivial fun _ => trivial)
  | findOneProduct id => exact wraps (writes_reads (only_findOneProduct storeId id))
  | updateProduct id dto => exact wraps (writes_updateProduct id dto)
  | removeProduct id =>
    exact ends ((writes_findOneProduct id).bind fun product _ => writes_shelves trivial)
  | setImage id imageUrl => exact wraps (writes_setImage id imageUrl)
  | createOrder dto => exact wraps (writes_createOrder dto)
  | findAllOrders query =>
    exact wraps (writes_shelves_bind trivial fun _ => writes_shelves_bind trivial fun _ => trivial)
  | findOneOrder id => exact wraps (writes_reads (only_findOneOrder storeId id))
  | updateStatus id dto => exact wraps (writes_updateStatus id dto)

end Methods

/-! ## Runs -/

/-- In every run, every product that is committed is on the shelf. -/
theorem shelfRows_of_run {ι : Type} [Fintype ι] [DecidableEq ι] {start : Database} {requests : ι → ShopRequest}
    (rows : ShelfRows start)
    {run : List (Act ι ApiError × System ι Database RowKey DbWrite statements ApiError CallResult)}
    (isRun : Transition.Run shop.Steps (ShopRequest.system start requests) run) :
    Transition.EachState (fun state => ShelfRows state.db) (ShopRequest.system start requests) run := by
  have writes (i : ι) : shop.RequestWrites OnShelf (requests i).program := by
    rw [ShopRequest.program, inRequest_eq]
    have sets : shop.Writes OnShelf (fun _ => True) (Tx.setCurrentStore (requests i).storeId >>= fun _ =>
        (requests i).call.handler (requests i).env (requests i).storeId) :=
      writes_shelves_bind trivial fun _ => writes_handler (requests i).call
    exact sets.inTransaction.withTransaction
  exact (Engine.rowsKept_of_run (Engine.rowsKept_start rows writes) isRun).imp fun _ kept => kept.db

end StoreSaas
