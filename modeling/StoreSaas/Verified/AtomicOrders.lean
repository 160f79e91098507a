import StoreSaas.Library.AtomicCommit
import StoreSaas.Verified.Noninterference
import StoreSaas.Verified.RouteStatements
import StoreSaas.Verified.WrittenTables

/-! # Order creation is atomic

`OrdersService.create` locks what it reads, and refers to what it inserts rows for.  So
whatever the other requests do meanwhile, its commit does what the call would do alone at
that moment (`orders_commitAlone`), and orders that are placed concurrently are placed one
after the other (`orders_serializable`).
-/

namespace StoreSaas

abbrev ShopSystem (ι : Type) : Type := System ι Database RowKey DbWrite statements ApiError CallResult

namespace AtomicOrders

/-- The others leave the stores and the users alone. -/
def accounts : Contract Database RowKey DbWrite statements ApiError where
  assume _ _ _ := True
  rely before after := ∀ key : RowKey, key.table = .stores ∨ key.table = .users → after.row key = before.row key
  reflexive _ _ _ := rfl
  transitive _ _ _ first second key isAccount := (second key isAccount).trans (first key isAccount)
  guarantee _ _ _ _ := True

/-! ## What the statements depend on -/

section Execute

variable {db later : Database}

theorem execute_update_congr {id : Uuid} {changes : ProductChanges} {now : Timestamp}
    (same : later.products.find id = db.products.find id)
    (category : (db.products.find id).isSome = true →
      later.categoryExists changes.categoryId.join = db.categoryExists changes.categoryId.join) :
    (ProductStatement.update id changes now).execute later = (ProductStatement.update id changes now).execute db := by
  simp only [ProductStatement.execute, same]
  cases found : db.products.find id with
  | none => rfl
  | some row =>
    rw [found] at category
    simp only [category rfl]

theorem execute_insertProduct_congr {entity : ProductEntity}
    (same : later.products.find entity.id = db.products.find entity.id)
    (sameStore : later.storeExists entity.storeId = db.storeExists entity.storeId)
    (sameCategory : later.categoryExists entity.joinCategoryId = db.categoryExists entity.joinCategoryId) :
    (ProductStatement.insert entity).execute later = (ProductStatement.insert entity).execute db := by
  simp only [ProductStatement.execute]
  cases isRow : entity.toRow? with
  | none => rfl
  | some row =>
    obtain ⟨isId, isStore, isCategory, -⟩ := ProductEntity.toRow?_eq_some isRow
    rw [← isId] at same
    rw [← isStore] at sameStore
    rw [← isCategory] at sameCategory
    simp only [same, sameStore, sameCategory]

/-- An inserted product refers to a store and a category that are there. -/
theorem exist_of_insertProduct {entity : ProductEntity} {writes : List DbWrite}
    (executed : (ProductStatement.insert entity).execute db = .ok ((), writes)) :
    db.storeExists entity.storeId = true ∧ db.categoryExists entity.joinCategoryId = true := by
  simp only [ProductStatement.execute] at executed
  cases isRow : entity.toRow? with
  | none =>
    rw [isRow] at executed
    cases executed
  | some row =>
    obtain ⟨-, isStore, isCategory, -⟩ := ProductEntity.toRow?_eq_some isRow
    simp only [isRow] at executed
    split at executed
    next => cases executed
    next =>
      split at executed
      next => cases executed
      next =>
        split at executed
        next => cases executed
        next exist =>
          rw [isStore, isCategory] at exist
          exact (Bool.and_eq_true _ _).mp (Bool.eq_true_of_not_eq_false exist)

theorem execute_insertOrder_congr {row : Order} (same : later.orders.find row.id = db.orders.find row.id)
    (sameStore : later.storeExists row.storeId = db.storeExists row.storeId) :
    (OrderStatement.insert row).execute later = (OrderStatement.insert row).execute db := by
  simp only [OrderStatement.execute, same, sameStore]

theorem storeExists_of_insertOrder {row : Order} {writes : List DbWrite}
    (executed : (OrderStatement.insert row).execute db = .ok ((), writes)) : db.storeExists row.storeId = true := by
  simp only [OrderStatement.execute] at executed
  split at executed
  next => cases executed
  next =>
    split at executed
    next => cases executed
    next =>
      split at executed
      next => cases executed
      next exist => exact Bool.eq_true_of_not_eq_false exist

theorem checkItems_congr {rows : List OrderItem} (same : ∀ row ∈ rows, later.checkItem row = db.checkItem row) :
    later.checkItems rows = db.checkItems rows := by
  induction rows with
  | nil => rfl
  | cons row rest ih =>
    obtain ⟨sameRow, sameRest⟩ := List.forall_mem_cons.mp same
    rw [Database.checkItems, Database.checkItems, sameRow, ih sameRest]

theorem execute_insertItems_congr {rows : List OrderItem} (same : ∀ row ∈ rows, later.checkItem row = db.checkItem row) :
    (OrderStatement.insertItems rows).execute later = (OrderStatement.insertItems rows).execute db := by
  simp only [OrderStatement.execute, checkItems_congr same]

theorem execute_insertEvent_congr {row : OutboxEvent}
    (same : later.outboxEvents.find row.id = db.outboxEvents.find row.id) :
    (OutboxStatement.insert row).execute later = (OutboxStatement.insert row).execute db := by
  simp only [OutboxStatement.execute, same]

end Execute

/-! ## Statements that are kept -/

section Statements

variable {session : Session RowKey DbWrite statements ApiError} {db : Database}

/-- The session holds the product's row for itself. -/
def LocksProduct (session : Session RowKey DbWrite statements ApiError) (p : Uuid) : Prop :=
  ⟨.product p, .update⟩ ∈ session.held

theorem LocksProduct.afterQuery {p : Uuid} (locks : LocksProduct session p) (op : Statement) (view : Database)
    (reply : op.Reply) (writes : List DbWrite) : LocksProduct (shop.afterQuery session op view reply writes) p :=
  List.mem_append_right _ locks

theorem find_of_locksProduct {p : Uuid} {later : Database} {other : Session RowKey DbWrite statements ApiError}
    (locks : LocksProduct other p) (interferes : shop.Interferes accounts.rely other.held db later) :
    (shop.view later session).products.find p = (shop.view db session).products.find p :=
  Engine.get_view_of_lock (E := shop) interferes locks LockMode.noConfusion

theorem keeps_selectForUpdate {p storeId : Uuid} {row : Product} {writes : List DbWrite}
    (executed : shop.execute (.product (.selectForUpdate p storeId)) (shop.view db session) = .ok (some row, writes)) :
    LocksProduct (shop.afterQuery session (.product (.selectForUpdate p storeId)) (shop.view db session)
        (some row) writes) row.id ∧
      shop.Keeps accounts session db (.product (.selectForUpdate p storeId)) (some row) writes := by
  have found : (shop.view db session).findProduct p storeId = some row := congrArg Prod.fst (Except.ok.inj executed)
  have sameId : row.id = p := (Database.findProduct_eq_some found).2.1
  have locks : LocksProduct (shop.afterQuery session (.product (.selectForUpdate p storeId)) (shop.view db session)
      (some row) writes) row.id := by
    refine List.mem_append_left _ (List.mem_append_left _ ?_)
    change _ ∈ (((shop.view db session).findProduct p storeId).map fun row =>
      (⟨RowKey.product row.id, .update⟩ : RowLock RowKey)).toList
    rw [found]
    exact List.mem_singleton_self _
  refine ⟨locks, fun later interferes => ?_⟩
  have same : (shop.view later session).products.find p = (shop.view db session).products.find p :=
    sameId ▸ find_of_locksProduct locks interferes
  have foundLater : (shop.view later session).findProduct p storeId = (shop.view db session).findProduct p storeId := by
    rw [Database.findProduct, same, Database.findProduct]
  rw [← executed]
  exact congrArg (fun found => Except.ok (found, [])) foundLater

theorem keeps_reselect {entity : ProductEntity} (locks : LocksProduct session entity.id) {reply : Option Product}
    {writes : List DbWrite}
    (executed : shop.execute (.product (.reselect entity)) (shop.view db session) = .ok (reply, writes)) :
    shop.Keeps accounts session db (.product (.reselect entity)) reply writes := by
  intro later interferes
  rw [← executed]
  exact congrArg (fun found => Except.ok (found, []))
    (find_of_locksProduct (locks.afterQuery _ _ _ _) interferes)

/-- The category that a statement refers to is there to the end. -/
theorem categoryExists_later {op : Statement} {reply : op.Reply} {writes : List DbWrite} {later : Database}
    (interferes : shop.Interferes accounts.rely
      (shop.afterQuery session op (shop.view db session) reply writes).held db later) {categoryId : Option Uuid}
    (refers : ∀ c, categoryId = some c → (⟨.category c, .keyShare⟩ : RowLock RowKey) ∈ shop.locks op (shop.view db session))
    (exist : (shop.view db session).categoryExists categoryId = true) :
    (shop.view later session).categoryExists categoryId = true := by
  cases categoryId with
  | none => rfl
  | some c => exact Engine.isSome_view_of_reference (E := shop) interferes (refers c rfl) exist

theorem mem_referenceLocks_category {categoryId : Option Uuid} {c : Uuid} (isCategory : categoryId = some c) :
    (⟨.category c, .keyShare⟩ : RowLock RowKey) ∈ referenceLocks (categoryId.map RowKey.category).toList := by
  rw [isCategory]
  exact List.mem_singleton_self _

theorem keeps_update {id : Uuid} {changes : ProductChanges} {now : Timestamp} (locks : LocksProduct session id)
    {writes : List DbWrite}
    (executed : shop.execute (.product (.update id changes now)) (shop.view db session) = .ok ((), writes)) :
    shop.Keeps accounts session db (.product (.update id changes now)) () writes := by
  intro later interferes
  rw [← executed]
  refine execute_update_congr
    (find_of_locksProduct (locks.afterQuery (.product (.update id changes now)) _ _ _) interferes) fun present => ?_
  obtain ⟨absent, -⟩ | ⟨row, next, -, -, exist, -⟩ := ProductStatement.execute_update executed
  · rw [absent] at present
    cases present
  · rw [exist]
    exact categoryExists_later interferes (fun c isCategory => mem_referenceLocks_category isCategory) exist

theorem keeps_insertProduct {entity : ProductEntity} (locks : LocksProduct session entity.id) {writes : List DbWrite}
    (executed : shop.execute (.product (.insert entity)) (shop.view db session) = .ok ((), writes)) :
    shop.Keeps accounts session db (.product (.insert entity)) () writes := by
  intro later interferes
  obtain ⟨store, category⟩ := exist_of_insertProduct executed
  have refers : (⟨.store entity.storeId, .keyShare⟩ : RowLock RowKey) ∈
      shop.locks (.product (.insert entity)) (shop.view db session) := List.mem_cons_self
  rw [← executed]
  refine execute_insertProduct_congr ?_ ?_ ?_
  · exact find_of_locksProduct (locks.afterQuery (.product (.insert entity)) _ _ _) interferes
  · rw [store]
    exact Engine.isSome_view_of_reference (E := shop) interferes refers store
  · rw [category]
    exact categoryExists_later interferes (fun c isCategory =>
      List.mem_cons_of_mem _ (mem_referenceLocks_category isCategory)) category

theorem keeps_insertOrder {row : Order} {writes : List DbWrite}
    (executed : shop.execute (.order (.insert row)) (shop.view db session) = .ok ((), writes)) :
    shop.Keeps accounts session db (.order (.insert row)) () writes := by
  intro later interferes
  have exist := storeExists_of_insertOrder executed
  obtain ⟨-, rfl⟩ := OrderStatement.execute_insert executed
  have store : (⟨.store row.storeId, .keyShare⟩ : RowLock RowKey) ∈
      shop.locks (.order (.insert row)) (shop.view db session) := List.mem_singleton_self _
  rw [← executed]
  refine execute_insertOrder_congr ?_ ?_
  · exact Engine.get_view_of_write (E := shop) interferes (List.mem_singleton_self _)
  · rw [exist]
    exact Engine.isSome_view_of_reference (E := shop) interferes store exist

theorem keeps_insertItems {rows : List OrderItem} {writes : List DbWrite}
    (executed : shop.execute (.order (.insertItems rows)) (shop.view db session) = .ok ((), writes)) :
    shop.Keeps accounts session db (.order (.insertItems rows)) () writes := by
  intro later interferes
  obtain ⟨checked, rfl⟩ := OrderStatement.execute_insertItems executed
  obtain ⟨-, all⟩ := Database.checkItems_ok checked
  rw [← executed]
  refine execute_insertItems_congr fun row isRow => ?_
  obtain ⟨-, order, product⟩ := Database.checkItem_ok (all row isRow)
  have sameItem : (shop.view later session).orderItems.find row.id = (shop.view db session).orderItems.find row.id :=
    Engine.get_view_of_write (E := shop) interferes (List.mem_map_of_mem isRow)
  have refers {key : RowKey} (isReference : key ∈ RowKey.order row.orderId :: (row.productId.map RowKey.product).toList) :
      (⟨key, .keyShare⟩ : RowLock RowKey) ∈ shop.locks (.order (.insertItems rows)) (shop.view db session) :=
    List.mem_map_of_mem (List.mem_flatMap.mpr ⟨row, isRow, isReference⟩)
  have orderLater : ((shop.view later session).orders.find row.orderId).isSome = true :=
    Engine.isSome_view_of_reference (E := shop) interferes (refers List.mem_cons_self) order
  have productLater : (shop.view later session).productExists row.productId = true := by
    cases isProduct : row.productId with
    | none => rfl
    | some p =>
      rw [isProduct] at product refers
      exact Engine.isSome_view_of_reference (E := shop) interferes
        (refers (List.mem_cons_of_mem _ (List.mem_singleton_self _))) product
  rw [Database.checkItem, Database.checkItem, sameItem, order, orderLater, product, productLater]

theorem keeps_insertEvent {row : OutboxEvent} {writes : List DbWrite}
    (executed : shop.execute (.outbox (.insert row)) (shop.view db session) = .ok ((), writes)) :
    shop.Keeps accounts session db (.outbox (.insert row)) () writes := by
  intro later interferes
  obtain ⟨-, rfl⟩ := OutboxStatement.execute_insert executed
  rw [← executed]
  exact execute_insertEvent_congr (Engine.get_view_of_write (E := shop) interferes (List.mem_singleton_self _))

/-- What the others leave alone. -/
theorem row_view_of_account {held : List (RowLock RowKey)} {later : Database}
    (interferes : shop.Interferes accounts.rely held db later) (key : RowKey)
    (isAccount : key.table = .stores ∨ key.table = .users) :
    (shop.view later session).row key = (shop.view db session).row key := by
  have same : shop.get later key = shop.get db key := interferes.allowed key isAccount
  exact shop.get_applyAll_congr session.pending same

theorem keeps_findStore {id : Uuid} {reply : Option Store} {writes : List DbWrite}
    (executed : shop.execute (.outbox (.findStore id)) (shop.view db session) = .ok (reply, writes)) :
    shop.Keeps accounts session db (.outbox (.findStore id)) reply writes := by
  intro later interferes
  have same : (shop.view later session).stores.find id = (shop.view db session).stores.find id :=
    row_view_of_account interferes (.store id) (.inl rfl)
  rw [← executed]
  exact congrArg (fun found => Except.ok (found, [])) same

theorem keeps_findUser {id : Uuid} {reply : Option User} {writes : List DbWrite}
    (executed : shop.execute (.outbox (.findUser id)) (shop.view db session) = .ok (reply, writes)) :
    shop.Keeps accounts session db (.outbox (.findUser id)) reply writes := by
  intro later interferes
  have same : (shop.view later session).users.find id = (shop.view db session).users.find id :=
    row_view_of_account interferes (.user id) (.inr rfl)
  rw [← executed]
  exact congrArg (fun found => Except.ok (found, [])) same

/-! ## The call -/

variable {env : Environment} {storeId : Uuid}

theorem repeatable_saveProduct {entity : ProductEntity} (locks : LocksProduct session entity.id) :
    shop.Repeatable accounts (ProductsService.save env entity) session := by
  unfold ProductsService.save
  refine Engine.repeatable_perform_bind fun db found writes executed => .inr ⟨keeps_reselect locks executed, ?_⟩
  have stillLocks := locks.afterQuery (.product (.reselect entity)) (shop.view db session) found writes
  rcases (found : Option Product) with _ | row
  · exact Engine.repeatable_perform_bind fun _ _ _ executed => .inr ⟨keeps_insertProduct stillLocks executed, trivial⟩
  · refine Engine.repeatable_ite trivial ?_
    exact Engine.repeatable_perform_bind fun _ _ _ executed => .inr ⟨keeps_update stillLocks executed, trivial⟩

theorem repeatable_takeLine (line : CreateOrderItemDto) :
    shop.Repeatable accounts (OrdersService.takeLine env storeId line) session := by
  unfold OrdersService.takeLine
  refine Engine.repeatable_perform_bind fun db locked writes executed => ?_
  rcases (locked : Option Product) with _ | row
  · exact .inl trivial
  · obtain ⟨locks, keeps⟩ := keeps_selectForUpdate executed
    refine .inr ⟨keeps, Engine.repeatable_ite trivial ?_⟩
    exact (repeatable_saveProduct locks).bind fun _ _ => trivial

theorem repeatable_takeLines (lines : List CreateOrderItemDto) (total : Cents) (items : List OrdersService.NewItem) :
    shop.Repeatable accounts (OrdersService.takeLines env storeId lines total items) session := by
  induction lines generalizing total items session with
  | nil => trivial
  | cons line rest ih =>
    unfold OrdersService.takeLines
    exact (repeatable_takeLine line).bind fun _ _ => ih _ _

theorem repeatable_notifyOwner (order : Order) :
    shop.Repeatable accounts (OrdersService.notifyOwner env storeId order) session := by
  unfold OrdersService.notifyOwner
  refine Engine.repeatable_perform_bind fun db store writes executed => .inr ⟨keeps_findStore executed, ?_⟩
  rcases (store : Option Store) with _ | store
  · trivial
  · refine Engine.repeatable_perform_bind fun db owner writes executed => .inr ⟨keeps_findUser executed, ?_⟩
    rcases (owner : Option User) with _ | owner
    · trivial
    · exact Engine.repeatable_perform fun _ _ _ executed => keeps_insertEvent executed

theorem repeatable_create (dto : CreateOrderDto) :
    shop.Repeatable accounts (OrdersService.create env storeId dto) session := by
  unfold OrdersService.create
  refine (repeatable_takeLines dto.items 0 []).bind fun taken _ => ?_
  refine Engine.repeatable_perform_bind fun _ _ _ executed => .inr ⟨keeps_insertOrder executed, ?_⟩
  refine Engine.repeatable_perform_bind fun _ _ _ executed => .inr ⟨keeps_insertItems executed, ?_⟩
  exact (repeatable_notifyOwner _).bind fun _ _ => trivial

end Statements

end AtomicOrders

/-! ## The requests -/

namespace ShopRequest

/-- `POST /orders` without a client key. -/
def isOrder (request : ShopRequest) : Bool :=
  match request.call with
  | .createOrder _ => true
  | _ => false

/-- The `GET` routes of the three services. -/
def isLookup (request : ShopRequest) : Bool :=
  match request.call with
  | .findAllCategories | .findOneCategory _ | .findAllProducts _ | .findOneProduct _ | .findAllOrders _
  | .findOneOrder _ => true
  | _ => false

/-- What the interceptor's transaction runs. -/
def body (request : ShopRequest) : Tx CallResult := do
  Tx.setCurrentStore request.storeId
  request.call.handler request.env request.storeId

theorem program_eq (request : ShopRequest) :
    request.program = Program.withTransaction request.body.inTransaction :=
  inRequest_eq request.storeId (request.call.handler request.env request.storeId)

theorem serve_eq_body (request : ShopRequest) (db : Database) : request.serve db = shop.transact request.body db := by
  rw [serve, program_eq, Engine.alone_withTransaction]

/-- The statements of the request: of the three services, and for a lookup reads. -/
def Performs (request : ShopRequest) (op : Statement) : Prop :=
  (op.isCatalogue = true ∨ ∃ storeId, op = .setCurrentStore storeId) ∧ (request.isLookup = true → op.isRead = true)

/-- What the request writes, if it writes at all. -/
def Publishes (request : ShopRequest) (write : DbWrite) : Prop :=
  write.key.table ≠ .stores ∧ write.key.table ≠ .users ∧ request.isLookup = false

theorem only_read_handler {request : ShopRequest} (isLookup : request.isLookup = true) :
    (request.call.handler request.env request.storeId).Only fun op : Statement => op.isRead = true := by
  obtain ⟨env, storeId, call⟩ := request
  cases call with
  | findAllCategories => exact (Program.only_perform (by rfl)).bind fun _ => trivial
  | findAllProducts query =>
    refine Program.Only.bind ?_ fun _ => trivial
    exact Program.only_perform_bind (by rfl) fun _ => trivial
  | findAllOrders query =>
    refine Program.Only.bind ?_ fun _ => trivial
    exact Program.only_perform_bind (by rfl) fun _ => Program.only_perform_bind (by rfl) fun _ => trivial
  | findOneCategory id => exact (only_findOneCategory storeId id).bind fun _ => trivial
  | findOneProduct id => exact (only_findOneProduct storeId id).bind fun _ => trivial
  | findOneOrder id => exact (only_findOneOrder storeId id).bind fun _ => trivial
  | _ => cases isLookup

theorem only_body (request : ShopRequest) : request.body.Only request.Performs := by
  refine Program.only_perform_bind ⟨.inr ⟨_, rfl⟩, fun _ => rfl⟩ fun _ => ?_
  have isCatalogue := catalogue_call request.env request.storeId request.call
  by_cases isLookup : request.isLookup = true
  · exact (isCatalogue.and (only_read_handler isLookup)).imp fun op both => ⟨.inl both.1, fun _ => both.2⟩
  · exact isCatalogue.imp fun op known => ⟨.inl known, fun lookup => absurd lookup isLookup⟩

theorem publishes_of_performs {request : ShopRequest} {op : Statement} (performs : request.Performs op)
    {db : Database} {reply : op.Reply} {writes : List DbWrite} (executed : shop.execute op db = .ok (reply, writes)) :
    ∀ write ∈ writes, request.Publishes write := by
  intro write made
  have isTable : op.writesTo write.key.table = true := Statement.execute_table executed write made
  have spares {table : TableName} (elsewhere : op.writesTo table = false) : write.key.table ≠ table := by
    rintro rfl
    rw [elsewhere] at isTable
    cases isTable
  have elsewhere : op.writesTo .stores = false ∧ op.writesTo .users = false := by
    rcases performs.1 with isCatalogue | ⟨storeId, rfl⟩
    · cases op with
      | product statement => cases statement <;> exact ⟨rfl, rfl⟩
      | category statement => cases statement <;> exact ⟨rfl, rfl⟩
      | order statement => cases statement <;> exact ⟨rfl, rfl⟩
      | outbox statement => cases statement <;> exact ⟨rfl, rfl⟩
      | _ => cases isCatalogue
    · exact ⟨rfl, rfl⟩
  refine ⟨spares elsewhere.1, spares elsewhere.2, Bool.eq_false_of_not_eq_true fun isLookup => ?_⟩
  rw [Statement.execute_read (performs.2 isLookup) executed] at made
  cases made

theorem repeatable_body {request : ShopRequest} (isOrder : request.isOrder = true)
    (session : Session RowKey DbWrite statements ApiError) :
    shop.Repeatable AtomicOrders.accounts request.body session := by
  obtain ⟨env, storeId, call⟩ := request
  cases call with
  | createOrder dto =>
    refine Engine.repeatable_perform_bind fun db reply writes executed => .inr ⟨fun later interferes => executed, ?_⟩
    exact (AtomicOrders.repeatable_create dto).bind fun _ _ => trivial
  | _ => cases isOrder

/-! ## Runs -/

section Runs

variable {ι : Type} [Fintype ι] [DecidableEq ι]

/-- Nobody writes a store or a user, and a lookup writes nothing. -/
abbrev Spares (requests : ι → ShopRequest) : ShopSystem ι → Prop :=
  Engine.PublishesOnly (fun i => RequestOp.Transacts (requests i).Performs) fun i => (requests i).Publishes

omit [Fintype ι] [DecidableEq ι] in
theorem spares_start (start : Database) (requests : ι → ShopRequest) : Spares requests (system start requests) := by
  refine Engine.publishesOnly_start fun i => ?_
  rw [program_eq]
  exact (only_body (requests i)).withTransaction

theorem Spares.step {requests : ι → ShopRequest} {source target : ShopSystem ι} {act : Act ι ApiError}
    (spares : Spares requests source) (stepped : shop.Steps source act target) :
    Spares requests target ∧
      ∃ writes, target.db = shop.applyAll source.db writes ∧
        ∀ write ∈ writes, ∃ i, act = .run i ∧ (requests i).Publishes write := by
  refine Engine.PublishesOnly.step spares (fun i op view reply writes allowed executed => ?_) stepped
  exact publishes_of_performs (allowed.resolve_right id) executed

theorem Spares.relies {requests : ι → ShopRequest} {source target : ShopSystem ι} {act : Act ι ApiError}
    (spares : Spares requests source) (stepped : shop.Steps source act target) :
    AtomicOrders.accounts.rely source.db target.db := by
  obtain ⟨-, writes, published, quiet⟩ := spares.step stepped
  intro key isAccount
  rw [published]
  refine row_applyAll_of_table key fun write made sameTable => ?_
  obtain ⟨i, -, notStore, notUser, -⟩ := quiet write made
  exact isAccount.elim (fun isStore => notStore (sameTable.trans isStore)) fun isUser => notUser (sameTable.trans isUser)

variable {start : Database} {requests : ι → ShopRequest} {run : List (Act ι ApiError × ShopSystem ι)}

/-- An order succeeds with its commit, and its commit is the call served alone at that moment. -/
theorem orders_commitAlone (isRun : Transition.Run shop.Steps (system start requests) run) :
    Transition.EachStep (fun source act target => ∀ i, (requests i).isOrder = true →
        Engine.CommitsAlone (requests i).serve i source act target)
      (system start requests) run := by
  have keeps : ∀ (source : ShopSystem ι) act target, Spares requests source → shop.Steps source act target →
      Spares requests target := fun source act target spares stepped => (spares.step stepped).1
  have relies : ∀ (source : ShopSystem ι) j target, Spares requests source → shop.Steps source (.run j) target →
      AtomicOrders.accounts.rely source.db target.db := fun source j target spares stepped => spares.relies stepped
  have alone := Engine.commitsAlone_of_run keeps relies (fun i isOrder => repeatable_body isOrder)
    (fun i _ => program_eq (requests i)) (spares_start start requests) isRun
  refine alone.imp fun source act target commits i isOrder => ?_
  rw [show (requests i).serve = shop.transact (requests i).body from funext (serve_eq_body (requests i))]
  exact commits i isOrder

/-- One of the three teas is ordered while an earlier order is cancelled. -/
theorem orders_commitAlone_smallShop :
    Transition.EachStep (fun source act target =>
        ∀ i, (SmallShop.both SmallShop.orderTea SmallShop.cancelOrder i).isOrder = true →
          Engine.CommitsAlone (SmallShop.both SmallShop.orderTea SmallShop.cancelOrder i).serve i source act target)
      (system SmallShop.db (SmallShop.both SmallShop.orderTea SmallShop.cancelOrder))
      ((shop.trace (system SmallShop.db (SmallShop.both SmallShop.orderTea SmallShop.cancelOrder))
        SmallShop.orderThenCancel).get (by decide)) :=
  orders_commitAlone (shop.run_get_trace _)

/-- The orders that were placed, in the order of their commits. -/
def placed (start : Database) (requests : ι → ShopRequest) (run : List (Act ι ApiError × ShopSystem ι)) : List ι :=
  Engine.commitOrder (fun i => (requests i).isOrder) (system start requests) run

theorem silent_of_uncounted (known : ∀ i, (requests i).isOrder = true ∨ (requests i).isLookup = true)
    (isRun : Transition.Run shop.Steps (system start requests) run) :
    Transition.EachStep (fun source act target =>
        Engine.Uncounted (fun i => (requests i).isOrder) source act → target.db = source.db)
      (system start requests) run := by
  have keeps : ∀ (source : ShopSystem ι) act target, Spares requests source ∧ source.Transactional →
      shop.Steps source act target → Spares requests target ∧ target.Transactional :=
    fun source act target kept stepped =>
      ⟨(kept.1.step stepped).1, (Engine.transactional_step_cases kept.2 stepped).1⟩
  refine Transition.eachStep_of_invariant ?_ keeps
    ⟨spares_start start requests, transactional_start fun i => (requests i).isTransaction⟩ isRun
  rintro source act target ⟨spares, transactional⟩ stepped uncounted
  obtain ⟨-, silent | ⟨i, commits⟩⟩ := Engine.transactional_step_cases transactional stepped
  · exact silent.db
  · obtain ⟨-, writes, published, quiet⟩ := spares.step stepped
    have notOrder : (requests i).isOrder = false := by
      obtain ⟨resume, calls⟩ := commits.calls
      have atCommit : (source.thread i).program.atCommit = true := by
        rw [calls]
        rfl
      simpa only [atCommit, Bool.and_true] using uncounted i commits.isAct
    obtain rfl : writes = [] := List.eq_nil_iff_forall_not_mem.mpr fun write made => by
      obtain ⟨j, isAct, -, -, notLookup⟩ := quiet write made
      cases commits.isAct.symm.trans isAct
      rcases known i with isOrder | isLookup
      · rw [notOrder] at isOrder
        cases isOrder
      · rw [notLookup] at isLookup
        cases isLookup
    exact published

/-- Orders that are placed concurrently, beside any lookups, come to what they come to one after the other. -/
theorem orders_serializable (known : ∀ i, (requests i).isOrder = true ∨ (requests i).isLookup = true)
    (isRun : Transition.Run shop.Steps (system start requests) run) :
    (placed start requests run).Nodup ∧
      (∀ i, (requests i).isOrder = true → (i ∈ placed start requests run ↔
        ∃ answer, ((Transition.final (system start requests) run).thread i).program = .done answer)) ∧
      (Engine.inTurn (fun i => (requests i).serve) (placed start requests run) start).1.map some =
        (placed start requests run).map
          (fun i => ((Transition.final (system start requests) run).thread i).program.outcome) ∧
      (Engine.inTurn (fun i => (requests i).serve) (placed start requests run) start).2 =
        (Transition.final (system start requests) run).db := by
  have alone := orders_commitAlone isRun
  refine ⟨Engine.nodup_commitOrder isRun alone, fun i isOrder => ?_, ?_⟩
  · refine Engine.mem_commitOrder_iff isRun alone isOrder fun value isDone => ?_
    have begins : (requests i).program = .done value := isDone
    rw [program_eq] at begins
    cases begins
  · exact Engine.inTurn_commitOrder isRun alone (silent_of_uncounted known isRun)

end Runs

end ShopRequest

/-! ### Two teas are ordered at once -/

namespace SmallShop

def secondTea : ShopRequest := ⟨⟨6, fun n => 300 + n, fun _ => 0⟩, 1, .createOrder (orderOf (oneOf 2))⟩

/-- The second order waits for the tea. -/
def orderTwice : List (Act Bool ApiError) :=
  [.run false, .run false, .run false, .run true, .run true] ++ List.replicate 7 (.run false) ++
    List.replicate 8 (.run true)

end SmallShop

theorem ShopRequest.orders_serializable_smallShop :
    let requests := SmallShop.both SmallShop.orderTea SmallShop.secondTea
    let run := (shop.trace (system SmallShop.db requests) SmallShop.orderTwice).get (by decide)
    (placed SmallShop.db requests run).Nodup ∧
      (∀ i, (requests i).isOrder = true → (i ∈ placed SmallShop.db requests run ↔
        ∃ answer, ((Transition.final (system SmallShop.db requests) run).thread i).program = .done answer)) ∧
      (Engine.inTurn (fun i => (requests i).serve) (placed SmallShop.db requests run) SmallShop.db).1.map some =
        (placed SmallShop.db requests run).map
          (fun i => ((Transition.final (system SmallShop.db requests) run).thread i).program.outcome) ∧
      (Engine.inTurn (fun i => (requests i).serve) (placed SmallShop.db requests run) SmallShop.db).2 =
        (Transition.final (system SmallShop.db requests) run).db :=
  orders_serializable (fun i => by cases i <;> exact .inl rfl) (shop.run_get_trace _)

end StoreSaas
