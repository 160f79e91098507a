import StoreSaas.Library.LockOrder
import StoreSaas.Verified.OwnedRows

/-! # Stores at the same time

Requests of many stores run concurrently, and fail or crash at any point.  A step of a
request leaves the rows of all other stores as they are (`stores_confined`), and the steps
of a store's requests are a run without the others, with the same replies and the same rows
of the store (`stores_undisturbed`): no store sees, waits for or fails by what others do.
-/

namespace StoreSaas

/-! ## Calls -/

section Calls

variable {holdings : Holdings} {env : Environment} {storeId : Uuid} {α β : Type}

abbrev Tx.AtHome (holdings : Holdings) (storeId : Uuid) (post : α → Prop) (body : Tx α) : Prop :=
  shop.Asks (InHome holdings.toHomes) (Statement.AtHome holdings storeId) post body

theorem atHome_perform {op : Statement} (atHome : op.AtHome holdings storeId) :
    Tx.AtHome holdings storeId (fun _ => True) (Program.perform (S := statements) op) :=
  Engine.asks_perform atHome

theorem atHome_findOneCategory (id : RouteId) :
    Tx.AtHome holdings storeId (fun category => id = some category.id ∧ category.storeId = storeId ∧
      holdings.home (.category category.id) storeId) (CategoriesService.findOne storeId id) := by
  refine Engine.Asks.ensuring (Engine.asks_of_only ?_) (homes_findOneCategory storeId id)
  refine Program.only_perform_bind rfl fun found => ?_
  cases found <;> trivial

theorem atHome_saveCategory {entity : CategoryEntity} (home : holdings.home (.category entity.id) storeId) :
    Tx.AtHome holdings storeId (fun _ => True) (CategoriesService.save env entity) := by
  refine Engine.asks_of_only (Program.only_perform_bind home fun found => ?_)
  cases found with
  | none => exact Program.only_perform_bind home fun _ => trivial
  | some row => exact Program.only_ite trivial (Program.only_perform_bind home fun _ => trivial)

theorem atHome_findOneProduct (id : RouteId) :
    Tx.AtHome holdings storeId (fun entity => entity.storeId = storeId ∧ entity.InHome holdings.toHomes)
      (ProductsService.findOne storeId id) := by
  refine Engine.Asks.ensuring (Engine.asks_of_only ?_) (homes_findOneProduct storeId id)
  refine Program.only_perform_bind rfl fun found => ?_
  cases found <;> trivial

theorem atHome_requireCategory (categoryId : Field Uuid) :
    Tx.AtHome holdings storeId (fun _ => ∀ c, categoryId = .value c → holdings.home (.category c) storeId)
      (ProductsService.requireCategory storeId categoryId) := by
  refine Engine.Asks.ensuring ?_ (homes_requireCategory storeId categoryId)
  cases categoryId with
  | undefined | null => trivial
  | value id => exact (atHome_findOneCategory (some id)).bind fun _ _ => trivial

/-- A product of the store is saved with a category of the store, if with any. -/
theorem atHome_saveProduct {entity : ProductEntity} (inHome : entity.InHome holdings.toHomes)
    (inStore : entity.storeId = storeId) :
    Tx.AtHome holdings storeId (fun _ => True) (ProductsService.save env entity) := by
  subst inStore
  refine Engine.asks_of_only (Program.only_perform_bind inHome.home fun found => ?_)
  cases found with
  | none => exact Program.only_perform_bind ⟨inHome.home, fun _ joined => inHome.joined joined⟩ fun _ => trivial
  | some row =>
    refine Program.only_ite trivial (Program.only_perform_bind ⟨inHome.home, fun c isCategory => ?_⟩ fun _ => trivial)
    exact inHome.joined (join_changes isCategory)

theorem atHome_createProduct (dto : CreateProductDto) (home : holdings.home (.product (env.newId 0)) storeId) :
    Tx.AtHome holdings storeId (fun _ => True) (ProductsService.create env storeId dto) := by
  refine (atHome_requireCategory dto.categoryId).bind fun _ required => ?_
  refine Engine.asks_perform_bind ⟨home, fun c isCategory => required c ?_⟩ fun _ _ _ _ _ => trivial
  cases isField : dto.categoryId with
  | undefined | null => rw [isField] at isCategory; cases isCategory
  | value id => rw [isField] at isCategory; cases isCategory; rfl

theorem atHome_updateProduct (id : RouteId) (dto : UpdateProductDto) :
    Tx.AtHome holdings storeId (fun _ => True) (ProductsService.update env storeId id dto) := by
  refine (atHome_findOneProduct id).bind fun entity ⟨sameStore, inHome⟩ => ?_
  refine (atHome_requireCategory dto.categoryId).bind fun _ required => ?_
  exact atHome_saveProduct (inHome_assignTo inHome (sameStore ▸ required)) sameStore

theorem atHome_takeLine (line : CreateOrderItemDto) :
    Tx.AtHome holdings storeId (fun _ => True) (OrdersService.takeLine env storeId line) := by
  unfold OrdersService.takeLine
  refine Engine.asks_perform_bind rfl fun view locked writes rows executed => ?_
  cases executed
  cases found : view.findProduct line.productId.id storeId with
  | none => trivial
  | some product =>
    obtain ⟨present, sameId, inStore⟩ := Database.findProduct_eq_some found
    rw [← sameId] at present
    obtain ⟨home, categoryHome⟩ := HomeRows.product rows present
    dsimp only
    split
    next => trivial
    next =>
      refine (atHome_saveProduct ⟨home, fun _ loaded => ?_, categoryHome⟩ inStore).bind fun _ _ => trivial
      cases loaded

theorem atHome_takeLines (lines : List CreateOrderItemDto) (total : Cents) (items : List OrdersService.NewItem) :
    Tx.AtHome holdings storeId (fun _ => True) (OrdersService.takeLines env storeId lines total items) := by
  induction lines generalizing total items with
  | nil => trivial
  | cons line rest ih => exact (atHome_takeLine line).bind fun item _ => ih _ _

theorem atHome_notifyOwner (order : Order) (sends : holdings.sends (env.newId 1) storeId) :
    Tx.AtHome holdings storeId (fun _ => True) (OrdersService.notifyOwner env storeId order) := by
  refine Engine.asks_of_only (Program.only_perform_bind trivial fun store => ?_)
  cases store with
  | none => trivial
  | some store =>
    refine Program.only_perform_bind trivial fun owner => ?_
    cases owner with
    | none => trivial
    | some owner => exact Program.only_perform sends

theorem atHome_createOrder (dto : CreateOrderDto) (home : holdings.home (.order (env.newId 0)) storeId)
    (belongs : ∀ position < dto.items.length, holdings.belongs (env.newId (2 + position)) (env.newId 0))
    (sends : holdings.sends (env.newId 1) storeId) :
    Tx.AtHome holdings storeId (fun _ => True) (OrdersService.create env storeId dto) := by
  have taken := homes_takeLines env storeId dto.items 0
    (List.forall_mem_nil fun item : OrdersService.NewItem =>
      holdings.home (.product item.productId) storeId ∧ 1 ≤ item.quantity)
  refine ((atHome_takeLines dto.items 0 []).ensuring taken).bind fun ⟨total, items⟩ ⟨sameLength, inStore⟩ => ?_
  refine Engine.asks_perform_bind home fun _ _ _ _ _ => ?_
  refine Engine.asks_perform_bind (fun item present => ?_) fun _ _ _ _ _ =>
    (atHome_notifyOwner _ sends).bind fun _ _ => trivial
  obtain ⟨position, below, rfl⟩ := List.mem_mapIdx.mp present
  have isLine : position < dto.items.length := by
    rwa [show items.length = [].length + dto.items.length from sameLength, List.length_nil, Nat.zero_add] at below
  refine ⟨belongs position isLine, home, fun p isProduct => ?_⟩
  cases isProduct
  exact (inStore _ (List.getElem_mem below)).1

/-- What is found is an order of the store with its own items. -/
theorem atHome_findOneOrder (id : RouteId) :
    Tx.AtHome holdings storeId (fun entity => holdings.home (.order entity.order.id) storeId ∧
        ∀ item ∈ entity.items, holdings.belongs item.id item.orderId ∧ holdings.home (.order item.orderId) storeId ∧
          ∀ p, item.productId = some p → holdings.home (.product p) storeId)
      (OrdersService.findOne storeId id) := by
  unfold OrdersService.findOne
  refine Engine.asks_perform_bind rfl fun view found writes rows executed => ?_
  cases id with
  | none => cases executed
  | some id =>
    cases executed
    cases isFound : view.findOrder id storeId with
    | none => trivial
    | some order =>
      obtain ⟨present, rfl, rfl⟩ := Database.findOrder_eq_some isFound
      have home := HomeRows.order rows present
      refine ⟨home, fun item isItem => ?_⟩
      obtain ⟨inTable, isOf⟩ := Database.mem_itemsOf.mp isItem
      obtain ⟨belongs, -, inOrder⟩ := HomeRows.item rows (Table.find_of_mem inTable)
      refine ⟨belongs, isOf ▸ home, fun p isProduct => ?_⟩
      obtain ⟨store, productHome, orderHome⟩ := inOrder p isProduct
      cases holdings.one_home _ _ _ orderHome (isOf ▸ home)
      exact productHome

theorem atHome_updateStatus (id : RouteId) (dto : UpdateOrderStatusDto) :
    Tx.AtHome holdings storeId (fun _ => True) (OrdersService.updateStatus env storeId id dto) := by
  refine (atHome_findOneOrder id).bind fun entity ⟨home, items⟩ => ?_
  refine Engine.asks_of_only (Program.Only.bind (Program.only_ite ?_ trivial) fun _ => ?_)
  · refine (only_restock env storeId entity.items).imp fun op increments => ?_
    obtain ⟨id, quantity, rfl⟩ := increments
    exact rfl
  · refine (only_saveOrder env _).imp fun op saves => ?_
    cases saves with
    | reselect | insert | updateStatus => exact home
    | insertItems => exact items
    | updateItem present =>
      obtain ⟨belongs, orderHome, productHome⟩ := items _ present
      exact ⟨⟨_, belongs, orderHome⟩, productHome⟩

/-- Every call keeps to its store, if the ids it creates are the store's. -/
theorem atHome_handler (request : ShopRequest)
    (owns : ∀ key, request.Inserts key → holdings.Owns request.storeId key)
    (belongs : ∀ item, request.Makes (.orderItem item) → holdings.belongs item (request.env.newId 0)) :
    Tx.AtHome holdings request.storeId (fun _ => True) (request.call.handler request.env request.storeId) := by
  -- what the services return is wrapped for the controller, which asks for nothing more
  have finds {α : Type} {post : α → Prop} {body : Tx α} {wrap : α → CallResult}
      (atHome : Tx.AtHome holdings request.storeId post body) :
      Tx.AtHome holdings request.storeId (fun _ => True) (body >>= fun value => (return wrap value : Tx CallResult)) :=
    atHome.bind fun _ _ => trivial
  have wraps {α : Type} {body : Tx α} {wrap : α → CallResult}
      (atHome : Tx.AtHome holdings request.storeId (fun _ => True) body) :
      Tx.AtHome holdings request.storeId (fun _ => True) (body >>= fun value => (return wrap value : Tx CallResult)) :=
    finds atHome
  have ends {body : Tx Unit} (atHome : Tx.AtHome holdings request.storeId (fun _ => True) body) :
      Tx.AtHome holdings request.storeId (fun _ => True) (body >>= fun _ => (return .nothing : Tx CallResult)) :=
    atHome.bind fun _ _ => trivial
  obtain ⟨env, storeId, call⟩ := request
  dsimp only at finds wraps ends owns belongs ⊢
  cases call with
  | createCategory dto =>
    -- the rows that a call creates are under the ids that the request holds
    have home := owns (.category (env.newId 0)) (.inl rfl)
    exact wraps (Engine.asks_of_only (Program.only_perform_bind home fun _ => trivial))
  | findAllCategories => exact wraps (atHome_perform rfl)
  | findOneCategory id => exact finds (atHome_findOneCategory id)
  | updateCategory id dto =>
    exact wraps ((atHome_findOneCategory id).bind fun category ⟨_, _, home⟩ => atHome_saveCategory home)
  | removeCategory id =>
    have removes : Tx.AtHome holdings storeId (fun _ => True) (CategoriesService.remove storeId id) :=
      (atHome_findOneCategory id).bind fun category ⟨_, _, home⟩ => atHome_perform home
    exact ends removes
  | createProduct dto => exact wraps (atHome_createProduct dto (owns (.product (env.newId 0)) (.inl rfl)))
  | findAllProducts query => exact wraps (Engine.asks_perform_bind rfl fun _ _ _ _ _ => trivial)
  | findOneProduct id => exact finds (atHome_findOneProduct id)
  | updateProduct id dto => exact wraps (atHome_updateProduct id dto)
  | removeProduct id =>
    have removes : Tx.AtHome holdings storeId (fun _ => True) (ProductsService.remove storeId id) :=
      (atHome_findOneProduct id).bind fun entity ⟨sameStore, inHome⟩ => by
        subst sameStore
        exact atHome_perform inHome.home
    exact ends removes
  | setImage id imageUrl =>
    exact wraps ((atHome_findOneProduct id).bind fun entity ⟨sameStore, inHome⟩ =>
      atHome_saveProduct ⟨inHome.home, inHome.category, inHome.categoryId⟩ sameStore)
  | createOrder dto =>
    have home := owns (.order (env.newId 0)) (.inl rfl)
    exact wraps (atHome_createOrder dto home
      (fun position below => belongs (env.newId (2 + position)) ⟨position, below, rfl⟩)
      (owns (.outboxEvent (env.newId 1)) (.inr ⟨dto, rfl, rfl⟩)))
  | findAllOrders query =>
    exact wraps (Engine.asks_perform_bind rfl fun _ _ _ _ _ => Engine.asks_perform_bind rfl fun _ _ _ _ _ => trivial)
  | findOneOrder id => exact finds (atHome_findOneOrder id)
  | updateStatus id dto => exact wraps (atHome_updateStatus id dto)

end Calls

/-! ## Ids -/

namespace ShopRequest

variable {ι : Type} {start : Database} {requests : ι → ShopRequest}

/-- The ids that requests insert rows under are new, and no two requests get the same. -/
structure FreshInserts (start : Database) (requests : ι → ShopRequest) : Prop where
  unused : ∀ i key, (requests i).Inserts key → start.row key = none
  distinct : ∀ i j key, (requests i).Inserts key → (requests j).Inserts key → i = j

theorem FreshInserts.keys (fresh : FreshInserts start requests) : FreshKeys start requests :=
  ⟨fun i key makes => fresh.unused i key (.inl makes),
    fun i j key makes makesToo => fresh.distinct i j key (.inl makes) (.inl makesToo)⟩

/-- Who the ids are of, those of the start and those that requests create. -/
def holdings (fresh : FreshInserts start requests) : Holdings where
  toHomes := homes fresh.keys
  sends event storeId := ∃ i, (requests i).Inserts (.outboxEvent event) ∧ (requests i).storeId = storeId
  one_sender := by
    rintro event _ _ ⟨i, inserts, rfl⟩ ⟨j, insertsToo, rfl⟩
    rw [fresh.distinct i j _ inserts insertsToo]

theorem makes_order_of_item {request : ShopRequest} {item : Uuid} (makes : request.Makes (.orderItem item)) :
    request.Makes (.order (request.env.newId 0)) := by
  obtain ⟨env, storeId, call⟩ := request
  cases call with
  | createOrder => exact rfl
  | _ => exact makes.elim

/-- What a request inserts is its store's. -/
theorem owns_of_inserts (fresh : FreshInserts start requests) {i : ι} {key : RowKey} (inserts : (requests i).Inserts key) :
    (holdings fresh).Owns (requests i).storeId key := by
  rcases inserts with makes | ⟨dto, isCall, rfl⟩
  · cases key with
    | category | product | order => exact .inr ⟨i, makes, rfl⟩
    | orderItem id => exact ⟨(requests i).env.newId 0, .inr ⟨i, makes, rfl⟩, .inr ⟨i, makes_order_of_item makes, rfl⟩⟩
    | _ => cases request : (requests i).call <;> simp only [Makes, request] at makes
  · exact ⟨i, .inr ⟨dto, isCall, rfl⟩, rfl⟩

/-! ## Runs -/

/-- Each request asks statements at home in its store, and writes rows of its store. -/
abbrev KeepsToStores (fresh : FreshInserts start requests) : ShopSystem ι → Prop :=
  shop.Footprints (InHome (homes fresh.keys)) (fun i => Statement.AtHome (holdings fresh) (requests i).storeId)
    (fun i => (holdings fresh).Owns (requests i).storeId) (shop.WritesRefs RowKey.references) Database.RefsExist

theorem keepsToStores_start (fresh : FreshInserts start requests) {db : Database}
    (rows : HomeRows (homes fresh.keys) db) (exist : db.RefsExist) : KeepsToStores fresh (system db requests) := by
  refine Engine.footprints_start (Engine.refsRules keepsForeignKeys) rows exist (fun i => ?_) fun i => ?_
  · rw [program_eq]
    have handler : shop.Writes (InHome (homes fresh.keys)) (fun _ => True)
        ((requests i).call.handler (requests i).env (requests i).storeId) :=
      homes_handler (requests i) (fun key makes => .inr ⟨i, makes, rfl⟩) fun item makes => .inr ⟨i, makes, rfl⟩
    have sets : shop.Writes (InHome (homes fresh.keys)) (fun _ => True) (requests i).body :=
      homes_read_bind rfl fun _ => handler
    exact sets.inTransaction.withTransaction
  · rw [program_eq]
    have handler : Tx.AtHome (holdings fresh) (requests i).storeId (fun _ => True)
        ((requests i).call.handler (requests i).env (requests i).storeId) :=
      atHome_handler (requests i) (fun key => owns_of_inserts fresh) fun item makes => .inr ⟨i, makes, rfl⟩
    have sets : Tx.AtHome (holdings fresh) (requests i).storeId (fun _ => True) (requests i).body :=
      Engine.asks_perform_bind rfl fun _ _ _ _ _ => handler
    exact sets.withTransaction

theorem staysWithin (fresh : FreshInserts start requests) :
    shop.StaysWithin (InHome (homes fresh.keys)) Database.RefsExist
      (fun i => Statement.AtHome (holdings fresh) (requests i).storeId)
      (fun i => (holdings fresh).Owns (requests i).storeId) :=
  fun _ _ _ _ _ atHome rows _ executed => Statement.AtHome.writesOwn atHome rows executed

/-- What a store sees of a database is in the database. -/
theorem row_of_forStore {db : Database} {storeId : Uuid} {key : RowKey} {row : key.Row}
    (found : (db.forStore storeId).row key = some row) : db.row key = some row := by
  cases key with
  | category id => exact (Database.findCategory_eq_some ((Database.find_category_forStore id).symm.trans found)).1
  | product id => exact (Database.findProduct_eq_some ((Database.find_product_forStore id).symm.trans found)).1
  | order id => exact (Database.findOrder_eq_some ((Database.find_order_forStore id).symm.trans found)).1
  | orderItem id =>
    have inTable : (db.orderItems.restrict fun item => (db.findOrder item.orderId storeId).isSome).find id = some row :=
      found
    rw [Table.find_restrict] at inTable
    exact (Option.filter_eq_some_iff.mp inTable).1
  | store | user => exact found
  | subscription | webhookEvent | idempotencyRecord | outboxEvent | auditLog | uniqueEntry => cases found

/-- A store's part is there in what the store sees: none of the e-mails of the start is a request's. -/
theorem partOf_forStore (linked : start.Linked) (fresh : FreshInserts start requests) {storeId : Uuid}
    {kept : RowKey → Bool} (isPart : ∀ key, kept key = true ↔ (holdings fresh).Owns storeId key) :
    (start.forStore storeId).partOf kept = start.partOf kept := by
  have rows := homeRows_start linked fresh.keys
  have rowsToo : HomeRows (homes fresh.keys) (start.forStore storeId) := fun key row found =>
    rows key row (row_of_forStore found)
  have noEvents : (start.outboxEvents.restrict fun event => kept (.outboxEvent event.id)) = Table.empty := by
    refine Table.ext (List.filter_eq_nil_iff.mpr fun event present isKept => ?_)
    obtain ⟨i, inserts, -⟩ := (isPart _).mp isKept
    have absent : start.outboxEvents.find event.id = none := fresh.unused i _ inserts
    cases (Table.find_of_mem present).symm.trans absent
  rw [partOf_eq isPart rows (refsExist_start linked),
    partOf_eq isPart rowsToo (refsExist_start (linked.forStore storeId)), Database.forStore_forStore, noEvents]
  rfl

section Runs

variable [Fintype ι] [DecidableEq ι] {run : List (Act ι ApiError × ShopSystem ι)}

/-- A step of a request leaves what any other store sees as it is. -/
theorem stores_confined (linked : start.Linked) (fresh : FreshInserts start requests)
    (isRun : Transition.Run shop.Steps (system start requests) run) :
    Transition.EachStep (fun source act target => ∀ storeId, (requests act.request).storeId ≠ storeId →
        target.db.forStore storeId = source.db.forStore storeId)
      (system start requests) run := by
  classical
  have rules := Engine.refsRules keepsForeignKeys
  refine Transition.eachStep_of_invariant ?_
    (fun source act target keeps stepped => (keeps.step rules (staysWithin fresh) stepped).1)
    (keepsToStores_start fresh (homeRows_start linked fresh.keys) (refsExist_start linked)) isRun
  rintro source act target keeps stepped storeId differs
  obtain ⟨after, writes, published, within⟩ := keeps.step rules (staysWithin fresh) stepped
  let kept (key : RowKey) : Bool := (holdings fresh).Owns storeId key
  have isPart (key : RowKey) : kept key = true ↔ (holdings fresh).Owns storeId key := decide_eq_true_iff
  have samePart : target.db.partOf kept = source.db.partOf kept := by
    rw [published]
    refine (cuts_partOf fun key => (isPart key).mp).applyAll_other _ fun write made => ?_
    have owned := within write made
    exact ⟨decide_eq_false fun owns => differs (owned.unique owns), owned.table⟩
  rw [partOf_eq isPart after.rows.db after.fitting.db, partOf_eq isPart keeps.rows.db keeps.fitting.db] at samePart
  exact congrArg (fun db : Database => { db with outboxEvents := Table.empty }) samePart

/-- The steps of a store's requests are a run from the store's rows, with neither the requests nor the rows of others:
    the requests are answered the same in it, and the store sees the same at its end. -/
theorem stores_undisturbed (storeId : Uuid) (linked : start.Linked) (fresh : FreshInserts start requests)
    (isRun : Transition.Run shop.Steps (system start requests) run) :
    ∃ alone : List (Act ι ApiError × ShopSystem ι),
      Transition.Run shop.Steps (system (start.forStore storeId) requests) alone ∧
      alone.map Prod.fst = (run.map Prod.fst).filter (fun act => (requests act.request).storeId = storeId) ∧
      (∀ i, (requests i).storeId = storeId →
        (Transition.final (system (start.forStore storeId) requests) alone).thread i =
          (Transition.final (system start requests) run).thread i) ∧
      (Transition.final (system (start.forStore storeId) requests) alone).db.forStore storeId =
        (Transition.final (system start requests) run).db.forStore storeId := by
  classical
  have rules := Engine.refsRules keepsForeignKeys
  have rows := homeRows_start linked fresh.keys
  have keeps := keepsToStores_start fresh rows (refsExist_start linked)
  have keepsAlone : KeepsToStores fresh (system (start.forStore storeId) requests) :=
    keepsToStores_start fresh (fun key row found => rows key row (row_of_forStore found))
      (refsExist_start (linked.forStore storeId))
  let kept (key : RowKey) : Bool := (holdings fresh).Owns storeId key
  have isPart (key : RowKey) : kept key = true ↔ (holdings fresh).Owns storeId key := decide_eq_true_iff
  have depends : shop.DependsOnPart (InHome (homes fresh.keys)) Database.RefsExist
      (fun i => Statement.AtHome (holdings fresh) (requests i).storeId)
      (fun i => (requests i).storeId = storeId) (·.partOf kept) := by
    rintro i op view rfl atHome viewRows exist
    exact ⟨Statement.AtHome.execute_partOf atHome isPart viewRows exist,
      Statement.AtHome.locks_partOf atHome isPart viewRows exist⟩
  have projects : Engine.Projects (fun i => (requests i).storeId = storeId) (·.partOf kept) (system start requests)
      (system (start.forStore storeId) requests) :=
    ⟨fun _ _ => rfl, fun _ _ => rfl, partOf_forStore linked fresh isPart⟩
  obtain ⟨alone, runsAlone, sameActs, ended⟩ := projects.run rules (staysWithin fresh)
    (cuts_partOf fun key => (isPart key).mp) depends
    (fun i isMine key owns => (isPart key).mpr (isMine ▸ owns))
    (fun i notMine key owns => ⟨decide_eq_false fun ownsToo => notMine (owns.unique ownsToo), owns.table⟩)
    keeps keepsAlone isRun
  refine ⟨alone, runsAlone, sameActs, ended.thread, ?_⟩
  have last := (Engine.footprints_of_run rules (staysWithin fresh) keeps isRun).last
  have lastAlone := (Engine.footprints_of_run rules (staysWithin fresh) keepsAlone runsAlone).last
  have samePart := ended.cut
  rw [partOf_eq isPart last.rows.db last.fitting.db, partOf_eq isPart lastAlone.rows.db lastAlone.fitting.db] at samePart
  exact congrArg (fun db : Database => { db with outboxEvents := Table.empty }) samePart

omit [Fintype ι] [DecidableEq ι] in
theorem locksWithin (fresh : FreshInserts start requests) :
    shop.LocksWithin (InHome (homes fresh.keys)) Database.RefsExist
      (fun i => Statement.AtHome (holdings fresh) (requests i).storeId)
      (fun i => (holdings fresh).Locks (requests i).storeId) :=
  fun _ _ _ _ _ atHome rows _ executed => Statement.AtHome.locksOwn atHome rows executed

/-- Requests of different stores never wait for each other, not over others either. -/
theorem stores_wait_apart (linked : start.Linked) (fresh : FreshInserts start requests)
    (isRun : Transition.Run shop.Steps (system start requests) run) :
    Transition.EachState (fun state => ∀ i j, Relation.TransGen (state.WaitsFor shop fun _ => True) i j →
        (requests i).storeId = (requests j).storeId)
      (system start requests) run := by
  have rules := Engine.refsRules keepsForeignKeys
  have locks := locksWithin fresh
  have each : Transition.EachState (fun state => KeepsToStores fresh state ∧
      ∀ i, ∀ lock ∈ (state.thread i).session.held, (holdings fresh).Locks (requests i).storeId lock)
      (system start requests) run := by
    have keepsStart := keepsToStores_start fresh (homeRows_start linked fresh.keys) (refsExist_start linked)
    refine Transition.eachState_of_step ?_ ⟨keepsStart, fun _ _ none => by cases none⟩ isRun
    rintro source act target ⟨keeps, held⟩ stepped
    exact ⟨(keeps.step rules (staysWithin fresh) stepped).1, keeps.held_step rules locks held stepped⟩
  refine each.imp fun state ⟨keeps, held⟩ => ?_
  have waits (i j : ι) (waits : state.WaitsFor shop (fun _ => True) i j) :
      (requests i).storeId = (requests j).storeId := by
    obtain ⟨-, need, needed, -, lock, isHeld, conflict⟩ := waits
    unfold System.needs at needed
    split at needed
    next calls => exact (keeps.needs rules locks calls need needed).unique (held j lock isHeld) conflict
    next => cases needed
  intro i j chain
  induction chain with
  | single waiting => exact waits _ _ waiting
  | tail _ waiting ih => exact ih.trans (waits _ _ waiting)

end Runs

end ShopRequest

/-! ### A tea is ordered while another store tries to remove it -/

namespace SmallShop

theorem freshInserts : ShopRequest.FreshInserts db (both orderTea removeTea) where
  unused i key inserts := by
    cases i with
    | false => exact unused_orderTea key inserts
    | true => exact absurd inserts (inserts_removeTea key)
  distinct i j key inserts insertsToo := by
    cases i with
    | true => exact absurd inserts (inserts_removeTea key)
    | false =>
      cases j with
      | true => exact absurd insertsToo (inserts_removeTea key)
      | false => rfl

/-- The other store looks for the tea while it is locked, and does not find it. -/
def removeInsideOrder : List (Act Bool ApiError) :=
  List.replicate 3 (.run false) ++ List.replicate 4 (.run true) ++ List.replicate 7 (.run false)

end SmallShop

theorem ShopRequest.stores_confined_smallShop :
    let requests := SmallShop.both SmallShop.orderTea SmallShop.removeTea
    Transition.EachStep (fun source act target => ∀ storeId, (requests act.request).storeId ≠ storeId →
        target.db.forStore storeId = source.db.forStore storeId)
      (system SmallShop.db requests)
      ((shop.trace (system SmallShop.db requests) SmallShop.removeInsideOrder).get (by decide)) :=
  stores_confined SmallShop.linked SmallShop.freshInserts (shop.run_get_trace _)

theorem ShopRequest.stores_wait_apart_smallShop :
    let requests := SmallShop.both SmallShop.orderTea SmallShop.removeTea
    Transition.EachState (fun state => ∀ i j, Relation.TransGen (state.WaitsFor shop fun _ => True) i j →
        (requests i).storeId = (requests j).storeId)
      (system SmallShop.db requests)
      ((shop.trace (system SmallShop.db requests) SmallShop.removeInsideOrder).get (by decide)) :=
  stores_wait_apart SmallShop.linked SmallShop.freshInserts (shop.run_get_trace _)

theorem ShopRequest.stores_undisturbed_smallShop :
    let requests := SmallShop.both SmallShop.orderTea SmallShop.removeTea
    let run := (shop.trace (system SmallShop.db requests) SmallShop.removeInsideOrder).get (by decide)
    ∃ alone : List (Act Bool ApiError × ShopSystem Bool),
      Transition.Run shop.Steps (system (SmallShop.db.forStore 1) requests) alone ∧
      alone.map Prod.fst = (run.map Prod.fst).filter (fun act => (requests act.request).storeId = 1) ∧
      (∀ i, (requests i).storeId = 1 →
        (Transition.final (system (SmallShop.db.forStore 1) requests) alone).thread i =
          (Transition.final (system SmallShop.db requests) run).thread i) ∧
      (Transition.final (system (SmallShop.db.forStore 1) requests) alone).db.forStore 1 =
        (Transition.final (system SmallShop.db requests) run).db.forStore 1 :=
  stores_undisturbed 1 SmallShop.linked SmallShop.freshInserts (shop.run_get_trace _)

end StoreSaas
