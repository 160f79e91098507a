import StoreSaas.Verified.ServiceStatements
import StoreSaas.Verified.StockTally

/-! # What the transactions do to the stock, whatever runs beside them

One statement for each method: from a transaction that has written nothing, its body
ends with the `StockTally` of what it ordered, restocked or put on the shelf.

* `createOrder` takes the lock of a product before it reads the stock and keeps it,
  so the absolute value it writes back is right.
* `restock` adds in the statement itself and needs no earlier lock.
* An edit (`update`, `setImage`) writes the stock it read if that differs from the one
  `save` selects again; `staleEdit` says that this happened.
-/

namespace StoreSaas

/-! ## What a request has restocked -/

/-- What one executed operation has restocked: the product, and the rows it affected times the quantity. -/
def restockOf : (Σ op : RequestOp statements, Except ApiError op.Reply) → Option (Uuid × Nat)
  | ⟨.query (.product (.increment id _ quantity _)), .ok affected⟩ =>
    let rows : Nat := affected
    some (id, rows * quantity)
  | _ => none

def entryRestock (p : Uuid) (entry : Σ op : RequestOp statements, Except ApiError op.Reply) : Int :=
  match restockOf entry with
  | some (id, count) => if id = p then (count : Int) else 0
  | none => 0

def restockedIn (p : Uuid) (log : Log statements ApiError) : Int := (log.map (entryRestock p)).sum

@[simp] theorem restockedIn_nil (p : Uuid) : restockedIn p [] = 0 := rfl
@[simp] theorem restockedIn_cons (p : Uuid) (entry : Σ op : RequestOp statements, Except ApiError op.Reply)
    (log : Log statements ApiError) : restockedIn p (entry :: log) = entryRestock p entry + restockedIn p log := rfl

theorem restockOf_error (op : RequestOp statements) (error : ApiError) : restockOf ⟨op, .error error⟩ = none := by
  unfold restockOf
  split
  next isOk => cases isOk
  next => rfl

theorem entryRestock_of_spares {op : Statement} (spares : op.sparesProducts = true) (p : Uuid)
    (reply : Except ApiError op.Reply) : entryRestock p ⟨.query op, reply⟩ = 0 := by
  cases op with
  | product statement =>
    cases statement with
    | insert | update | increment | delete => cases spares
    | findOne | getManyAndCount | selectForUpdate | reselect => rfl
  | _ => rfl

theorem restockedIn_afterQuery {op : Statement} (spares : op.sparesProducts = true) (p : Uuid)
    (session : ShopSession) (view : Database) (reply : op.Reply) (writes : List DbWrite) :
    restockedIn p (shop.afterQuery session op view reply writes).log = restockedIn p session.log := by
  have nothing := entryRestock_of_spares spares p (.ok reply)
  exact (congrArg (· + restockedIn p session.log) nothing).trans (Int.zero_add _)

theorem restockedIn_failed (p : Uuid) (op : RequestOp statements) (error : ApiError)
    (log : Log statements ApiError) : restockedIn p (⟨op, .error error⟩ :: log) = restockedIn p log := by
  rw [restockedIn_cons, entryRestock, restockOf_error, Int.zero_add]

/-! ## The bodies of the transactions -/

section Bodies

variable {C : ShopContract} {creates : Uuid → Prop} {keeps : Prop} {amount : Uuid → Int} {session : ShopSession}
  {db : Database}

/-- A body that writes no product. -/
theorem body_spared {α : Type} {body : Tx α} (only : body.Only fun op : Statement => op.sparesProducts = true)
    (tally : StockTally creates keeps amount session db) :
    shop.Body C (fun _ => StockTally creates keeps amount) body session db :=
  Engine.body_of_only (fun _ _ _ tally => tally.stable)
    (fun _ _ _ _ _ spares tally executed => tally.spared (Statement.execute_spares spares executed))
    (fun _ _ _ _ _ tally => ⟨tally.locked, tally.owned, tally.change⟩) only tally

/-- The transaction has locked a product, and sees this row of it. -/
def HoldsRow (row : Product) (session : ShopSession) (db : Database) : Prop :=
  Owns session (.product row.id) ∧ (shop.view db session).products.find row.id = some row

theorem HoldsRow.stable {row : Product} {after : Database} {rely : Database → Database → Prop}
    (holds : HoldsRow row session db) (interferes : shop.Interferes rely session.held db after) :
    HoldsRow row session after :=
  ⟨holds.1, (view_of_owns holds.1 interferes).2.trans holds.2⟩

theorem HoldsRow.read {row : Product} (holds : HoldsRow row session db) (op : Statement) (reply : op.Reply) :
    HoldsRow row (shop.afterQuery session op (shop.view db session) reply []) db :=
  ⟨StockTally.owns_afterQuery holds.1 op _ reply [], by rw [Engine.view_afterQuery]; exact holds.2⟩

/-- `SELECT ... FOR UPDATE` locks the row it finds. -/
theorem HoldsRow.select {id storeId : Uuid} {row : Product}
    (found : (shop.view db session).findProduct id storeId = some row)
    (reply : (Statement.product (.selectForUpdate id storeId)).Reply) :
    HoldsRow row (shop.afterQuery session (.product (.selectForUpdate id storeId)) (shop.view db session) reply [])
      db := by
  obtain ⟨present, sameId, -⟩ := Database.findProduct_eq_some found
  refine ⟨⟨⟨.product row.id, .update⟩, List.mem_append_left _ (List.mem_append_left _ ?_), rfl, by simp⟩, ?_⟩
  · change _ ∈ (((shop.view db session).findProduct id storeId).map _).toList
    rw [found]
    exact List.mem_singleton_self _
  · rw [Engine.view_afterQuery, sameId]
    exact present

/-- `save` of a locked product with another stock. -/
theorem body_save_stock (env : Environment) {row : Product} {stock : Int} (differs : stock ≠ row.stock)
    (nonneg : 0 ≤ row.stock → 0 ≤ stock) (holds : HoldsRow row session db)
    (tally : StockTally creates keeps amount session db) :
    shop.Body C (fun _ => StockTally creates keeps fun p => amount p + if p = row.id then stock - row.stock else 0)
      (ProductsService.save env { row.toEntity none with stock := some stock }) session db := by
  have stable : ∀ session db after, (HoldsRow row session db ∧ StockTally creates keeps amount session db) →
      shop.Interferes C.rely session.held db after →
      HoldsRow row session after ∧ StockTally creates keeps amount session after :=
    fun _ _ _ both interferes => ⟨both.1.stable interferes, both.2.stable interferes⟩
  unfold ProductsService.save
  refine Engine.body_perform_bind_of stable ⟨holds, tally⟩ fun db found writes both _ executed => ?_
  -- nobody else can have written the row since it was locked
  obtain ⟨isRow, noWrites⟩ : found = some row ∧ writes = [] := by
    cases executed
    exact ⟨both.1.2, rfl⟩
  subst isRow noWrites
  dsimp only
  split
  next unchanged =>
    have sameStock := congrArg (fun changes => changes.stock.getD (some row.stock)) unchanged
    exact absurd (Option.some.inj ((changed_getD (some stock) (some row.stock)).symm.trans sameStock)) differs
  next =>
    refine Engine.body_perform_bind_of stable ⟨both.1.read _ _, both.2.read _ _⟩ fun db reply writes both _ executed => ?_
    obtain ⟨absent, -⟩ | ⟨stored, next, storedAt, applied, -, rfl⟩ := ProductStatement.execute_update executed
    · exact absurd (absent.symm.trans both.1.2) (by simp)
    · obtain rfl : stored = row := Option.some.inj (storedAt.symm.trans both.1.2)
      obtain ⟨sameId, -, -, newStock⟩ := ProductChanges.applyTo?_eq_some applied
      have isNew : next.stock = stock :=
        Option.some.inj (newStock.trans (changed_getD (some stock) (some stored.stock)))
      refine Engine.body_done fun after interferes => ?_
      have written := (both.2.put (by rw [sameId]; exact storedAt) (by rw [isNew]; exact nonneg)).stable interferes
      rw [sameId, isNew] at written
      exact written

/-! ### Creating an order -/

/-- The quantity that a line of a new order takes of a product. -/
def lineQuantity (p : Uuid) (line : CreateOrderItemDto) : Int :=
  if line.productId.id = p then (line.quantity : Int) else 0

theorem body_takeLine (env : Environment) (storeId : Uuid) (line : CreateOrderItemDto)
    (tally : StockTally creates keeps amount session db) :
    shop.Body C (fun _ => StockTally creates keeps fun p => amount p - lineQuantity p line)
      (OrdersService.takeLine env storeId line) session db := by
  unfold OrdersService.takeLine
  refine Engine.body_perform_bind_of (fun _ _ _ tally => tally.stable) tally
    fun db locked writes tally _ executed => ?_
  obtain ⟨isFound, noWrites⟩ : locked = (shop.view db session).findProduct line.productId.id storeId ∧
      writes = [] := by
    cases executed
    exact ⟨rfl, rfl⟩
  subst noWrites
  cases locked with
  | none => exact Engine.body_throw _ _ _
  | some product =>
    obtain ⟨-, sameId, -⟩ := Database.findProduct_eq_some isFound.symm
    dsimp only
    split
    next => exact Engine.body_throw _ _ _
    next enough =>
      have atLeastOne := line.atLeastOne
      refine (body_save_stock env (by omega) (by omega) (.select isFound.symm _) (tally.read _ _)).bind
        fun _ session db taken => Engine.body_done fun after interferes => ?_
      refine (taken.stable interferes).congr fun p => ?_
      rw [lineQuantity, ← sameId]
      by_cases same : p = product.id
      · rw [if_pos same, if_pos same.symm]
        omega
      · rw [if_neg same, if_neg (Ne.symm same)]
        omega

theorem body_takeLines (env : Environment) (storeId : Uuid) (lines : List CreateOrderItemDto) (total : Cents)
    (items : List OrdersService.NewItem) (tally : StockTally creates keeps amount session db) :
    shop.Body C (fun _ => StockTally creates keeps fun p => amount p - orderedQuantity p lines)
      (OrdersService.takeLines env storeId lines total items) session db := by
  induction lines generalizing total items amount session db with
  | nil =>
    refine Engine.body_done fun after interferes => ?_
    simpa using tally.stable interferes
  | cons line rest ih =>
    unfold OrdersService.takeLines
    refine (body_takeLine env storeId line tally).bind fun item session db taken => ?_
    simpa only [orderedQuantity_cons, lineQuantity, Int.sub_sub] using ih _ _ taken

/-- A transaction that has written nothing so far. -/
structure Idle (session : ShopSession) : Prop where
  noWrites : session.pending = []
  nothing : ∀ p, restockedIn p session.log = 0

theorem Idle.tally (idle : Idle session) (db : Database) : StockTally creates keeps (fun _ => 0) session db :=
  .start idle.noWrites db

theorem Idle.view (idle : Idle session) (db : Database) : shop.view db session = db := by
  rw [Engine.view, idle.noWrites]
  rfl

theorem Idle.read (idle : Idle session) {op : Statement} (reads : op.isRead = true) (view : Database)
    (reply : op.Reply) : Idle (shop.afterQuery session op view reply []) where
  noWrites := (List.append_nil session.pending).trans idle.noWrites
  nothing p := (restockedIn_afterQuery (Statement.sparesProducts_of_isRead reads) p session view reply []).trans
    (idle.nothing p)

theorem body_reads {α : Type} {body : Tx α} (only : body.Only fun op : Statement => op.isRead = true)
    (idle : Idle session) : shop.Body C (fun _ session _ => Idle session) body session db := by
  refine Engine.body_of_only ?_ ?_ ?_ only idle
  · exact fun _ _ _ idle _ => idle
  · intro session db op reply writes reads idle executed
    rw [Statement.execute_read reads executed]
    exact idle.read reads _ reply
  · intro session db op error reads idle
    exact ⟨idle.noWrites, fun p => (restockedIn_failed p _ error _).trans (idle.nothing p)⟩

/-- A request is safe when its handler is, from the state in which it starts. -/
theorem safe_inRequest {α : Type} {post : α → ShopSession → Database → Prop} {storeId : Uuid} {handler : Tx α}
    {fact : Database → Prop} (stable : ∀ before after, C.rely before after → fact before → fact after)
    (now : fact db) (runs : ∀ session db, Idle session → fact db → shop.Body C post handler session db)
    (commits : ∀ value session db, post value session db → C.assume session .commit db →
      C.guarantee session .commit db (shop.view db session)) :
    shop.Safe C (fun _ _ _ => True) (inRequest storeId handler) .empty db := by
  rw [inRequest_eq]
  refine Engine.safe_withTransaction (fun after interferes => ?_) commits
  -- the transaction opens with `set_config`
  have begun : Idle ⟨[], [], [⟨.begin, .ok ()⟩]⟩ := ⟨rfl, fun _ => rfl⟩
  exact ((body_reads (Program.only_perform (by rfl)) begun).frame stable
    (stable _ _ interferes.allowed now)).bind fun _ session db read => runs session db read.1 read.2

theorem body_create (env : Environment) (storeId : Uuid) (dto : CreateOrderDto) (idle : Idle session) :
    shop.Body C (fun _ => StockTally creates keeps fun p => -orderedQuantity p dto.items)
      (OrdersService.create env storeId dto) session db := by
  have lines : shop.Body C (fun _ => StockTally creates keeps fun p => 0 - orderedQuantity p dto.items)
      (OrdersService.takeLines env storeId dto.items 0 []) session db := body_takeLines _ _ _ _ _ (idle.tally db)
  unfold OrdersService.create
  refine lines.bind fun taken session db tally => ?_
  -- what follows the loop writes the order, its items and the mail
  refine body_spared ?_ (tally.congr fun p => Int.zero_sub _)
  refine Program.only_perform_bind (by rfl) fun _ => Program.only_perform_bind (by rfl) fun _ => ?_
  exact ((only_notifyOwner env storeId _).imp fun _ ⟨_, isMail⟩ => by rw [isMail]; rfl).bind fun _ => trivial

/-! ### Setting the status of an order -/

/-- The statements of `updateStatus`: increments, and such that write no product. -/
def Statement.restocks : Statement → Bool
  | .product (.increment _ _ _ _) => true
  | statement => statement.sparesProducts

theorem Statement.restocks_of_spares {op : Statement} (spares : op.sparesProducts = true) :
    op.restocks = true := by
  unfold Statement.restocks
  split
  next => rfl
  next => exact spares

/-- The transaction has changed the stock by what it restocked. -/
def RestockTally (creates : Uuid → Prop) (keeps : Prop) (session : ShopSession) (db : Database) : Prop :=
  StockTally creates keeps (fun p => restockedIn p session.log) session db

theorem restockTally_afterQuery {op : Statement} {reply : op.Reply} {writes : List DbWrite}
    (restocks : op.restocks = true) (tally : RestockTally creates keeps session db)
    (executed : shop.execute op (shop.view db session) = .ok (reply, writes)) :
    RestockTally creates keeps (shop.afterQuery session op (shop.view db session) reply writes) db := by
  unfold Statement.restocks at restocks
  split at restocks
  next id storeId quantity now =>
    obtain ⟨-, rfl, rfl⟩ | ⟨row, found, rfl, rfl⟩ := ProductStatement.execute_increment executed
    · refine (tally.read _ _).congr fun p => ?_
      simp [Engine.afterQuery, entryRestock, restockOf]
    · obtain ⟨present, rfl, -⟩ := Database.findProduct_eq_some found
      refine StockTally.congr (StockTally.put tally present ?_) fun p => ?_
      · dsimp only
        omega
      · simp only [Engine.afterQuery, restockedIn_cons, entryRestock, restockOf, Nat.one_mul, eq_comm]
        split <;> omega
  next spares =>
    exact (tally.spared (Statement.execute_spares restocks executed)).congr fun p =>
      (restockedIn_afterQuery restocks p session _ reply writes).symm

theorem restockTally_failed {op : Statement} (error : ApiError) (tally : RestockTally creates keeps session db) :
    RestockTally creates keeps { session with log := ⟨.query op, .error error⟩ :: session.log } db :=
  StockTally.congr ⟨tally.locked, tally.owned, tally.change⟩ fun p =>
    (restockedIn_failed p (.query op) error session.log).symm

theorem body_restocks {α : Type} {body : Tx α} (only : body.Only fun op : Statement => op.restocks = true)
    (tally : RestockTally creates keeps session db) :
    shop.Body C (fun _ => RestockTally creates keeps) body session db := by
  refine Engine.body_of_only ?_ ?_ ?_ only tally
  · exact fun _ _ _ tally interferes => StockTally.stable tally interferes
  · exact fun _ _ _ _ _ restocks tally executed => restockTally_afterQuery restocks tally executed
  · exact fun _ _ _ error _ tally => restockTally_failed error tally

theorem only_updateStatus (env : Environment) (storeId : Uuid) (id : RouteId) (dto : UpdateOrderStatusDto) :
    (OrdersService.updateStatus env storeId id dto).Only fun op : Statement => op.restocks = true := by
  refine ((only_findOneOrder storeId id).imp fun _ reads =>
    Statement.restocks_of_spares (Statement.sparesProducts_of_isRead reads)).bind fun entity => ?_
  refine Program.Only.bind ?_ fun _ => (only_saveOrder env _).imp fun op saves => ?_
  · split
    next => exact (only_restock env storeId _).imp fun _ ⟨_, _, isIncrement⟩ => by rw [isIncrement]; rfl
    next => trivial
  · cases saves <;> rfl

theorem body_updateStatus (env : Environment) (storeId : Uuid) (id : RouteId) (dto : UpdateOrderStatusDto)
    (idle : Idle session) :
    shop.Body C (fun _ => RestockTally creates keeps) (OrdersService.updateStatus env storeId id dto) session db :=
  body_restocks (only_updateStatus env storeId id dto) ((idle.tally db).congr fun p => (idle.nothing p).symm)

/-! ### Creating and removing a product -/

theorem Idle.insert (idle : Idle session) {row : Product} (absent : db.products.find row.id = none)
    (nonneg : 0 ≤ row.stock) (op : Statement) (reply : op.Reply) :
    StockTally (· = row.id) keeps (fun p => if p = row.id then row.stock else 0)
      (shop.afterQuery session op (shop.view db session) reply [.product (.put row)]) db := by
  have locked := StockTally.locked_afterQuery (by rw [idle.noWrites]; exact List.forall_mem_nil _) op
    (shop.view db session) reply [.product (.put row)]
  refine ⟨locked, fun p moved => ?_, fun p => ?_⟩
  · obtain rfl : p = row.id := by
      by_contra differs
      exact moved (if_neg differs)
    exact owns_of_pending locked (List.mem_append_right _ (List.mem_singleton_self _))
  · rw [Engine.view_afterQuery, idle.view]
    change StockChange _ _ _ _ (db.products.find p) ((db.products.put row).find p)
    rw [Table.find_put]
    split
    next same =>
      rw [same, absent]
      exact
        { stock := fun _ isRow => by cases isRow; exact (Int.zero_add _).symm
          nonneg := fun _ isRow _ => by cases isRow; exact nonneg
          appears := fun _ _ => rfl
          absent := fun _ isNone => by cases isNone
          remains := fun _ isSome => by cases isSome }
    next => exact .refl _

theorem body_insertProduct {entity : ProductEntity} {stock : Nat} (hasStock : entity.stock = some (stock : Int))
    (idle : Idle session) :
    shop.Body C (fun _ => StockTally (· = entity.id) keeps fun p => if p = entity.id then (stock : Int) else 0)
      (Tx.product (.insert entity) >>= fun _ => return entity) session db := by
  refine Engine.body_perform_bind fun db reply writes _ _ executed => ?_
  obtain ⟨row, isRow, absent, rfl⟩ := ProductStatement.execute_insert executed
  obtain ⟨rowId, -, -, rowStock⟩ := ProductEntity.toRow?_eq_some isRow
  have rowStock : row.stock = stock := Option.some.inj (rowStock.trans hasStock)
  rw [idle.view] at absent
  refine Engine.body_done fun after interferes => StockTally.stable ?_ interferes
  rw [← rowStock, ← rowId]
  exact idle.insert absent (by omega) (.product (.insert entity)) reply

theorem body_createProduct (env : Environment) (storeId : Uuid) (dto : CreateProductDto) (idle : Idle session) :
    shop.Body C (fun _ => StockTally (· = env.newId 0) keeps fun p =>
      if p = env.newId 0 then ((dto.stock.orElse 0 : Nat) : Int) else 0)
      (ProductsService.create env storeId dto) session db := by
  unfold ProductsService.create
  refine (body_reads (only_requireCategory storeId dto.categoryId) idle).bind fun _ session db idle => ?_
  exact body_insertProduct rfl idle

/-- A product that is removed leaves nothing to count. -/
theorem Idle.erase (idle : Idle session) {row : Product} (present : db.products.find row.id = some row)
    (op : Statement) (reply : op.Reply) :
    StockTally creates False (fun _ => 0) (shop.afterQuery session op (shop.view db session) reply
      (.product (.erase row.id) :: db.unlinkProduct row.id)) db := by
  have locked := StockTally.locked_afterQuery (by rw [idle.noWrites]; exact List.forall_mem_nil _) op
    (shop.view db session) reply (.product (.erase row.id) :: db.unlinkProduct row.id)
  refine ⟨locked, fun p moved => absurd rfl moved, fun p => ?_⟩
  rw [Engine.view_afterQuery, idle.view, Engine.applyAll_cons]
  -- the unlinked items are no products
  have unlinked : (shop.applyAll (shop.apply db (.product (.erase row.id))) (db.unlinkProduct row.id)).products.find p
      = (db.products.erase row.id).find p := by
    have untouched : ∀ write ∈ db.unlinkProduct row.id, write.key ≠ .product p := by
      intro write made isProduct
      obtain ⟨item, -, rfl⟩ := List.mem_map.mp made
      cases isProduct
    exact shop.get_applyAll_of_untouched untouched
  rw [unlinked, Table.find_erase]
  split
  next same =>
    rw [same, present]
    exact
      { stock := fun _ isRow => by cases isRow
        nonneg := fun _ isRow => by cases isRow
        appears := fun isNone => by cases isNone
        absent := fun isNone => by cases isNone
        remains := fun keeps => keeps.elim }
  next => exact .refl _

theorem body_removeProduct (storeId : Uuid) (id : RouteId) (idle : Idle session) :
    shop.Body C (fun _ => StockTally creates False fun _ => 0) (ProductsService.remove storeId id) session db := by
  unfold ProductsService.remove
  refine (body_reads (only_findOneProduct storeId id) idle).bind fun product session db idle => ?_
  refine Engine.body_perform fun db reply writes _ _ executed => ?_
  refine Engine.body_done fun after interferes => StockTally.stable ?_ interferes
  obtain ⟨-, rfl⟩ | ⟨row, present, rfl⟩ := ProductStatement.execute_delete executed
  · exact (idle.tally db).read (.product (.delete product.id)) reply
  · have sameId : row.id = product.id := Table.key_of_find present
    rw [idle.view, ← sameId] at present
    have erased : StockTally creates False (fun _ => 0) _ db :=
      idle.erase present (.product (.delete product.id)) reply
    rw [idle.view] at erased ⊢
    exact erased

/-! ### Editing a product -/

/-- A `save` of a product that selected a row whose stock is not the one in memory. -/
def staleEntry : (Σ op : RequestOp statements, Except ApiError op.Reply) → Bool
  | ⟨.query (.product (.reselect entity)), .ok found⟩ =>
    let found : Option Product := found
    found.any fun row => entity.stock ≠ some row.stock
  | _ => false

/-- The stock has changed between the two reads of an edit. -/
def staleEdit (log : Log statements ApiError) : Bool := log.any staleEntry

theorem staleEdit_cons {log : Log statements ApiError} (stale : staleEdit log = true)
    (entry : Σ op : RequestOp statements, Except ApiError op.Reply) : staleEdit (entry :: log) = true := by
  rw [staleEdit] at stale ⊢
  rw [List.any_cons, stale, Bool.or_true]

/-- An edit leaves the stock alone, unless it was stale. -/
def EditTally (creates : Uuid → Prop) (keeps : Prop) (session : ShopSession) (db : Database) : Prop :=
  staleEdit session.log = true ∨ StockTally creates keeps (fun _ => 0) session db

theorem body_stale {α : Type} (body : Tx α) (stale : staleEdit session.log = true) :
    shop.Body C (fun _ => EditTally creates keeps) body session db := by
  have stays : shop.Body C (fun _ session _ => staleEdit session.log = true) body session db := by
    refine Engine.body_of_only ?_ ?_ ?_ body.only_any stale
    · exact fun _ _ _ stale _ => stale
    · exact fun _ _ _ _ _ _ stale _ => staleEdit_cons stale _
    · exact fun _ _ _ _ _ stale => staleEdit_cons stale _
  exact stays.imp fun _ _ _ => .inl

/-- An `UPDATE` that does not set the stock. -/
theorem body_updateProduct {α : Type} {id : Uuid} {changes : ProductChanges} {now : Timestamp} (value : α)
    (noStock : changes.stock = none) (tally : StockTally creates keeps (fun _ => 0) session db) :
    shop.Body C (fun _ => StockTally creates keeps fun _ => 0)
      (Tx.product (.update id changes now) >>= fun _ => return value) session db := by
  refine Engine.body_perform_bind_of (fun _ _ _ tally => tally.stable) tally
    fun db reply writes tally _ executed => ?_
  refine Engine.body_done fun after interferes => StockTally.stable ?_ interferes
  obtain ⟨-, rfl⟩ | ⟨stored, next, storedAt, applied, -, rfl⟩ := ProductStatement.execute_update executed
  · exact tally.read (.product (.update id changes now)) reply
  · obtain ⟨sameId, -, -, sameStock⟩ := ProductChanges.applyTo?_eq_some applied
    rw [noStock, Option.getD_none, Option.some.injEq] at sameStock
    have storedId : stored.id = id := Table.key_of_find storedAt
    refine StockTally.congr (StockTally.put tally (by rw [sameId, storedId]; exact storedAt) ?_) fun p => ?_
    · rw [sameStock]
      exact fun nonneg => nonneg
    · rw [sameStock]
      simp

/-- Nobody removes products. -/
def ProductsRemain (before after : Database) : Prop :=
  ∀ p, (before.products.find p).isSome = true → (after.products.find p).isSome = true

/-- `save` of a product that exists. -/
theorem body_save_edit (env : Environment) {entity : ProductEntity}
    (remain : ∀ before after, C.rely before after → ProductsRemain before after) (idle : Idle session) (present : (db.products.find entity.id).isSome = true) :
    shop.Body C (fun _ => EditTally creates keeps) (ProductsService.save env entity) session db := by
  unfold ProductsService.save
  refine Engine.body_perform_bind fun db found writes interferes _ executed => ?_
  obtain ⟨row, isRow⟩ := Option.isSome_iff_exists.mp (remain _ _ interferes.allowed _ present)
  obtain ⟨isFound, noWrites⟩ : found = some row ∧ writes = [] := by
    cases executed
    rw [idle.view]
    exact ⟨isRow, rfl⟩
  subst isFound noWrites
  by_cases sameStock : entity.stock = some row.stock
  · have noStock : (entity.changes row).stock = none := if_pos sameStock
    have unsold : StockTally creates keeps (fun _ => 0) _ db :=
      (idle.tally db).read (.product (.reselect entity)) (some row)
    dsimp only
    split
    next => exact Engine.body_done fun after interferes => .inr (unsold.stable interferes)
    next => exact (body_updateProduct _ noStock unsold).imp fun _ _ _ => .inr
  · refine body_stale _ ?_
    change (staleEntry ⟨.query (.product (.reselect entity)), .ok (some row)⟩ || staleEdit session.log) = true
    simp [staleEntry, sameStock]

theorem body_findOneProduct (storeId : Uuid) (id : RouteId)
    (remain : ∀ before after, C.rely before after → ProductsRemain before after) (idle : Idle session) :
    shop.Body C (fun entity session db => Idle session ∧ (db.products.find entity.id).isSome = true)
      (ProductsService.findOne storeId id) session db := by
  unfold ProductsService.findOne
  refine Engine.body_perform_bind fun db found writes _ _ executed => ?_
  cases id with
  | none => cases executed
  | some id =>
    obtain ⟨isFound, noWrites⟩ :
        found = (db.findProduct id storeId).map db.loadCategory ∧ writes = [] := by
      cases executed
      rw [idle.view]
      exact ⟨rfl, rfl⟩
    subst noWrites
    cases found with
    | none => exact Engine.body_throw _ _ _
    | some entity =>
      obtain ⟨row, isRow, rfl⟩ := Option.map_eq_some_iff.mp isFound.symm
      obtain ⟨present, rfl, -⟩ := Database.findProduct_eq_some isRow
      refine Engine.body_done fun after interferes => ⟨idle.read (by rfl) _ _, ?_⟩
      exact remain _ _ interferes.allowed row.id (by rw [present]; rfl)

theorem body_setImage (env : Environment) (storeId : Uuid) (id : RouteId) (imageUrl : String)
    (remain : ∀ before after, C.rely before after → ProductsRemain before after) (idle : Idle session) :
    shop.Body C (fun _ => EditTally creates keeps) (ProductsService.setImage env storeId id imageUrl) session db := by
  unfold ProductsService.setImage
  refine (body_findOneProduct storeId id remain idle).bind fun product session db read => ?_
  exact body_save_edit env remain read.1 read.2

theorem body_updateProductDto (env : Environment) (storeId : Uuid) (id : RouteId) (dto : UpdateProductDto)
    (remain : ∀ before after, C.rely before after → ProductsRemain before after) (idle : Idle session) :
    shop.Body C (fun _ => EditTally creates keeps) (ProductsService.update env storeId id dto) session db := by
  unfold ProductsService.update
  refine (body_findOneProduct storeId id remain idle).bind fun product session db read => ?_
  refine ((body_reads (only_requireCategory storeId dto.categoryId) read.1).frame
    (fun before after allowed => remain before after allowed product.id) read.2).bind fun _ session db read => ?_
  exact body_save_edit env remain read.1 read.2

end Bodies

end StoreSaas
