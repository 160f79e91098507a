import StoreSaas.Verified.IntactOrder
import StoreSaas.Verified.OrderMethods
import StoreSaas.Verified.StockBodies

/-! # Cancelling an order from several requests at once

`updateStatus` reads the order, restocks if it was not cancelled by then, and saves;
nothing holds the order between the read and the save.  This module follows one
transaction through whatever the others commit meanwhile: a bystander writes nothing
about the order, and a cancellation has restocked nothing if it saw the order
cancelled, and all of its items otherwise.
-/

namespace StoreSaas

def Database.isCancelled (db : Database) (o : Uuid) : Bool :=
  (db.orders.find o).any fun row => row.status = .cancelled

section Race

variable {o storeId : Uuid} {items : List OrderItem} {session : ShopSession} {db after : Database}
  {C : ShopContract}

/-! ## Transactions beside an order -/

/-- The others leave the order intact, and cancelled if it is. -/
def KeepsOrder (o storeId : Uuid) (items : List OrderItem) (before after : Database) : Prop :=
  Intact o storeId items before →
    Intact o storeId items after ∧ (before.isCancelled o = true → after.isCancelled o = true)

/-- A transaction that has written nothing about the order. -/
structure Bystander (o storeId : Uuid) (items : List OrderItem) (session : ShopSession) (db : Database) : Prop where
  intact : Intact o storeId items db
  writes : ∀ write ∈ session.pending, Harmless o storeId items write ∧ write.key ≠ .order o

namespace Bystander

theorem view (bystander : Bystander o storeId items session db) : Intact o storeId items (shop.view db session) :=
  bystander.intact.applyAll fun write pending => (bystander.writes write pending).1

theorem sameOrder (bystander : Bystander o storeId items session db) :
    (shop.view db session).orders.find o = db.orders.find o :=
  shop.get_applyAll_of_untouched fun write pending => (bystander.writes write pending).2

theorem sameCancelled (bystander : Bystander o storeId items session db) :
    (shop.view db session).isCancelled o = db.isCancelled o := by
  rw [Database.isCancelled, bystander.sameOrder, Database.isCancelled]

theorem afterQuery (bystander : Bystander o storeId items session db) {op : Statement} {reply : op.Reply}
    {writes : List DbWrite} (bystands : op.Bystands o items)
    (executed : shop.execute op (shop.view db session) = .ok (reply, writes)) :
    Bystander o storeId items (shop.afterQuery session op (shop.view db session) reply writes) db := by
  refine ⟨bystander.intact, fun write pending => ?_⟩
  rcases List.mem_append.mp pending with earlier | now
  · exact bystander.writes write earlier
  · exact bystands_execute bystander.view bystands executed write now

end Bystander

theorem Idle.bystander (idle : Idle session) (intact : Intact o storeId items db) :
    Bystander o storeId items session db :=
  ⟨intact, by rw [idle.noWrites]; exact fun _ pending => nomatch pending⟩

section Bodies

variable (rely : ∀ before after, C.rely before after → KeepsOrder o storeId items before after)

include rely

theorem Bystander.stable (bystander : Bystander o storeId items session db)
    (interferes : shop.Interferes C.rely session.held db after) : Bystander o storeId items session after :=
  ⟨(rely _ _ interferes.allowed bystander.intact).1, bystander.writes⟩

theorem body_bystands {α : Type} {body : Tx α} (only : body.Only (Statement.Bystands o items))
    (bystander : Bystander o storeId items session db) :
    shop.Body C (fun _ => Bystander o storeId items) body session db :=
  Engine.body_of_only (fun _ _ _ bystander => bystander.stable rely)
    (fun _ _ _ _ _ bystands bystander executed => bystander.afterQuery bystands executed)
    (fun _ _ _ _ _ bystander => ⟨bystander.intact, bystander.writes⟩) only bystander

theorem body_create_bystands (env : Environment) (ofStore : Uuid) (dto : CreateOrderDto)
    (bystander : Bystander o storeId items session db) :
    shop.Body C (fun _ => Bystander o storeId items) (OrdersService.create env ofStore dto) session db := by
  unfold OrdersService.create
  have takes (op : Statement) (isTake : op.takes = true) : op.Bystands o items := by
    unfold Statement.takes at isTake
    split at isTake <;> trivial
  refine (body_bystands rely ((only_takeLines env ofStore dto.items 0 []).imp takes) bystander).bind
    fun taken session db bystander => ?_
  dsimp only
  refine Engine.body_perform_bind_of (fun _ _ _ bystander => bystander.stable rely) bystander fun db reply writes bystander _ executed => ?_
  -- the new order has an id that was not in use
  obtain ⟨absent, -⟩ := OrderStatement.execute_insert executed
  have newId : env.newId 0 ≠ o := bystander.view.ne_of_absent absent
  refine body_bystands rely ?_ (bystander.afterQuery trivial executed)
  refine Program.only_perform_bind ?_ fun _ => ?_
  · intro row present
    obtain ⟨position, item, -, rfl⟩ := List.mem_mapIdx.mp present
    exact newId
  · exact ((only_notifyOwner env ofStore _).imp fun _ ⟨_, isMail⟩ => by rw [isMail]; trivial).bind fun _ => trivial

/-! ## `updateStatus` -/

/-- The transaction, which has written nothing about the order, has restocked this much. -/
structure Restocking (o storeId : Uuid) (items : List OrderItem) (amount : Uuid → Int) (session : ShopSession)
    (db : Database) : Prop where
  bystander : Bystander o storeId items session db
  restocked : ∀ p, restockedIn p session.log = amount p

theorem Restocking.stable {amount : Uuid → Int} (restocking : Restocking o storeId items amount session db)
    (interferes : shop.Interferes C.rely session.held db after) : Restocking o storeId items amount session after :=
  ⟨restocking.bystander.stable rely interferes, restocking.restocked⟩

omit rely in
theorem Restocking.read {amount : Uuid → Int} (restocking : Restocking o storeId items amount session db)
    (op : Statement) (reads : op.isRead = true) (reply : op.Reply) :
    Restocking o storeId items amount (shop.afterQuery session op (shop.view db session) reply []) db where
  bystander := ⟨restocking.bystander.intact, by
    change ∀ write ∈ session.pending ++ [], _
    rw [List.append_nil]
    exact restocking.bystander.writes⟩
  restocked p := (restockedIn_afterQuery (Statement.sparesProducts_of_isRead reads) p session _ reply []).trans
    (restocking.restocked p)

/-- The loop restocks each item, since their products are all there. -/
theorem body_restock (env : Environment) {rest : List OrderItem} (ofOrder : ∀ item ∈ rest, item ∈ items)
    {amount : Uuid → Int} (restocking : Restocking o storeId items amount session db) :
    shop.Body C (fun _ => Restocking o storeId items fun p => amount p + quantityOf p rest)
      (OrdersService.restock env storeId rest) session db := by
  induction rest generalizing amount session db with
  | nil =>
    refine Engine.body_done fun after interferes => ?_
    simpa using restocking.stable rely interferes
  | cons item rest ih =>
    obtain ⟨isItem, restOfOrder⟩ := List.forall_mem_cons.mp ofOrder
    unfold OrdersService.restock
    cases isProduct : item.productId with
    | none => simpa [isProduct] using ih restOfOrder restocking
    | some id =>
      refine Engine.body_perform_bind_of (fun _ _ _ restocking => restocking.stable rely) restocking
        fun db affected writes restocking _ executed => ?_
      have next : Restocking o storeId items (fun p => amount p + if id = p then (item.quantity : Int) else 0)
          (shop.afterQuery session _ (shop.view db session) affected writes) db := by
        refine ⟨restocking.bystander.afterQuery trivial executed, fun p => ?_⟩
        obtain ⟨row, present, inStore⟩ := restocking.bystander.view.products item isItem id isProduct
        have found : (shop.view db session).findProduct id storeId = some row :=
          Option.filter_eq_some_iff.mpr ⟨present, decide_eq_true inStore⟩
        obtain ⟨absent, -, -⟩ | ⟨_, -, rfl, -⟩ := ProductStatement.execute_increment executed
        · exact absurd (absent.symm.trans found) (by simp)
        · simp only [Engine.afterQuery, restockedIn_cons, entryRestock, restockOf, Nat.one_mul,
            restocking.restocked p, Int.add_comm]
      have whole (p : Uuid) : (amount p + if id = p then (item.quantity : Int) else 0) + quantityOf p rest =
          amount p + quantityOf p (item :: rest) := by
        rw [quantityOf_cons, isProduct, Int.add_assoc]
        simp only [Option.some.injEq]
      simpa only [whole] using ih restOfOrder next

/-- The transaction has set the status of the order, and with it has locked the row. -/
structure HasSet (o storeId : Uuid) (items : List OrderItem) (status : OrderStatus) (session : ShopSession)
    (db : Database) : Prop where
  intact : Intact o storeId items db
  harmless : ∀ write ∈ session.pending, Harmless o storeId items write
  owns : Owns session (.order o)
  isSet : ((shop.view db session).orders.find o).map Order.status = some status

theorem HasSet.stable {status : OrderStatus} (hasSet : HasSet o storeId items status session db)
    (interferes : shop.Interferes C.rely session.held db after) : HasSet o storeId items status session after := by
  refine ⟨(rely _ _ interferes.allowed hasSet.intact).1, hasSet.harmless, hasSet.owns, ?_⟩
  have sameRow : (shop.view after session).orders.find o = (shop.view db session).orders.find o :=
    (view_of_owns hasSet.owns interferes).2
  rw [sameRow]
  exact hasSet.isSet

/-- What `updateStatus` has done to the order before it commits: it has either seen that the status is
    the one to set, or set it. -/
structure Ended (o storeId : Uuid) (items : List OrderItem) (status : OrderStatus) (amount : Uuid → Int)
    (session : ShopSession) (db : Database) : Prop where
  status : (Bystander o storeId items session db ∧ (status = .cancelled → db.isCancelled o = true)) ∨
    HasSet o storeId items status session db
  restocked : ∀ p, restockedIn p session.log = amount p

theorem Ended.stable {status : OrderStatus} {amount : Uuid → Int}
    (ended : Ended o storeId items status amount session db)
    (interferes : shop.Interferes C.rely session.held db after) :
    Ended o storeId items status amount session after := by
  refine ⟨ended.status.imp (fun seen => ⟨seen.1.stable rely interferes, fun isCancelled => ?_⟩)
    fun hasSet => hasSet.stable rely interferes, ended.restocked⟩
  exact (rely _ _ interferes.allowed seen.1.intact).2 (seen.2 isCancelled)

omit rely in
/-- The `UPDATE` of the status. -/
theorem Restocking.updateStatus {amount : Uuid → Int} (restocking : Restocking o storeId items amount session db)
    {status : OrderStatus} {now : Timestamp} {reply : (Statement.order (.updateStatus o status now)).Reply}
    {writes : List DbWrite}
    (executed : shop.execute (.order (.updateStatus o status now)) (shop.view db session) = .ok (reply, writes)) :
    Ended o storeId items status amount
      (shop.afterQuery session (.order (.updateStatus o status now)) (shop.view db session) reply writes) db := by
  have spares : (Statement.order (.updateStatus o status now)).sparesProducts = true := rfl
  obtain ⟨order, found, inStore⟩ := restocking.bystander.view.order
  obtain ⟨absent, -⟩ | ⟨row, foundRow, rfl⟩ := OrderStatement.execute_updateStatus executed
  · exact absurd (absent.symm.trans found) (by simp)
  · obtain rfl : row = order := Option.some.inj (foundRow.symm.trans found)
    have isO : row.id = o := Table.key_of_find found
    let updated : DbWrite := .order (.put { row with status := status, updatedAt := now })
    refine ⟨.inr ⟨restocking.bystander.intact, fun write pending => ?_, ?_, ?_⟩, fun p =>
      (restockedIn_afterQuery spares p session _ reply _).trans (restocking.restocked p)⟩
    · rcases List.mem_append.mp pending with earlier | now
      · exact (restocking.bystander.writes write earlier).1
      · rw [List.mem_singleton.mp now]
        exact fun _ => inStore
    · refine ⟨shop.lockOf updated, List.mem_append_left _ (List.mem_append_right _ (List.mem_singleton_self _)),
        congrArg RowKey.order isO, ?_⟩
      exact fun isShare => nomatch isShare
    · rw [Engine.view_afterQuery]
      change ((Table.put _ _).find o).map Order.status = some status
      rw [Table.find_put, if_pos isO.symm]
      rfl

/-- `save` of the order, with the items it was loaded with. -/
theorem body_saveStatus (env : Environment) {entity : OrderEntity} (isO : entity.order.id = o)
    (sameItems : entity.items = items) {amount : Uuid → Int}
    (restocking : Restocking o storeId items amount session db) :
    shop.Body C (fun _ => Ended o storeId items entity.order.status amount) (OrdersService.save env entity)
      session db := by
  subst isO sameItems
  unfold OrdersService.save
  refine Engine.body_perform_bind_of (fun _ _ _ restocking => restocking.stable rely) restocking
    fun db found writes restocking _ executed => ?_
  obtain ⟨row, isRow, -⟩ := restocking.bystander.view.order
  have rowId : row.id = entity.order.id := Table.key_of_find isRow
  obtain ⟨isFound, noWrites⟩ : found = some ⟨row, entity.items⟩ ∧ writes = [] := by
    cases executed
    rw [isRow, Option.map_some, Database.loadItems, rowId, restocking.bystander.view.sameItems]
    exact ⟨rfl, rfl⟩
  subst isFound noWrites
  -- the items are stored as they were loaded
  have noCascade : OrdersService.saveItems entity.items entity.items = .done () := by
    rw [← restocking.bystander.view.sameItems]
    exact saveItems_itemsOf _ _
  have read := restocking.read (.order (.reselect entity)) rfl (some ⟨row, entity.items⟩)
  dsimp only
  rw [noCascade]
  split
  next sameStatus =>
    refine Engine.body_done fun after interferes => Ended.stable rely ?_ interferes
    refine ⟨.inl ⟨read.bystander, fun isCancelled => ?_⟩, read.restocked⟩
    rw [← restocking.bystander.sameCancelled, Database.isCancelled, isRow]
    simpa [isCancelled] using sameStatus.symm
  next =>
    refine Engine.body_perform_bind_of (fun _ _ _ restocking => restocking.stable rely) read
      fun db reply writes restocking _ executed => ?_
    exact Engine.body_done fun after interferes => (restocking.updateStatus executed).stable rely interferes

/-- The entity was loaded from a state in which the order was intact, and not cancelled unless it is now. -/
structure Loaded (o storeId : Uuid) (items : List OrderItem) (ofStore : Uuid) (id : RouteId) (entity : OrderEntity)
    (db : Database) : Prop where
  intact : Intact o storeId items db
  earlier : ∃ earlier uuid row, Intact o storeId items earlier ∧
    (earlier.isCancelled o = true → db.isCancelled o = true) ∧
    id = some uuid ∧ earlier.findOrder uuid ofStore = some row ∧ entity = earlier.loadItems row

theorem body_findOneOrder (ofStore : Uuid) (id : RouteId) (idle : Idle session) (intact : Intact o storeId items db) :
    shop.Body C (fun entity session db => Idle session ∧ Loaded o storeId items ofStore id entity db)
      (OrdersService.findOne ofStore id) session db := by
  unfold OrdersService.findOne
  refine Engine.body_perform_bind fun db found writes interferes _ executed => ?_
  have intact := (rely _ _ interferes.allowed intact).1
  cases id with
  | none => cases executed
  | some uuid =>
    obtain ⟨isFound, noWrites⟩ : found = (db.findOrder uuid ofStore).map db.loadItems ∧ writes = [] := by
      cases executed
      rw [idle.view]
      exact ⟨rfl, rfl⟩
    subst noWrites
    cases found with
    | none => exact Engine.body_throw _ _ _
    | some entity =>
      obtain ⟨row, isRow, isLoaded⟩ := Option.map_eq_some_iff.mp isFound.symm
      refine Engine.body_done fun after interferes => ⟨idle.read (by rfl) _ _, ?_⟩
      have kept := rely _ _ interferes.allowed intact
      exact ⟨kept.1, db, uuid, row, intact, kept.2, rfl, isRow, isLoaded.symm⟩

/-- `updateStatus` of another order. -/
theorem body_updateStatus_bystands (env : Environment) (ofStore : Uuid) {id : RouteId} (dto : UpdateOrderStatusDto)
    (other : id ≠ some o) (idle : Idle session) (intact : Intact o storeId items db) :
    shop.Body C (fun _ => Bystander o storeId items) (OrdersService.updateStatus env ofStore id dto) session db := by
  unfold OrdersService.updateStatus
  refine (body_findOneOrder rely ofStore id idle intact).bind fun entity session db ⟨idle, loaded⟩ => ?_
  obtain ⟨intact, earlier, uuid, row, wasIntact, -, rfl, isRow, rfl⟩ := loaded
  obtain ⟨-, rfl, -⟩ := Database.findOrder_eq_some isRow
  have differs : row.id ≠ o := fun same => other (congrArg some same)
  have otherItem : ∀ item ∈ earlier.itemsOf row.id, item.orderId ≠ o ∧ item.id ∉ items.map OrderItem.id := by
    intro item present
    obtain ⟨inTable, ofRow⟩ := Database.mem_itemsOf.mp present
    have otherOrder : item.orderId ≠ o := by rw [ofRow]; exact differs
    exact ⟨otherOrder, mt (wasIntact.orderId_of_id inTable).mp otherOrder⟩
  refine body_bystands rely ?_ (idle.bystander intact)
  refine Program.Only.bind ?_ fun _ => (only_saveOrder env _).imp fun op saves => ?_
  · split
    next => exact (only_restock env ofStore _).imp fun _ ⟨_, _, isIncrement⟩ => by rw [isIncrement]; trivial
    next => trivial
  · cases saves with
    | reselect | insert => trivial
    | insertItems => exact fun item present => (otherItem item present).1
    | updateStatus => exact differs
    | updateItem present => exact (otherItem _ present).2

/-- What a cancellation of the order has restocked: nothing, if it saw that the order is cancelled, or all. -/
def RestockedAll (o : Uuid) (items : List OrderItem) (session : ShopSession) (db : Database) : Prop :=
  (db.isCancelled o = true ∧ ∀ p, restockedIn p session.log = 0) ∨
    ∀ p, restockedIn p session.log = quantityOf p items

/-- `updateStatus` of the order. -/
theorem body_updateStatus_order (env : Environment) (ofStore : Uuid) (dto : UpdateOrderStatusDto)
    (idle : Idle session) (intact : Intact o storeId items db) :
    shop.Body C (fun _ session db => (∃ amount, Ended o storeId items dto.status amount session db) ∧
      (dto.status = .cancelled → RestockedAll o items session db))
      (OrdersService.updateStatus env ofStore (some o) dto) session db := by
  unfold OrdersService.updateStatus
  refine (body_findOneOrder rely ofStore (some o) idle intact).bind fun entity session db ⟨idle, loaded⟩ => ?_
  obtain ⟨intact, earlier, uuid, row, wasIntact, stays, isO, isRow, rfl⟩ := loaded
  cases isO
  obtain ⟨present, rowId, rfl⟩ := Database.findOrder_eq_some isRow
  obtain ⟨stored, isStored, rfl⟩ := wasIntact.order
  obtain rfl : row = stored := Option.some.inj (present.symm.trans isStored)
  have sameItems : (earlier.loadItems row).items = items := by
    rw [Database.loadItems, rowId]
    exact wasIntact.sameItems
  have nothing : Restocking o row.storeId items (fun _ => 0) session db := ⟨idle.bystander intact, idle.nothing⟩
  rw [sameItems]
  by_cases newly : OrdersService.isNewlyCancelled dto (earlier.loadItems row).order = true
  · have restocks : shop.Body C (fun _ => Restocking o row.storeId items fun p => 0 + quantityOf p items)
        (OrdersService.restock env row.storeId items) session db := body_restock rely env (fun _ => id) nothing
    rw [if_pos newly]
    refine restocks.bind fun _ session db restocking => ?_
    refine (body_saveStatus rely env rowId rfl restocking).imp fun _ session db ended => ⟨⟨_, ended⟩, fun _ => .inr ?_⟩
    exact fun p => (ended.restocked p).trans (Int.zero_add _)
  · rw [if_neg newly]
    have saves : shop.Body C (fun _ => Ended o row.storeId items dto.status fun _ => 0)
        (OrdersService.save env ⟨{ row with status := dto.status }, items⟩) session db :=
      body_saveStatus rely env rowId rfl nothing
    by_cases cancels : dto.status = .cancelled
    · -- the order it read was cancelled already, and stays so
      have wasCancelled : row.status = .cancelled := by
        simpa [OrdersService.isNewlyCancelled, cancels, Database.loadItems] using newly
      have isCancelled : db.isCancelled o = true := by
        refine stays ?_
        rw [Database.isCancelled, present]
        simpa using wasCancelled
      have keeps (before after : Database) (allowed : C.rely before after)
          (fact : Intact o row.storeId items before ∧ before.isCancelled o = true) :
          Intact o row.storeId items after ∧ after.isCancelled o = true :=
        ⟨(rely _ _ allowed fact.1).1, (rely _ _ allowed fact.1).2 fact.2⟩
      exact (saves.frame keeps ⟨intact, isCancelled⟩).imp fun _ session db ended =>
        ⟨⟨_, ended.1⟩, fun _ => .inl ⟨ended.2.2, ended.1.restocked⟩⟩
    · exact saves.imp fun _ session db ended => ⟨⟨_, ended⟩, fun isCancelled => absurd isCancelled cancels⟩

end Bodies

end Race

end StoreSaas
