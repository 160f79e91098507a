import StoreSaas.Library.LockOrder
import StoreSaas.Library.Obligations
import StoreSaas.Verified.RestockedOnce

/-! # The order in which orders lock products

`create` locks the products of its lines one after the other, `updateStatus` those of the
items it restocks, and both keep the locks to the end.  Nothing in the code sorts the
lines, so two orders can wait for each other (`not_noProductDeadlock`).  If there is one ranking
of the products that every list follows, no set of orders and cancellations deadlocks
(`noProductDeadlock_of_ascending`): `LocksUpTo` says how far a transaction has climbed.

An order that was read has to be as it was when it is saved, or `save` would lock products
again; `Files` is what every pending write owes for that.
-/

namespace StoreSaas

def RowKey.isProduct : RowKey → Bool
  | .product _ => true
  | _ => false

/-- The rank of a product's row. -/
def RowKey.rank (rank : Uuid → Nat) : RowKey → Nat
  | .product p => rank p
  | _ => 0

/-- The products come in the order of their ranks, each as often as it likes. -/
def Ascending (rank : Uuid → Nat) (products : List Uuid) : Prop :=
  products.Pairwise fun p q => p = q ∨ rank p < rank q

instance (rank : Uuid → Nat) (products : List Uuid) : Decidable (Ascending rank products) :=
  inferInstanceAs (Decidable (List.Pairwise _ _))

def HasLocked (session : ShopSession) (p : Uuid) : Prop := ∃ lock ∈ session.held, lock.key = .product p

section Locks

variable {rank : Uuid → Nat} {mode : LockMode} {rest fewer : List Uuid} {next : Option Uuid} {session : ShopSession}
  {db : Database} {needs : List (RowLock RowKey)}

/-- The transaction has locked products in this mode, and none that ranks above the rest of its list. -/
structure LocksUpTo (rank : Uuid → Nat) (mode : LockMode) (rest : List Uuid) (session : ShopSession) : Prop where
  strong : ∀ p, HasLocked session p → ∃ own ∈ session.held, own.Covers ⟨.product p, mode⟩
  below : ∀ p, HasLocked session p → ∀ q ∈ rest, p = q ∨ rank p < rank q

/-- On products, the locks are one on `next` in this mode and weaker ones where there are locks already. -/
def Asks (mode : LockMode) (next : Option Uuid) (session : ShopSession) (needs : List (RowLock RowKey)) : Prop :=
  ∀ need ∈ needs, ∀ p, need.key = .product p →
    (next = some p ∧ need.mode = mode) ∨ (HasLocked session p ∧ mode.covers need.mode = true)

theorem asks_of_none (none : ∀ need ∈ needs, need.key.isProduct = false) : Asks mode next session needs := by
  intro need needed p isP
  have noProduct := none need needed
  rw [isP] at noProduct
  cases noProduct

theorem LockMode.covers_self (mode : LockMode) : mode.covers mode = true := by cases mode <;> rfl

theorem LocksUpTo.climbs (locks : LocksUpTo rank mode rest session) (asks : Asks mode next session needs)
    (inRest : ∀ p, next = some p → p ∈ rest) :
    Engine.Climbs (fun key : RowKey => key.isProduct = true) (RowKey.rank rank) session.held needs := by
  intro need needed isProduct
  obtain ⟨key, needMode⟩ := need
  cases key with
  | product p =>
    have covered (modes : mode.covers needMode = true) (locked : HasLocked session p) :
        ∃ own ∈ session.held, own.Covers (⟨.product p, needMode⟩ : RowLock RowKey) := by
      obtain ⟨own, held, isKey, ownMode⟩ := locks.strong p locked
      refine ⟨own, held, isKey, ?_⟩
      revert modes ownMode
      cases own.mode <;> cases mode <;> cases needMode <;> simp [LockMode.covers]
    rcases asks _ needed p rfl with ⟨isNext, rfl⟩ | ⟨locked, modes⟩
    · by_cases locked : HasLocked session p
      · exact .inl (covered (LockMode.covers_self _) locked)
      · refine .inr fun lock held isLock => ?_
        obtain ⟨lockKey, lockMode⟩ := lock
        cases lockKey with
        | product q =>
          have isLocked : HasLocked session q := ⟨_, held, rfl⟩
          refine (locks.below q isLocked p (inRest p isNext)).resolve_left ?_
          rintro rfl
          exact locked isLocked
        | _ => cases isLock
    · exact .inl (covered modes locked)
  | _ => cases isProduct

theorem LocksUpTo.afterQuery (locks : LocksUpTo rank mode rest session) {op : Statement} {view : Database}
    {writes : List DbWrite} (asks : Asks mode next session (shop.locksOf op view writes)) (reply : op.Reply)
    (fewer_sub : ∀ q ∈ fewer, q ∈ rest) (ascends : ∀ p, next = some p → ∀ q ∈ fewer, p = q ∨ rank p < rank q) :
    LocksUpTo rank mode fewer (shop.afterQuery session op view reply writes) := by
  have before {p : Uuid} (locked : HasLocked (shop.afterQuery session op view reply writes) p) :
      (∃ need ∈ shop.locksOf op view writes, need.key = .product p ∧ next = some p ∧ need.mode = mode) ∨
        HasLocked session p := by
    obtain ⟨lock, held, isP⟩ := locked
    rcases List.mem_append.mp held with now | earlier
    · exact (asks lock now p isP).imp (fun isNext => ⟨lock, now, isP, isNext⟩) And.left
    · exact .inr ⟨lock, earlier, isP⟩
  refine ⟨fun p locked => ?_, fun p locked q inFewer => ?_⟩
  · rcases before locked with ⟨need, now, isP, -, isMode⟩ | earlier
    · refine ⟨need, List.mem_append_left _ now, isP, ?_⟩
      rw [isMode]
      exact LockMode.covers_self mode
    · obtain ⟨own, held, covers⟩ := locks.strong p earlier
      exact ⟨own, List.mem_append_right _ held, covers⟩
  · rcases before locked with ⟨-, -, -, isNext, -⟩ | earlier
    · exact ascends p isNext q inFewer
    · exact locks.below p earlier q (fewer_sub q inFewer)

theorem HasLocked.afterQuery {p : Uuid} (locked : HasLocked session p) (op : Statement) (view : Database)
    (reply : op.Reply) (writes : List DbWrite) : HasLocked (shop.afterQuery session op view reply writes) p := by
  obtain ⟨lock, held, isP⟩ := locked
  exact ⟨lock, List.mem_append_right _ held, isP⟩

/-- What each operation owes: it asks only for products that rank above those it has locked. -/
def lockDebt (rank : Uuid → Nat) (session : ShopSession) (op : RequestOp statements) (db : Database) : Prop :=
  Engine.Climbs (fun key : RowKey => key.isProduct = true) (RowKey.rank rank) session.held
    (shop.perform session db op).needs

theorem LocksUpTo.owed (locks : LocksUpTo rank mode rest session) {op : Statement}
    (asks : ∀ reply writes, shop.execute op (shop.view db session) = .ok (reply, writes) →
      Asks mode next session (shop.locksOf op (shop.view db session) writes))
    (inRest : ∀ p, next = some p → p ∈ rest) : lockDebt rank session (.query op) db := by
  unfold lockDebt
  cases executed : shop.execute op (shop.view db session) with
  | ok result =>
    rw [Engine.perform_query_ok executed]
    exact locks.climbs (asks _ _ executed) inRest
  | error error =>
    rw [Engine.perform_query_error executed]
    exact List.forall_mem_nil _

/-- An operation that locks no product. -/
theorem LocksUpTo.owed_none (locks : LocksUpTo rank mode rest session) {op : Statement}
    (none : ∀ reply writes, shop.execute op (shop.view db session) = .ok (reply, writes) →
      ∀ need ∈ shop.locksOf op (shop.view db session) writes, need.key.isProduct = false) :
    lockDebt rank session (.query op) db := by
  have asks (reply : op.Reply) (writes : List DbWrite)
      (executed : shop.execute op (shop.view db session) = .ok (reply, writes)) :
      Asks mode Option.none session (shop.locksOf op (shop.view db session) writes) :=
    asks_of_none (none reply writes executed)
  exact locks.owed asks fun _ isNext => nomatch isNext

/-! ## The locks of the statements -/

theorem asks_select {p storeId : Uuid} {view : Database} (session : ShopSession) :
    Asks .update (some p) session (shop.locksOf (.product (.selectForUpdate p storeId)) view []) := by
  intro need needed q isQ
  rw [Engine.locksOf, List.map_nil, List.append_nil] at needed
  change need ∈ ((view.findProduct p storeId).map _).toList at needed
  obtain ⟨row, found, rfl⟩ := Option.map_eq_some_iff.mp (Option.mem_toList.mp needed)
  obtain ⟨-, rfl, -⟩ := Database.findProduct_eq_some found
  cases isQ
  exact .inl ⟨rfl, rfl⟩

theorem asks_increment {p storeId : Uuid} {quantity : Nat} {now : Timestamp} {view : Database}
    {reply : (Statement.product (.increment p storeId quantity now)).Reply} {writes : List DbWrite}
    (session : ShopSession)
    (executed : shop.execute (.product (.increment p storeId quantity now)) view = .ok (reply, writes)) :
    Asks .noKeyUpdate (some p) session (shop.locksOf (.product (.increment p storeId quantity now)) view writes) := by
  obtain ⟨-, -, rfl⟩ | ⟨row, found, -, rfl⟩ := ProductStatement.execute_increment executed
  · exact fun _ needed => nomatch needed
  · obtain ⟨-, isP, -⟩ := Database.findProduct_eq_some found
    intro need needed q isQ
    obtain rfl : need = ⟨.product row.id, .noKeyUpdate⟩ := List.mem_singleton.mp needed
    cases isQ
    exact .inl ⟨congrArg some isP.symm, rfl⟩

theorem isProduct_referenceLocks {keys : List RowKey} (none : ∀ key ∈ keys, key.isProduct = false) :
    ∀ need ∈ referenceLocks keys, need.key.isProduct = false := by
  intro need needed
  obtain ⟨key, present, rfl⟩ := List.mem_map.mp needed
  exact none key present

/-- `save` locks the product's row once more. -/
theorem asks_saveProduct {env : Environment} {entity : ProductEntity} {op : Statement} (saves : SavesProduct env entity op)
    (locked : HasLocked session entity.id) (covers : mode.covers .noKeyUpdate = true) {view : Database}
    {reply : op.Reply} {writes : List DbWrite} (executed : shop.execute op view = .ok (reply, writes)) :
    (∀ write ∈ writes, ∃ change, write = .product change) ∧ Asks mode next session (shop.locksOf op view writes) := by
  have written {row : Product} (isEntity : row.id = entity.id) (references : List RowKey)
      (none : ∀ key ∈ references, key.isProduct = false) :
      Asks mode next session (referenceLocks references ++ [shop.lockOf (.product (.put row))]) := by
    intro need needed p isP
    rcases List.mem_append.mp needed with refers | writesRow
    · exact asks_of_none (isProduct_referenceLocks none) need refers p isP
    · obtain rfl : need = ⟨.product row.id, .noKeyUpdate⟩ := List.mem_singleton.mp writesRow
      cases isP
      exact .inr ⟨isEntity ▸ locked, covers⟩
  have noCategory (category : Option Uuid) : ∀ key ∈ (category.map RowKey.category).toList, key.isProduct = false := by
    cases category <;> simp [RowKey.isProduct]
  cases saves with
  | reselect =>
    cases executed
    exact ⟨fun _ made => (nomatch made), fun _ needed => (nomatch needed)⟩
  | insert =>
    obtain ⟨row, isRow, -, rfl⟩ := ProductStatement.execute_insert executed
    obtain ⟨isEntity, -⟩ := ProductEntity.toRow?_eq_some isRow
    refine ⟨fun write made => ⟨_, List.mem_singleton.mp made⟩, written isEntity _ ?_⟩
    exact List.forall_mem_cons.mpr ⟨rfl, noCategory _⟩
  | update changes =>
    obtain ⟨-, rfl⟩ | ⟨row, new, found, applied, -, rfl⟩ := ProductStatement.execute_update executed
    · refine ⟨fun _ made => (nomatch made), ?_⟩
      rw [Engine.locksOf, List.map_nil, List.append_nil]
      exact asks_of_none (isProduct_referenceLocks (noCategory _))
    · obtain ⟨sameId, -⟩ := ProductChanges.applyTo?_eq_some applied
      refine ⟨fun write made => ⟨_, List.mem_singleton.mp made⟩, written ?_ _ (noCategory _)⟩
      exact sameId.trans (Table.key_of_find found)

/-- The items of a new order refer to products that are locked. -/
theorem asks_insertItems {rows : List OrderItem} (locked : ∀ row ∈ rows, ∀ p, row.productId = some p → HasLocked session p)
    (covers : mode.covers .keyShare = true) {view : Database} {writes : List DbWrite}
    (areItems : ∀ write ∈ writes, ∃ change, write = .orderItem change) :
    Asks mode next session (shop.locksOf (.order (.insertItems rows)) view writes) := by
  intro need needed p isP
  rcases List.mem_append.mp needed with refers | writesRow
  · obtain ⟨key, present, rfl⟩ := List.mem_map.mp refers
    obtain ⟨row, isRow, inRow⟩ := List.mem_flatMap.mp present
    obtain rfl : key = .product p := isP
    rcases List.mem_cons.mp inRow with isOrder | isProduct
    · cases isOrder
    · obtain ⟨id, isId, same⟩ := Option.map_eq_some_iff.mp (Option.mem_toList.mp isProduct)
      cases same
      exact .inr ⟨locked row isRow p isId, covers⟩
  · obtain ⟨write, made, rfl⟩ := List.mem_map.mp writesRow
    obtain ⟨change, rfl⟩ := areItems write made
    cases isP

end Locks

/-! ## What pending writes leave of the orders -/

section Files

variable {session : ShopSession} {db after : Database} {rely : Database → Database → Prop}

/-- A pending write that takes no order out of its store and changes no items of one that exists. -/
def Files (session : ShopSession) (db : Database) : DbWrite → Prop
  | .order (.put row) => Owns session (.order row.id) ∧
      ∀ stored, db.orders.find row.id = some stored → stored.storeId = row.storeId
  | .orderItem (.put row) => (Owns session (.orderItem row.id) ∧ db.orderItems.find row.id = none) ∧
      Owns session (.order row.orderId) ∧ db.orders.find row.orderId = none
  | .order (.erase _) | .orderItem (.erase _) => False
  | _ => True

/-- Every order stays in its store, with its items. -/
def KeepsFiled (before after : Database) : Prop :=
  ∀ o storeId items, Filed o storeId items before → Filed o storeId items after

theorem files_product (change : Table.RowWrite Product Uuid) : Files session db (.product change) := trivial

theorem Files.stable {write : DbWrite} (files : Files session db write)
    (interferes : shop.Interferes rely session.held db after) : Files session after write := by
  have sameOrder {id : Uuid} (owns : Owns session (.order id)) : after.orders.find id = db.orders.find id :=
    (view_of_owns owns interferes).1
  have sameItem {id : Uuid} (owns : Owns session (.orderItem id)) : after.orderItems.find id = db.orderItems.find id :=
    (view_of_owns owns interferes).1
  cases write with
  | order change =>
    cases change with
    | put row => exact ⟨files.1, by rw [sameOrder files.1]; exact files.2⟩
    | erase id => exact files
  | orderItem change =>
    cases change with
    | put row =>
      obtain ⟨⟨ownsItem, newItem⟩, ownsOrder, newOrder⟩ := files
      exact ⟨⟨ownsItem, (sameItem ownsItem).trans newItem⟩, ownsOrder, (sameOrder ownsOrder).trans newOrder⟩
    | erase id => exact files
  | _ => trivial

theorem Files.afterQuery {write : DbWrite} (files : Files session db write) (op : Statement) (view : Database)
    (reply : op.Reply) (writes : List DbWrite) : Files (shop.afterQuery session op view reply writes) db write := by
  cases write with
  | order change =>
    cases change with
    | put row => exact ⟨StockTally.owns_afterQuery files.1 op view reply writes, files.2⟩
    | erase id => exact files
  | orderItem change =>
    cases change with
    | put row =>
      obtain ⟨⟨ownsItem, newItem⟩, ownsOrder, newOrder⟩ := files
      exact ⟨⟨StockTally.owns_afterQuery ownsItem op view reply writes, newItem⟩,
        StockTally.owns_afterQuery ownsOrder op view reply writes, newOrder⟩
    | erase id => exact files
  | _ => trivial

/-- What a commit of such writes does. -/
theorem keepsFiled_view (files : ∀ write ∈ session.pending, Files session db write) :
    KeepsFiled db (shop.view db session) := by
  intro o storeId items filed
  refine filed.applyAll fun write pending => ?_
  have isFile := files write pending
  cases write with
  | product change => exact .inl ⟨change, rfl⟩
  | order change =>
    cases change with
    | put row =>
      refine .inr fun isO => ?_
      obtain ⟨stored, found, inStore⟩ := filed.order
      subst isO
      exact (isFile.2 stored found).symm.trans inStore
    | erase id => exact isFile.elim
  | orderItem change =>
    cases change with
    | put row => exact .inr ⟨filed.ne_of_absent isFile.2.2, filed.not_item_of_absent isFile.1.2⟩
    | erase id => exact isFile.elim
  | _ => exact .inr trivial

/-- A row that a transaction with such writes does not see is not there. -/
theorem absent_of_view (files : ∀ write ∈ session.pending, Files session db write) {key : RowKey}
    (isOrder : (∃ id, key = .order id) ∨ ∃ id, key = .orderItem id) (absent : (shop.view db session).row key = none) :
    db.row key = none := by
  by_contra present
  have kept : ∀ write ∈ session.pending, write.key = key → write.value.isSome = true := by
    intro write pending isKey
    have isFile := files write pending
    cases write with
    | order change => cases change with
      | put row => rfl
      | erase id => exact isFile.elim
    | orderItem change => cases change with
      | put row => rfl
      | erase id => exact isFile.elim
    | _ =>
      subst isKey
      rcases isOrder with ⟨id, same⟩ | ⟨id, same⟩ <;> cases same
  have stays : ((shop.view db session).row key).isSome = true :=
    shop.isSome_get_applyAll (Option.isSome_iff_ne_none.mpr present) kept
  rw [absent] at stays
  cases stays

end Files

/-! ## The transactions -/

section Bodies

variable {C : ShopContract} {rank : Uuid → Nat} {mode : LockMode} {locked rest fewer : List Uuid}
  {next : Option Uuid} {session : ShopSession} {db after : Database}

/-- A transaction on its way through its products: it has locked these, and the rest is to come. -/
structure OnTheWay (rank : Uuid → Nat) (mode : LockMode) (locked rest : List Uuid) (session : ShopSession)
    (db : Database) : Prop where
  locks : LocksUpTo rank mode rest session
  hasLocked : ∀ p ∈ locked, HasLocked session p
  files : ∀ write ∈ session.pending, Files session db write

namespace OnTheWay

theorem stable (onTheWay : OnTheWay rank mode locked rest session db)
    (interferes : shop.Interferes C.rely session.held db after) : OnTheWay rank mode locked rest session after :=
  ⟨onTheWay.locks, onTheWay.hasLocked, fun write pending => (onTheWay.files write pending).stable interferes⟩

theorem more (onTheWay : OnTheWay rank mode locked rest session db) {p : Uuid} (isLocked : HasLocked session p) :
    OnTheWay rank mode (p :: locked) rest session db :=
  ⟨onTheWay.locks, List.forall_mem_cons.mpr ⟨isLocked, onTheWay.hasLocked⟩, onTheWay.files⟩

theorem failed (onTheWay : OnTheWay rank mode locked rest session db) (op : RequestOp statements) (error : ApiError) :
    OnTheWay rank mode locked rest { session with log := ⟨op, .error error⟩ :: session.log } db :=
  ⟨⟨onTheWay.locks.strong, onTheWay.locks.below⟩, onTheWay.hasLocked, fun write pending => by
    have files := onTheWay.files write pending
    cases write with
    | order change => cases change <;> exact files
    | orderItem change => cases change <;> exact files
    | _ => trivial⟩

theorem afterQuery (onTheWay : OnTheWay rank mode locked rest session db) {op : Statement} {writes : List DbWrite}
    (asks : Asks mode next session (shop.locksOf op (shop.view db session) writes)) (reply : op.Reply)
    (fewer_sub : ∀ q ∈ fewer, q ∈ rest) (ascends : ∀ p, next = some p → ∀ q ∈ fewer, p = q ∨ rank p < rank q)
    (files : ∀ write ∈ writes, Files (shop.afterQuery session op (shop.view db session) reply writes) db write) :
    OnTheWay rank mode locked fewer (shop.afterQuery session op (shop.view db session) reply writes) db where
  locks := onTheWay.locks.afterQuery asks reply fewer_sub ascends
  hasLocked p isLocked := (onTheWay.hasLocked p isLocked).afterQuery op _ reply writes
  files write pending := by
    rcases List.mem_append.mp pending with earlier | now
    · exact (onTheWay.files write earlier).afterQuery op _ reply writes
    · exact files write now

/-- A statement that locks no product it has not locked yet. -/
theorem stay (onTheWay : OnTheWay rank mode locked rest session db) {op : Statement} {writes : List DbWrite}
    (asks : Asks mode none session (shop.locksOf op (shop.view db session) writes)) (reply : op.Reply)
    (files : ∀ write ∈ writes, Files (shop.afterQuery session op (shop.view db session) reply writes) db write) :
    OnTheWay rank mode locked rest (shop.afterQuery session op (shop.view db session) reply writes) db :=
  onTheWay.afterQuery asks reply (fun _ => id) (fun _ isNext => nomatch isNext) files

theorem owed (onTheWay : OnTheWay rank mode locked rest session db) {op : Statement}
    (asks : ∀ reply writes, shop.execute op (shop.view db session) = .ok (reply, writes) →
      Asks mode none session (shop.locksOf op (shop.view db session) writes)) : lockDebt rank session (.query op) db :=
  onTheWay.locks.owed asks fun _ isNext => nomatch isNext

end OnTheWay

/-- A body whose statements lock no product that is not locked, and write nothing about orders. -/
theorem meets_staying {α : Type} {body : Tx α} {allowed : Statement → Prop} (only : body.Only allowed)
    (stays : ∀ op session db reply writes, allowed op → OnTheWay rank mode locked rest session db →
      shop.execute op (shop.view db session) = .ok (reply, writes) →
      (∀ write ∈ writes, ∀ session db, Files session db write) ∧
        Asks mode none session (shop.locksOf op (shop.view db session) writes))
    (onTheWay : OnTheWay rank mode locked rest session db) :
    shop.MeetsBody C (lockDebt rank) (fun _ => OnTheWay rank mode locked rest) body session db :=
  Engine.meetsBody_of_only (fun _ _ _ onTheWay => onTheWay.stable)
    (fun session db op isAllowed onTheWay => onTheWay.owed fun reply writes executed =>
      (stays op session db reply writes isAllowed onTheWay executed).2)
    (fun session db op reply writes isAllowed onTheWay executed =>
      have stay := stays op session db reply writes isAllowed onTheWay executed
      onTheWay.stay stay.2 reply fun write made => stay.1 write made _ _)
    (fun _ _ op error _ onTheWay => onTheWay.failed (.query op) error) only onTheWay

/-! ### Creating an order -/

/-- One line: the lock is taken, and the rest of the list ranks above it. -/
theorem meets_takeLine (env : Environment) (storeId : Uuid) (line : CreateOrderItemDto)
    (ascends : ∀ q ∈ rest, line.productId.id = q ∨ rank line.productId.id < rank q)
    (onTheWay : OnTheWay rank .update locked (line.productId.id :: rest) session db) :
    shop.MeetsBody C (lockDebt rank) (fun item => OnTheWay rank .update (item.productId :: locked) rest)
      (OrdersService.takeLine env storeId line) session db := by
  unfold OrdersService.takeLine
  refine Engine.meetsBody_perform_bind (fun _ _ _ onTheWay => onTheWay.stable) onTheWay (fun db onTheWay => ?_)
    fun db selected writes onTheWay _ executed => ?_
  · have asks (reply : Option Product) (writes : List DbWrite)
        (executed : shop.execute (.product (.selectForUpdate line.productId.id storeId)) (shop.view db session) =
          .ok (reply, writes)) :
        Asks .update (some line.productId.id) session
          (shop.locksOf (.product (.selectForUpdate line.productId.id storeId)) (shop.view db session) writes) := by
      cases executed
      exact asks_select session
    refine onTheWay.locks.owed asks fun p isNext => ?_
    cases isNext
    exact List.mem_cons_self
  cases executed
  cases found : (shop.view db session).findProduct line.productId.id storeId with
  | none => exact Engine.meetsBody_throw _ _ _
  | some product =>
    obtain ⟨-, isProduct, -⟩ := Database.findProduct_eq_some found
    dsimp only
    split
    next => exact Engine.meetsBody_throw _ _ _
    next =>
      have climbed : OnTheWay rank .update locked rest
          (shop.afterQuery session (.product (.selectForUpdate line.productId.id storeId)) (shop.view db session)
            (some product) []) db :=
        onTheWay.afterQuery (asks_select session) _ (fun q inRest => List.mem_cons_of_mem _ inRest)
          (fun p isNext => by cases isNext; exact ascends) fun _ made => nomatch made
      -- the statement has locked the row it found
      have isLocked : HasLocked (shop.afterQuery session (.product (.selectForUpdate line.productId.id storeId))
          (shop.view db session) (some product) []) product.id := by
        refine ⟨⟨.product product.id, .update⟩, List.mem_append_left _ (List.mem_append_left _ ?_), rfl⟩
        change _ ∈ (((shop.view db session).findProduct line.productId.id storeId).map _).toList
        rw [found]
        exact List.mem_singleton_self _
      have taken := climbed.more isLocked
      refine Engine.MeetsBody.bind (meets_staying (only_saveProduct_saves env _)
        (fun op session db reply writes saves taken executed => ?_) taken) fun _ session db taken after interferes =>
          taken.stable interferes
      have covers : LockMode.update.covers .noKeyUpdate = true := rfl
      obtain ⟨products, asks⟩ : _ ∧ Asks .update none session _ :=
        asks_saveProduct saves (taken.hasLocked _ List.mem_cons_self) covers executed
      refine ⟨fun write made session db => ?_, asks⟩
      obtain ⟨change, rfl⟩ := products write made
      exact files_product change

theorem meets_takeLines (env : Environment) (storeId : Uuid) {lines : List CreateOrderItemDto} (total : Cents)
    {items : List OrdersService.NewItem} (ascends : Ascending rank (lines.map fun line => line.productId.id))
    (onTheWay : OnTheWay rank .update (items.map OrdersService.NewItem.productId)
      (lines.map fun line => line.productId.id) session db) :
    shop.MeetsBody C (lockDebt rank)
      (fun taken => OnTheWay rank .update (taken.2.map OrdersService.NewItem.productId) [])
      (OrdersService.takeLines env storeId lines total items) session db := by
  induction lines generalizing total items session db with
  | nil => exact fun after interferes => onTheWay.stable interferes
  | cons line rest ih =>
    obtain ⟨first, others⟩ := List.pairwise_cons.mp ascends
    unfold OrdersService.takeLines
    refine (meets_takeLine env storeId line first onTheWay).bind fun item session db taken => ih _ others ?_
    refine ⟨taken.locks, fun p isItem => taken.hasLocked p ?_, taken.files⟩
    rw [List.map_append, List.mem_append] at isItem
    exact isItem.elim (List.mem_cons_of_mem _) fun isLast => List.mem_singleton.mp isLast ▸ List.mem_cons_self

/-- The order's row is the transaction's own, and new. -/
def IsNew (o : Uuid) (session : ShopSession) (db : Database) : Prop :=
  Owns session (.order o) ∧ db.orders.find o = none

theorem IsNew.stable {o : Uuid} (isNew : IsNew o session db) (interferes : shop.Interferes C.rely session.held db after) :
    IsNew o session after :=
  ⟨isNew.1, ((view_of_owns isNew.1 interferes).1 : after.orders.find o = db.orders.find o).trans isNew.2⟩

theorem asks_insertOrder (row : Order) (view : Database) :
    Asks mode none session (shop.locksOf (.order (.insert row)) view [.order (.put row)]) := by
  refine asks_of_none fun need needed => ?_
  rcases List.mem_append.mp needed with refers | writesRow
  · exact isProduct_referenceLocks (fun key present => by rw [List.mem_singleton.mp present]; rfl) need refers
  · rw [List.mem_singleton.mp writesRow]
    rfl

/-- The row of the new order. -/
theorem OnTheWay.insertOrder (onTheWay : OnTheWay rank mode locked rest session db) {row : Order}
    (unseen : (shop.view db session).orders.find row.id = none) (reply : (Statement.order (.insert row)).Reply) :
    OnTheWay rank mode locked rest
        (shop.afterQuery session (.order (.insert row)) (shop.view db session) reply [.order (.put row)]) db ∧
      IsNew row.id
        (shop.afterQuery session (.order (.insert row)) (shop.view db session) reply [.order (.put row)]) db := by
  have absent : db.orders.find row.id = none := absent_of_view onTheWay.files (.inl ⟨row.id, rfl⟩) unseen
  have owns : Owns (shop.afterQuery session (.order (.insert row)) (shop.view db session) reply [.order (.put row)])
      (.order row.id) :=
    ⟨⟨.order row.id, .noKeyUpdate⟩, List.mem_append_left _ (List.mem_append_right _ (List.mem_singleton_self _)),
      rfl, by simp⟩
  refine ⟨onTheWay.stay (asks_insertOrder row _) reply (List.forall_mem_singleton.mpr ⟨owns, ?_⟩), owns, absent⟩
  exact fun stored found => nomatch absent.symm.trans found

/-- The rows of its items. -/
theorem OnTheWay.insertItems {o : Uuid} (onTheWay : OnTheWay rank mode locked rest session db)
    (isNew : IsNew o session db) {rows : List OrderItem} (ofOrder : ∀ row ∈ rows, row.orderId = o)
    (asks : Asks mode none session
      (shop.locksOf (.order (.insertItems rows)) (shop.view db session) (rows.map fun row => .orderItem (.put row))))
    (checked : (shop.view db session).checkItems rows = .ok ()) (reply : (Statement.order (.insertItems rows)).Reply) :
    OnTheWay rank mode locked rest (shop.afterQuery session (.order (.insertItems rows)) (shop.view db session) reply
      (rows.map fun row => .orderItem (.put row))) db := by
  refine onTheWay.stay asks reply fun write made => ?_
  obtain ⟨row, present, rfl⟩ := List.mem_map.mp made
  obtain ⟨unseen, -, -⟩ := Database.checkItem_ok ((Database.checkItems_ok checked).2 row present)
  have absent : db.orderItems.find row.id = none := absent_of_view onTheWay.files (.inr ⟨row.id, rfl⟩) unseen
  rw [← ofOrder row present] at isNew
  refine ⟨⟨⟨⟨.orderItem row.id, .noKeyUpdate⟩, ?_, rfl, by simp⟩, absent⟩,
    StockTally.owns_afterQuery isNew.1 _ _ reply _, isNew.2⟩
  exact List.mem_append_left _ (List.mem_append_right _ (List.mem_map_of_mem made))

theorem meets_create (env : Environment) (storeId : Uuid) {dto : CreateOrderDto}
    (ascends : Ascending rank (dto.items.map fun line => line.productId.id))
    (onTheWay : OnTheWay rank .update [] (dto.items.map fun line => line.productId.id) session db) :
    shop.MeetsBody C (lockDebt rank) (fun _ session db => ∀ write ∈ session.pending, Files session db write)
      (OrdersService.create env storeId dto) session db := by
  unfold OrdersService.create
  have takes : shop.MeetsBody C (lockDebt rank)
      (fun taken => OnTheWay rank .update (taken.2.map OrdersService.NewItem.productId) [])
      (OrdersService.takeLines env storeId dto.items 0 []) session db := meets_takeLines env storeId 0 ascends onTheWay
  refine takes.bind fun ⟨total, items⟩ session db onTheWay => ?_
  dsimp only at onTheWay ⊢
  refine Engine.meetsBody_perform_bind (fun _ _ _ onTheWay => onTheWay.stable) onTheWay
    (fun db onTheWay => onTheWay.owed fun reply writes executed => ?_) fun db reply writes onTheWay _ executed => ?_
  · obtain ⟨-, rfl⟩ := OrderStatement.execute_insert executed
    exact asks_insertOrder _ _
  obtain ⟨unseen, rfl⟩ := OrderStatement.execute_insert executed
  have asksItems {session : ShopSession} {db : Database}
      (onTheWay : OnTheWay rank .update (items.map OrdersService.NewItem.productId) [] session db) :
      Asks .update none session (shop.locksOf (.order (.insertItems (items.mapIdx (OrdersService.NewItem.toRow env))))
        (shop.view db session)
        ((items.mapIdx (OrdersService.NewItem.toRow env)).map fun row => .orderItem (.put row))) := by
    refine asks_insertItems (fun row present p isP => ?_) rfl fun write made => ?_
    · obtain ⟨position, below, rfl⟩ := List.mem_mapIdx.mp present
      cases isP
      exact onTheWay.hasLocked _ (List.mem_map_of_mem (List.getElem_mem below))
    · obtain ⟨row, -, rfl⟩ := List.mem_map.mp made
      exact ⟨_, rfl⟩
  refine Engine.meetsBody_perform_bind
    (fun _ _ _ both interferes => And.intro (both.1.stable interferes) (both.2.stable interferes))
    (onTheWay.insertOrder unseen reply) (fun db both => both.1.owed fun reply writes executed => ?_)
    fun db reply writes both _ executed => ?_
  · obtain ⟨-, rfl⟩ := OrderStatement.execute_insertItems executed
    exact asksItems both.1
  obtain ⟨checked, rfl⟩ := OrderStatement.execute_insertItems executed
  have ofOrder : ∀ row ∈ items.mapIdx (OrdersService.NewItem.toRow env), row.orderId = env.newId 0 := by
    intro row present
    obtain ⟨position, below, rfl⟩ := List.mem_mapIdx.mp present
    rfl
  have placed := both.1.insertItems both.2 ofOrder (asksItems both.1) checked reply
  -- the mail to the owner
  refine (meets_staying (only_notifyOwner env storeId _) (fun op session db reply writes isMail _ executed => ?_)
    placed).bind fun _ session db mailed after interferes => (mailed.stable interferes).files
  obtain ⟨mail, rfl⟩ := isMail
  have areMails := mail.execute_writes executed
  refine ⟨fun write made session db => ?_, asks_of_none fun need needed => ?_⟩
  · obtain ⟨change, rfl⟩ := areMails write made
    trivial
  · obtain ⟨write, made, rfl⟩ := List.mem_map.mp needed
    obtain ⟨change, rfl⟩ := areMails write made
    rfl

/-! ### Setting the status of an order -/

/-- A cancellation that has locked the products of some items, and sees the order as it read it. -/
structure Shelving (rank : Uuid → Nat) (o storeId : Uuid) (items rest : List OrderItem) (session : ShopSession)
    (db : Database) : Prop where
  locks : LocksUpTo rank .noKeyUpdate (rest.filterMap OrderItem.productId) session
  products : ∀ write ∈ session.pending, ∃ change, write = .product change
  filed : Filed o storeId items db

section UpdateStatus

variable {o storeId : Uuid} {items remaining : List OrderItem}

theorem Shelving.stable (keeps : ∀ before after, C.rely before after → KeepsFiled before after)
    (shelving : Shelving rank o storeId items remaining session db)
    (interferes : shop.Interferes C.rely session.held db after) :
    Shelving rank o storeId items remaining session after :=
  ⟨shelving.locks, shelving.products, keeps _ _ interferes.allowed _ _ _ shelving.filed⟩

theorem Shelving.view (shelving : Shelving rank o storeId items remaining session db) :
    Filed o storeId items (shop.view db session) :=
  shelving.filed.applyAll fun write pending => .inl (shelving.products write pending)

theorem meets_restock (keeps : ∀ before after, C.rely before after → KeepsFiled before after) (env : Environment)
    (ofStore : Uuid) (ascends : Ascending rank (remaining.filterMap OrderItem.productId))
    (shelving : Shelving rank o storeId items remaining session db) :
    shop.MeetsBody C (lockDebt rank) (fun _ => Shelving rank o storeId items [])
      (OrdersService.restock env ofStore remaining) session db := by
  induction remaining generalizing session db with
  | nil => exact fun after interferes => shelving.stable keeps interferes
  | cons item rest ih =>
    unfold OrdersService.restock
    cases isProduct : item.productId with
    | none =>
      have skipped : (item :: rest).filterMap OrderItem.productId = rest.filterMap OrderItem.productId :=
        List.filterMap_cons_none isProduct
      rw [skipped] at ascends
      exact ih ascends ⟨skipped ▸ shelving.locks, shelving.products, shelving.filed⟩
    | some p =>
      have listed : (item :: rest).filterMap OrderItem.productId = p :: rest.filterMap OrderItem.productId :=
        List.filterMap_cons_some isProduct
      rw [listed] at ascends
      obtain ⟨first, others⟩ := List.pairwise_cons.mp ascends
      refine Engine.meetsBody_perform_bind (fun _ _ _ shelving => shelving.stable keeps) shelving
        (fun db shelving => ?_) fun db reply writes shelving _ executed => ih others ?_
      · refine shelving.locks.owed (fun reply writes executed => asks_increment session executed) fun q isNext => ?_
        cases isNext
        rw [listed]
        exact List.mem_cons_self
      · refine ⟨shelving.locks.afterQuery (asks_increment session executed) reply (fun q inRest => ?_)
          (fun q isNext => by cases isNext; exact first), fun write pending => ?_, shelving.filed⟩
        · rw [listed]
          exact List.mem_cons_of_mem _ inRest
        · rcases List.mem_append.mp pending with earlier | now
          · exact shelving.products write earlier
          · obtain ⟨-, -, rfl⟩ | ⟨row, -, -, rfl⟩ := ProductStatement.execute_increment executed
            · cases now
            · exact ⟨_, List.mem_singleton.mp now⟩

/-- A read that locks nothing. -/
theorem Shelving.read (shelving : Shelving rank o storeId items remaining session db) {op : Statement}
    (noLocks : ∀ view, shop.locks op view = []) (reply : op.Reply) :
    Shelving rank o storeId items remaining (shop.afterQuery session op (shop.view db session) reply []) db where
  locks := by
    have asks : Asks .noKeyUpdate none session (shop.locksOf op (shop.view db session) []) := by
      rw [Engine.locksOf, noLocks]
      exact List.forall_mem_nil _
    exact shelving.locks.afterQuery asks reply (fun _ => id) fun _ isNext => nomatch isNext
  products write pending := by
    change write ∈ session.pending ++ [] at pending
    rw [List.append_nil] at pending
    exact shelving.products write pending
  filed := shelving.filed

theorem Shelving.files (shelving : Shelving rank o storeId items remaining session db) :
    ∀ write ∈ session.pending, Files session db write := by
  intro write pending
  obtain ⟨change, rfl⟩ := shelving.products write pending
  exact files_product change

/-- The `UPDATE` of the status leaves the order in its store. -/
theorem Shelving.updateStatus (shelving : Shelving rank o storeId items remaining session db) {status : OrderStatus}
    {now : Timestamp} {reply : (Statement.order (.updateStatus o status now)).Reply} {writes : List DbWrite}
    (executed : shop.execute (.order (.updateStatus o status now)) (shop.view db session) = .ok (reply, writes)) :
    ∀ write ∈ (shop.afterQuery session (.order (.updateStatus o status now)) (shop.view db session) reply writes).pending,
      Files (shop.afterQuery session (.order (.updateStatus o status now)) (shop.view db session) reply writes) db
        write := by
  intro write pending
  rcases List.mem_append.mp pending with earlier | made
  · exact (shelving.files write earlier).afterQuery _ _ reply writes
  · obtain ⟨-, rfl⟩ | ⟨row, found, rfl⟩ := OrderStatement.execute_updateStatus executed
    · cases made
    · have isO : row.id = o := Table.key_of_find found
      have untouched : (shop.view db session).orders.find o = db.orders.find o := by
        have noOrder (write : DbWrite) (pending : write ∈ session.pending) : write.key ≠ .order o := by
          obtain ⟨change, rfl⟩ := shelving.products write pending
          exact fun isOrder => nomatch isOrder
        exact shop.get_applyAll_of_untouched noOrder
      obtain rfl := List.mem_singleton.mp made
      refine ⟨⟨⟨.order row.id, .noKeyUpdate⟩, List.mem_append_left _ (List.mem_append_right _ ?_), rfl, by simp⟩,
        fun stored isStored => ?_⟩
      · exact List.mem_singleton_self _
      have seen : (shop.view db session).orders.find o = some stored := by
        rw [untouched, ← isO]
        exact isStored
      have isRow : stored = row := Option.some.inj (seen.symm.trans found)
      rw [isRow]

/-- `save` of the order with the items it was read with locks no product. -/
theorem meets_saveOrder (keeps : ∀ before after, C.rely before after → KeepsFiled before after) (env : Environment)
    {entity : OrderEntity} (isO : entity.order.id = o) (sameItems : entity.items = items)
    (shelving : Shelving rank o storeId items [] session db) :
    shop.MeetsBody C (lockDebt rank) (fun _ session db => ∀ write ∈ session.pending, Files session db write)
      (OrdersService.save env entity) session db := by
  subst isO sameItems
  unfold OrdersService.save
  refine Engine.meetsBody_perform_bind (fun _ _ _ shelving => shelving.stable keeps) shelving
    (fun db shelving => shelving.locks.owed_none fun _ _ executed => ?_) fun db found writes shelving _ executed => ?_
  · cases executed
    exact List.forall_mem_nil _
  cases executed
  obtain ⟨⟨row, isRow, inStore⟩, sameItems⟩ := shelving.view
  have rowId : row.id = entity.order.id := Table.key_of_find isRow
  -- the items are stored as they were loaded
  have loaded : (shop.view db session).loadItems row = ⟨row, entity.items⟩ := by
    rw [Database.loadItems, rowId, sameItems]
  have noCascade : OrdersService.saveItems entity.items entity.items = .done () := by
    rw [← sameItems]
    exact saveItems_itemsOf _ _
  rw [isRow, Option.map_some, loaded]
  have read : Shelving rank entity.order.id storeId entity.items [] (shop.afterQuery session (.order (.reselect entity))
      (shop.view db session) (some ⟨row, entity.items⟩) []) db := shelving.read (fun _ => rfl) _
  dsimp only
  rw [noCascade]
  split
  next => exact fun after interferes => (read.stable keeps interferes).files
  next =>
    refine Engine.meetsBody_perform_bind (fun _ _ _ shelving => shelving.stable keeps) read
      (fun db shelving => shelving.locks.owed_none fun _ writes executed need needed => ?_)
      fun db reply writes shelving _ executed => ?_
    · obtain ⟨write, made, rfl⟩ := List.mem_map.mp needed
      obtain ⟨-, rfl⟩ | ⟨_, -, rfl⟩ := OrderStatement.execute_updateStatus executed
      · cases made
      · rw [List.mem_singleton.mp made]
        rfl
    · exact fun after interferes write pending =>
        (shelving.updateStatus executed write pending).stable interferes

/-- The products whose stock a request is about to raise, when it looks its order up. -/
def ShopRequest.toRestock (request : ShopRequest) (op : RequestOp statements) (db : Database) : List Uuid :=
  match request.call, op with
  | .updateStatus _ dto, .query (.order (.findOne (some id) ofStore)) =>
    match db.findOrder id ofStore with
    | some order =>
      if OrdersService.isNewlyCancelled dto order then (db.itemsOf order.id).filterMap OrderItem.productId else []
    | none => []
  | _, _ => []

/-- The transaction has neither locked nor written anything. -/
structure Untouched (session : ShopSession) : Prop where
  noLocks : session.held = []
  noWrites : session.pending = []

theorem Untouched.locks (untouched : Untouched session) : LocksUpTo rank mode rest session := by
  have nothing (p : Uuid) : ¬ HasLocked session p := by
    rintro ⟨lock, held, -⟩
    rw [untouched.noLocks] at held
    cases held
  exact ⟨fun p locked => absurd locked (nothing p), fun p locked => absurd locked (nothing p)⟩

theorem Untouched.read (untouched : Untouched session) {op : Statement} (noLocks : ∀ view, shop.locks op view = [])
    (view : Database) (reply : op.Reply) : Untouched (shop.afterQuery session op view reply []) where
  noLocks := by
    change (shop.locks op view ++ []) ++ session.held = []
    rw [noLocks, untouched.noLocks]
    rfl
  noWrites := (List.append_nil session.pending).trans untouched.noWrites

/-- The lookup, with what the run condition says of the items that come with the order. -/
theorem meets_findOneOrder (keeps : ∀ before after, C.rely before after → KeepsFiled before after) {env : Environment}
    {ofStore : Uuid} {id : RouteId} {dto : UpdateOrderStatusDto}
    (ascends : ∀ session op db, C.assume session op db →
      Ascending rank (ShopRequest.toRestock ⟨env, ofStore, .updateStatus id dto⟩ op db)) (untouched : Untouched session) :
    shop.MeetsBody C (lockDebt rank) (fun entity session db => Untouched session ∧
        Filed entity.order.id entity.order.storeId entity.items db ∧
        (OrdersService.isNewlyCancelled dto entity.order = true →
          Ascending rank (entity.items.filterMap OrderItem.productId)))
      (OrdersService.findOne ofStore id) session db := by
  unfold OrdersService.findOne
  have stable (session : ShopSession) (db after : Database) (untouched : Untouched session)
      (_ : shop.Interferes C.rely session.held db after) : Untouched session := untouched
  refine Engine.meetsBody_perform_bind stable untouched (fun db untouched => ?_)
    fun db found writes untouched assumed executed => ?_
  · have nothing : LocksUpTo rank .noKeyUpdate [] session := untouched.locks
    refine nothing.owed_none fun reply writes executed need needed => ?_
    cases id with
    | none => cases executed
    | some id => cases executed; cases needed
  cases id with
  | none => cases executed
  | some id =>
    cases executed
    have sameView : shop.view db session = db := by
      rw [Engine.view, untouched.noWrites]
      rfl
    have listed := ascends session _ db assumed
    rw [sameView]
    cases found : db.findOrder id ofStore with
    | none => exact Engine.meetsBody_throw _ _ _
    | some row =>
      obtain ⟨present, rfl, -⟩ := Database.findOrder_eq_some found
      intro after interferes
      refine ⟨untouched.read (fun _ => rfl) db _, keeps _ _ interferes.allowed _ _ _ (.of_find present), fun newly => ?_⟩
      simp only [ShopRequest.toRestock, found] at listed
      have isNewly : OrdersService.isNewlyCancelled dto row = true := newly
      rw [if_pos isNewly] at listed
      exact listed

theorem meets_updateStatus (keeps : ∀ before after, C.rely before after → KeepsFiled before after) {env : Environment}
    {ofStore : Uuid} {id : RouteId} {dto : UpdateOrderStatusDto}
    (ascends : ∀ session op db, C.assume session op db →
      Ascending rank (ShopRequest.toRestock ⟨env, ofStore, .updateStatus id dto⟩ op db)) (untouched : Untouched session) :
    shop.MeetsBody C (lockDebt rank) (fun _ session db => ∀ write ∈ session.pending, Files session db write)
      (OrdersService.updateStatus env ofStore id dto) session db := by
  unfold OrdersService.updateStatus
  refine (meets_findOneOrder keeps ascends untouched).bind fun entity session db ⟨untouched, filed, listed⟩ => ?_
  have start (remaining : List OrderItem) :
      Shelving rank entity.order.id entity.order.storeId entity.items remaining session db :=
    ⟨untouched.locks, by rw [untouched.noWrites]; exact fun _ pending => (nomatch pending), filed⟩
  have restocks : shop.MeetsBody C (lockDebt rank)
      (fun _ => Shelving rank entity.order.id entity.order.storeId entity.items [])
      (if OrdersService.isNewlyCancelled dto entity.order then OrdersService.restock env ofStore entity.items
        else return ()) session db := by
    split
    next newly => exact meets_restock keeps env ofStore (listed newly) (start entity.items)
    next => exact fun after interferes => (start []).stable keeps interferes
  exact restocks.bind fun _ session db shelving => meets_saveOrder keeps env rfl rfl shelving

end UpdateStatus

end Bodies

/-! ## The requests -/

namespace ShopRequest

/-- The products of the lines of a new order. -/
def toTake (request : ShopRequest) : List Uuid :=
  match request.call with
  | .createOrder dto => dto.items.map fun line => line.productId.id
  | _ => []

/-- Orders stay as they are, and what is restocked comes in the order of the ranks. -/
def lockContract (rank : Uuid → Nat) (request : ShopRequest) : ShopContract where
  assume _ op db := Ascending rank (request.toRestock op db)
  rely := KeepsFiled
  reflexive _ _ _ _ filed := filed
  transitive _ _ _ first second o storeId items filed := second o storeId items (first o storeId items filed)
  guarantee _ _ before after := KeepsFiled before after

variable {rank : Uuid → Nat} {request : ShopRequest} {session : ShopSession} {db : Database}

theorem meets_handler (sells : request.sells = true) (ascends : Ascending rank request.toTake)
    (untouched : Untouched session) :
    shop.MeetsBody (request.lockContract rank) (lockDebt rank)
      (fun _ session db => ∀ write ∈ session.pending, Files session db write)
      (request.call.handler request.env request.storeId) session db := by
  obtain ⟨env, ofStore, call⟩ := request
  have keeps (before after : Database) (allowed : (lockContract rank ⟨env, ofStore, call⟩).rely before after) :
      KeepsFiled before after := allowed
  have ended (result : CallResult) (session : ShopSession) (db : Database)
      (files : ∀ write ∈ session.pending, Files session db write) :
      shop.MeetsBody (lockContract rank ⟨env, ofStore, call⟩) (lockDebt rank)
        (fun _ session db => ∀ write ∈ session.pending, Files session db write) (.done result) session db :=
    fun after interferes write pending => (files write pending).stable interferes
  cases call with
  | createOrder dto =>
    have start : OnTheWay rank .update [] (dto.items.map fun line => line.productId.id) session db :=
      ⟨untouched.locks, fun _ none => (nomatch none), by rw [untouched.noWrites]; exact fun _ pending => nomatch pending⟩
    exact (meets_create env ofStore ascends start).bind fun entity => ended (.order entity)
  | updateStatus id dto =>
    exact (meets_updateStatus keeps (fun _ _ _ assumed => assumed) untouched).bind fun entity => ended (.order entity)
  | _ => cases sells

theorem meets_program (sells : request.sells = true) (ascends : Ascending rank request.toTake) :
    shop.Meets (request.lockContract rank) (lockDebt rank) (fun _ _ _ => True) request.program .empty db := by
  rw [program, inRequest_eq]
  refine Engine.meets_withTransaction (fun session db op isEnd => ?_) (fun after _ => ?_)
    fun _ session db files _ => keepsFiled_view files
  · have noNeeds : (shop.perform session db op).needs = [] := by rcases isEnd with rfl | rfl | rfl <;> rfl
    unfold lockDebt
    rw [noNeeds]
    exact List.forall_mem_nil _
  have stable (session : ShopSession) (db after : Database) (untouched : Untouched session)
      (_ : shop.Interferes (request.lockContract rank).rely session.held db after) : Untouched session := untouched
  have begun : Untouched ⟨[], [], [⟨.begin, .ok ()⟩]⟩ := ⟨rfl, rfl⟩
  refine Engine.meetsBody_perform_bind stable begun (fun db untouched => ?_)
    fun db reply writes untouched _ executed => ?_
  · have nothing : LocksUpTo rank .update [] _ := untouched.locks
    refine nothing.owed_none fun reply writes executed need needed => ?_
    cases executed
    cases needed
  · cases executed
    exact meets_handler sells ascends (untouched.read (fun _ => rfl) _ _)

end ShopRequest

/-! ## Runs -/

section Runs

variable {ι : Type} [Fintype ι] [DecidableEq ι]

/-- No requests wait in a cycle for each other's product rows. -/
def NoProductDeadlock (system : System ι Database RowKey DbWrite statements ApiError CallResult) : Prop :=
  system.NoDeadlock shop fun key => key.isProduct = true

/-- The step looks up no order to cancel whose items are listed against the ranking. -/
def RestocksInOrder (rank : Uuid → Nat) (requests : ι → ShopRequest)
    (source : System ι Database RowKey DbWrite statements ApiError CallResult) : Act ι ApiError → Prop
  | .run i =>
    match (source.thread i).program with
    | .call op _ => Ascending rank ((requests i).toRestock op source.db)
    | .done _ | .throw _ => True
  | .fail _ _ | .crash _ => True

instance (rank : Uuid → Nat) (requests : ι → ShopRequest)
    (source : System ι Database RowKey DbWrite statements ApiError CallResult) (act : Act ι ApiError) :
    Decidable (RestocksInOrder rank requests source act) := by
  unfold RestocksInOrder
  split
  · split <;> infer_instance
  · infer_instance
  · infer_instance

open ShopRequest

variable {rank : Uuid → Nat} {requests : ι → ShopRequest} {start : Database}
  {acts : List (Act ι ApiError × System ι Database RowKey DbWrite statements ApiError CallResult)}

omit [Fintype ι] [DecidableEq ι] in
theorem noProductDeadlock_of_meeting {system : System ι Database RowKey DbWrite statements ApiError CallResult}
    (meeting : shop.Meeting (fun i => (requests i).lockContract rank) (fun _ => lockDebt rank) system) :
    NoProductDeadlock system := by
  refine Engine.noDeadlock_of_climbs (RowKey.rank rank) meeting.exclusive fun i => ?_
  unfold System.needs
  split
  next op resume alive calls => exact meeting.owed alive calls
  next => exact fun _ needed => nomatch needed

/-- Orders and cancellations that follow one ranking of the products never deadlock. -/
theorem noProductDeadlock_of_ascending (calls : ∀ i, (requests i).sells = true)
    (ascends : ∀ i, Ascending rank (requests i).toTake)
    (isRun : Transition.Run shop.Steps (system start requests) acts)
    (inOrder : Transition.EachStep (fun source act _ => RestocksInOrder rank requests source act)
      (system start requests) acts) :
    Transition.EachState NoProductDeadlock (system start requests) acts := by
  have compatible : Engine.Compatible fun i => (requests i).lockContract rank :=
    fun _ _ _ _ _ _ _ guaranteed => guaranteed
  have atStart : shop.Meeting (fun i => (requests i).lockContract rank) (fun _ => lockDebt rank)
      (system start requests) := Engine.meeting_start fun i => meets_program (calls i) (ascends i)
  refine (Transition.eachState_of_invariant (fun source act target meeting stepped inOrder => ?_) atStart isRun
    inOrder).imp fun _ => noProductDeadlock_of_meeting
  refine Engine.meeting_step compatible meeting stepped ?_
  cases act with
  | run i =>
    intro op resume calls
    simp only [RestocksInOrder, calls] at inOrder
    exact inOrder
  | fail | crash => trivial

end Runs

/-! ## Two orders for the same two products -/

namespace SmallShop

def cake : Product := ⟨5, 1, none, "Cake", none, 300, 4, none, 0, 0⟩

/-- The shop has cake as well. -/
def teaAndCake : Database := { db with products := ⟨[product, cake], by decide⟩ }

def orderBoth (id : Uuid) (first second : Uuid) : ShopRequest :=
  ⟨⟨5, fun n => id + n, fun _ => 0⟩, 1,
    .createOrder ⟨[oneOf first, oneOf second], List.cons_ne_nil _ _⟩⟩

/-- Each order takes its first product. -/
def takeFirst : List (Act Bool ApiError) := List.replicate 5 (.run false) ++ List.replicate 5 (.run true)

/-- The second order looks the tea up when the first one has locked it. -/
def queueForTea : List (Act Bool ApiError) := List.replicate 5 (.run false) ++ List.replicate 2 (.run true)

end SmallShop

theorem noProductDeadlock_smallShop :
    Transition.EachState NoProductDeadlock
      (ShopRequest.system SmallShop.teaAndCake
        (SmallShop.both (SmallShop.orderBoth 200 2 5) (SmallShop.orderBoth 300 2 5)))
      ((shop.trace (ShopRequest.system SmallShop.teaAndCake
        (SmallShop.both (SmallShop.orderBoth 200 2 5) (SmallShop.orderBoth 300 2 5)))
        SmallShop.queueForTea).get (by decide +kernel)) :=
  noProductDeadlock_of_ascending (by decide) (by decide +kernel : ∀ i : Bool, Ascending BitVec.toNat
    (SmallShop.both (SmallShop.orderBoth 200 2 5) (SmallShop.orderBoth 300 2 5) i).toTake)
    (shop.run_get_trace _) (by decide +kernel)

/-- Tea and cake, and cake and tea: each order has the product that the other one asks for. -/
theorem not_noProductDeadlock : ¬ ∀ (requests : Bool → ShopRequest) (start : Database)
    (acts : List (Act Bool ApiError × System Bool Database RowKey DbWrite statements ApiError CallResult)),
    (∀ i, ∃ dto, (requests i).call = .createOrder dto) →
    Transition.Run shop.Steps (ShopRequest.system start requests) acts →
    NoProductDeadlock (Transition.final (ShopRequest.system start requests) acts) := by
  intro noDeadlock
  let requests := SmallShop.both (SmallShop.orderBoth 200 2 5) (SmallShop.orderBoth 300 5 2)
  have free := noDeadlock requests SmallShop.teaAndCake
    ((shop.trace (ShopRequest.system SmallShop.teaAndCake requests) SmallShop.takeFirst).get (by decide +kernel))
    (fun i => by cases i <;> exact ⟨_, rfl⟩) (shop.run_get_trace _) false
  have there : System.WaitsFor shop (fun key => key.isProduct = true)
      (Transition.final (ShopRequest.system SmallShop.teaAndCake requests)
        ((shop.trace (ShopRequest.system SmallShop.teaAndCake requests) SmallShop.takeFirst).get (by decide +kernel)))
      false true := by decide +kernel
  have back : System.WaitsFor shop (fun key => key.isProduct = true)
      (Transition.final (ShopRequest.system SmallShop.teaAndCake requests)
        ((shop.trace (ShopRequest.system SmallShop.teaAndCake requests) SmallShop.takeFirst).get (by decide +kernel)))
      true false := by decide +kernel
  exact free (.tail (.single there) back)

end StoreSaas
