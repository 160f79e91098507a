import StoreSaas.Services.SecuredTables
import StoreSaas.Verified.ForeignKeys
import StoreSaas.Verified.Noninterference
import StoreSaas.Verified.WrittenTables

/-! # The policies behind the services

Inside `RlsContextInterceptor` the policies change nothing: every statement of the services is
about rows of the store, which the policies admit (`policies_transparent`).  And whatever
statements a request comes to, no row that the policies hide is changed (`hidden_unchanged`);
where no store is set these are all rows.
-/

namespace StoreSaas

/-! ## Statements of the store -/

section Own

variable {storeId : Uuid} {made : RowKey → Prop} {db : Database}

namespace Database

/-- The policy admits what a lookup with the store finds. -/
theorem find_admitted {Row : Type} {key : Row → Uuid} (table : Table key) (store : Row → Uuid) (id : Uuid) :
    ((table.restrict ((tenantIsolation store).admitted (some storeId))).find id).filter
        (fun row => store row = storeId) = (table.find id).filter fun row => store row = storeId := by
  rw [Table.find_restrict, Option.filter_filter]
  simp only [RowPolicy.admitted, tenantIsolation, Option.any_some, Bool.and_self]

theorem findProduct_visible (id : Uuid) :
    (db.visible (some storeId)).findProduct id storeId = db.findProduct id storeId :=
  find_admitted db.products Product.storeId id

theorem findCategory_visible (id : Uuid) :
    (db.visible (some storeId)).findCategory id storeId = db.findCategory id storeId :=
  find_admitted db.categories Category.storeId id

theorem findOrder_visible (id : Uuid) :
    (db.visible (some storeId)).findOrder id storeId = db.findOrder id storeId :=
  find_admitted db.orders Order.storeId id

theorem forStore_visible : (db.visible (some storeId)).forStore storeId = db.forStore storeId := by
  refine forStore_ext rfl rfl (Table.restrict_restrict ..) (Table.restrict_restrict ..) (Table.restrict_restrict ..) ?_
  simp only [findOrder_visible]
  rfl

end Database

theorem OwnsCategories.visible (owns : db.OwnsCategories storeId) :
    (db.visible (some storeId)).OwnsCategories storeId := by
  intro row present inStore c isCategory
  rw [Database.findCategory_visible]
  exact owns row (List.mem_filter.mp present).1 inStore c isCategory

/-- The statements that find their rows with the store, or read only. -/
def Statement.seeks : Statement → Bool
  | .product (.increment _ _ _ _) => true
  | statement => statement.isRead

theorem Statement.Own.visible {statement : Statement} (own : statement.Own storeId made db)
    (seeks : statement.seeks = true) : statement.Own storeId made (db.visible (some storeId)) := by
  cases statement with
  | product statement =>
    cases statement with
    | findOne | getManyAndCount => exact ⟨own.1, OwnsCategories.visible own.2⟩
    | selectForUpdate | increment => exact own
    | reselect entity => exact (congrArg Option.isSome (Database.findProduct_visible entity.id)).trans own
    | insert | update | delete => cases seeks
  | category statement =>
    cases statement with
    | findOne | find => exact own
    | reselect entity => exact (congrArg Option.isSome (Database.findCategory_visible entity.id)).trans own
    | insert | update | delete => cases seeks
  | order statement =>
    cases statement with
    | findOne | getMany | getCount => exact own
    | reselect entity => exact (congrArg Option.isSome (Database.findOrder_visible entity.order.id)).trans own
    | insert | insertItems | updateStatus | updateItemProduct => cases seeks
  | outbox statement =>
    cases statement with
    | findStore | findUser => trivial
    | insert | markProcessed => cases seeks
    | findPending => exact own.elim
  | setCurrentStore | enqueueMail => exact own
  | user | billing | idempotency | store | audit => exact own.elim

theorem Statement.execute_visible {statement : Statement} (own : statement.Own storeId made db)
    (seeks : statement.seeks = true) :
    statement.execute (db.visible (some storeId)) = statement.execute db := by
  have same := Statement.execute_forStore (own.visible seeks)
  rw [Database.forStore_visible] at same
  exact same.symm.trans (Statement.execute_forStore own)

theorem Statement.insertsFor_own {statement : Statement} (own : statement.Own storeId made db) :
    statement.insertsFor.any (fun store => some storeId ≠ some store) = false := by
  have isOwn {store : Uuid} (same : store = storeId) :
      (some store).any (fun store => some storeId ≠ some store) = false := by
    rw [same, Option.any_some]
    exact decide_eq_false fun differs => differs rfl
  cases statement with
  | product statement =>
    cases statement with
    | insert entity => exact isOwn own.1
    | _ => rfl
  | category statement =>
    cases statement with
    | insert entity => exact isOwn own.1
    | _ => rfl
  | order statement =>
    cases statement with
    | insert row => exact isOwn own.1
    | _ => rfl
  | _ => rfl

/-- A row that a statement of the store changes is one of the store's, except where it is still to be found. -/
theorem Statement.seeks_of_hidden {statement : Statement} (own : statement.Own storeId made db)
    (hides : statement.changes.any (fun key => ((db.visible (some storeId)).row key).isNone) = true) :
    statement.seeks = true := by
  have product {id : Uuid} (found : (db.findProduct id storeId).isSome = true) :
      ((db.visible (some storeId)).row (.product id)).isSome = true := by
    rw [← Database.findProduct_visible] at found
    rw [Database.find_of_product found] at found
    exact found
  have category {id : Uuid} (found : (db.findCategory id storeId).isSome = true) :
      ((db.visible (some storeId)).row (.category id)).isSome = true := by
    rw [← Database.findCategory_visible] at found
    rw [Database.find_of_category found] at found
    exact found
  have order {id : Uuid} (found : (db.findOrder id storeId).isSome = true) :
      ((db.visible (some storeId)).row (.order id)).isSome = true := by
    rw [← Database.findOrder_visible] at found
    rw [Database.find_of_order found] at found
    exact found
  have contradicts {key : RowKey} (present : ((db.visible (some storeId)).row key).isSome = true)
      (absent : (some key).any (fun key => ((db.visible (some storeId)).row key).isNone) = true) : False := by
    rw [Option.any_some, Option.isNone_iff_eq_none] at absent
    rw [absent] at present
    cases present
  cases statement with
  | product statement =>
    cases statement with
    | update => exact (contradicts (product own.1) hides).elim
    | delete => exact (contradicts (product own.1) hides).elim
    | increment => rfl
    | _ => cases hides
  | category statement =>
    cases statement with
    | update => exact (contradicts (category own) hides).elim
    | delete => exact (contradicts (category own.1) hides).elim
    | _ => cases hides
  | order statement =>
    cases statement with
    | updateStatus => exact (contradicts (order own) hides).elim
    | _ => cases hides
  | _ => cases hides

/-- The policies change nothing about a statement of the store. -/
theorem Statement.executeSecured_own {statement : Statement} (own : statement.Own storeId made db) :
    statement.executeSecured (some storeId) db = statement.execute db := by
  unfold executeSecured
  split
  next reads =>
    refine execute_visible own ?_
    unfold seeks
    split
    next => rfl
    next => exact reads
  next =>
    rw [if_neg (Bool.eq_false_iff.mp (insertsFor_own own))]
    split
    next hides => exact execute_visible own (seeks_of_hidden own hides)
    next => rfl

theorem Statement.executeSecuredOn_own {statement : Statement} (own : statement.Own storeId made db) :
    statement.executeSecuredOn (some storeId, db) =
      ((shop.executeOn statement db).1, some storeId, (shop.executeOn statement db).2) := by
  have setting : (pooling.sets statement).or (some storeId) = some storeId := by
    cases statement with
    | setCurrentStore store => exact congrArg some own
    | _ => rfl
  have same : statement.executeSecured (some storeId) db = shop.execute statement db := executeSecured_own own
  unfold executeSecuredOn Engine.executeOn
  simp only [same, setting]
  cases shop.execute statement db with
  | ok result => rfl
  | error error => rfl

end Own

/-! ## Requests -/

namespace ShopRequest

/-- The request under the policies. -/
def serveSecured (request : ShopRequest) (db : Database) : Except ApiError CallResult × Database :=
  StoreSaas.serveSecured request.storeId (request.call.handler request.env request.storeId) db

theorem serveSecured_eq {request : ShopRequest} {db : Database} (linked : db.Linked)
    (unused : ∀ key, request.Inserts key → db.row key = none) : request.serveSecured db = request.serve db := by
  have same := (own_handler request linked unused).runWith_along (fun db => (some request.storeId, db))
    fun db op own => Statement.executeSecuredOn_own own
  have begun : (Tx.setCurrentStore request.storeId >>= fun _ =>
      request.call.handler request.env request.storeId).runWith Statement.executeSecuredOn (none, db) =
      (request.call.handler request.env request.storeId).runWith Statement.executeSecuredOn
        (some request.storeId, db) := rfl
  rw [serve_eq, Engine.transact, serveSecured, StoreSaas.serveSecured, begun, same]
  cases ran : (request.call.handler request.env request.storeId).runWith shop.executeOn db with
  | mk result after =>
    cases result with
    | ok value => rfl
    | error error => rfl

end ShopRequest

open Unwinding in
/-- Requests of any stores, one after the other: under the policies they are answered and leave the database as
    without, and with its references within the stores. -/
theorem policies_transparent {requests : List ShopRequest} {db : Database} (ready : ShopRequest.Ready requests db) :
    runAll ShopRequest.serveSecured requests db = runAll ShopRequest.serve requests db ∧
      (∀ storeId, answersTo ShopRequest.serveSecured ShopRequest.storeId storeId requests db =
        answersTo ShopRequest.serve ShopRequest.storeId storeId requests db) ∧
      (runAll ShopRequest.serve requests db).Linked := by
  induction requests generalizing db with
  | nil => exact ⟨rfl, fun _ => rfl, ready.linked⟩
  | cons request rest ih =>
    have same : request.serveSecured db = request.serve db :=
      ShopRequest.serveSecured_eq ready.linked (ready.unused request List.mem_cons_self)
    obtain ⟨sameDb, sameAnswers, linked⟩ := ih ready.next
    refine ⟨?_, fun storeId => ?_, linked⟩
    · rw [runAll, runAll, same, sameDb]
    · rw [answersTo, answersTo, same, sameAnswers storeId]

open Unwinding in
/-- A tea is ordered while another store tries to remove it. -/
theorem policies_transparent_smallShop :
    runAll ShopRequest.serveSecured [SmallShop.removeTea, SmallShop.orderTea] SmallShop.db =
        runAll ShopRequest.serve [SmallShop.removeTea, SmallShop.orderTea] SmallShop.db ∧
      (∀ storeId, answersTo ShopRequest.serveSecured ShopRequest.storeId storeId
          [SmallShop.removeTea, SmallShop.orderTea] SmallShop.db =
        answersTo ShopRequest.serve ShopRequest.storeId storeId
          [SmallShop.removeTea, SmallShop.orderTea] SmallShop.db) ∧
      (runAll ShopRequest.serve [SmallShop.removeTea, SmallShop.orderTea] SmallShop.db).Linked :=
  policies_transparent SmallShop.ready_removeTea

/-! ## Rows that are hidden -/

/-- Whether the setting does not admit a row of a table with a policy. -/
def RowKey.hides (setting : Option Uuid) : (key : RowKey) → key.Row → Bool
  | .category _, row => decide (setting ≠ some (Category.storeId row))
  | .product _, row => decide (setting ≠ some (Product.storeId row))
  | .order _, row => decide (setting ≠ some (Order.storeId row))
  | .store _, _ | .user _, _ | .subscription _, _ | .orderItem _, _ | .webhookEvent _, _ | .idempotencyRecord _, _
  | .outboxEvent _, _ | .auditLog _, _ | .uniqueEntry _, _ => false

namespace Database

/-- The row with this key, if it is hidden. -/
def hidden (db : Database) (setting : Option Uuid) (key : RowKey) : Option key.Row := (db.row key).filter (key.hides setting)

/-- A hidden product has lost its reference to a category that was seen. -/
def Unlinks (before after : Database) (setting : Option Uuid) (p : Uuid) : Prop :=
  ∃ (row : Product) (c : Uuid) (category : Category), before.hidden setting (.product p) = some row ∧
    row.categoryId = some c ∧ before.categories.find c = some category ∧ setting = some category.storeId ∧
      after.hidden setting (.product p) = some { row with categoryId := none }

/-- What was hidden is what is hidden, but for references to categories that were seen. -/
def KeepsHidden (before after : Database) (setting : Option Uuid) : Prop :=
  ∀ key, after.hidden setting key = before.hidden setting key ∨ ∃ p, key = .product p ∧ before.Unlinks after setting p

end Database

section Hidden

variable {setting : Option Uuid} {db : Database}

/-- The write is to no row that is hidden, before or after. -/
def DbWrite.Shown (setting : Option Uuid) (db : Database) (write : DbWrite) : Prop :=
  (∀ row, db.row write.key = some row → write.key.hides setting row = false) ∧
    ∀ row, write.value = some row → write.key.hides setting row = false

/-- The write takes its category from a product that is hidden, where the category is seen. -/
def DbWrite.TakesCategory (setting : Option Uuid) (db : Database) (write : DbWrite) : Prop :=
  ∃ (row : Product) (c : Uuid) (category : Category), db.hidden setting (.product row.id) = some row ∧
    row.categoryId = some c ∧ db.categories.find c = some category ∧ setting = some category.storeId ∧
      write = .product (.put { row with categoryId := none })

theorem admitted_iff {Row : Type} {store : Row → Uuid} {row : Row} :
    (tenantIsolation store).admitted setting row = true ↔ setting = some (store row) := by
  cases setting with
  | none => exact iff_of_false Bool.false_ne_true fun isSome => nomatch isSome
  | some own => exact decide_eq_true_iff.trans (eq_comm.trans Option.some_inj.symm)

theorem row_visible {key : RowKey} {row : key.Row} (found : (db.visible setting).row key = some row) :
    db.row key = some row ∧ key.hides setting row = false := by
  have policed {Row : Type} {id : Uuid} {keyOf store : Row → Uuid} {table : Table keyOf} {row : Row}
      (found : (table.restrict ((tenantIsolation store).admitted setting)).find id = some row) :
      table.find id = some row ∧ decide (setting ≠ some (store row)) = false := by
    rw [Table.find_restrict] at found
    obtain ⟨present, isAdmitted⟩ := Option.filter_eq_some_iff.mp found
    exact ⟨present, decide_eq_false (not_not_intro (admitted_iff.mp isAdmitted))⟩
  cases key with
  | category id => exact policed found
  | product id => exact policed found
  | order id => exact policed found
  | _ => exact ⟨found, rfl⟩

theorem shown_of_table {write : DbWrite} (elsewhere : write.key.table ≠ .products ∧ write.key.table ≠ .categories ∧
    write.key.table ≠ .orders) : write.Shown setting db := by
  have notHidden (row : write.key.Row) : write.key.hides setting row = false := by
    obtain ⟨notProduct, notCategory, notOrder⟩ := elsewhere
    generalize write.key = key at *
    cases key with
    | product id => exact absurd rfl notProduct
    | category id => exact absurd rfl notCategory
    | order id => exact absurd rfl notOrder
    | _ => rfl
  exact ⟨fun row _ => notHidden row, fun row _ => notHidden row⟩

/-- A product that is seen stays in its store. -/
theorem shown_product {row next : Product} (found : db.products.find next.id = some row)
    (seen : setting = some row.storeId) (sameStore : next.storeId = row.storeId) :
    (DbWrite.product (.put next)).Shown setting db := by
  refine ⟨fun old isOld => ?_, fun new isNew => ?_⟩
  · cases found.symm.trans isOld
    exact decide_eq_false (not_not_intro seen)
  · cases isNew
    exact decide_eq_false (not_not_intro (seen.trans (congrArg some sameStore.symm)))

/-- The row that a statement changes, if it sees it, is not hidden. -/
theorem Statement.seen_of_changes {statement : Statement} {key : RowKey} {row : key.Row}
    (sees : ∀ key, statement.changes = some key → ((db.visible setting).row key).isSome = true)
    (isChange : statement.changes = some key) (found : db.row key = some row) : key.hides setting row = false := by
  obtain ⟨shown, isShown⟩ := Option.isSome_iff_exists.mp (sees key isChange)
  obtain ⟨same, notHidden⟩ := row_visible isShown
  cases same.symm.trans found
  exact notHidden

/-- A category that is seen goes, with the references to it, also those of products that are hidden. -/
theorem CategoryStatement.execute_delete_shown {id : Uuid} {reply : (delete id).Reply} {writes : List DbWrite}
    (seen : ∀ row, db.categories.find id = some row → setting = some row.storeId)
    (executed : (delete id).execute db = .ok (reply, writes)) :
    ∀ write ∈ writes, write.Shown setting db ∨ write.TakesCategory setting db := by
  simp only [execute] at executed
  cases present : db.categories.find id with
  | none =>
    rw [present] at executed
    cases executed
    exact List.forall_mem_nil _
  | some row =>
    rw [present] at executed
    cases executed
    obtain rfl : row.id = id := Table.key_of_find present
    refine List.forall_mem_cons.mpr ⟨.inl ⟨fun old isOld => ?_, fun next isNext => ?_⟩, fun write unlinks => ?_⟩
    · exact decide_eq_false (not_not_intro (seen old isOld))
    · cases isNext
    · obtain ⟨product, isProduct, rfl⟩ := List.mem_map.mp unlinks
      obtain ⟨inTable, isCategory⟩ := List.mem_filter.mp isProduct
      have found : db.products.find product.id = some product := Table.find_of_mem inTable
      by_cases isSeen : setting = some product.storeId
      · exact .inl (shown_product found isSeen rfl)
      · refine .inr ⟨product, row.id, row, ?_, of_decide_eq_true isCategory, present, seen row present, rfl⟩
        exact Option.filter_eq_some_iff.mpr ⟨found, decide_eq_true isSeen⟩

/-- What an admitted statement on the whole tables writes, if the row it changes is one that it sees. -/
theorem Statement.execute_shown {statement : Statement} {reply : statement.Reply} {writes : List DbWrite}
    (spares : ∀ id, statement ≠ .category (.delete id)) (admits : ∀ storeId, statement.insertsFor = some storeId → setting = some storeId)
    (sees : ∀ key, statement.changes = some key → ((db.visible setting).row key).isSome = true)
    (executed : statement.execute db = .ok (reply, writes)) : ∀ write ∈ writes, write.Shown setting db := by
  have nothing : ∀ write ∈ ([] : List DbWrite), write.Shown setting db := fun _ none => nomatch none
  -- tables without a policy: every setting sees their rows
  have elsewhere (spares : statement.writesTo .products = false ∧ statement.writesTo .categories = false ∧
      statement.writesTo .orders = false) : ∀ write ∈ writes, write.Shown setting db := by
    intro write made
    have isTable := execute_table executed write made
    have differs {table : TableName} (spared : statement.writesTo table = false) : write.key.table ≠ table := by
      rintro rfl
      rw [spared] at isTable
      cases isTable
    exact shown_of_table ⟨differs spares.1, differs spares.2.1, differs spares.2.2⟩
  have seen {key : RowKey} {row : key.Row} (isChange : statement.changes = some key) (found : db.row key = some row) :
      key.hides setting row = false := seen_of_changes sees isChange found
  -- the setting is the store of the row that it sees
  have own {store : Uuid} (isSeen : decide (setting ≠ some store) = false) : setting = some store :=
    not_not.mp (of_decide_eq_false isSeen)
  cases statement with
  | product statement =>
    cases statement with
    | findOne | getManyAndCount | selectForUpdate | reselect => exact elsewhere ⟨rfl, rfl, rfl⟩
    -- there is no old row, and the new one passes WITH CHECK
    | insert entity =>
      obtain ⟨row, isRow, absent, rfl⟩ := ProductStatement.execute_insert executed
      obtain ⟨-, sameStore, -⟩ := ProductEntity.toRow?_eq_some isRow
      refine List.forall_mem_singleton.mpr ⟨fun old isOld => ?_, fun next isNext => ?_⟩
      · cases absent.symm.trans isOld
      · cases isNext
        exact decide_eq_false (not_not_intro ((admits _ rfl).trans (congrArg some sameStore.symm)))
    -- the changes carry no store, so the new row is in the store of the old one
    | update id changes now =>
      obtain ⟨-, rfl⟩ | ⟨row, next, present, applied, -, rfl⟩ := ProductStatement.execute_update executed
      · exact nothing
      · obtain ⟨sameId, sameStore, -⟩ := ProductChanges.applyTo?_eq_some applied
        obtain rfl : row.id = id := Table.key_of_find present
        rw [← sameId] at present
        exact List.forall_mem_singleton.mpr (shown_product present (own (seen rfl (sameId ▸ present))) sameStore)
    | increment id storeId quantity now =>
      obtain ⟨-, -, rfl⟩ | ⟨row, found, -, rfl⟩ := ProductStatement.execute_increment executed
      · exact nothing
      · obtain ⟨present, rfl, -⟩ := Database.findProduct_eq_some found
        exact List.forall_mem_singleton.mpr (shown_product present (own (seen rfl present)) rfl)
    | delete id =>
      obtain ⟨-, rfl⟩ | ⟨row, present, rfl⟩ := ProductStatement.execute_delete executed
      · exact nothing
      · obtain rfl : row.id = id := Table.key_of_find present
        refine List.forall_mem_cons.mpr ⟨⟨fun old isOld => seen rfl isOld, fun next isNext => ?_⟩, fun write unlinks => ?_⟩
        · cases isNext
        -- an order item is under no policy of its own
        · obtain ⟨item, -, rfl⟩ := List.mem_map.mp unlinks
          exact ⟨fun _ _ => rfl, fun _ _ => rfl⟩
  | category statement =>
    cases statement with
    | findOne | find | reselect => exact elsewhere ⟨rfl, rfl, rfl⟩
    | insert entity =>
      simp only [execute, CategoryStatement.execute] at executed
      split at executed
      next => cases executed
      next row isRow =>
        obtain ⟨name, -, rfl⟩ := Option.map_eq_some_iff.mp isRow
        split at executed
        next => cases executed
        next absent =>
          split at executed
          next => cases executed
          next =>
            cases executed
            refine List.forall_mem_singleton.mpr ⟨fun old isOld => ?_, fun next isNext => ?_⟩
            · exact absurd (Option.isSome_of_mem isOld) absent
            · cases isNext
              exact decide_eq_false (not_not_intro (admits _ rfl))
    | update id name now =>
      simp only [execute, CategoryStatement.execute] at executed
      split at executed
      next => cases executed; exact nothing
      next => cases executed
      next row name present =>
        cases executed
        obtain rfl : row.id = id := Table.key_of_find present
        have shown : (RowKey.category row.id).hides setting row = false := seen rfl present
        refine List.forall_mem_singleton.mpr ⟨fun old isOld => seen rfl isOld, fun next isNext => ?_⟩
        cases isNext
        exact shown
    -- the delete of a category also writes products, seen or not
    | delete id => exact absurd rfl (spares id)
  | order statement =>
    cases statement with
    | findOne | getMany | getCount | reselect | insertItems | updateItemProduct => exact elsewhere ⟨rfl, rfl, rfl⟩
    | insert row =>
      obtain ⟨absent, rfl⟩ := OrderStatement.execute_insert executed
      refine List.forall_mem_singleton.mpr ⟨fun old isOld => ?_, fun next isNext => ?_⟩
      · cases absent.symm.trans isOld
      · cases isNext
        exact decide_eq_false (not_not_intro (admits _ rfl))
    | updateStatus id status now =>
      obtain ⟨-, rfl⟩ | ⟨row, present, rfl⟩ := OrderStatement.execute_updateStatus executed
      · exact nothing
      · obtain rfl : row.id = id := Table.key_of_find present
        have shown : (RowKey.order row.id).hides setting row = false := seen rfl present
        refine List.forall_mem_singleton.mpr ⟨fun old isOld => seen rfl isOld, fun next isNext => ?_⟩
        cases isNext
        exact shown
  | outbox statement => cases statement <;> exact elsewhere ⟨rfl, rfl, rfl⟩
  | _ => exact elsewhere ⟨rfl, rfl, rfl⟩

/-- A statement that is to change a row that is not there changes nothing. -/
theorem Statement.execute_absent {statement : Statement} {reply : statement.Reply} {writes : List DbWrite}
    (absent : statement.changes.any (fun key => (db.row key).isNone) = true)
    (executed : statement.execute db = .ok (reply, writes)) : writes = [] := by
  cases statement with
  | product statement =>
    cases statement with
    | update id changes now =>
      obtain ⟨-, rfl⟩ | ⟨row, -, present, -⟩ := ProductStatement.execute_update executed
      · rfl
      · cases (Option.isNone_iff_eq_none.mp absent).symm.trans present
    | increment id storeId quantity now =>
      obtain ⟨-, -, rfl⟩ | ⟨row, found, -⟩ := ProductStatement.execute_increment executed
      · rfl
      · cases (Option.isNone_iff_eq_none.mp absent).symm.trans (Database.findProduct_eq_some found).1
    | delete id =>
      obtain ⟨-, rfl⟩ | ⟨row, present, -⟩ := ProductStatement.execute_delete executed
      · rfl
      · cases (Option.isNone_iff_eq_none.mp absent).symm.trans present
    | _ => cases absent
  | category statement =>
    cases statement with
    | update id name now =>
      have isAbsent : db.categories.find id = none := Option.isNone_iff_eq_none.mp absent
      simp only [execute, CategoryStatement.execute, isAbsent] at executed
      cases executed
      rfl
    | delete id =>
      have isAbsent : db.categories.find id = none := Option.isNone_iff_eq_none.mp absent
      simp only [execute, CategoryStatement.execute, isAbsent] at executed
      cases executed
      rfl
    | _ => cases absent
  | order statement =>
    cases statement with
    | updateStatus id status now =>
      obtain ⟨-, rfl⟩ | ⟨row, present, -⟩ := OrderStatement.execute_updateStatus executed
      · rfl
      · cases (Option.isNone_iff_eq_none.mp absent).symm.trans present
    | _ => cases absent
  | _ => cases absent

/-- What is hidden from the statement is not written, but for a reference that goes with its category. -/
theorem Statement.executeSecured_shown {statement : Statement} {reply : statement.Reply} {writes : List DbWrite}
    (executed : statement.executeSecured setting db = .ok (reply, writes)) :
    (writes = [] ∨ statement.execute db = .ok (reply, writes)) ∧
      ∀ write ∈ writes, write.Shown setting db ∨ write.TakesCategory setting db := by
  have nothing (none : writes = []) : (writes = [] ∨ statement.execute db = .ok (reply, writes)) ∧
      ∀ write ∈ writes, write.Shown setting db ∨ write.TakesCategory setting db := by
    subst none
    exact ⟨.inl rfl, fun _ made => nomatch made⟩
  unfold executeSecured at executed
  split at executed
  next reads => exact nothing (execute_read reads executed)
  next =>
    split at executed
    next => cases executed
    next admits =>
      split at executed
      next hides => exact nothing (execute_absent hides executed)
      next sees =>
        have seesAll (key : RowKey) (isChange : statement.changes = some key) :
            ((db.visible setting).row key).isSome = true := by
          rw [isChange, Option.any_some, Option.isNone_iff_eq_none] at sees
          exact Option.isSome_iff_ne_none.mpr sees
        refine ⟨.inr executed, ?_⟩
        by_cases deletes : ∃ id, statement = .category (.delete id)
        · obtain ⟨id, rfl⟩ := deletes
          refine CategoryStatement.execute_delete_shown (fun row found => ?_) executed
          have isSeen : (RowKey.category id).hides setting row = false := seen_of_changes seesAll rfl found
          exact not_not.mp (of_decide_eq_false isSeen)
        · refine fun write made => .inl ?_
          refine execute_shown (fun id isDelete => deletes ⟨id, isDelete⟩) (fun storeId inserts => ?_) seesAll executed write made
          rw [inserts] at admits
          exact not_not.mp fun differs => admits (decide_eq_true differs)

/-! ## Programs -/

/-- A program whose statements set no store; it may be any other. -/
abbrev Tx.SetsNothing {α : Type} (program : Tx α) : Prop :=
  program.Only fun op : Statement => pooling.sets op = none

namespace Database

theorem hidden_eq_some {key : RowKey} {row : key.Row} :
    db.hidden setting key = some row ↔ db.row key = some row ∧ key.hides setting row = true := Option.filter_eq_some_iff

theorem KeepsHidden.refl (db : Database) (setting : Option Uuid) : db.KeepsHidden db setting := fun _ => .inl rfl

/-- One write after the other: a reference that has gone was there from the start, and its category was seen. -/
theorem KeepsHidden.trans {first second third : Database} (exist : first.RefsExist)
    (left : first.KeepsHidden second setting) (right : second.KeepsHidden third setting) :
    first.KeepsHidden third setting := by
  intro key
  obtain same | ⟨p, rfl, row, c, category, isHidden, isCategory, found, seen, gone⟩ := right key
  · obtain before | ⟨p, rfl, row, c, category, isHidden, isCategory, found, seen, gone⟩ := left key
    · exact .inl (same.trans before)
    · exact .inr ⟨p, rfl, row, c, category, isHidden, isCategory, found, seen, same.trans gone⟩
  · obtain same | ⟨q, isProduct, other, -, -, -, -, -, -, gone'⟩ := left (.product p)
    · rw [same] at isHidden
      have present : first.products.find p = some row := (hidden_eq_some.mp isHidden).1
      obtain ⟨own, ownFound⟩ := Option.isSome_iff_exists.mp
        (exist (.product p) row present (.category c) (mem_references_product.mpr ⟨c, isCategory, rfl⟩))
      refine .inr ⟨p, rfl, row, c, own, isHidden, isCategory, ownFound, ?_, gone⟩
      by_contra notSeen
      -- a category that was hidden is the same one now, and hidden still
      have wasHidden : first.hidden setting (.category c) = some own :=
        hidden_eq_some.mpr ⟨ownFound, decide_eq_true notSeen⟩
      obtain sameCategory | ⟨q, none, -⟩ := left (.category c)
      · have isOwn : second.categories.find c = some own := (hidden_eq_some.mp (sameCategory.trans wasHidden)).1
        cases isOwn.symm.trans found
        exact notSeen seen
      · cases none
    · cases isProduct
      cases gone'.symm.trans isHidden
      cases isCategory

/-- The hidden rows after the writes of a statement. -/
theorem keepsHidden_applyAll {writes : List DbWrite}
    (made : ∀ write ∈ writes, write.Shown setting db ∨ write.TakesCategory setting db) :
    db.KeepsHidden (shop.applyAll db writes) setting := by
  intro key
  by_cases takes : ∃ write ∈ writes, write.key = key ∧ write.TakesCategory setting db
  · obtain ⟨write, isMade, rfl, row, c, category, isHidden, isCategory, found, seen, rfl⟩ := takes
    refine .inr ⟨row.id, rfl, row, c, category, isHidden, isCategory, found, seen, ?_⟩
    have present : db.products.find row.id = some row := (hidden_eq_some.mp isHidden).1
    have only : ∀ other ∈ writes, shop.keyOf other = .product row.id →
        other = .product (.put { row with categoryId := none }) := by
      intro other inWrites isKey
      obtain shown | ⟨another, _, _, isHidden', _, _, _, rfl⟩ := made other inWrites
      · have isShown := shown.1
        rw [show other.key = .product row.id from isKey] at isShown
        exact Bool.noConfusion ((isShown row present).symm.trans (hidden_eq_some.mp isHidden).2)
      · have sameId : another.id = row.id := RowKey.product.inj isKey
        rw [sameId] at isHidden'
        cases isHidden'.symm.trans isHidden
        rfl
    exact hidden_eq_some.mpr ⟨shop.get_applyAll_of_mem isMade only, (hidden_eq_some.mp isHidden).2⟩
  · have shown {write : DbWrite} (isMade : write ∈ writes) (isKey : write.key = key) : write.Shown setting db :=
      (made write isMade).resolve_right fun takesIt => takes ⟨write, isMade, isKey, takesIt⟩
    refine .inl (Option.ext fun row => ?_)
    rw [hidden_eq_some, hidden_eq_some]
    refine and_congr_left fun isHidden => ⟨fun found => ?_, fun found => ?_⟩
    · have rows : shop.RowsOk (fun other stored => ∀ same : other = key, key.hides setting (same ▸ stored) = true →
          db.row key = some (same ▸ stored)) db := by
        rintro other stored isStored rfl -
        exact isStored
      have after := rows.applyAll fun write isMade stored isValue => by
        rintro rfl isHidden
        exact absurd isHidden (Bool.eq_false_iff.mp ((shown isMade rfl).2 stored isValue))
      exact after key row found rfl isHidden
    · have untouched : ∀ write ∈ writes, shop.keyOf write ≠ key := by
        rintro write isMade rfl
        exact Bool.noConfusion (((shown isMade rfl).1 row found).symm.trans isHidden)
      exact (shop.get_applyAll_of_untouched untouched).trans found

end Database

/-- One statement keeps the references and the hidden rows. -/
theorem Statement.executeSecuredOn_keeps (setting : Option Uuid) (statement : Statement) (exist : db.RefsExist) :
    (statement.executeSecuredOn (setting, db)).2.2.RefsExist ∧
      db.KeepsHidden (statement.executeSecuredOn (setting, db)).2.2 setting := by
  unfold executeSecuredOn
  cases executed : statement.executeSecured setting db with
  | error error => exact ⟨exist, .refl db setting⟩
  | ok result =>
    obtain ⟨reply, writes⟩ := result
    obtain ⟨onTables, made⟩ := executeSecured_shown executed
    refine ⟨?_, Database.keepsHidden_applyAll made⟩
    rcases onTables with rfl | executed
    · exact exist
    · exact (keepsForeignKeys statement db reply writes exist executed).exist

theorem keepsHidden_of_setsNothing {α : Type} {program : Tx α} (setting : Option Uuid)
    (setsNothing : program.SetsNothing) (exist : db.RefsExist) :
    db.KeepsHidden (program.runWith Statement.executeSecuredOn (setting, db)).2.2 setting := by
  induction program generalizing db with
  | done value | throw error => exact .refl db setting
  | call op resume ih =>
    obtain ⟨stillExist, keeps⟩ := Statement.executeSecuredOn_keeps setting op exist
    have sameSetting : (Statement.executeSecuredOn op (setting, db)).2 =
        (setting, (Statement.executeSecuredOn op (setting, db)).2.2) := by
      unfold Statement.executeSecuredOn
      cases op.executeSecured setting db with
      | error error => rfl
      | ok result => simp only [setsNothing.1, Option.none_or]
    rw [Program.runWith_call, sameSetting]
    exact keeps.trans exist (ih _ (setsNothing.2 _) stillExist)

/-- Whatever a program of the services' statements does under the policies, what they hide from it stays as it is, but
    that a hidden product loses its reference to a category that the program sees; and this does not happen where no
    store is set, or where references stay within a store. -/
theorem hidden_unchanged {α : Type} {program : Tx α} (setsNothing : program.SetsNothing) (exist : db.RefsExist) :
    db.KeepsHidden (program.runWith Statement.executeSecuredOn (setting, db)).2.2 setting ∧
      (setting = none ∨ db.Linked → ∀ key,
        (program.runWith Statement.executeSecuredOn (setting, db)).2.2.hidden setting key = db.hidden setting key) := by
  have keeps := keepsHidden_of_setsNothing setting setsNothing exist
  refine ⟨keeps, fun apart key => (keeps key).resolve_right ?_⟩
  rintro ⟨p, rfl, row, c, category, isHidden, isCategory, found, seen, -⟩
  obtain ⟨present, notSeen⟩ := Database.hidden_eq_some.mp isHidden
  rcases apart with rfl | linked
  · cases seen
  · obtain ⟨own, ownFound, sameStore⟩ := linked.productCategory row (Table.mem_of_find present) c isCategory
    cases found.symm.trans ownFound
    exact of_decide_eq_true notSeen (seen.trans (congrArg some sameStore))

end Hidden

/-- Another store deletes the tea by its id alone. -/
theorem hidden_unchanged_smallShop :
    SmallShop.db.KeepsHidden ((Tx.product (.delete 2)).runWith Statement.executeSecuredOn (some 2, SmallShop.db)).2.2
        (some 2) ∧
      (some (2 : Uuid) = none ∨ SmallShop.db.Linked → ∀ key,
        ((Tx.product (.delete 2)).runWith Statement.executeSecuredOn (some 2, SmallShop.db)).2.2.hidden (some 2) key =
          SmallShop.db.hidden (some 2) key) :=
  hidden_unchanged (Program.only_perform rfl) (ShopRequest.refsExist_start SmallShop.linked)

end StoreSaas
