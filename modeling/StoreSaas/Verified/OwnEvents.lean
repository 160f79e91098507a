import StoreSaas.Library.Protocol
import StoreSaas.Library.RowInvariant
import StoreSaas.Verified.AuditSecrets

/-! # Whose events an owner sees

Any number of requests to the audited routes, side by side.  The page of a store shows the
rows of its users' requests, and the rows whose target is the store: a target that is an `:id` or
an answer's `id` is no store's, unless a SuperAdmin has suspended or reactivated that store.
-/

namespace StoreSaas

namespace AuditedHttpRequest

/-- An event of the store: by one of its users, or by a SuperAdmin who suspends or reactivates it. -/
def Concerns (request : AuditedHttpRequest) (storeId : Uuid) : Prop :=
  request.user.storeId = some storeId ∨
    (request.user.role = .superAdmin ∧ request.user.storeId = none ∧
      ∃ suspended, request.call = .ok (.setSuspended (some storeId) suspended))

/-- A store that is to be suspended or reactivated is named in the URL as its `id` is written everywhere else. -/
def NamesItsStore (request : AuditedHttpRequest) : Prop :=
  ∀ storeId suspended, request.call = .ok (.setSuspended (some storeId) suspended) → request.paramId = some storeId.text

/-- The page that `findForStore` returns. -/
def shown (db : Database) (rank : Uuid → Nat) (storeId : Uuid) (page limit : Option Nat) :
    Except ApiError (Paginated AuditLog) :=
  ((AuditLogService.findForStore rank storeId page limit).runWith shop.executeOn db).1

abbrev AuditedSystem (ι : Type) : Type := System ι Database RowKey DbWrite statements ApiError (Option Uuid)

section

variable {ι : Type}

def system (crypto : Crypto) (start : Database) (requests : ι → AuditedHttpRequest) : AuditedSystem ι :=
  System.start start fun i => (requests i).program crypto

/-- No product, no user and no id that is generated has the id of a store. -/
structure FreshAcrossTables (start : Database) (requests : ι → AuditedHttpRequest) : Prop where
  products : ∀ product ∈ start.products.rows, start.stores.find product.id = none
  users : ∀ user ∈ start.users.rows, start.stores.find user.id = none
  generated : ∀ i position, start.stores.find ((requests i).env.newId position) = none

/-- The pages of a store are about its own events, and have all of them that have succeeded, in whatever order the
    query of each page returns the rows of one instant. -/
structure ShowsOwnEvents (start : Database) (requests : ι → AuditedHttpRequest) (limit : Nat) (state : AuditedSystem ι) :
    Prop where
  sound : ∀ storeId, (start.stores.find storeId).isSome = true → ∀ rank page limit found,
    shown state.db rank storeId page limit = .ok found →
    ∀ row ∈ found.data, ∃ i answer, row = (requests i).entry answer ∧ (requests i).Concerns storeId
  complete : ∀ storeId i answer, (requests i).Concerns storeId → (state.thread i).program = .done answer →
    ∀ ranks : Nat → Uuid → Nat, ∃ page found, 1 ≤ page ∧
      shown state.db (ranks page) storeId (some page) (some limit) = .ok found ∧ (requests i).entry answer ∈ found.data

/-- The rows of the audit trail that the pages of a store are made of. -/
abbrev entriesOf (db : Database) (storeId : Uuid) : List AuditLog := db.auditLogs.rows.filter fun row => row.concerns storeId

/-- The page on which the store's rows of one time begin. -/
abbrev itsPage (db : Database) (storeId : Uuid) (limit : Nat) (row : AuditLog) : Nat :=
  Paging.pageOfKey AuditLog.createdAt (entriesOf db storeId) limit row.createdAt

/-- The store's rows of this row's time end on the page on which they begin, and Postgres accepts its `OFFSET`. -/
def HasPage (db : Database) (storeId : Uuid) (limit : Nat) (row : AuditLog) : Prop :=
  Paging.EndsOnPage AuditLog.createdAt (entriesOf db storeId) limit row.createdAt ∧
    checkOffset (itsPage db storeId limit row) limit = .ok ()

end

end AuditedHttpRequest

theorem AuditStatement.execute_insert {row : AuditLog} {db : Database} {reply : (insert row).Reply}
    {writes : List DbWrite} (executed : (insert row).execute db = .ok (reply, writes)) :
    db.auditLogs.find row.id = none ∧ writes = [.auditLog (.put row)] := by
  simp only [execute] at executed
  split at executed
  next => cases executed
  next absent =>
    cases executed
    exact ⟨Option.not_isSome_iff_eq_none.mp absent, rfl⟩

/-! ## Rows -/

section Rows

variable {ι : Type} (start : Database) (requests : ι → AuditedHttpRequest)

/-- A product or a user has no store's id, and an audit row is that of a request which concerns the stores
    on whose pages it is. -/
def Apart : (key : RowKey) → key.Row → Prop
  | .product id, _ | .user id, _ => start.stores.find id = none
  | .auditLog _, row => ∃ i answer, row = (requests i).entry answer ∧
      ∀ storeId, (start.stores.find storeId).isSome = true → AuditLog.concerns row storeId = true →
        (requests i).Concerns storeId
  | .store _, _ | .category _, _ | .order _, _ | .orderItem _, _ | .subscription _, _ | .webhookEvent _, _
  | .idempotencyRecord _, _ | .outboxEvent _, _ | .uniqueEntry _, _ => True

variable {start requests} {db : Database} {writes : List DbWrite}

theorem apart_unlinkProduct (p : Uuid) : ∀ write ∈ db.unlinkProduct p, shop.WriteOk (Apart start requests) write := by
  intro write made
  obtain ⟨item, -, rfl⟩ := List.mem_map.mp made
  exact fun _ _ => trivial

theorem apart_insertProduct {entity : ProductEntity} {reply : Statement.Reply (.product (.insert entity))}
    (apart : start.stores.find entity.id = none)
    (executed : shop.execute (.product (.insert entity)) db = .ok (reply, writes)) :
    ∀ write ∈ writes, shop.WriteOk (Apart start requests) write := by
  obtain ⟨row, isRow, -, rfl⟩ := ProductStatement.execute_insert executed
  obtain ⟨sameId, -⟩ := ProductEntity.toRow?_eq_some isRow
  refine List.forall_mem_singleton.mpr fun stored isStored => ?_
  cases isStored
  exact (congrArg start.stores.find sameId).trans apart

theorem apart_updateProduct {id : Uuid} {changes : ProductChanges} {now : Timestamp}
    {reply : (ProductStatement.update id changes now).Reply} (apart : start.stores.find id = none)
    (executed : (ProductStatement.update id changes now).execute db = .ok (reply, writes)) :
    ∀ write ∈ writes, shop.WriteOk (Apart start requests) write := by
  obtain ⟨-, rfl⟩ | ⟨stored, next, found, applied, -, rfl⟩ := ProductStatement.execute_update executed
  · exact List.forall_mem_nil _
  · obtain ⟨sameId, -⟩ := ProductChanges.applyTo?_eq_some applied
    refine List.forall_mem_singleton.mpr fun written isWritten => ?_
    cases isWritten
    exact (congrArg start.stores.find (sameId.trans (Table.key_of_find found))).trans apart

theorem apart_deleteProduct {id : Uuid} {reply : (ProductStatement.delete id).Reply}
    (executed : (ProductStatement.delete id).execute db = .ok (reply, writes)) :
    ∀ write ∈ writes, shop.WriteOk (Apart start requests) write := by
  obtain ⟨-, rfl⟩ | ⟨row, -, rfl⟩ := ProductStatement.execute_delete executed
  · exact List.forall_mem_nil _
  · refine List.forall_mem_cons.mpr ⟨fun _ isRow => ?_, apart_unlinkProduct _⟩
    cases isRow

theorem UserEntity.id_of_toRow? {entity : UserEntity} {row : User} (isRow : entity.toRow? = some row) :
    row.id = entity.id := by
  obtain ⟨passwordHash, -, rfl⟩ := Option.map_eq_some_iff.mp isRow
  rfl

theorem apart_insertUser {entity : UserEntity} {reply : Statement.Reply (.user (.insert entity))}
    (apart : start.stores.find entity.id = none)
    (executed : shop.execute (.user (.insert entity)) db = .ok (reply, writes)) :
    ∀ write ∈ writes, shop.WriteOk (Apart start requests) write := by
  obtain ⟨row, isRow, -, rfl⟩ := UserStatement.execute_insert executed
  have sameId : row.id = entity.id := UserEntity.id_of_toRow? isRow
  refine List.forall_mem_singleton.mpr fun stored isStored => ?_
  cases isStored
  exact (congrArg start.stores.find sameId).trans apart

theorem apart_saveUser {id : Uuid} {changes : StaffChanges} {reply : (UserStatement.saveChanges id changes).Reply}
    (apart : start.stores.find id = none)
    (executed : (UserStatement.saveChanges id changes).execute db = .ok (reply, writes)) :
    ∀ write ∈ writes, shop.WriteOk (Apart start requests) write := by
  obtain ⟨-, rfl⟩ | ⟨row, found, rfl⟩ := UserStatement.execute_saveChanges executed
  · exact List.forall_mem_nil _
  · refine List.forall_mem_singleton.mpr fun written isWritten => ?_
    cases isWritten
    exact (congrArg start.stores.find (Table.key_of_find found)).trans apart

theorem apart_deleteUser {id : Uuid} {reply : (UserStatement.delete id).Reply}
    (executed : (UserStatement.delete id).execute db = .ok (reply, writes)) :
    ∀ write ∈ writes, shop.WriteOk (Apart start requests) write := by
  obtain ⟨-, rfl⟩ | ⟨row, -, rfl⟩ := UserStatement.execute_delete executed
  · exact List.forall_mem_nil _
  · refine List.forall_mem_singleton.mpr fun _ isRow => ?_
    cases isRow

theorem apart_insertStore {entity : StoreEntity} {reply : (StoreStatement.insert entity).Reply}
    (executed : (StoreStatement.insert entity).execute db = .ok (reply, writes)) :
    ∀ write ∈ writes, shop.WriteOk (Apart start requests) write := by
  obtain ⟨row, -, -, rfl⟩ := StoreStatement.execute_insert executed
  exact List.forall_mem_singleton.mpr fun _ _ => trivial

theorem apart_updateStore {id : Uuid} {changes : StoreChanges} {reply : (StoreStatement.update id changes).Reply}
    (executed : (StoreStatement.update id changes).execute db = .ok (reply, writes)) :
    ∀ write ∈ writes, shop.WriteOk (Apart start requests) write := by
  obtain ⟨-, rfl⟩ | ⟨row, next, -, -, rfl⟩ := StoreStatement.execute_update executed
  · exact List.forall_mem_nil _
  · exact List.forall_mem_singleton.mpr fun _ _ => trivial

/-! ## The services -/

open Engine

theorem apart_reads {α : Type} {body : Tx α} (only : body.Only fun op : Statement => op.isRead = true) :
    shop.Writes (Apart start requests) (fun _ => True) body :=
  writes_of_only only fun op view reply writes reads _ executed => by
    rw [Statement.execute_read reads executed]
    exact List.forall_mem_nil _

theorem apart_quiet_bind {α : Type} {post : α → Prop} {op : Statement} {next : op.Reply → Tx α}
    (quiet : ∀ view reply writes, Statement.execute op view = .ok (reply, writes) → writes = [])
    (rest : ∀ reply, shop.Writes (Apart start requests) post (next reply)) :
    shop.Writes (Apart start requests) post (Program.perform (S := statements) op >>= next) :=
  writes_perform_bind fun view reply writes _ executed => by
    rw [quiet view reply writes executed]
    exact ⟨List.forall_mem_nil _, rest reply⟩

/-! ### Products -/

/-- A product that is found under an `:id` has that `id`, which is no store's. -/
theorem apart_findOneProduct (storeId : Uuid) (id : RouteId) :
    shop.Writes (Apart start requests) (fun entity => id = some entity.id ∧ start.stores.find entity.id = none)
      (ProductsService.findOne storeId id) := by
  unfold ProductsService.findOne
  refine writes_perform_bind fun view found writes rows executed => ?_
  cases id with
  | none => cases executed
  | some id =>
    cases executed
    refine ⟨List.forall_mem_nil _, ?_⟩
    cases isFound : view.findProduct id storeId with
    | none => trivial
    | some row =>
      obtain ⟨present, rfl, -⟩ := Database.findProduct_eq_some isFound
      exact ⟨rfl, rows (.product row.id) row present⟩

theorem apart_saveProduct (env : Environment) (entity : ProductEntity) (apart : start.stores.find entity.id = none) :
    shop.Writes (Apart start requests) (fun saved => saved.id = entity.id) (ProductsService.save env entity) := by
  unfold ProductsService.save
  refine writes_perform_bind fun view found writes _ executed => ?_
  cases executed
  refine ⟨List.forall_mem_nil _, ?_⟩
  cases view.products.find entity.id with
  | none => exact writes_perform_bind fun _ _ _ _ executed => ⟨apart_insertProduct apart executed, rfl⟩
  | some row =>
    dsimp only
    split
    next => exact rfl
    next => exact writes_perform_bind fun _ _ _ _ executed => ⟨apart_updateProduct apart executed, rfl⟩

theorem apart_createProduct {env : Environment} (storeId : Uuid) (dto : CreateProductDto)
    (apart : start.stores.find (env.newId 0) = none) :
    shop.Writes (Apart start requests) (fun entity => entity.id = env.newId 0)
      (ProductsService.create env storeId dto) := by
  unfold ProductsService.create
  refine (apart_reads (only_requireCategory storeId dto.categoryId)).bind fun _ _ => ?_
  exact writes_perform_bind fun _ _ _ _ executed => ⟨apart_insertProduct apart executed, rfl⟩

theorem apart_updateOneProduct (env : Environment) (storeId : Uuid) (id : RouteId) (dto : UpdateProductDto) :
    shop.Writes (Apart start requests) (fun entity => id = some entity.id ∧ start.stores.find entity.id = none)
      (ProductsService.update env storeId id dto) := by
  unfold ProductsService.update
  refine (apart_findOneProduct storeId id).bind fun product found => ?_
  refine (apart_reads (only_requireCategory storeId dto.categoryId)).bind fun _ _ => ?_
  refine (apart_saveProduct env (dto.assignTo product) found.2).imp fun saved sameId => ?_
  rw [sameId]
  exact found

theorem apart_removeProduct (storeId : Uuid) (id : RouteId) :
    shop.Writes (Apart start requests) (fun _ => ∃ p, id = some p ∧ start.stores.find p = none)
      (ProductsService.remove storeId id) :=
  (apart_findOneProduct storeId id).bind fun product found =>
    writes_perform fun _ _ _ _ executed => ⟨apart_deleteProduct executed, product.id, found⟩

/-! ### Staff -/

theorem apart_findStaff (storeId : Uuid) (staffId : RouteId) :
    shop.Writes (Apart start requests) (fun staff => staffId = some staff.id ∧ start.stores.find staff.id = none)
      (StoresService.findStaffOrThrow storeId staffId) := by
  unfold StoresService.findStaffOrThrow
  refine writes_perform_bind fun view found writes rows executed => ?_
  cases staffId with
  | none => cases executed
  | some id =>
    cases executed
    refine ⟨List.forall_mem_nil _, ?_⟩
    cases isFound : view.findStaff id storeId with
    | none => trivial
    | some row =>
      have present := (Option.filter_eq_some_iff.mp isFound).1
      obtain rfl : row.id = id := Table.key_of_find present
      exact ⟨rfl, rows (.user row.id) row present⟩

theorem apart_saveStaff (entity : UserEntity) (apart : start.stores.find entity.id = none) :
    shop.Writes (Apart start requests) (fun saved => saved.id = entity.id) (StoresService.save entity) := by
  unfold StoresService.save
  refine writes_perform_bind fun view found writes _ executed => ?_
  cases executed
  refine ⟨List.forall_mem_nil _, ?_⟩
  cases view.users.find entity.id with
  | none => exact writes_perform_bind fun _ _ _ _ executed => ⟨apart_insertUser apart executed, rfl⟩
  | some row =>
    dsimp only
    split
    next => exact rfl
    next => exact writes_perform_bind fun _ _ _ _ executed => ⟨apart_saveUser apart executed, rfl⟩

theorem apart_inviteStaff (crypto : Crypto) (salt : Bytes) {env : Environment} (storeId : Uuid) (dto : InviteStaffDto)
    (apart : start.stores.find (env.newId 0) = none) :
    shop.Writes (Apart start requests) (fun staff => staff.id = env.newId 0)
      (StoresService.inviteStaff crypto salt env storeId dto) := by
  unfold StoresService.inviteStaff
  refine apart_quiet_bind (fun _ _ _ executed => by cases executed; rfl) fun existing => ?_
  cases existing with
  | some _ => trivial
  | none =>
    refine apart_quiet_bind (fun _ _ _ executed => by cases executed; rfl) fun _ => ?_
    refine apart_quiet_bind (fun _ _ _ executed => by cases executed; rfl) fun _ => ?_
    dsimp only
    split
    next => trivial
    next => exact writes_perform_bind fun _ _ _ _ executed => ⟨apart_insertUser apart executed, rfl⟩

theorem apart_updateStaff (crypto : Crypto) (salt : Bytes) (storeId : Uuid) (staffId : RouteId) (dto : UpdateStaffDto) :
    shop.Writes (Apart start requests) (fun staff => staffId = some staff.id ∧ start.stores.find staff.id = none)
      (StoresService.updateStaff crypto salt storeId staffId dto) :=
  (apart_findStaff storeId staffId).bind fun staff found =>
    (apart_saveStaff (StoresService.assign crypto salt dto staff) found.2).imp fun saved sameId => by
      rw [sameId]
      exact found

theorem apart_removeStaff (storeId : Uuid) (staffId : RouteId) :
    shop.Writes (Apart start requests) (fun _ => ∃ id, staffId = some id ∧ start.stores.find id = none)
      (StoresService.removeStaff storeId staffId) :=
  (apart_findStaff storeId staffId).bind fun staff found =>
    writes_perform fun _ _ _ _ executed => ⟨apart_deleteUser executed, staff.id, found⟩

/-! ### Stores -/

theorem apart_saveStore (entity : StoreEntity) :
    shop.Writes (Apart start requests) (fun saved => saved.id = entity.id) (StoresService.saveStore entity) := by
  unfold StoresService.saveStore
  refine writes_perform_bind fun view found writes _ executed => ?_
  cases executed
  refine ⟨List.forall_mem_nil _, ?_⟩
  cases view.stores.find entity.id with
  | none => exact writes_perform_bind fun _ _ _ _ executed => ⟨apart_insertStore executed, rfl⟩
  | some row =>
    dsimp only
    split
    next => exact rfl
    next => exact writes_perform_bind fun _ _ _ _ executed => ⟨apart_updateStore executed, rfl⟩

theorem apart_findMine (storeId : Uuid) :
    shop.Writes (Apart start requests) (fun store => store.id = storeId) (StoresService.findMine storeId) := by
  unfold StoresService.findMine
  refine writes_perform_bind fun view found writes _ executed => ?_
  cases executed
  refine ⟨List.forall_mem_nil _, ?_⟩
  cases isFound : view.stores.find storeId with
  | none => trivial
  | some store => exact Table.key_of_find isFound

theorem apart_updateMine (storeId : Uuid) (dto : UpdateStoreDto) :
    shop.Writes (Apart start requests) (fun store => store.id = storeId) (StoresService.updateMine storeId dto) :=
  (apart_findMine storeId).bind fun _ sameId => (apart_saveStore _).imp fun _ saved => saved.trans sameId

theorem apart_setSuspended (id : RouteId) (suspended : Bool) :
    shop.Writes (Apart start requests) (fun _ => True) (AdminService.setSuspended id suspended) := by
  unfold AdminService.setSuspended
  refine apart_quiet_bind (fun view reply writes executed => ?_) fun found => ?_
  · cases id with
    | none => cases executed
    | some id =>
      cases executed
      rfl
  cases found with
  | none => trivial
  | some store => exact (apart_saveStore _).imp fun _ _ => trivial

/-! ### The target of a request -/

variable (start) in
/-- The row with this answer is on the pages of those stores only that the request concerns. -/
def AuditedHttpRequest.Targets (request : AuditedHttpRequest) (answer : Option Uuid) : Prop :=
  ∀ storeId, (start.stores.find storeId).isSome = true → (request.entry answer).concerns storeId = true →
    request.Concerns storeId

theorem concerns_entry {request : AuditedHttpRequest} {answer : Option Uuid} {storeId : Uuid} :
    (request.entry answer).concerns storeId = true ↔
      request.user.storeId = some storeId ∨ (request.paramId <|> answer.map Uuid.text) = some storeId.text := by
  unfold AuditLog.concerns
  rw [Bool.or_eq_true, decide_eq_true_eq, decide_eq_true_eq]
  rfl

theorem ne_of_isSome {id storeId : Uuid} (apart : start.stores.find id = none)
    (isStore : (start.stores.find storeId).isSome = true) : id ≠ storeId := by
  rintro rfl
  rw [apart] at isStore
  cases isStore

/-- The `:id` is the target, and the service has found a row of another table under it. -/
theorem targets_param {request : AuditedHttpRequest} {answer : Option Uuid} {id : RouteId}
    (param : request.paramId.map Uuid.ofText = some id) (found : ∃ row, id = some row ∧ start.stores.find row = none) :
    request.Targets start answer := by
  obtain ⟨text, isParam, rfl⟩ := Option.map_eq_some_iff.mp param
  obtain ⟨row, isRow, apart⟩ := found
  intro storeId isStore concerns
  refine .inl ((concerns_entry.mp concerns).resolve_right fun isTarget => ?_)
  rw [isParam] at isTarget
  have isText : text = storeId.text := Option.some.inj isTarget
  rw [isText, Uuid.ofText_text] at isRow
  exact ne_of_isSome apart isStore (Option.some.inj isRow).symm

/-- The answer's `id` is the target, and is the user's own store or no store's. -/
theorem targets_answer {request : AuditedHttpRequest} {id : Uuid} (noParam : request.paramId.map Uuid.ofText = none)
    (own : request.user.storeId = some id ∨ start.stores.find id = none) : request.Targets start (some id) := by
  intro storeId isStore concerns
  refine .inl ((concerns_entry.mp concerns).elim (fun isUser => isUser) fun isTarget => ?_)
  rw [Option.map_eq_none_iff.mp noParam] at isTarget
  have sameText := congrArg Uuid.ofText (Option.some.inj isTarget)
  rw [Uuid.ofText_text, Uuid.ofText_text] at sameText
  obtain rfl : id = storeId := Option.some.inj sameText
  exact own.resolve_right fun apart => ne_of_isSome apart isStore rfl

theorem targets_setSuspended {request : AuditedHttpRequest} {answer : Option Uuid} {id : RouteId} {suspended : Bool}
    (isCall : request.call = .ok (.setSuspended id suspended)) (routed : request.Routed (.setSuspended id suspended)) :
    request.Targets start answer := by
  obtain ⟨text, isParam, isId⟩ := Option.map_eq_some_iff.mp routed.param
  intro storeId _ concerns
  have notUser : request.user.storeId = none := routed.storeId
  rw [concerns_entry, notUser, isParam] at concerns
  obtain isUser | isTarget := concerns
  · cases isUser
  · have isText : text = storeId.text := Option.some.inj isTarget
    rw [isText, Uuid.ofText_text] at isId
    exact .inr ⟨List.mem_singleton.mp routed.role, notUser, suspended, isId ▸ isCall⟩

/-- What the handlers answer with puts the row on the right pages. -/
theorem apart_body (crypto : Crypto) {request : AuditedHttpRequest} {call : AuditedCall}
    (isCall : request.call = .ok call) (routed : request.Routed call) (fresh : ∀ position, start.stores.find (request.env.newId position) = none) :
    shop.Writes (Apart start requests) (request.Targets start) (call.body crypto request.salt request.env) := by
  have storeId := routed.storeId
  have param := routed.param
  cases call with
  | createProduct inStore dto =>
    refine (apart_createProduct inStore dto (fresh 0)).bind fun product isNew => ?_
    exact targets_answer param (.inr (isNew ▸ fresh 0))
  | updateProduct inStore id body =>
    exact (apart_updateOneProduct request.env inStore id _).bind fun product found => targets_param param ⟨_, found⟩
  | removeProduct inStore id =>
    exact (apart_removeProduct inStore id).bind fun _ found => targets_param param found
  | updateMine inStore dto =>
    exact (apart_updateMine inStore dto).bind fun store sameId => targets_answer param (.inl (sameId ▸ storeId))
  | inviteStaff inStore dto =>
    refine (apart_inviteStaff crypto request.salt inStore dto (fresh 0)).bind fun staff isNew => ?_
    exact targets_answer param (.inr (isNew ▸ fresh 0))
  | updateStaff inStore staffId dto =>
    refine (apart_updateStaff crypto request.salt inStore staffId dto).bind fun staff found => ?_
    exact targets_param param ⟨_, found⟩
  | removeStaff inStore staffId =>
    exact (apart_removeStaff inStore staffId).bind fun _ found => targets_param param found
  | setSuspended id suspended =>
    exact (apart_setSuspended id suspended).bind fun store _ => targets_setSuspended isCall routed

/-! ### The requests -/

theorem apart_handler (crypto : Crypto) (request : AuditedHttpRequest)
    (routed : ∀ call, request.call = .ok call → request.Routed call)
    (fresh : ∀ position, start.stores.find (request.env.newId position) = none) :
    shop.RequestEnds (Apart start requests) (request.Targets start) (request.handler crypto) := by
  unfold AuditedHttpRequest.handler
  cases isCall : request.call with
  | error error => trivial
  | ok call =>
    have body : shop.Writes (Apart start requests) _ _ := apart_body crypto isCall (routed call isCall) fresh
    dsimp only
    unfold AuditedCall.handler
    split
    next => exact body.inTransaction_ends
    next => exact body.autocommit_ends

theorem apart_program (crypto : Crypto) (i : ι)
    (routed : ∀ call, (requests i).call = .ok call → (requests i).Routed call)
    (fresh : ∀ position, start.stores.find ((requests i).env.newId position) = none) :
    shop.RequestWrites (Apart start requests) ((requests i).program crypto) := by
  have audits : shop.RequestWrites (Apart start requests) (AuditInterceptor.intercept (requests i).env
      (requests i).audited (Option.map Uuid.text) ((requests i).handler crypto)) := by
    refine (apart_handler crypto (requests i) routed fresh).bind fun answer targets => ?_
    have inserts : shop.Writes (Apart start requests) (fun _ => True)
        (Tx.audit (.insert ((requests i).entry answer))) := by
      refine writes_perform fun view reply writes _ executed => ⟨?_, trivial⟩
      obtain ⟨-, rfl⟩ := AuditStatement.execute_insert executed
      refine List.forall_mem_singleton.mpr fun row isRow => ?_
      cases isRow
      exact ⟨i, answer, rfl, targets⟩
    exact inserts.autocommit_ends.bind fun _ _ => trivial
  unfold AuditedHttpRequest.program
  cases (requests i).user.storeId with
  | none => exact audits
  | some storeId =>
    have sets : shop.Writes (Apart start requests) (fun _ => True) (Tx.setCurrentStore storeId) :=
      writes_perform fun _ _ _ _ executed => by
        cases executed
        exact ⟨List.forall_mem_nil _, trivial⟩
    exact (sets.inTransaction_ends.bind fun _ _ => audits).withTransaction

theorem apart_start (fresh : AuditedHttpRequest.FreshAcrossTables start requests) (empty : start.auditLogs.rows = []) :
    shop.RowsOk (Apart start requests) start := by
  intro key row found
  cases key with
  | product id =>
    have isId : Product.id row = id := Table.key_of_find found
    exact isId ▸ fresh.products row (Table.mem_of_find found)
  | user id =>
    have isId : User.id row = id := Table.key_of_find found
    exact isId ▸ fresh.users row (Table.mem_of_find found)
  | auditLog id =>
    have present : row ∈ start.auditLogs.rows := Table.mem_of_find found
    rw [empty] at present
    cases present
  | _ => trivial

end Rows

/-! ## The row of a request that has succeeded -/

namespace AuditedHttpRequest

/-- The row that a request has inserted, if any. -/
def trailProtocol (request : AuditedHttpRequest) : Protocol statements ApiError (Option AuditLog) where
  initial := none
  allows _ op := SparesAudit op ∨ ∃ answer, op = .auto (.audit (.insert (request.entry answer)))
  next phase op reply :=
    match op, reply with
    | .auto (.audit (.insert row)), .ok _ => some row
    | _, _ => phase

/-- A request that succeeds has inserted the row of its answer. -/
def Ended (request : AuditedHttpRequest) (phase : Option AuditLog) (result : Except ApiError (Option Uuid)) : Prop :=
  ∀ answer, result = .ok answer → phase = some (request.entry answer)

variable {request : AuditedHttpRequest}

theorem next_of_spares {op : RequestOp statements} (spares : SparesAudit op) (phase : Option AuditLog)
    (reply : Except ApiError op.Reply) : request.trailProtocol.next phase op reply = phase := by
  cases op with
  | begin | commit | rollback | query op => rfl
  | auto op =>
    cases op with
    | audit statement =>
      cases statement with
      | insert row => cases spares
      | getManyAndCount => rfl
    | _ => rfl

theorem obeys_of_spares {α : Type} {program : Handler α} (only : program.Only SparesAudit) (phase : Option AuditLog) :
    program.Obeys request.trailProtocol (fun after _ => after = phase) phase :=
  Program.obeys_of_only only fun _ spares => ⟨.inl spares, next_of_spares spares phase⟩

theorem obeys_intercept (crypto : Crypto) (request : AuditedHttpRequest) :
    (AuditInterceptor.intercept request.env request.audited (Option.map Uuid.text) (request.handler crypto)).Obeys
      request.trailProtocol request.Ended none := by
  have only : (request.handler crypto).Only SparesAudit := request.only_handler
  refine (obeys_of_spares only none).handle fun phase result unchanged => ?_
  subst unchanged
  cases result with
  | error error =>
    intro answer isOk
    cases isOk
  | ok answer =>
    refine ⟨.inr ⟨answer, rfl⟩, fun reply => ?_⟩
    cases reply with
    | error error =>
      intro other isOk
      cases isOk
    | ok inserted =>
      intro other isOk
      cases isOk
      rfl

theorem obeys_program (crypto : Crypto) (request : AuditedHttpRequest) :
    (request.program crypto).Obeys request.trailProtocol request.Ended none := by
  have audits := obeys_intercept crypto request
  unfold program
  cases request.user.storeId with
  | none => exact audits
  | some storeId =>
    have sets : ((Tx.setCurrentStore storeId).inTransaction : Handler Unit).Only SparesAudit :=
      ⟨rfl, fun reply => by cases reply <;> trivial⟩
    refine Program.obeys_withTransaction request.Ended (.inl trivial) (fun error answer isOk => by cases isOk) ?_ ?_ ?_
    · refine (obeys_of_spares sets none).handle fun phase result unchanged => ?_
      subst unchanged
      cases result with
      | ok _ => exact audits
      | error error =>
        intro answer isOk
        cases isOk
    · exact fun phase answer ended => ⟨.inl trivial, ended, fun error other isOk => by cases isOk⟩
    · exact fun phase error _ => ⟨.inl trivial, fun reply answer isOk => by cases isOk⟩

section Runs

variable {ι : Type} {requests : ι → AuditedHttpRequest}

/-- The rows that have been inserted are there, and no open transaction is going to change one. -/
structure TrailKept (requests : ι → AuditedHttpRequest) (state : AuditedSystem ι) : Prop where
  follows : state.Follows (fun i => (requests i).trailProtocol) fun i => (requests i).Ended
  quiet : ∀ i, ∀ write ∈ (state.thread i).session.pending, write.key.table ≠ .auditLogs
  logged : ∀ i row, state.phase (fun i => (requests i).trailProtocol) i = some row →
    state.db.auditLogs.find row.id = some row

theorem trailKept_start (crypto : Crypto) (start : Database) : TrailKept requests (system crypto start requests) where
  follows := Engine.follows_start fun i => obeys_program crypto (requests i)
  quiet _ := List.forall_mem_nil _
  logged i row inserted := by cases inserted

variable [Fintype ι] [DecidableEq ι] {source target : AuditedSystem ι} {act : Act ι ApiError}

/-- An insert of an audit row adds it, or does nothing. -/
theorem perform_insert (session : Session RowKey DbWrite statements ApiError) (db : Database) (row : AuditLog) :
    ((shop.perform session db (.auto (.audit (.insert row)))).reply = .ok () ∧ db.auditLogs.find row.id = none ∧
        (shop.perform session db (.auto (.audit (.insert row)))).db = { db with auditLogs := db.auditLogs.put row }) ∨
      ∃ error, (shop.perform session db (.auto (.audit (.insert row)))).reply = .error error ∧
        (shop.perform session db (.auto (.audit (.insert row)))).db = db := by
  obtain ⟨reply, after, -⟩ := Engine.perform_auto (E := shop) session db (.audit (.insert row))
  rw [reply, after]
  cases executed : shop.execute (.audit (.insert row)) db with
  | error error =>
    refine .inr ⟨error, ?_⟩
    simp only [Engine.executeOn, executed]
    exact ⟨rfl, trivial⟩
  | ok result =>
    obtain ⟨absent, isWrites⟩ := AuditStatement.execute_insert executed
    refine .inl ?_
    simp only [Engine.executeOn, executed, isWrites]
    exact ⟨rfl, absent, rfl⟩

theorem next_error {op : RequestOp statements} (phase : Option AuditLog) (error : ApiError) :
    request.trailProtocol.next phase op (.error error) = phase := by
  cases op with
  | begin | commit | rollback | query op => rfl
  | auto op =>
    cases op with
    | audit statement => cases statement <;> rfl
    | _ => rfl

def Quiet (session : Session RowKey DbWrite statements ApiError) : Prop :=
  ∀ write ∈ session.pending, write.key.table ≠ .auditLogs

theorem quiet_perform {session : Session RowKey DbWrite statements ApiError} (quiet : Quiet session) (db : Database)
    {op : RequestOp statements} {phase : Option AuditLog} (allowed : request.trailProtocol.allows phase op) :
    Quiet (shop.perform session db op).session := by
  obtain spares | ⟨answer, rfl⟩ := allowed
  · have now : TrailIs db.auditLogs (session, db) := ⟨rfl, quiet⟩
    exact (trailIs_performOn op (session, db) spares now).2
  · unfold Quiet
    rw [(Engine.perform_auto (E := shop) session db (.audit (.insert (request.entry answer)))).2.2]
    exact quiet

/-- The rows of the trail stay, and what the phase says has been inserted is there. -/
theorem trail_perform {session : Session RowKey DbWrite statements ApiError} (quiet : Quiet session) (db : Database)
    {op : RequestOp statements} {phase : Option AuditLog} (allowed : request.trailProtocol.allows phase op) :
    (∀ row : AuditLog, db.auditLogs.find row.id = some row →
      (shop.perform session db op).db.auditLogs.find row.id = some row) ∧
    (request.trailProtocol.next phase op (shop.perform session db op).reply = phase ∨
      ∃ row : AuditLog, request.trailProtocol.next phase op (shop.perform session db op).reply = some row ∧
        (shop.perform session db op).db.auditLogs.find row.id = some row) := by
  obtain spares | ⟨answer, rfl⟩ := allowed
  · have now : TrailIs db.auditLogs (session, db) := ⟨rfl, quiet⟩
    have same : (shop.perform session db op).db.auditLogs = db.auditLogs :=
      (trailIs_performOn op (session, db) spares now).1
    exact ⟨fun row there => by rwa [same], .inl (next_of_spares spares phase _)⟩
  · obtain ⟨reply, absent, after⟩ | ⟨error, reply, after⟩ := perform_insert session db (request.entry answer)
    · rw [reply, after]
      refine ⟨fun row there => ?_, .inr ⟨_, rfl, Table.find_put_same ..⟩⟩
      refine (Table.find_put_ne _ fun sameId => ?_).trans there
      rw [sameId, absent] at there
      cases there
    · rw [reply, after]
      exact ⟨fun _ there => there, .inl rfl⟩

/-- What a step does to the trail, and to what the requests know of it. -/
theorem trail_step (kept : TrailKept requests source) (stepped : shop.Steps source act target) :
    (∀ row : AuditLog, source.db.auditLogs.find row.id = some row → target.db.auditLogs.find row.id = some row) ∧
    ∀ i, target.phase (fun i => (requests i).trailProtocol) i = source.phase (fun i => (requests i).trailProtocol) i ∨
      ∃ row : AuditLog, target.phase (fun i => (requests i).trailProtocol) i = some row ∧
        target.db.auditLogs.find row.id = some row := by
  cases Engine.phaseStep_of_follows kept.follows stepped with
  | run i op resume alive calls allowed free =>
    obtain ⟨stays, inserted⟩ := trail_perform (kept.quiet i) source.db allowed
    refine ⟨stays, fun j => ?_⟩
    rw [Engine.phase_perform]
    by_cases same : j = i
    · subst same
      rw [Function.update_self]
      exact inserted
    · rw [Function.update_of_ne same]
      exact .inl rfl
  | fail i error op resume alive calls allowed =>
    refine ⟨fun _ there => there, fun j => .inl ?_⟩
    rw [Engine.phase_failed]
    by_cases same : j = i
    · subst same
      rw [Function.update_self]
      exact next_error _ error
    · rw [Function.update_of_ne same]
  | crash i alive => exact ⟨fun _ there => there, fun j => .inl (congrFun (Engine.phase_crash source i) j)⟩

theorem TrailKept.step (kept : TrailKept requests source) (stepped : shop.Steps source act target) :
    TrailKept requests target where
  follows := Engine.follows_step kept.follows stepped
  quiet := by
    refine Engine.thread_step (fun _ _ session _ => Quiet session) (fun _ session db op phase allowed quiet => ?_)
      (fun _ session op error phase _ quiet => ?_) (fun _ _ _ _ => List.forall_mem_nil _) kept.follows kept.quiet
      stepped
    · exact quiet_perform quiet db allowed
    · unfold Quiet Engine.failed
      split
      · exact List.forall_mem_nil _
      · exact quiet
  logged i row inserted := by
    obtain ⟨stays, known⟩ := trail_step kept stepped
    obtain same | ⟨other, isOther, there⟩ := known i
    · exact stays row (kept.logged i row (same.symm.trans inserted))
    · cases isOther.symm.trans inserted
      exact there

/-! ## The pages -/

section Pages

variable {db : Database} {storeId : Uuid}

/-- The rows in the order in which the query of a page takes them. -/
abbrev arranged (db : Database) (rank : Uuid → Nat) (storeId : Uuid) : List AuditLog :=
  newestFirst AuditLog.createdAt AuditLog.id rank (entriesOf db storeId)

/-- A row is shown where it stands among those of the store. -/
theorem mem_shown_iff {rank : Uuid → Nat} {page limit : Option Nat} {row : AuditLog} :
    (∃ found, shown db rank storeId page limit = .ok found ∧ row ∈ found.data) ↔
      checkOffset (page.getD 1) (limit.getD 20) = .ok () ∧
        row ∈ pageOf (page.getD 1) (limit.getD 20) (arranged db rank storeId) := by
  rw [shown, runWith_findForStore]
  cases checkOffset (page.getD 1) (limit.getD 20) with
  | error error => exact iff_of_false (fun ⟨_, ran, _⟩ => nomatch ran) (fun ⟨accepted, _⟩ => nomatch accepted)
  | ok =>
    refine ⟨fun ⟨found, ran, onPage⟩ => ⟨rfl, ?_⟩, fun ⟨_, onPage⟩ => ⟨_, rfl, onPage⟩⟩
    cases ran
    exact onPage

/-- The query of one page puts a row behind the others of its time, and those of all other pages put it before them. -/
def evasive (evader : Uuid) (page number : Nat) (id : Uuid) : Nat :=
  if id = evader then (if number = page then 1 else 0) else (if number = page then 0 else 1)

theorem arranges_evasive (db : Database) (storeId evader : Uuid) (page number : Nat) :
    Paging.Arranges (if number = page then Paging.withLast AuditLog.createdAt (fun other => other.id = evader)
        else Paging.withFirst AuditLog.createdAt (fun other => other.id = evader))
      (entriesOf db storeId) (arranged db (evasive evader page number) storeId) where
  perm := (arranges_newestFirst ..).perm
  sorted := by
    rw [arranged, newestFirst_eq]
    refine (List.pairwise_insertionSort _ _).imp fun {left right} precedes => ?_
    unfold Precedes evasive at precedes
    split <;> simp only [*, if_true, if_false, Paging.withLast, Paging.withFirst] at precedes ⊢ <;> grind

/-- A row of the store is on some page, whatever order each query chooses, exactly if it has a page. -/
theorem onSomePage_iff {row : AuditLog} {limit : Nat} (positive : 1 ≤ limit) (isOwn : row ∈ entriesOf db storeId) :
    (∀ ranks : Nat → Uuid → Nat, ∃ page found, 1 ≤ page ∧
      shown db (ranks page) storeId (some page) (some limit) = .ok found ∧ row ∈ found.data) ↔
        HasPage db storeId limit row := by
  constructor
  · intro onSome
    have ends : Paging.EndsOnPage AuditLog.createdAt (entriesOf db storeId) limit row.createdAt := by
      by_contra goesOn
      obtain ⟨page, found, first, isFound, onPage⟩ := onSome (evasive row.id (itsPage db storeId limit row))
      have arranges := arranges_evasive db storeId row.id (itsPage db storeId limit row)
      have only : ∀ other ∈ entriesOf db storeId, other.id = row.id → other = row := fun other isOther same =>
        List.inj_on_of_nodup_map db.auditLogs.nodup (List.mem_filter.mp isOther).1 (List.mem_filter.mp isOwn).1 same
      have nodup : (entriesOf db storeId).Nodup := (List.Nodup.of_map _ db.auditLogs.nodup).filter _
      refine Paging.not_mem_page_of_not_endsOnPage (fun other => other.id = row.id)
        (fun number => arranged db (evasive row.id (itsPage db storeId limit row) number) storeId) positive nodup isOwn rfl only
        goesOn (fun number isOther => ?_) ?_ first (mem_shown_iff.mp ⟨found, isFound, onPage⟩).2
      · have notIts := arranges number
        rwa [if_neg isOther] at notIts
      · have its := arranges (itsPage db storeId limit row)
        rwa [if_pos rfl] at its
    refine ⟨ends, ?_⟩
    obtain ⟨page, found, first, isFound, onPage⟩ := onSome fun _ _ => 0
    obtain ⟨accepted, there⟩ := mem_shown_iff.mp ⟨found, isFound, onPage⟩
    rw [itsPage, ← (arranges_newestFirst ..).eq_pageOfKey positive first ends there]
    exact accepted
  · rintro ⟨ends, accepted⟩ ranks
    have onPage : row ∈ pageOf (itsPage db storeId limit row) limit
        (arranged db (ranks (itsPage db storeId limit row)) storeId) :=
      (arranges_newestFirst ..).mem_page positive isOwn ends
    obtain ⟨found, isFound, isShown⟩ : ∃ found, shown db (ranks (itsPage db storeId limit row)) storeId
        (some (itsPage db storeId limit row)) (some limit) = .ok found ∧ row ∈ found.data :=
      mem_shown_iff.mpr ⟨accepted, onPage⟩
    exact ⟨_, found, Nat.le_add_left 1 _, isFound, isShown⟩

end Pages

omit [Fintype ι] [DecidableEq ι] in
/-- The row of an event of the store is on its pages, and if its store is named as its `id` is written, only then. -/
theorem concerns_entry_iff {i : ι} {storeId : Uuid} {answer : Option Uuid}
    (routed : ∀ i call, (requests i).call = .ok call → (requests i).Routed call)
    (concerns : (requests i).Concerns storeId) :
    ((requests i).entry answer).concerns storeId = true ↔
      ∀ suspended, (requests i).call = .ok (.setSuspended (some storeId) suspended) →
        (requests i).paramId = some storeId.text := by
  rw [concerns_entry]
  constructor
  · intro isShown suspended isCall
    have routedHere := routed i _ isCall
    obtain ⟨text, isParam, -⟩ := Option.map_eq_some_iff.mp routedHere.param
    obtain isUser | isTarget := isShown
    · cases isUser.symm.trans routedHere.storeId
    · rwa [isParam] at isTarget ⊢
  · intro named
    obtain isUser | ⟨-, -, suspended, isCall⟩ := concerns
    · exact .inl isUser
    · rw [named suspended isCall]
      exact .inr rfl

/-- A page has rows of the trail only, and those of the store only. -/
theorem mem_of_shown {db : Database} {rank : Uuid → Nat} {storeId : Uuid} {page limit : Option Nat}
    {found : Paginated AuditLog} (isFound : shown db rank storeId page limit = .ok found) {row : AuditLog}
    (onPage : row ∈ found.data) : row ∈ db.auditLogs.rows ∧ row.concerns storeId = true :=
  List.mem_filter.mp (mem_newestFirst.mp (mem_of_mem_pageOf (mem_shown_iff.mp ⟨found, isFound, onPage⟩).2))

omit [Fintype ι] [DecidableEq ι] in
theorem sound_of_rows {start : Database} {state : AuditedSystem ι} (rows : shop.RowsOk (Apart start requests) state.db)
    {storeId : Uuid} (isStore : (start.stores.find storeId).isSome = true) {rank : Uuid → Nat} {page limit : Option Nat}
    {found : Paginated AuditLog} (isFound : shown state.db rank storeId page limit = .ok found) :
    ∀ row ∈ found.data, ∃ i answer, row = (requests i).entry answer ∧ (requests i).Concerns storeId := by
  intro row onPage
  obtain ⟨present, concerns⟩ := mem_of_shown isFound onPage
  obtain ⟨i, answer, isEntry, targets⟩ := rows (.auditLog row.id) row (Table.find_of_mem present)
  exact ⟨i, answer, isEntry, targets storeId isStore concerns⟩

omit [Fintype ι] [DecidableEq ι] in
/-- The row of a request that has succeeded is on some page of a store exactly if it concerns the store and has a page
    there. -/
theorem complete_iff {state : AuditedSystem ι} (trail : TrailKept requests state) {i : ι} {answer : Option Uuid}
    (ended : (state.thread i).program = .done answer) (storeId : Uuid) {limit : Nat} (positive : 1 ≤ limit) :
    (∀ ranks : Nat → Uuid → Nat, ∃ page found, 1 ≤ page ∧
      shown state.db (ranks page) storeId (some page) (some limit) = .ok found ∧ (requests i).entry answer ∈ found.data) ↔
        ((requests i).entry answer).concerns storeId = true ∧ HasPage state.db storeId limit ((requests i).entry answer) := by
  have obeys := trail.follows i
  rw [ended] at obeys
  have present := Table.mem_of_find (trail.logged i _ (obeys answer rfl))
  have isOwn (concerns : ((requests i).entry answer).concerns storeId = true) :
      (requests i).entry answer ∈ entriesOf state.db storeId := List.mem_filter.mpr ⟨present, concerns⟩
  constructor
  · intro complete
    obtain ⟨page, found, -, isFound, onPage⟩ := complete fun _ _ => 0
    have concerns := (mem_of_shown isFound onPage).2
    exact ⟨concerns, (onSomePage_iff positive (isOwn concerns)).mp complete⟩
  · rintro ⟨concerns, hasPage⟩
    exact (onSomePage_iff positive (isOwn concerns)).mpr hasPage

/-- In every state the pages are about the store's own events, and they have all of them exactly if the stores of the
    requests to suspend or reactivate that have succeeded were named as their ids are written, and no rows of one time
    go on behind the page of one that has succeeded. -/
theorem showsOwnEvents_iff (crypto : Crypto) {start : Database} (empty : start.auditLogs.rows = [])
    (routed : ∀ i call, (requests i).call = .ok call → (requests i).Routed call)
    (fresh : FreshAcrossTables start requests) {limit : Nat} (positive : 1 ≤ limit)
    {run : List (Act ι ApiError × AuditedSystem ι)}
    (isRun : Transition.Run shop.Steps (system crypto start requests) run) :
    Transition.EachState (fun state => ShowsOwnEvents start requests limit state ↔
        ∀ i answer, (state.thread i).program = .done answer → (requests i).NamesItsStore ∧
          ∀ storeId, (requests i).Concerns storeId → HasPage state.db storeId limit ((requests i).entry answer))
      (system crypto start requests) run := by
  have writes (i : ι) : shop.RequestWrites (Apart start requests) ((requests i).program crypto) :=
    apart_program crypto i (routed i) (fresh.generated i)
  have rowsKept := Engine.rowsKept_of_run (Engine.rowsKept_start (apart_start fresh empty) writes) isRun
  have trailKept : Transition.EachState (TrailKept requests) (system crypto start requests) run :=
    Transition.eachState_of_step (fun _ _ _ kept stepped => kept.step stepped) (trailKept_start crypto start) isRun
  refine (rowsKept.and trailKept).imp fun state kept => ?_
  obtain ⟨rows, trail⟩ := kept
  constructor
  · intro shows i answer ended
    have onPage (storeId : Uuid) (concerns : (requests i).Concerns storeId) :=
      (complete_iff trail ended storeId positive).mp (shows.complete storeId i answer concerns ended)
    refine ⟨fun storeId suspended isCall => ?_, fun storeId concerns => (onPage storeId concerns).2⟩
    have routedHere := routed i _ isCall
    have concerns : (requests i).Concerns storeId :=
      .inr ⟨List.mem_singleton.mp routedHere.role, routedHere.storeId, suspended, isCall⟩
    exact (concerns_entry_iff routed concerns).mp (onPage storeId concerns).1 suspended isCall
  · intro shown
    refine ⟨fun storeId isStore rank page limit found isFound => sound_of_rows rows.db isStore isFound, ?_⟩
    intro storeId i answer concerns ended
    obtain ⟨named, hasPage⟩ := shown i answer ended
    refine (complete_iff trail ended storeId positive).mpr ⟨?_, hasPage storeId concerns⟩
    exact (concerns_entry_iff routed concerns).mpr fun suspended isCall => named storeId suspended isCall

end Runs

end AuditedHttpRequest

/-! ## A store is suspended -/

namespace SmallShop

/-- The first store is suspended, by the text in the URL. -/
def suspend (text : String) : AuditedHttpRequest where
  env := ⟨1, fun _ => 21, fun _ => 0⟩
  salt := []
  user := ⟨8, "admin@platform.example", .superAdmin, none⟩
  action := "STORE_SUSPENSION_CHANGED"
  paramId := some text
  body := some (.object [("suspended", .bool true)])
  call := .ok (.setSuspended (Uuid.ofText text) true)

/-- The `id` of the first store without its hyphens. -/
def unhyphenated : String := "00000000000000000000000000000001"

theorem routed_suspend (text : String) (call : AuditedCall) (isCall : (suspend text).call = .ok call) :
    (suspend text).Routed call := by
  cases isCall
  exact ⟨rfl, List.mem_singleton_self _, rfl, rfl⟩

theorem fresh_suspend (text : String) :
    AuditedHttpRequest.FreshAcrossTables freeStore fun _ : Unit => suspend text where
  products := List.forall_mem_nil _
  users := List.forall_mem_nil _
  generated _ _ := rfl

/-- Two reads, the update and the audit row. -/
def suspendAlone : List (Act Unit ApiError) := List.replicate 4 (.run ())

theorem runs_suspendAlone :
    (shop.trace (AuditedHttpRequest.system crypto freeStore fun _ : Unit =>
      suspend (Uuid.text 1)) suspendAlone).isSome = true := by
  decide +kernel

end SmallShop

namespace AuditedHttpRequest

theorem showsOwnEvents_suspend :
    Transition.EachState (fun state =>
        ShowsOwnEvents SmallShop.freeStore (fun _ : Unit => SmallShop.suspend (Uuid.text 1)) 20 state ↔
          ∀ i answer, (state.thread i).program = .done answer → (SmallShop.suspend (Uuid.text 1)).NamesItsStore ∧
            ∀ storeId, (SmallShop.suspend (Uuid.text 1)).Concerns storeId →
              HasPage state.db storeId 20 ((SmallShop.suspend (Uuid.text 1)).entry answer))
      (system SmallShop.crypto SmallShop.freeStore fun _ : Unit => SmallShop.suspend (Uuid.text 1))
      ((shop.trace (system SmallShop.crypto SmallShop.freeStore fun _ : Unit => SmallShop.suspend (Uuid.text 1))
        SmallShop.suspendAlone).get SmallShop.runs_suspendAlone) :=
  showsOwnEvents_iff SmallShop.crypto rfl (fun _ => SmallShop.routed_suspend _) (SmallShop.fresh_suspend _) (by decide)
    (shop.run_get_trace _)

/-- The store's owner does not see that it has been suspended. -/
theorem not_showsOwnEvents :
    ¬ ∀ (crypto : Crypto) (start : Database) (requests : Unit → AuditedHttpRequest), start.auditLogs.rows = [] →
      (∀ i call, (requests i).call = .ok call → (requests i).Routed call) → FreshAcrossTables start requests →
      ∀ limit, 1 ≤ limit → ∀ run, Transition.Run shop.Steps (system crypto start requests) run →
        Transition.EachState (ShowsOwnEvents start requests limit) (system crypto start requests) run := by
  intro shows
  have enabled : (shop.trace (system SmallShop.crypto SmallShop.freeStore fun _ : Unit =>
      SmallShop.suspend SmallShop.unhyphenated) SmallShop.suspendAlone).isSome = true := by decide +kernel
  have always := shows SmallShop.crypto SmallShop.freeStore (fun _ => SmallShop.suspend SmallShop.unhyphenated) rfl
    (fun _ => SmallShop.routed_suspend _) (SmallShop.fresh_suspend _) 20 (by decide) _ (shop.run_get_trace enabled)
  have ended : ((Transition.final (system SmallShop.crypto SmallShop.freeStore fun _ : Unit =>
      SmallShop.suspend SmallShop.unhyphenated) ((shop.trace _ SmallShop.suspendAlone).get enabled)).thread
        ()).program = .done (some 1) := rfl
  have isStore : Uuid.ofText SmallShop.unhyphenated = some 1 := by decide
  have concerns : (SmallShop.suspend SmallShop.unhyphenated).Concerns 1 :=
    .inr ⟨rfl, rfl, true, congrArg (fun id => Except.ok (AuditedCall.setSuspended id true)) isStore⟩
  obtain ⟨page, found, -, isFound, onPage⟩ := always.last.complete 1 () (some 1) concerns ended fun _ _ => 0
  have hidden : ((SmallShop.suspend SmallShop.unhyphenated).entry (some 1)).concerns 1 = false := by decide
  rw [(mem_of_shown isFound onPage).2] at hidden
  cases hidden

end AuditedHttpRequest

end StoreSaas
