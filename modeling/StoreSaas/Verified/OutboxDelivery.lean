import StoreSaas.Library.RelyGuarantee
import StoreSaas.Verified.OutboxPolling
import StoreSaas.Verified.References
import StoreSaas.Verified.ServiceStatements
import StoreSaas.Verified.WrittenTables

/-! # What the outbox owes an order

`OrdersService.create` writes an order and the e-mail about it in one transaction, and the
passes of the processor mark an e-mail after the queue has accepted it.  However these are
interleaved, and wherever they fail or die, a committed order has its one event, an event
without an order does not exist, and what is processed has been accepted (`losesNothing`).
-/

namespace StoreSaas

/-- The owner of the store, if both rows exist. -/
def Database.ownerOf (db : Database) (storeId : Uuid) : Option User :=
  (db.stores.find storeId).bind fun store => db.users.find store.ownerId

def Database.SameOwners (left right : Database) : Prop :=
  ∀ id, left.stores.find id = right.stores.find id ∧ left.users.find id = right.users.find id

theorem Database.SameOwners.ownerOf {left right : Database} (same : left.SameOwners right) :
    left.ownerOf = right.ownerOf := by
  funext storeId
  simp only [Database.ownerOf, fun id => (same id).1, fun id => (same id).2]

theorem Database.sameOwners_applyAll (db : Database) {writes : List DbWrite}
    (elsewhere : ∀ write ∈ writes, write.key.table ≠ .stores ∧ write.key.table ≠ .users) :
    (shop.applyAll db writes).SameOwners db :=
  fun id => ⟨row_applyAll_of_table (.store id) fun write made => (elsewhere write made).1,
    row_applyAll_of_table (.user id) fun write made => (elsewhere write made).2⟩

/-! ## What `OrdersService.create` does -/

/-- How far the transaction has come. -/
inductive CreateStage where
  | taking
  | ordered (row : Order)
  | itemized (row : Order)
  | owned (row : Order) (store : Store)
  | addressed (row : Order) (owner : User)
  /-- There is nobody to tell. -/
  | silent (row : Order)
  | announced (row : Order) (event : OutboxEvent)

structure CreatePhase where
  stage : CreateStage
  fate : Fate

namespace CreateStage

def after : CreateStage → (statement : Statement) → statement.Reply → CreateStage
  | .taking, .order (.insert row), _ => .ordered row
  | .ordered row, .order (.insertItems _), _ => .itemized row
  | .itemized row, .outbox (.findStore _), some store => .owned row store
  | .itemized row, .outbox (.findStore _), none => .silent row
  | .owned row _, .outbox (.findUser _), some owner => .addressed row owner
  | .owned row _, .outbox (.findUser _), none => .silent row
  | .addressed row _, .outbox (.insert event), _ => .announced row event
  | stage, _, _ => stage

/-- The order that the transaction has inserted. -/
def order : CreateStage → Option Order
  | .taking => none
  | .ordered row | .itemized row | .owned row _ | .addressed row _ | .silent row | .announced row _ => some row

/-- The event that the transaction has inserted. -/
def event : CreateStage → Option OutboxEvent
  | .announced _ event => some event
  | .taking | .ordered _ | .itemized _ | .owned _ _ | .addressed _ _ | .silent _ => none

/-- All is done that the transaction is to do. -/
def complete : CreateStage → Bool
  | .silent _ | .announced _ _ => true
  | .taking | .ordered _ | .itemized _ | .owned _ _ | .addressed _ _ => false

end CreateStage

namespace CreatePhase

def initial : CreatePhase := ⟨.taking, .running⟩

def next (phase : CreatePhase) : (op : RequestOp statements) → Except ApiError op.Reply → CreatePhase
  | .query statement, .ok reply => { phase with stage := phase.stage.after statement reply }
  | .begin, _ | .query _, .error _ | .auto _, _ => phase
  | .commit, .ok _ => { phase with fate := .committed }
  | .commit, .error _ | .rollback, _ => { phase with fate := .aborted }

end CreatePhase

inductive CreateAllows (storeId : Uuid) : CreateStage → RequestOp statements → Prop where
  | begin {stage : CreateStage} : CreateAllows storeId stage .begin
  | rollback {stage : CreateStage} : CreateAllows storeId stage .rollback
  | take {statement : Statement} (products : ∀ table, table ≠ .products → statement.writesTo table = false) :
    CreateAllows storeId .taking (.query statement)
  | insertOrder {row : Order} (inStore : row.storeId = storeId) :
    CreateAllows storeId .taking (.query (.order (.insert row)))
  | insertItems {row : Order} {rows : List OrderItem} :
    CreateAllows storeId (.ordered row) (.query (.order (.insertItems rows)))
  | findStore {row : Order} : CreateAllows storeId (.itemized row) (.query (.outbox (.findStore storeId)))
  | findOwner {row : Order} {store : Store} :
    CreateAllows storeId (.owned row store) (.query (.outbox (.findUser store.ownerId)))
  | insertEvent {row : Order} {owner : User} {event : OutboxEvent} (email : isEmail event = true)
    (pending : event.processed = false) (address : event.payload.toAddress = owner.email) :
    CreateAllows storeId (.addressed row owner) (.query (.outbox (.insert event)))
  | commit {stage : CreateStage} (complete : stage.complete = true) : CreateAllows storeId stage .commit

/-- Nothing is done any more once the transaction is over. -/
def createProtocol (storeId : Uuid) : Protocol statements ApiError CreatePhase where
  initial := .initial
  allows phase op := phase.fate = .running ∧ CreateAllows storeId phase.stage op
  next := CreatePhase.next

/-- How the body of the transaction ends. -/
def CreatePhase.Handled {α : Type} (phase : CreatePhase) (result : Except ApiError α) : Prop :=
  phase.fate = .running ∧ ∀ value, result = .ok value → phase.stage.complete = true

theorem after_taking_of_products {statement : Statement}
    (products : ∀ table, table ≠ .products → statement.writesTo table = false) (reply : statement.Reply) :
    CreateStage.taking.after statement reply = .taking := by
  cases statement with
  | order statement =>
    cases statement with
    | insert row => cases products .orders TableName.noConfusion
    | _ => rfl
  | _ => rfl

theorem products_of_takes {statement : Statement} (takes : statement.takes = true) (table : TableName)
    (other : table ≠ .products) : statement.writesTo table = false := by
  cases statement with
  | product statement =>
    cases statement with
    | selectForUpdate | reselect => rfl
    | insert | update => exact decide_eq_false other
    | findOne | getManyAndCount | increment | delete => cases takes
  | _ => cases takes

section Create

variable {storeId : Uuid}

theorem handled_error {α : Type} (stage : CreateStage) (error : ApiError) :
    CreatePhase.Handled ⟨stage, .running⟩ (.error error : Except ApiError α) :=
  ⟨rfl, fun _ isOk => nomatch isOk⟩

theorem obeys_notifyOwner (env : Environment) (row : Order) :
    (OrdersService.notifyOwner env storeId row).inTransaction.Obeys (createProtocol storeId) CreatePhase.Handled
      ⟨.itemized row, .running⟩ := by
  refine Program.obeys_inTransaction_call ⟨rfl, .findStore⟩ (handled_error (.itemized row)) fun found => ?_
  rcases Option.eq_none_or_eq_some (show Option Store from found) with rfl | ⟨store, rfl⟩
  · exact ⟨rfl, fun _ _ => rfl⟩
  · refine Program.obeys_inTransaction_call ⟨rfl, .findOwner⟩ (handled_error (.owned row store)) fun found => ?_
    rcases Option.eq_none_or_eq_some (show Option User from found) with rfl | ⟨owner, rfl⟩
    · exact ⟨rfl, fun _ _ => rfl⟩
    · refine And.intro ⟨rfl, .insertEvent rfl rfl rfl⟩ fun reply => ?_
      cases reply with
      | ok _ => exact ⟨rfl, fun _ _ => rfl⟩
      | error error => exact handled_error (.addressed row owner) error

theorem obeys_create (env : Environment) (dto : CreateOrderDto) :
    (Tx.setCurrentStore storeId >>= fun _ => OrdersService.create env storeId dto).inTransaction.Obeys
      (createProtocol storeId) CreatePhase.Handled .initial := by
  refine Program.obeys_inTransaction_call ⟨rfl, .take fun _ _ => rfl⟩ (handled_error .taking) fun _ => ?_
  change (OrdersService.create env storeId dto).inTransaction.Obeys _ _ CreatePhase.initial
  unfold OrdersService.create
  rw [Program.inTransaction_bind]
  refine Program.Obeys.handle (Program.obeys_inTransaction_of_only (only_takeLines env storeId dto.items 0 [])
    fun op takes => ⟨⟨rfl, .take (products_of_takes takes)⟩, fun reply => ?_⟩) fun after result same => ?_
  · cases reply with
    | error error => rfl
    | ok reply => exact congrArg (CreatePhase.mk · .running) (after_taking_of_products (products_of_takes takes) reply)
  · rw [same]
    cases result with
    | error error => exact handled_error .taking error
    | ok taken =>
      obtain ⟨total, items⟩ := taken
      let row : Order := ⟨env.newId 0, storeId, .pending, total, env.now, env.now⟩
      refine Program.obeys_inTransaction_call ⟨rfl, .insertOrder rfl⟩ (handled_error .taking) fun _ => ?_
      refine Program.obeys_inTransaction_call ⟨rfl, .insertItems⟩ (handled_error (.ordered row)) fun _ => ?_
      rw [Program.inTransaction_bind]
      refine Program.Obeys.handle (obeys_notifyOwner env row) fun after result handled => ?_
      cases result with
      | ok _ => exact ⟨handled.1, fun _ _ => handled.2 () rfl⟩
      | error error => exact ⟨handled.1, fun _ isOk => nomatch isOk⟩

end Create

theorem obeys_createRequest (env : Environment) (storeId : Uuid) (dto : CreateOrderDto) :
    (inRequest storeId (OrdersService.create env storeId dto)).Obeys (createProtocol storeId) (fun _ _ => True)
      .initial := by
  rw [inRequest_eq]
  refine Program.obeys_withTransaction CreatePhase.Handled ⟨rfl, .begin⟩ (fun _ => trivial)
    (obeys_create env dto) (fun phase value handled => ?_) fun phase error handled => ?_
  · exact ⟨⟨handled.1, .commit (handled.2 value rfl)⟩, trivial, fun _ => trivial⟩
  · exact ⟨⟨handled.1, .rollback⟩, fun _ => trivial⟩

/-! ## The jobs -/

inductive OutboxJob where
  | create (env : Environment) (storeId : Uuid) (dto : CreateOrderDto)
  | poll (env : Environment)

abbrev OutboxSystem (ι : Type) : Type := System ι Database RowKey DbWrite statements ApiError (OrderEntity ⊕ Nat)

namespace OutboxJob

def program : OutboxJob → Handler (OrderEntity ⊕ Nat)
  | .create env storeId dto => do return .inl (← inRequest storeId (OrdersService.create env storeId dto))
  | .poll env => do return .inr (← (OutboxProcessor.pollOnce env).autocommit)

def protocol : OutboxJob → Protocol statements ApiError (CreatePhase × PollPhase)
  | .create _ storeId _ => (createProtocol storeId).onLeft .initial
  | .poll _ => pollProtocol.lift.onRight .initial

theorem obeys (job : OutboxJob) : job.program.Obeys job.protocol (fun _ _ => True) job.protocol.initial := by
  have returns {α : Type} {P : Protocol statements ApiError (CreatePhase × PollPhase)}
      (value : α → OrderEntity ⊕ Nat) (phase : CreatePhase × PollPhase) (result : Except ApiError α) :
      (Program.onOk (fun result => .done (value result)) result).Obeys P (fun _ _ => True) phase := by
    cases result <;> trivial
  cases job with
  | create env storeId dto =>
    exact ((obeys_createRequest env storeId dto).onLeft .initial .initial).handle fun phase result _ => returns _ phase result
  | poll env =>
    exact ((OutboxProcessor.keeps_pollOnce env).autocommit.onRight .initial .initial).handle
      fun phase result _ => returns _ phase result

def system {ι : Type} (job : ι → OutboxJob) (start : Database) : OutboxSystem ι :=
  System.start start fun i => (job i).program

end OutboxJob

/-! ## What a transaction is about to write -/

/-- The orders and the events. -/
def RowKey.isTracked (key : RowKey) : Bool := key.table = .orders || key.table = .outboxEvents

def DbWrite.isTracked (write : DbWrite) : Bool := write.key.isTracked

namespace CreateStage

def written (stage : CreateStage) : List DbWrite :=
  (stage.order.map fun row => DbWrite.order (.put row)).toList ++
    (stage.event.map fun event => DbWrite.outboxEvent (.put event)).toList

theorem mem_written {stage : CreateStage} {write : DbWrite} (isWritten : write ∈ stage.written) :
    (∃ row, stage.order = some row ∧ write = .order (.put row)) ∨
      ∃ event, stage.event = some event ∧ write = .outboxEvent (.put event) := by
  rcases List.mem_append.mp isWritten with isOrder | isEvent
  · obtain ⟨row, isRow, rfl⟩ := Option.map_eq_some_iff.mp (Option.mem_toList.mp isOrder)
    exact .inl ⟨row, isRow, rfl⟩
  · obtain ⟨event, isRow, rfl⟩ := Option.map_eq_some_iff.mp (Option.mem_toList.mp isEvent)
    exact .inr ⟨event, isRow, rfl⟩

theorem written_order {stage : CreateStage} {row : Order} (isOrder : stage.order = some row) :
    .order (.put row) ∈ stage.written := by
  rw [written, isOrder]
  exact List.mem_append_left _ (List.mem_singleton.mpr rfl)

theorem written_event {stage : CreateStage} {event : OutboxEvent} (isEvent : stage.event = some event) :
    .outboxEvent (.put event) ∈ stage.written := by
  rw [written, isEvent]
  exact List.mem_append_right _ (List.mem_singleton.mpr rfl)

/-- The order and the event are rows of different tables. -/
theorem written_inj {stage : CreateStage} {write other : DbWrite} (isWritten : write ∈ stage.written)
    (also : other ∈ stage.written) (sameKey : other.key = write.key) : other = write := by
  obtain ⟨row, isRow, rfl⟩ | ⟨event, isEvent, rfl⟩ := mem_written isWritten
  · obtain ⟨again, isAgain, rfl⟩ | ⟨event, -, rfl⟩ := mem_written also
    · cases isRow.symm.trans isAgain
      rfl
    · cases sameKey
  · obtain ⟨row, -, rfl⟩ | ⟨again, isAgain, rfl⟩ := mem_written also
    · cases sameKey
    · cases isEvent.symm.trans isAgain
      rfl

variable {storeId : Uuid} {stage : CreateStage} {statement : Statement} {view : Database}
variable {reply : statement.Reply} {writes : List DbWrite}

/-- A statement adds its orders and events to what is written. -/
theorem written_after (allowed : CreateAllows storeId stage (.query statement))
    (executed : statement.execute view = .ok (reply, writes)) :
    (stage.after statement reply).written = stage.written ++ writes.filter DbWrite.isTracked := by
  -- tracked are the writes of orders and of outbox events
  have untracked (elsewhere : ∀ write ∈ writes, write.isTracked = false) : writes.filter DbWrite.isTracked = [] :=
    List.filter_eq_nil_iff.mpr fun write made => by rw [elsewhere write made]; exact Bool.false_ne_true
  cases allowed with
  | take products =>
    rw [after_taking_of_products products, untracked]
    · rfl
    · intro write made
      -- the loop over the lines writes products only
      have table := Statement.execute_table executed write made
      unfold DbWrite.isTracked RowKey.isTracked
      by_contra tracked
      rcases (Bool.or_eq_true _ _).mp (Bool.eq_true_of_not_eq_false tracked) with isOrder | isEvent
      · rw [of_decide_eq_true isOrder, products .orders TableName.noConfusion] at table
        cases table
      · rw [of_decide_eq_true isEvent, products .outboxEvents TableName.noConfusion] at table
        cases table
  | insertOrder inStore =>
    obtain ⟨-, rfl⟩ := OrderStatement.execute_insert executed
    rfl
  | @insertItems row rows =>
    rw [untracked]
    · rfl
    · obtain ⟨-, rfl⟩ := OrderStatement.execute_insertItems executed
      intro write made
      obtain ⟨item, -, rfl⟩ := List.mem_map.mp made
      rfl
  | @findStore row =>
    cases executed
    rcases Option.eq_none_or_eq_some (view.stores.find storeId) with absent | ⟨store, found⟩
    · rw [absent]
      rfl
    · rw [found]
      rfl
  | @findOwner row store =>
    cases executed
    rcases Option.eq_none_or_eq_some (view.users.find store.ownerId) with absent | ⟨owner, found⟩
    · rw [absent]
      rfl
    · rw [found]
      rfl
  | insertEvent =>
    obtain ⟨-, rfl⟩ := OutboxStatement.execute_insert executed
    rfl

/-- What is inserted was not there before. -/
theorem absent_of_executed (allowed : CreateAllows storeId stage (.query statement))
    (executed : statement.execute view = .ok (reply, writes)) {write : DbWrite} (made : write ∈ writes)
    (tracked : write.isTracked = true) : view.row write.key = none ∧ ∀ other ∈ stage.written, other.key ≠ write.key := by
  have isNew : write ∈ writes.filter DbWrite.isTracked := List.mem_filter.mpr ⟨made, tracked⟩
  have grown := written_after allowed executed
  cases allowed with
  | take products =>
    rw [after_taking_of_products products] at grown
    rw [List.self_eq_append_right.mp grown] at isNew
    cases isNew
  | insertOrder inStore =>
    obtain ⟨absent, rfl⟩ := OrderStatement.execute_insert executed
    cases List.mem_singleton.mp made
    exact ⟨absent, fun _ isWritten => nomatch isWritten⟩
  | @insertItems row rows =>
    rw [List.self_eq_append_right.mp grown] at isNew
    cases isNew
  | findStore =>
    cases executed
    cases made
  | findOwner =>
    cases executed
    cases made
  | @insertEvent row owner event email pending address =>
    obtain ⟨absent, rfl⟩ := OutboxStatement.execute_insert executed
    cases List.mem_singleton.mp made
    refine ⟨absent, fun other isWritten => ?_⟩
    cases List.mem_singleton.mp isWritten
    exact RowKey.noConfusion

end CreateStage

/-- A transaction has its orders and events pending, and nothing of stores and users. -/
structure CreatePending (alive : Bool) (session : Session RowKey DbWrite statements ApiError) (phase : CreatePhase) :
    Prop where
  running : alive = true → phase.fate = .running → session.pending.filter DbWrite.isTracked = phase.stage.written
  ended : ¬ (alive = true ∧ phase.fate = .running) → session.pending = []
  owners : ∀ write ∈ session.pending, write.key.table ≠ .stores ∧ write.key.table ≠ .users

namespace CreatePending

variable {storeId : Uuid} {alive : Bool} {session next : Session RowKey DbWrite statements ApiError}
variable {phase : CreatePhase} {op : RequestOp statements}

theorem closed (nothing : session.pending = []) (ended : ¬ (alive = true ∧ phase.fate = .running)) :
    CreatePending alive session phase where
  running isAlive isRunning := absurd ⟨isAlive, isRunning⟩ ended
  ended _ := nothing
  owners write pending := by
    rw [nothing] at pending
    cases pending

theorem congr (pending : CreatePending alive session phase) (same : next.pending = session.pending) :
    CreatePending alive next phase where
  running := same ▸ pending.running
  ended := same ▸ pending.ended
  owners := same ▸ pending.owners

theorem owners_of_executed {statement : Statement} {view : Database} {reply : statement.Reply} {writes : List DbWrite}
    {stage : CreateStage} (allowed : CreateAllows storeId stage (.query statement))
    (executed : statement.execute view = .ok (reply, writes)) :
    ∀ write ∈ writes, write.key.table ≠ .stores ∧ write.key.table ≠ .users := by
  intro write made
  have written := Statement.execute_table executed write made
  have elsewhere {table : TableName} (spared : statement.writesTo table = false) : write.key.table ≠ table := by
    intro same
    rw [same, spared] at written
    cases written
  cases allowed with
  | take products => exact ⟨elsewhere (products _ TableName.noConfusion), elsewhere (products _ TableName.noConfusion)⟩
  | insertOrder | insertItems | findStore | findOwner | insertEvent => exact ⟨elsewhere rfl, elsewhere rfl⟩

theorem perform (db : Database) (runs : phase.fate = .running) (allowed : CreateAllows storeId phase.stage op)
    (pending : CreatePending true session phase) :
    CreatePending true (shop.perform session db op).session (phase.next op (shop.perform session db op).reply) := by
  cases op with
  | begin => exact pending.congr rfl
  | rollback => exact closed rfl fun isRunning => nomatch isRunning.2
  | commit => exact closed rfl fun isRunning => nomatch isRunning.2
  | auto statement =>
    obtain ⟨stage, fate⟩ := phase
    cases allowed
  | query statement =>
    cases executed : shop.execute statement (shop.view db session) with
    | error error =>
      rw [Engine.perform_query_error executed]
      exact pending.congr rfl
    | ok result =>
      rw [Engine.perform_query_ok executed]
      refine ⟨fun _ _ => ?_, fun ended => absurd ⟨rfl, runs⟩ ended, fun write made => ?_⟩
      · change (session.pending ++ result.2).filter _ = (phase.stage.after statement result.1).written
        rw [List.filter_append, pending.running rfl runs, CreateStage.written_after allowed executed]
      · rcases List.mem_append.mp made with earlier | now
        · exact pending.owners write earlier
        · exact owners_of_executed allowed executed write now

theorem failed (error : ApiError) (pending : CreatePending true session phase) :
    CreatePending true (Engine.failed session op error) (phase.next op (.error error)) := by
  cases op with
  | begin | query | auto => exact pending.congr rfl
  | rollback => exact closed rfl fun isRunning => nomatch isRunning.2
  | commit => exact closed rfl fun isRunning => nomatch isRunning.2

end CreatePending

/-! ## What has been written -/

/-- A row, but for whether it has been processed. -/
def RowKey.content : (key : RowKey) → key.Row → key.Row
  | .outboxEvent _, event => OutboxEvent.content event
  | .store _, row | .user _, row | .subscription _, row | .category _, row | .product _, row | .order _, row
  | .orderItem _, row | .webhookEvent _, row | .idempotencyRecord _, row | .auditLog _, row | .uniqueEntry _, row => row

def Database.content (db : Database) (key : RowKey) : Option key.Row := (db.row key).map key.content

theorem Database.isSome_content (db : Database) (key : RowKey) : (db.content key).isSome = (db.row key).isSome :=
  Option.isSome_map

/-- The rows `new` have been added, and no order and no event has been lost. -/
structure Database.Grows (new : List DbWrite) (before after : Database) : Prop where
  stays : ∀ key : RowKey, key.isTracked = true → (before.row key).isSome = true → after.content key = before.content key
  added : ∀ write ∈ new, before.row write.key = none ∧ after.row write.key = write.value ∧ write.value.isSome = true
  only : ∀ key : RowKey, key.isTracked = true → (after.row key).isSome = true →
    (before.row key).isSome = true ∨ ∃ write ∈ new, write.key = key
  owners : after.SameOwners before

/-- The orders and events in the table, by the requests that have written them. -/
structure Account {ι : Type} (start db : Database) (published : ι → DbWrite → Prop) : Prop where
  kept : ∀ key : RowKey, key.isTracked = true → (start.row key).isSome = true → db.content key = start.content key
  stored : ∀ i write, published i write →
    db.content write.key = write.value.map write.key.content ∧ write.value.isSome = true
  fresh : ∀ i write, published i write → write.isTracked = true ∧ start.row write.key = none
  apart : ∀ i j write other, published i write → published j other → write.key = other.key → i = j
  origin : ∀ key : RowKey, key.isTracked = true → (db.row key).isSome = true →
    (start.row key).isSome = true ∨ ∃ i write, published i write ∧ write.key = key
  owners : db.SameOwners start

namespace Account

variable {ι : Type} {start db after : Database} {published : ι → DbWrite → Prop}

theorem initial (start : Database) : Account start start fun (_ : ι) _ => False where
  kept _ _ _ := rfl
  stored _ _ isPublished := isPublished.elim
  fresh _ _ isPublished := isPublished.elim
  apart _ _ _ _ isPublished := isPublished.elim
  origin _ _ present := .inl present
  owners _ := ⟨rfl, rfl⟩

variable (account : Account start db published)
include account

theorem isSome_of_published {i : ι} {write : DbWrite} (isPublished : published i write) :
    (db.row write.key).isSome = true := by
  obtain ⟨stored, isPut⟩ := account.stored i write isPublished
  rw [← Database.isSome_content, stored, Option.isSome_map]
  exact isPut

/-- A request publishes what it has written. -/
theorem grow {new : List DbWrite} (grows : db.Grows new after) (tracked : ∀ write ∈ new, write.isTracked = true)
    {i : ι} {also : ι → DbWrite → Prop}
    (same : ∀ j write, also j write ↔ published j write ∨ (j = i ∧ write ∈ new)) : Account start after also where
  kept key isTracked present := by
    have before := account.kept key isTracked present
    have still : (db.row key).isSome = true := by
      rw [← Database.isSome_content, before, Database.isSome_content]
      exact present
    exact (grows.stays key isTracked still).trans before
  stored j write isPublished := by
    rcases (same j write).mp isPublished with before | ⟨-, isNew⟩
    · obtain ⟨stored, isPut⟩ := account.stored j write before
      exact ⟨(grows.stays _ (account.fresh j write before).1 (account.isSome_of_published before)).trans stored, isPut⟩
    · obtain ⟨-, isRow, isPut⟩ := grows.added write isNew
      exact ⟨congrArg (Option.map write.key.content) isRow, isPut⟩
  fresh j write isPublished := by
    rcases (same j write).mp isPublished with before | ⟨-, isNew⟩
    · exact account.fresh j write before
    · refine ⟨tracked write isNew, Option.eq_none_iff_forall_ne_some.mpr fun row found => ?_⟩
      have present : (start.row write.key).isSome = true := Option.isSome_of_mem found
      have still : (db.row write.key).isSome = true := by
        rw [← Database.isSome_content, account.kept _ (tracked write isNew) present, Database.isSome_content]
        exact present
      rw [(grows.added write isNew).1] at still
      cases still
  apart j k write other isPublished alsoPublished sameKey := by
    -- What is already there is not added again.
    have different {j : ι} {write other : DbWrite} (before : published j write) (isNew : other ∈ new)
        (sameKey : write.key = other.key) : False := by
      have present := account.isSome_of_published before
      rw [sameKey, (grows.added other isNew).1] at present
      cases present
    rcases (same j write).mp isPublished with before | ⟨isI, isNew⟩
    · rcases (same k other).mp alsoPublished with alsoBefore | ⟨-, alsoNew⟩
      · exact account.apart j k write other before alsoBefore sameKey
      · exact (different before alsoNew sameKey).elim
    · rcases (same k other).mp alsoPublished with alsoBefore | ⟨alsoI, -⟩
      · exact (different alsoBefore isNew sameKey.symm).elim
      · exact isI.trans alsoI.symm
  origin key isTracked present := by
    rcases grows.only key isTracked present with before | ⟨write, isNew, isKey⟩
    · exact (account.origin key isTracked before).imp_right fun ⟨j, write, isPublished, isKey⟩ =>
        ⟨j, write, (same j write).mpr (.inl isPublished), isKey⟩
    · exact .inr ⟨i, write, (same i write).mpr (.inr ⟨rfl, isNew⟩), isKey⟩
  owners id := ⟨(grows.owners id).1.trans (account.owners id).1, (grows.owners id).2.trans (account.owners id).2⟩

end Account

namespace Database

theorem Grows.refl (db : Database) : db.Grows [] db where
  stays _ _ _ := rfl
  added _ isNew := nomatch isNew
  only _ _ present := .inl present
  owners _ := ⟨rfl, rfl⟩

theorem content_markProcessed_row (db : Database) (id : Uuid) (now : Timestamp) (key : RowKey) :
    (db.markProcessed id now).content key = db.content key := by
  cases key with
  | outboxEvent other => exact content_markProcessed id now other
  | _ =>
    unfold markProcessed
    cases db.outboxEvents.find id <;> rfl

theorem grows_markProcessed (db : Database) (id : Uuid) (now : Timestamp) : db.Grows [] (db.markProcessed id now) where
  stays key _ _ := db.content_markProcessed_row id now key
  added _ isNew := nomatch isNew
  only key _ present := by
    rw [← isSome_content, content_markProcessed_row, isSome_content] at present
    exact .inl present
  owners _ := by
    unfold markProcessed
    cases db.outboxEvents.find id <;> exact ⟨rfl, rfl⟩

/-- A transaction that has only new orders and events pending commits. -/
theorem grows_applyAll {db : Database} {writes new : List DbWrite} (isNew : writes.filter DbWrite.isTracked = new)
    (absent : ∀ write ∈ new, db.row write.key = none) (isPut : ∀ write ∈ new, write.value.isSome = true)
    (distinct : ∀ write ∈ new, ∀ other ∈ new, other.key = write.key → other = write)
    (owners : ∀ write ∈ writes, write.key.table ≠ .stores ∧ write.key.table ≠ .users) :
    db.Grows new (shop.applyAll db writes) := by
  have mem_new {write : DbWrite} (made : write ∈ writes) {key : RowKey} (isTracked : key.isTracked = true)
      (isKey : write.key = key) : write ∈ new := by
    rw [← isNew]
    exact List.mem_filter.mpr ⟨made, by rw [DbWrite.isTracked, isKey]; exact isTracked⟩
  have untouched {key : RowKey} (isTracked : key.isTracked = true) (elsewhere : ∀ write ∈ new, write.key ≠ key) :
      (shop.applyAll db writes).row key = db.row key :=
    shop.get_applyAll_of_untouched fun write made isKey => elsewhere write (mem_new made isTracked isKey) isKey
  refine ⟨fun key isTracked present => ?_, fun write inNew => ?_, fun key isTracked present => ?_, ?_⟩
  · refine congrArg (Option.map key.content) (untouched isTracked fun write inNew isKey => ?_)
    rw [← isKey, absent write inNew] at present
    cases present
  · have made : write ∈ writes.filter DbWrite.isTracked := isNew ▸ inNew
    obtain ⟨inWrites, isTracked⟩ := List.mem_filter.mp made
    refine ⟨absent write inNew, ?_, isPut write inNew⟩
    exact shop.get_applyAll_of_mem inWrites fun other also sameKey =>
      distinct write inNew other (mem_new also isTracked sameKey) sameKey
  · by_cases inNew : ∃ write ∈ new, write.key = key
    · exact .inr inNew
    · rw [untouched isTracked fun write isNew isKey => inNew ⟨write, isNew, isKey⟩] at present
      exact .inl present
  · exact sameOwners_applyAll db owners

end Database

/-! ## All jobs -/

/-- What the transaction has looked up, and what it makes of it. -/
def CreateStage.Looked (start : Database) (storeId : Uuid) : CreateStage → Prop
  | .taking => True
  | .ordered row | .itemized row => row.storeId = storeId
  | .owned row store => row.storeId = storeId ∧ start.ownerOf storeId = start.users.find store.ownerId
  | .addressed row owner => row.storeId = storeId ∧ start.ownerOf storeId = some owner
  | .silent row => row.storeId = storeId ∧ start.ownerOf storeId = none
  | .announced row event => row.storeId = storeId ∧ isEmail event = true ∧ event.processed = false ∧
      ∃ owner, start.ownerOf storeId = some owner ∧ event.payload.toAddress = owner.email

theorem CreateStage.Looked.after {start view : Database} {storeId : Uuid} {stage : CreateStage} {statement : Statement}
    {reply : statement.Reply} {writes : List DbWrite} (looked : stage.Looked start storeId)
    (allowed : CreateAllows storeId stage (.query statement))
    (executed : statement.execute view = .ok (reply, writes)) (owners : view.SameOwners start) :
    (stage.after statement reply).Looked start storeId := by
  cases allowed with
  | take products =>
    rw [after_taking_of_products products]
    trivial
  | insertOrder inStore => exact inStore
  | insertItems => exact looked
  | @findStore row =>
    cases executed
    have owner : start.ownerOf storeId = (view.stores.find storeId).bind fun store => start.users.find store.ownerId := by
      rw [(owners storeId).1]
      rfl
    rcases Option.eq_none_or_eq_some (view.stores.find storeId) with absent | ⟨store, found⟩
    · rw [absent] at owner ⊢
      exact ⟨looked, owner⟩
    · rw [found] at owner ⊢
      exact ⟨looked, owner⟩
  | @findOwner row store =>
    cases executed
    obtain ⟨inStore, owner⟩ := looked
    rw [← (owners store.ownerId).2] at owner
    rcases Option.eq_none_or_eq_some (view.users.find store.ownerId) with absent | ⟨user, found⟩
    · rw [absent] at owner ⊢
      exact ⟨inStore, owner⟩
    · rw [found] at owner ⊢
      exact ⟨inStore, owner⟩
  | @insertEvent row owner event email pending address =>
    exact ⟨looked.1, email, pending, owner, looked.2, address⟩

/-- What a job knows: a pass of the processor has no transaction at all. -/
def OutboxJob.Knows (start : Database) (phase : CreatePhase) : OutboxJob → Prop
  | .create _ storeId _ => phase.stage.Looked start storeId ∧ (phase.fate = .committed → phase.stage.complete = true)
  | .poll _ => phase = .initial

section Systems

variable {ι : Type} (job : ι → OutboxJob)

abbrev jobPhase (system : OutboxSystem ι) : ι → CreatePhase × PollPhase := system.phase fun i => (job i).protocol

/-- A transaction that has committed has written this. -/
def Published (system : OutboxSystem ι) (i : ι) (write : DbWrite) : Prop :=
  (jobPhase job system i).1.fate = .committed ∧ write ∈ (jobPhase job system i).1.stage.written

/-- The mail queue has accepted the message from some pass. -/
def Accepted (system : OutboxSystem ι) (message : MailMessage) : Prop :=
  ∃ i, ⟨.auto (.enqueueMail message), .ok ()⟩ ∈ (system.thread i).session.log

/-- An event that was there at the start and is not to be enqueued. -/
def Database.Done (start : Database) (id : Uuid) : Prop :=
  ∃ event, start.outboxEvents.find id = some event ∧ (event.processed = true ∨ isEmail event = false)

/-- An event that a pass has enqueued, and is about to mark, has been accepted. -/
def SentHead (session : Session RowKey DbWrite statements ApiError) (phase : PollPhase) : Prop :=
  phase.headSent = true → ∃ event rest, phase.remaining = event :: rest ∧
    ⟨.auto (.enqueueMail event.payload), .ok ()⟩ ∈ session.log

structure OutboxInvariant (start : Database) (system : OutboxSystem ι) : Prop where
  follows : system.Follows (fun i => (job i).protocol) fun _ _ _ => True
  exclusive : shop.Exclusive system
  pending : ∀ i, CreatePending (system.thread i).alive (system.thread i).session (jobPhase job system i).1
  unpublished : ∀ i, ∀ write ∈ (system.thread i).session.pending, write.isTracked = true →
    system.db.row write.key = none
  account : Account start system.db (Published job system)
  knows : ∀ i, (job i).Knows start (jobPhase job system i).1
  claimed : ∀ i, ∀ event ∈ (jobPhase job system i).2.remaining,
    system.db.content (.outboxEvent event.id) = some event.content
  sent : ∀ i, SentHead (system.thread i).session (jobPhase job system i).2
  delivered : ∀ id event, system.db.outboxEvents.find id = some event → event.processed = true →
    start.Done id ∨ Accepted system event.payload

/-! ## One step -/

variable {job}

theorem allows_create {i : ι} {env : Environment} {storeId : Uuid} {dto : CreateOrderDto}
    (isCreate : job i = .create env storeId dto) {phase : CreatePhase × PollPhase} {op : RequestOp statements}
    (allowed : (job i).protocol.allows phase op) : phase.1.fate = .running ∧ CreateAllows storeId phase.1.stage op := by
  rw [isCreate] at allowed
  exact allowed

theorem allows_poll {i : ι} {env : Environment} (isPoll : job i = .poll env) {phase : CreatePhase × PollPhase}
    {op : RequestOp statements} (allowed : (job i).protocol.allows phase op) :
    ∃ statement, op = .auto statement ∧ pollProtocol.allows phase.2 statement := by
  rw [isPoll] at allowed
  cases op with
  | auto statement => exact ⟨statement, rfl, allowed⟩
  | begin | query | commit | rollback => exact allowed.elim

theorem next_create {i : ι} {env : Environment} {storeId : Uuid} {dto : CreateOrderDto}
    (isCreate : job i = .create env storeId dto) (phase : CreatePhase × PollPhase) (op : RequestOp statements)
    (reply : Except ApiError op.Reply) : (job i).protocol.next phase op reply = (phase.1.next op reply, phase.2) := by
  rw [isCreate]
  rfl

theorem next_poll {i : ι} {env : Environment} (isPoll : job i = .poll env) (phase : CreatePhase × PollPhase)
    (statement : Statement) (reply : Except ApiError (RequestOp.auto (S := statements) statement).Reply) :
    (job i).protocol.next phase (.auto statement) reply = (phase.1, pollProtocol.next phase.2 statement reply) := by
  rw [isPoll]
  rfl

variable [DecidableEq ι]

theorem published_update {source : OutboxSystem ι} {db : Database} {i : ι} {next : CreatePhase × PollPhase}
    {thread : Thread RowKey DbWrite statements ApiError (OrderEntity ⊕ Nat)}
    (phase : jobPhase job ⟨db, Function.update source.thread i thread⟩ = Function.update (jobPhase job source) i next)
    (j : ι) (write : DbWrite) :
    Published job ⟨db, Function.update source.thread i thread⟩ j write ↔
      if j = i then next.1.fate = .committed ∧ write ∈ next.1.stage.written else Published job source j write := by
  unfold Published
  rw [phase]
  split
  next same =>
    subst same
    rw [Function.update_self]
  next differs => rw [Function.update_of_ne differs]

/-- A step publishes nothing if the request had not committed before and has not committed after it. -/
theorem published_of_quiet {source : OutboxSystem ι} {db : Database} {i : ι} {next : CreatePhase × PollPhase}
    {thread : Thread RowKey DbWrite statements ApiError (OrderEntity ⊕ Nat)}
    (phase : jobPhase job ⟨db, Function.update source.thread i thread⟩ = Function.update (jobPhase job source) i next)
    (quiet : next.1 = (jobPhase job source i).1 ∨
      ((jobPhase job source i).1.fate = .running ∧ next.1.fate ≠ .committed)) (j : ι) (write : DbWrite) :
    Published job ⟨db, Function.update source.thread i thread⟩ j write ↔ Published job source j write := by
  rw [published_update phase]
  split
  next same =>
    subst same
    rcases quiet with unchanged | ⟨running, uncommitted⟩
    · rw [unchanged]
      exact Iff.rfl
    · exact iff_of_false (fun published => uncommitted published.1) fun published =>
        nomatch running.symm.trans published.1
  next => exact Iff.rfl

variable (job) in
/-- What a step does to the orders and events. -/
inductive OutboxStep (source target : OutboxSystem ι) : Prop where
  | quiet (i : ι) (db : target.db = source.db)
    (published : ∀ j write, Published job target j write ↔ Published job source j write)
  | commit (i : ι) (alive : (source.thread i).alive = true) (running : (jobPhase job source i).1.fate = .running)
    (db : target.db = shop.view source.db (source.thread i).session)
    (published : ∀ j write, Published job target j write ↔
      Published job source j write ∨ (j = i ∧ write ∈ (jobPhase job source i).1.stage.written))
  | mark (i : ι) (event : OutboxEvent) (rest : List OutboxEvent) (now : Timestamp)
    (works : (jobPhase job source i).2.remaining = event :: rest)
    (sent : (jobPhase job source i).2.headSent = isEmail event)
    (db : target.db = source.db.markProcessed event.id now)
    (published : ∀ j write, Published job target j write ↔ Published job source j write)

theorem fate_next_of_not_commit {phase : CreatePhase} {op : RequestOp statements} (running : phase.fate = .running)
    (notCommit : op ≠ .commit) (reply : Except ApiError op.Reply) : (phase.next op reply).fate ≠ .committed := by
  cases op with
  | commit => exact absurd rfl notCommit
  | rollback => exact Fate.noConfusion
  | begin | auto =>
    rw [show (phase.next _ reply).fate = phase.fate from rfl, running]
    exact Fate.noConfusion
  | query statement =>
    have same : (phase.next (.query statement) reply).fate = phase.fate := by cases reply <;> rfl
    rw [same, running]
    exact Fate.noConfusion

variable [Fintype ι] {source target : OutboxSystem ι} {act : Act ι ApiError}

theorem outboxStep (follows : source.Follows (fun i => (job i).protocol) fun _ _ _ => True)
    (stepped : shop.Steps source act target) : OutboxStep job source target := by
  cases Engine.phaseStep_of_follows follows stepped with
  | run i op resume alive calls allowed free =>
    have phase := Engine.phase_perform (E := shop) (P := fun i => (job i).protocol) source i op
      (resume (shop.perform (source.thread i).session source.db op).reply)
    cases isJob : job i with
    | poll env =>
      obtain ⟨statement, rfl, allows⟩ := allows_poll isJob allowed
      rw [next_poll isJob] at phase
      have published := published_of_quiet phase (.inl rfl)
      have sameDb := (Engine.perform_auto (E := shop) (source.thread i).session source.db statement).2.1
      cases statement with
      | outbox statement =>
        cases statement with
        | findPending take rank => exact .quiet i sameDb published
        | markProcessed id now =>
          obtain ⟨event, rest, works, rfl, sent⟩ := allows
          refine .mark i event rest now works sent (sameDb.trans ?_) published
          rw [Database.executeOn_markProcessed]
        | findStore | findUser | insert => exact allows.elim
      | enqueueMail message => exact .quiet i sameDb published
      | setCurrentStore | product | category | order | user | billing | idempotency | store | audit => exact allows.elim
    | create env storeId dto =>
      obtain ⟨running, allows⟩ := allows_create isJob allowed
      rw [next_create isJob] at phase
      -- an order publishes its event with its `COMMIT`, and only then
      by_cases isCommit : op = .commit
      · subst isCommit
        refine .commit i alive running rfl fun j write => (published_update phase j write).trans ?_
        split
        next same =>
          subst same
          exact ⟨fun published => .inr ⟨rfl, published.2⟩, fun published => published.elim
            (fun before => nomatch running.symm.trans before.1) fun now => ⟨rfl, now.2⟩⟩
        next differs => exact ⟨.inl, fun published => published.resolve_right fun now => differs now.1⟩
      · refine .quiet i ?_ (published_of_quiet phase (.inr ⟨running, fate_next_of_not_commit running isCommit _⟩))
        cases op with
        | begin | rollback => rfl
        | query statement => exact Engine.perform_query_db ..
        | commit => exact absurd rfl isCommit
        | auto statement =>
          generalize (jobPhase job source i).1.stage = stage at allows
          cases allows
  | fail i error op resume alive calls allowed =>
    have phase := Engine.phase_failed (P := fun i => (job i).protocol) source i op error (resume (.error error))
    refine .quiet i rfl (published_of_quiet phase ?_)
    cases isJob : job i with
    | poll env =>
      obtain ⟨statement, rfl, -⟩ := allows_poll isJob allowed
      exact .inl rfl
    | create env storeId dto =>
      obtain ⟨running, -⟩ := allows_create isJob allowed
      refine .inr ⟨running, ?_⟩
      -- a `COMMIT` that fails publishes nothing
      by_cases isCommit : op = .commit
      · subst isCommit
        exact Fate.noConfusion
      · exact fate_next_of_not_commit running isCommit (.error error)
  | crash i alive =>
    have unchanged := (Engine.phase_crash (P := fun i => (job i).protocol) source i).trans
      (Function.update_eq_self i (jobPhase job source)).symm
    exact .quiet i rfl (published_of_quiet unchanged (.inl rfl))

omit [DecidableEq ι] in
omit [Fintype ι] in
theorem createPending_perform {i : ι} (session : Session RowKey DbWrite statements ApiError) (db : Database)
    (op : RequestOp statements) (phase : CreatePhase × PollPhase) (allowed : (job i).protocol.allows phase op)
    (pending : CreatePending true session phase.1) :
    CreatePending true (shop.perform session db op).session
      ((job i).protocol.next phase op (shop.perform session db op).reply).1 := by
  cases isJob : job i with
  | create env storeId dto =>
    obtain ⟨running, allows⟩ := allows_create isJob allowed
    exact pending.perform db running allows
  | poll env =>
    obtain ⟨statement, rfl, -⟩ := allows_poll isJob allowed
    exact pending.congr (Engine.perform_auto (E := shop) session db statement).2.2

omit [DecidableEq ι] in
omit [Fintype ι] in
theorem createPending_failed {i : ι} (session : Session RowKey DbWrite statements ApiError)
    (op : RequestOp statements) (error : ApiError) (phase : CreatePhase × PollPhase)
    (allowed : (job i).protocol.allows phase op) (pending : CreatePending true session phase.1) :
    CreatePending true (Engine.failed session op error) ((job i).protocol.next phase op (.error error)).1 := by
  cases isJob : job i with
  | create env storeId dto => exact pending.failed error
  | poll env =>
    obtain ⟨statement, rfl, -⟩ := allows_poll isJob allowed
    exact pending.congr rfl

theorem SentHead.next {session after : Session RowKey DbWrite statements ApiError} {phase : PollPhase}
    {statement : Statement} {reply : Except ApiError (RequestOp.auto (S := statements) statement).Reply}
    (sentHead : SentHead session phase) (log : after.log = ⟨.auto statement, reply⟩ :: session.log)
    (allowed : pollProtocol.allows phase statement) : SentHead after (pollProtocol.next phase statement reply) := by
  intro isSent
  cases statement with
  | outbox statement =>
    cases statement with
    | findPending take rank =>
      cases reply with
      | ok events => cases isSent
      | error error =>
        obtain ⟨event, rest, works, accepted⟩ := sentHead isSent
        exact ⟨event, rest, works, log ▸ List.mem_cons_of_mem _ accepted⟩
    | markProcessed id now => cases isSent
    | findStore | findUser | insert => exact allowed.elim
  | enqueueMail message =>
    obtain ⟨event, rest, works, -, -, rfl⟩ := allowed
    cases reply with
    | ok _ => exact ⟨event, rest, works, log ▸ List.mem_cons_self⟩
    | error error => cases isSent
  | setCurrentStore | product | category | order | user | billing | idempotency | store | audit => exact allowed.elim

theorem SentHead.mono {session after : Session RowKey DbWrite statements ApiError} {phase : PollPhase}
    (sentHead : SentHead session phase) (grows : ∀ entry ∈ session.log, entry ∈ after.log) : SentHead after phase := by
  intro isSent
  obtain ⟨event, rest, works, accepted⟩ := sentHead isSent
  exact ⟨event, rest, works, grows _ accepted⟩

omit [DecidableEq ι] [Fintype ι] in
/-- The step rule for what the passes know about what they have enqueued. -/
theorem sentHead_next {i : ι} {session after : Session RowKey DbWrite statements ApiError} {op : RequestOp statements}
    {reply : Except ApiError op.Reply} {phase : CreatePhase × PollPhase} (allowed : (job i).protocol.allows phase op)
    (log : after.log = ⟨op, reply⟩ :: session.log) (sentHead : SentHead session phase.2) :
    SentHead after ((job i).protocol.next phase op reply).2 := by
  cases isJob : job i with
  | create env storeId dto => exact sentHead.mono fun entry logged => log ▸ List.mem_cons_of_mem _ logged
  | poll env =>
    obtain ⟨statement, rfl, allows⟩ := allows_poll isJob allowed
    exact sentHead.next log allows

theorem PollPhase.mem_remaining_next {phase : PollPhase} {statement : Statement} {db : Database} {event : OutboxEvent}
    (allowed : pollProtocol.allows phase statement)
    (remains : event ∈ (pollProtocol.next phase statement (shop.executeOn statement db).1).remaining) :
    event ∈ phase.remaining ∨ ∃ take rank, event ∈ db.pendingEvents take rank := by
  cases statement with
  | outbox statement =>
    cases statement with
    | findPending take rank => exact .inr ⟨take, rank, remains⟩
    | markProcessed id now => exact .inl (List.mem_of_mem_tail remains)
    | findStore | findUser | insert => exact allowed.elim
  | enqueueMail message => exact .inl remains
  | setCurrentStore | product | category | order | user | billing | idempotency | store | audit => exact allowed.elim

theorem PollPhase.mem_remaining_next_error {phase : PollPhase} {statement : Statement} {error : ApiError}
    {event : OutboxEvent} (allowed : pollProtocol.allows phase statement)
    (remains : event ∈ (pollProtocol.next phase statement (.error error)).remaining) : event ∈ phase.remaining := by
  cases statement with
  | outbox statement =>
    cases statement with
    | findPending take rank => exact remains
    | markProcessed id now => exact List.mem_of_mem_tail remains
    | findStore | findUser | insert => exact allowed.elim
  | enqueueMail message => exact List.mem_of_mem_tail remains
  | setCurrentStore | product | category | order | user | billing | idempotency | store | audit => exact allowed.elim

namespace OutboxInvariant

variable {start : Database} (invariant : OutboxInvariant job start source)
include invariant

omit [DecidableEq ι] [Fintype ι] in
/-- A row that is tracked stays for a transaction as it is committed, until it writes the row itself. -/
theorem row_view {i : ι} {key : RowKey} (isTracked : key.isTracked = true) (alive : (source.thread i).alive = true)
    (running : (jobPhase job source i).1.fate = .running)
    (elsewhere : ∀ write ∈ (jobPhase job source i).1.stage.written, write.key ≠ key) :
    (shop.view source.db (source.thread i).session).row key = source.db.row key := by
  refine shop.get_applyAll_of_untouched fun write made isKey => elsewhere write ?_ isKey
  rw [← (invariant.pending i).running alive running]
  exact List.mem_filter.mpr ⟨made, (congrArg RowKey.isTracked isKey).trans isTracked⟩

omit [DecidableEq ι] [Fintype ι] in
/-- What a step adds to the table. -/
theorem grows (step : OutboxStep job source target) : ∃ i new, source.db.Grows new target.db ∧
    (∀ write ∈ new, write.isTracked = true) ∧
    ∀ j write, Published job target j write ↔ Published job source j write ∨ (j = i ∧ write ∈ new) := by
  have nothing {i : ι} (published : ∀ j write, Published job target j write ↔ Published job source j write) :
      ∀ j write, Published job target j write ↔ Published job source j write ∨ (j = i ∧ write ∈ ([] : List DbWrite)) :=
    fun j write => (published j write).trans ⟨.inl, fun before => before.resolve_right fun now => nomatch now.2⟩
  cases step with
  | quiet i db published => exact ⟨i, [], db ▸ .refl _, fun _ isNew => (nomatch isNew), nothing published⟩
  | mark i event rest now works sent db published =>
    exact ⟨i, [], db ▸ Database.grows_markProcessed .., fun _ isNew => (nomatch isNew), nothing published⟩
  | commit i alive running db published =>
    have isWritten := (invariant.pending i).running alive running
    have inPending {write : DbWrite} (made : write ∈ (jobPhase job source i).1.stage.written) :
        write ∈ (source.thread i).session.pending ∧ write.isTracked = true := List.mem_filter.mp (isWritten ▸ made)
    refine ⟨i, _, db ▸ Database.grows_applyAll isWritten (fun write made => ?_) (fun write made => ?_)
      (fun write made other also => CreateStage.written_inj made also) (invariant.pending i).owners,
      fun write made => (inPending made).2, published⟩
    · exact invariant.unpublished i write (inPending made).1 (inPending made).2
    · obtain ⟨row, -, rfl⟩ | ⟨event, -, rfl⟩ := CreateStage.mem_written made <;> rfl

omit [DecidableEq ι] [Fintype ι] in
theorem looked_event {i : ι} {event : OutboxEvent} (isEvent : (jobPhase job source i).1.stage.event = some event) :
    isEmail event = true ∧ event.processed = false := by
  have knows := invariant.knows i
  cases isJob : job i with
  | poll env =>
    rw [isJob] at knows
    rw [show (jobPhase job source i).1 = .initial from knows] at isEvent
    cases isEvent
  | create env storeId dto =>
    rw [isJob] at knows
    have looked := knows.1
    generalize (jobPhase job source i).1.stage = stage at isEvent looked
    cases stage with
    | announced row written =>
      cases isEvent
      exact ⟨looked.2.1, looked.2.2.1⟩
    | taking | ordered | itemized | owned | addressed | silent => cases isEvent

/-- A row that a transaction is about to add is not in the table, for as long as the transaction runs. -/
theorem unpublished_step (stepped : shop.Steps source act target) (j : ι) :
    ∀ write ∈ (target.thread j).session.pending, write.isTracked = true → target.db.row write.key = none := by
  intro write made isTracked
  cases Engine.phaseStep_of_follows invariant.follows stepped with
  | run i op resume alive calls allowed free =>
    by_cases same : j = i
    · subst same
      simp only [Function.update_self] at made
      have old (earlier : write ∈ (source.thread j).session.pending) := invariant.unpublished j write earlier isTracked
      cases isJob : job j with
      | poll env =>
        -- A pass has nothing pending.
        obtain ⟨statement, rfl, -⟩ := allows_poll isJob allowed
        rw [(Engine.perform_auto (E := shop) _ _ statement).2.2] at made
        have isInitial := invariant.knows j
        rw [isJob] at isInitial
        have nothing := (invariant.pending j).running alive (by rw [isInitial]; rfl)
        have impossible := List.mem_filter.mpr ⟨made, isTracked⟩
        rw [nothing, isInitial] at impossible
        cases impossible
      | create env storeId dto =>
        obtain ⟨running, allows⟩ := allows_create isJob allowed
        cases op with
        | begin => exact old made
        | commit | rollback => cases made
        | auto statement =>
          generalize (jobPhase job source j).1.stage = stage at allows
          cases allows
        | query statement =>
          cases executed : shop.execute statement (shop.view source.db (source.thread j).session) with
          | error error =>
            rw [Engine.perform_query_error executed] at made ⊢
            exact old made
          | ok result =>
            rw [Engine.perform_query_ok executed] at made ⊢
            rcases List.mem_append.mp made with earlier | now
            · exact old earlier
            · obtain ⟨absent, elsewhere⟩ := CreateStage.absent_of_executed allows executed now isTracked
              exact (invariant.row_view isTracked alive running elsewhere).symm.trans absent
    · simp only [Function.update_of_ne same] at made
      exact (Engine.get_perform_of_pending invariant.exclusive same free made).trans
        (invariant.unpublished j write made isTracked)
  | fail i error op resume alive calls allowed =>
    by_cases same : j = i
    · subst same
      simp only [Function.update_self] at made
      exact invariant.unpublished j write (Engine.failed_pending_subset _ op error made) isTracked
    · simp only [Function.update_of_ne same] at made
      exact invariant.unpublished j write made isTracked
  | crash i alive =>
    by_cases same : j = i
    · subst same
      simp only [Function.update_self] at made
      cases made
    · simp only [Function.update_of_ne same] at made
      exact invariant.unpublished j write made isTracked

theorem knows_step (stepped : shop.Steps source act target) (i : ι) : (job i).Knows start (jobPhase job target i).1 := by
  have before := invariant.knows i
  -- An operation that fails, or is no query, leaves what has been looked up as it is.
  have kept {op : RequestOp statements} {reply : Except ApiError op.Reply}
      (allowed : (job i).protocol.allows (jobPhase job source i) op)
      (looked : ∀ env storeId dto, job i = .create env storeId dto → (jobPhase job source i).1.fate = .running →
        CreateAllows storeId (jobPhase job source i).1.stage op → (jobPhase job source i).1.stage.Looked start storeId →
        ((jobPhase job source i).1.next op reply).stage.Looked start storeId) :
      (job i).Knows start ((job i).protocol.next (jobPhase job source i) op reply).1 := by
    cases isJob : job i with
    | poll env =>
      obtain ⟨statement, rfl, -⟩ := allows_poll isJob allowed
      rw [isJob] at before
      exact before
    | create env storeId dto =>
      obtain ⟨running, allows⟩ := allows_create isJob allowed
      rw [isJob] at before
      refine ⟨looked env storeId dto isJob running allows before.1, fun committed => ?_⟩
      by_cases isCommit : op = .commit
      · subst isCommit
        cases reply with
        | ok _ =>
          change (jobPhase job source i).1.stage.complete = true
          generalize (jobPhase job source i).1.stage = stage at allows
          cases allows with
          | commit complete => exact complete
        | error error => cases committed
      · exact absurd committed (fate_next_of_not_commit running isCommit reply)
  rcases Engine.phase_step invariant.follows stepped i with
    same | ⟨op, resume, calls, allowed, ⟨-, next⟩ | ⟨error, -, next⟩⟩
  · rw [jobPhase, same]
    exact before
  · rw [jobPhase, next]
    refine kept allowed fun env storeId dto isJob running allows looked => ?_
    cases op with
    | begin | rollback | commit => exact looked
    | auto statement =>
      generalize (jobPhase job source i).1.stage = stage at allows
      cases allows
    | query statement =>
      cases executed : shop.execute statement (shop.view source.db (source.thread i).session) with
      | error error =>
        rw [Engine.perform_query_error executed]
        exact looked
      | ok result =>
        rw [Engine.perform_query_ok executed]
        refine looked.after allows executed fun id => ?_
        have same := Database.sameOwners_applyAll source.db (invariant.pending i).owners id
        have owners := invariant.account.owners id
        exact ⟨same.1.trans owners.1, same.2.trans owners.2⟩
  · rw [jobPhase, next]
    refine kept allowed fun env storeId dto isJob running allows looked => ?_
    cases op <;> exact looked

/-- A pass works on events that are in the table. -/
theorem claimed_step (stepped : shop.Steps source act target) {new : List DbWrite}
    (grows : source.db.Grows new target.db) (i : ι) :
    ∀ event ∈ (jobPhase job target i).2.remaining, target.db.content (.outboxEvent event.id) = some event.content := by
  intro event remains
  have stays (before : source.db.content (.outboxEvent event.id) = some event.content) :
      target.db.content (.outboxEvent event.id) = some event.content := by
    have present : (source.db.row (.outboxEvent event.id)).isSome = true := by
      rw [← Database.isSome_content, before]
      rfl
    exact (grows.stays (.outboxEvent event.id) rfl present).trans before
  rcases Engine.phase_step invariant.follows stepped i with
    same | ⟨op, resume, calls, allowed, ⟨-, next⟩ | ⟨error, -, next⟩⟩
  · rw [jobPhase, same] at remains
    exact stays (invariant.claimed i event remains)
  · rw [jobPhase, next] at remains
    cases isJob : job i with
    | create env storeId dto =>
      rw [next_create isJob] at remains
      exact stays (invariant.claimed i event remains)
    | poll env =>
      obtain ⟨statement, rfl, allows⟩ := allows_poll isJob allowed
      rw [next_poll isJob, (Engine.perform_auto (E := shop) _ _ statement).1] at remains
      rcases PollPhase.mem_remaining_next allows remains with before | ⟨take, rank, pending⟩
      · exact stays (invariant.claimed i event before)
      · have found := (Database.mem_pendingEvents pending).1
        exact stays (congrArg (Option.map OutboxEvent.content) found)
  · rw [jobPhase, next] at remains
    cases isJob : job i with
    | create env storeId dto =>
      rw [next_create isJob] at remains
      exact stays (invariant.claimed i event remains)
    | poll env =>
      obtain ⟨statement, rfl, allows⟩ := allows_poll isJob allowed
      rw [next_poll isJob] at remains
      exact stays (invariant.claimed i event (PollPhase.mem_remaining_next_error allows remains))

omit [DecidableEq ι] [Fintype ι] in
/-- An event that is there and is no e-mail was there at the start. -/
theorem done_of_not_email {id : Uuid} {event : OutboxEvent} (found : source.db.outboxEvents.find id = some event)
    (notEmail : isEmail event = false) : start.Done id := by
  have present : (source.db.row (.outboxEvent id)).isSome = true := Option.isSome_of_mem found
  have content : source.db.content (.outboxEvent id) = some event.content := congrArg (Option.map _) found
  rcases invariant.account.origin (.outboxEvent id) rfl present with before | ⟨i, write, published, isKey⟩
  · obtain ⟨old, isOld⟩ := Option.isSome_iff_exists.mp before
    have same := (invariant.account.kept _ rfl before).symm.trans content
    have sameContent : old.content = event.content :=
      Option.some.inj ((congrArg (Option.map OutboxEvent.content) isOld).symm.trans same)
    exact ⟨old, isOld, .inr ((OutboxEvent.isEmail_of_content sameContent).trans notEmail)⟩
  · obtain ⟨row, -, rfl⟩ | ⟨written, isEvent, rfl⟩ := CreateStage.mem_written published.2
    · cases isKey
    · cases isKey
      have sameContent : written.content = event.content :=
        Option.some.inj ((invariant.account.stored i _ published).1.symm.trans content)
      have email := (invariant.looked_event isEvent).1
      rw [OutboxEvent.isEmail_of_content sameContent, notEmail] at email
      cases email

end OutboxInvariant

namespace OutboxInvariant

variable {start : Database} (invariant : OutboxInvariant job start source)
include invariant

omit [DecidableEq ι] [Fintype ι] in
/-- The row of an event after a commit: the one inserted, or the one before. -/
theorem event_commit {i : ι} (alive : (source.thread i).alive = true)
    (running : (jobPhase job source i).1.fate = .running) (id : Uuid) :
    (shop.view source.db (source.thread i).session).outboxEvents.find id = source.db.outboxEvents.find id ∨
      ∃ event, (jobPhase job source i).1.stage.event = some event ∧ event.id = id ∧
        source.db.outboxEvents.find id = none ∧
        (shop.view source.db (source.thread i).session).outboxEvents.find id = some event := by
  by_cases inserted : ∃ event, (jobPhase job source i).1.stage.event = some event ∧ event.id = id
  · obtain ⟨event, isEvent, rfl⟩ := inserted
    have isWritten := (invariant.pending i).running alive running
    have made := CreateStage.written_event isEvent
    obtain ⟨inPending, isTracked⟩ := List.mem_filter.mp (isWritten ▸ made)
    refine .inr ⟨event, isEvent, rfl, invariant.unpublished i _ inPending isTracked, ?_⟩
    refine shop.get_applyAll_of_mem inPending fun other also sameKey => CreateStage.written_inj made ?_ sameKey
    rw [← isWritten]
    exact List.mem_filter.mpr ⟨also, (congrArg RowKey.isTracked sameKey).trans isTracked⟩
  · have elsewhere : ∀ write ∈ (jobPhase job source i).1.stage.written, write.key ≠ RowKey.outboxEvent id := by
      intro write made isKey
      obtain ⟨row, -, rfl⟩ | ⟨event, isEvent, rfl⟩ := CreateStage.mem_written made
      · cases isKey
      · exact inserted ⟨event, isEvent, RowKey.outboxEvent.inj isKey⟩
    exact .inl (invariant.row_view rfl alive running elsewhere)

theorem delivered_step (stepped : shop.Steps source act target) {id : Uuid} {event : OutboxEvent}
    (found : target.db.outboxEvents.find id = some event) (processed : event.processed = true) :
    start.Done id ∨ Accepted target event.payload := by
  have old (before : source.db.outboxEvents.find id = some event) : start.Done id ∨ Accepted target event.payload :=
    (invariant.delivered id event before processed).imp_right fun ⟨i, accepted⟩ =>
      ⟨i, Engine.log_step stepped i _ accepted⟩
  cases outboxStep invariant.follows stepped with
  | quiet i db published => exact old (db ▸ found)
  | commit i alive running db published =>
    rw [db] at found
    rcases invariant.event_commit alive running id with same | ⟨inserted, isEvent, -, -, isRow⟩
    · exact old (same.symm.trans found)
    · cases isRow.symm.trans found
      cases (invariant.looked_event isEvent).2.symm.trans processed
  | mark i marked rest now works sent db published =>
    rw [db, Database.find_markProcessed] at found
    split at found
    next isId =>
      obtain ⟨before, isBefore, rfl⟩ := Option.map_eq_some_iff.mp found
      rw [isId]
      have claimed := invariant.claimed i marked (works ▸ List.mem_cons_self)
      have sameContent : before.content = marked.content :=
        Option.some.inj ((congrArg (Option.map OutboxEvent.content) isBefore).symm.trans claimed)
      cases email : isEmail marked with
      | true =>
        -- The pass marks an e-mail after it has enqueued it.
        obtain ⟨head, tail, isHead, accepted⟩ := invariant.sent i (sent.trans email)
        cases works.symm.trans isHead
        have contentPayload : before.content.payload = marked.content.payload := congrArg OutboxEvent.payload sameContent
        have samePayload : (before.markProcessed now).payload = marked.payload := contentPayload
        refine .inr ⟨i, Engine.log_step stepped i _ ?_⟩
        rw [samePayload]
        exact accepted
      | false =>
        exact .inl (invariant.done_of_not_email isBefore ((OutboxEvent.isEmail_of_content sameContent).trans email))
    next => exact old found

theorem step (stepped : shop.Steps source act target) : OutboxInvariant job start target := by
  obtain ⟨i, new, grows, tracked, published⟩ := invariant.grows (outboxStep invariant.follows stepped)
  exact
    { follows := Engine.follows_step invariant.follows stepped
      exclusive := Engine.exclusive_step invariant.exclusive stepped
      pending := Engine.thread_step (P := fun i => (job i).protocol)
        (fun _ alive session phase => CreatePending alive session phase.1)
        (fun _ session db op phase allowed pending => createPending_perform session db op phase allowed pending)
        (fun _ session op error phase allowed pending => createPending_failed session op error phase allowed pending)
        (fun _ _ _ _ => .closed rfl fun isRunning => nomatch isRunning.1) invariant.follows invariant.pending stepped
      unpublished := invariant.unpublished_step stepped
      account := invariant.account.grow grows tracked published
      knows := invariant.knows_step stepped
      claimed := invariant.claimed_step stepped grows
      sent := Engine.thread_step (P := fun i => (job i).protocol) (fun _ _ session phase => SentHead session phase.2)
        (fun _ session db op _ allowed sentHead => sentHead_next allowed (Engine.log_perform session db op) sentHead)
        (fun _ session op error _ allowed sentHead => sentHead_next allowed (Engine.log_failed session op error) sentHead)
        (fun _ _ _ sentHead => sentHead.mono fun _ => id) invariant.follows invariant.sent stepped
      delivered := fun _ _ found processed => invariant.delivered_step stepped found processed }

/-- No step deletes an event or sets it back. -/
theorem keeps (stepped : shop.Steps source act target) {id : Uuid} {event : OutboxEvent}
    (found : source.db.outboxEvents.find id = some event) :
    ∃ after, target.db.outboxEvents.find id = some after ∧ after.content = event.content ∧
      (event.processed = true → after.processed = true) := by
  cases outboxStep invariant.follows stepped with
  | quiet i db published => exact ⟨event, db ▸ found, rfl, fun processed => processed⟩
  | commit i alive running db published =>
    refine ⟨event, ?_, rfl, fun processed => processed⟩
    rw [db]
    rcases invariant.event_commit alive running id with same | ⟨inserted, -, -, absent, -⟩
    · exact same.trans found
    · cases absent.symm.trans found
  | mark i marked rest now works sent db published =>
    rw [db, Database.find_markProcessed]
    split
    next isId => exact ⟨event.markProcessed now, by rw [← isId, found]; rfl, rfl, fun _ => rfl⟩
    next => exact ⟨event, found, rfl, fun processed => processed⟩

end OutboxInvariant

variable (job) in
omit [DecidableEq ι] [Fintype ι] in
theorem outboxInvariant_start (start : Database) : OutboxInvariant job start (OutboxJob.system job start) := by
  have isInitial (i : ι) : jobPhase job (OutboxJob.system job start) i = (.initial, .initial) := by
    change (job i).protocol.initial = _
    cases job i <;> rfl
  refine
    { follows := Engine.follows_start fun i => (job i).obeys
      exclusive := shop.exclusive_start _ _
      pending := fun i => ?_
      unpublished := fun _ _ pending => nomatch pending
      account := ?_
      knows := fun i => ?_
      claimed := fun i event remains => ?_
      sent := fun i isSent => ?_
      delivered := fun id event found processed => .inl ⟨event, found, .inl processed⟩ }
  · rw [isInitial]
    exact ⟨fun _ _ => rfl, fun _ => rfl, fun _ pending => nomatch pending⟩
  · have nothing : Published job (OutboxJob.system job start) = fun _ _ => False := by
      funext i write
      rw [Published, isInitial]
      exact eq_false fun published => nomatch published.1
    rw [nothing]
    exact .initial start
  · rw [isInitial]
    cases job i with
    | create env storeId dto => exact ⟨trivial, fun committed => nomatch committed⟩
    | poll env => rfl
  · rw [isInitial] at remains
    cases remains
  · rw [isInitial] at isSent
    cases isSent

/-! ## Nothing is lost -/

variable (job) in
structure LosesNothing (start : Database) (system : OutboxSystem ι) : Prop where
  /-- A committed order is in the table, and has one event if its store and the store's owner exist. -/
  written : ∀ i, (jobPhase job system i).1.fate = .committed → ∃ env storeId dto row, job i = .create env storeId dto ∧
    (jobPhase job system i).1.stage.order = some row ∧ row.storeId = storeId ∧
    system.db.orders.find row.id = some row ∧
    (∀ owner, system.db.ownerOf storeId = some owner → ∃ event, (jobPhase job system i).1.stage.event = some event ∧
      isEmail event = true ∧ event.payload.toAddress = owner.email ∧
      (system.db.outboxEvents.find event.id).map OutboxEvent.content = some event.content) ∧
    (system.db.ownerOf storeId = none → (jobPhase job system i).1.stage.event = none)
  /-- These rows are new, and no two transactions share one. -/
  fresh : ∀ i write, Published job system i write → start.row write.key = none
  apart : ∀ i j write other, Published job system i write → Published job system j other → write.key = other.key → i = j
  /-- There are no orders and no events but these and those of the start. -/
  orders : ∀ id row, system.db.orders.find id = some row → start.orders.find id = some row ∨
    ∃ i, (jobPhase job system i).1.fate = .committed ∧ (jobPhase job system i).1.stage.order = some row
  events : ∀ id event, system.db.outboxEvents.find id = some event →
    (start.outboxEvents.find id).map OutboxEvent.content = some event.content ∨
      ∃ i written, (jobPhase job system i).1.fate = .committed ∧
        (jobPhase job system i).1.stage.event = some written ∧ written.id = id ∧ written.content = event.content
  /-- An event that the queue has not accepted is not processed. -/
  delivered : ∀ id event, system.db.outboxEvents.find id = some event → event.processed = true →
    start.Done id ∨ Accepted system event.payload

omit [DecidableEq ι] [Fintype ι] in
theorem OutboxInvariant.written {start : Database} (invariant : OutboxInvariant job start source) {i : ι}
    (committed : (jobPhase job source i).1.fate = .committed) :
    ∃ env storeId dto row, job i = .create env storeId dto ∧
      (jobPhase job source i).1.stage.order = some row ∧ row.storeId = storeId ∧
      source.db.orders.find row.id = some row ∧
      (∀ owner, source.db.ownerOf storeId = some owner → ∃ event, (jobPhase job source i).1.stage.event = some event ∧
        isEmail event = true ∧ event.payload.toAddress = owner.email ∧
        (source.db.outboxEvents.find event.id).map OutboxEvent.content = some event.content) ∧
      (source.db.ownerOf storeId = none → (jobPhase job source i).1.stage.event = none) := by
  have knows := invariant.knows i
  have stored (write : DbWrite) (made : write ∈ (jobPhase job source i).1.stage.written) :
      source.db.content write.key = write.value.map write.key.content :=
    (invariant.account.stored i write ⟨committed, made⟩).1
  have storedOrder {row : Order} (isOrder : (jobPhase job source i).1.stage.order = some row) :
      source.db.orders.find row.id = some row :=
    (Option.map_id_apply).symm.trans (stored _ (CreateStage.written_order isOrder))
  cases isJob : job i with
  | poll env =>
    rw [isJob] at knows
    rw [show (jobPhase job source i).1 = .initial from knows] at committed
    cases committed
  | create env storeId dto =>
    rw [isJob] at knows
    obtain ⟨looked, complete⟩ := knows
    replace complete := complete committed
    rw [invariant.account.owners.ownerOf]
    generalize isStage : (jobPhase job source i).1.stage = stage at looked complete stored storedOrder
    cases stage with
    | silent row =>
      refine ⟨env, storeId, dto, row, rfl, rfl, looked.1, storedOrder rfl, fun owner isOwner => ?_, fun _ => rfl⟩
      cases looked.2.symm.trans isOwner
    | announced row event =>
      obtain ⟨inStore, email, -, owner, isOwner, address⟩ := looked
      refine ⟨env, storeId, dto, row, rfl, rfl, inStore, storedOrder rfl, fun other isOther => ?_, fun nobody => ?_⟩
      · cases isOwner.symm.trans isOther
        exact ⟨event, rfl, email, address, stored _ (CreateStage.written_event rfl)⟩
      · cases isOwner.symm.trans nobody
    | taking | ordered | itemized | owned | addressed => cases complete

omit [DecidableEq ι] [Fintype ι] in
theorem OutboxInvariant.losesNone {start : Database} (invariant : OutboxInvariant job start source) :
    LosesNothing job start source := by
  have account := invariant.account
  refine ⟨fun i => invariant.written, fun i write published => (account.fresh i write published).2, account.apart,
    fun id row found => ?_, fun id event found => ?_, invariant.delivered⟩
  · have content : source.db.content (.order id) = some row := congrArg (Option.map _) found
    rcases account.origin (.order id) rfl (Option.isSome_of_mem found) with before | ⟨i, write, published, isKey⟩
    · have same := (account.kept (.order id) rfl before).symm.trans content
      exact .inl (Option.map_id_apply.symm.trans same)
    · obtain ⟨written, isOrder, rfl⟩ | ⟨event, -, rfl⟩ := CreateStage.mem_written published.2
      · cases isKey
        have same := (account.stored i _ published).1.symm.trans content
        exact .inr ⟨i, published.1, isOrder.trans same⟩
      · cases isKey
  · have content : source.db.content (.outboxEvent id) = some event.content := congrArg (Option.map _) found
    rcases account.origin (.outboxEvent id) rfl (Option.isSome_of_mem found) with before | ⟨i, write, published, isKey⟩
    · exact .inl ((account.kept (.outboxEvent id) rfl before).symm.trans content)
    · obtain ⟨row, -, rfl⟩ | ⟨written, isEvent, rfl⟩ := CreateStage.mem_written published.2
      · cases isKey
      · cases isKey
        have same := (account.stored i _ published).1.symm.trans content
        exact .inr ⟨i, written, published.1, isEvent, rfl, Option.some.inj same⟩

open Transition

/-- However the transactions and the passes are interleaved, and wherever they fail or die: each committed
    order has its event, each event its order, what is processed has been accepted, and no step takes an event
    away or sets it back. -/
theorem losesNothing {start : Database} {run : List (Act ι ApiError × OutboxSystem ι)}
    (isRun : Run shop.Steps (OutboxJob.system job start) run) :
    EachState (LosesNothing job start) (OutboxJob.system job start) run ∧
    EachStep (fun source _ target => ∀ id event, source.db.outboxEvents.find id = some event →
      ∃ after, target.db.outboxEvents.find id = some after ∧ after.content = event.content ∧
        (event.processed = true → after.processed = true)) (OutboxJob.system job start) run := by
  have atStart := outboxInvariant_start job start
  have kept (source act target) (invariant : OutboxInvariant job start source)
      (stepped : shop.Steps source act target) : OutboxInvariant job start target := invariant.step stepped
  constructor
  · exact (eachState_of_invariant (fun source act target invariant stepped _ => kept source act target invariant stepped)
      atStart isRun isRun).imp fun system invariant => invariant.losesNone
  · refine eachStep_of_invariant ?_ kept atStart isRun
    exact fun _ _ _ invariant stepped _ _ found => invariant.keeps stepped found

end Systems

/-! ## A small shop -/

namespace SmallShop

/-- The shop whose owner can be told. -/
def ownedShop : Database :=
  { db with users := ⟨[⟨9, "owner@corner.example", [], .storeOwner, some 1, none, none, none⟩], List.nodup_singleton _⟩ }

/-- An order of one of the three teas, and a pass of the processor. -/
def orderAndPoll : Bool → OutboxJob
  | false => .create ⟨5, fun n => 200 + n, fun _ => 0⟩ 1 (orderOf (oneOf 2))
  | true => .poll ⟨6, fun _ => 0, fun _ => 0⟩

/-- The order is committed, and the queue accepts the e-mail about it before it is marked. -/
def orderThenPoll : List (Act Bool ApiError) := List.replicate 11 (.run false) ++ List.replicate 3 (.run true)

end SmallShop

theorem losesNothing_smallShop :
    ∃ run, shop.trace (OutboxJob.system SmallShop.orderAndPoll SmallShop.ownedShop) SmallShop.orderThenPoll = some run ∧
      Transition.EachState (LosesNothing SmallShop.orderAndPoll SmallShop.ownedShop)
        (OutboxJob.system SmallShop.orderAndPoll SmallShop.ownedShop) run := by
  have enabled : (shop.trace (OutboxJob.system SmallShop.orderAndPoll SmallShop.ownedShop)
      SmallShop.orderThenPoll).isSome = true := by decide +kernel
  obtain ⟨run, traced⟩ := Option.isSome_iff_exists.mp enabled
  exact ⟨run, traced, (losesNothing (shop.run_of_trace traced)).1⟩

end StoreSaas
