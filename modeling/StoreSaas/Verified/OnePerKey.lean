import StoreSaas.Verified.FinishedRecords
import StoreSaas.Verified.KeyLocks

/-! # One order for each key

As long as no request dies and no `COMMIT` and no write of a record fails, the record of a
key is either absent, a reservation of one request that is at work, or the answer of the one
request that has made its order; so all others are refused, fail by themselves or repeat that
answer (`oneOrder`).  Records of different stores, routes and client keys have different ids
(`cacheKey_inj`).
-/

namespace StoreSaas

/-! ## The ids of records -/

namespace IdempotencyInterceptor

theorem toList_cacheKey (storeId : Uuid) (path clientKey : String) :
    (cacheKey (some storeId) path clientKey).toList =
      storeId.chars ++ ':' :: (path.toList ++ ':' :: clientKey.toList) := by
  simp [cacheKey, Uuid.text, toString]

end IdempotencyInterceptor

namespace IdempotentRoute

/-- No other path, with the colon after it, begins like that of the orders. -/
theorem isOrder_of_path {route : IdempotentRoute} {first second : List Char}
    (same : route.path.toList ++ ':' :: first = "/orders".toList ++ ':' :: second) :
    route.isOrder = true ∧ first = second := by
  cases route with
  | createOrder dto => exact ⟨rfl, by simpa [path] using same⟩
  | createCheckoutSession provider dto => simp [path] at same

theorem path_of_isOrder {route : IdempotentRoute} (isOrder : route.isOrder = true) : route.path = "/orders" := by
  cases route with
  | createOrder dto => rfl
  | createCheckoutSession provider dto => cases isOrder

end IdempotentRoute

namespace IdempotentRequest

/-- `POST /orders` of the store, under the key. -/
def IsOrderUnder (storeId : Uuid) (clientKey : String) (request : IdempotentRequest) : Prop :=
  request.storeId = storeId ∧ request.clientKey = some clientKey ∧ request.route.isOrder = true

/-- The record of an order's key is that of no other request. -/
theorem cacheKey_iff {storeId : Uuid} {clientKey : String} (notEmpty : clientKey ≠ "") (request : IdempotentRequest) :
    request.cacheKey = some (IdempotencyInterceptor.cacheKey (some storeId) "/orders" clientKey) ↔
      request.IsOrderUnder storeId clientKey := by
  obtain ⟨env, ownStore, ownKey, route⟩ := request
  unfold cacheKey IsOrderUnder
  constructor
  · intro same
    split at same
    next => cases same
    next => cases same
    next other otherNotEmpty isOther =>
      have texts := congrArg String.toList (Option.some.inj same)
      rw [IdempotencyInterceptor.toList_cacheKey, IdempotencyInterceptor.toList_cacheKey] at texts
      obtain ⟨sameStore, rest⟩ := List.append_inj texts (by rw [Uuid.length_chars, Uuid.length_chars])
      obtain ⟨isOrder, sameKey⟩ := IdempotentRoute.isOrder_of_path (List.cons.inj rest).2
      have isKey : other = clientKey := String.toList_injective sameKey
      exact ⟨Uuid.chars_injective sameStore, isOther.trans (congrArg some isKey), isOrder⟩
  · rintro ⟨rfl, rfl, isOrder⟩
    split
    next isNone => cases isNone
    next isEmpty => exact absurd (Option.some.inj isEmpty) notEmpty
    next other isOther => rw [IdempotentRoute.path_of_isOrder isOrder, Option.some.inj isOther]

end IdempotentRequest

/-! ## Replays -/

section Systems

variable {ι : Type} (request : ι → IdempotentRequest)

/-- The record was there at the start, or a request has recorded it. -/
def Replayable (start : Database) (system : IdempotentSystem ι) (record : IdempotencyRecord) : Prop :=
  start.idempotencyRecords.find record.id = some record ∨
    ∃ j body, (request j).cacheKey = some record.id ∧ (keyPhase request system j).stage = .recorded body ∧
      record = ⟨record.id, 201, some body⟩

def ReplaysRecorded (start : Database) (system : IdempotentSystem ι) : Prop :=
  ∀ i record, (keyPhase request system i).stage = .replaying record →
    (request i).cacheKey = some record.id ∧ Replayable request start system record

/-- No reservation is stuck, and only requests that have given up are rolled back. -/
def Undisturbed (system : IdempotentSystem ι) : Prop :=
  ∀ i, (keyPhase request system i).stage ≠ .stuck ∧
    ((keyPhase request system i).fate = .aborted → (keyPhase request system i).stage.givenUp = true)

/-- Nobody dies, and neither a `COMMIT` nor a write of a record fails. -/
def goesWell (source : IdempotentSystem ι) : Act ι ApiError → Bool
  | .run _ => true
  | .fail i _ =>
    match (source.thread i).program with
    | .call .commit _ => false
    | .call (.auto (.idempotency (.findOne _))) _ => true
    | .call (.auto (.idempotency _)) _ => false
    | _ => true
  | .crash _ => false

variable {request} {start : Database} {system source target : IdempotentSystem ι}

theorem goesWell_fail {i : ι} {op : RequestOp statements} {resume : Except ApiError op.Reply → Handler HttpAnswer}
    {error : ApiError} (calls : (source.thread i).program = .call op resume)
    (well : goesWell source (.fail i error) = true) :
    op ≠ .commit ∧ ∀ cacheKey, op ≠ .auto (.idempotency (.delete cacheKey)) := by
  constructor
  · rintro rfl
    simp only [goesWell, calls] at well
    cases well
  · rintro cacheKey rfl
    simp only [goesWell, calls] at well
    cases well

theorem stage_recorded_next {key : Option String} {isOrder : Bool} {phase : KeyPhase} {op : RequestOp statements}
    {body : ResponseBody} (allowed : KeyAllows key isOrder phase op) (isRecorded : phase.stage = .recorded body)
    (reply : Except ApiError op.Reply) : (phase.next op reply).stage = .recorded body := by
  cases allowed with
  | begin | rollback => exact isRecorded
  | query | insertOrder | commit => exact (stage_next_of_not_auto rfl phase reply).trans isRecorded
  | auto orders records => exact (congrArg _ (KeyPhase.next_auto_of_spares records reply)).trans isRecorded
  | look isKey stage | reserve isKey stage | finish isKey stage _ | release isKey stage =>
    cases isRecorded.symm.trans stage

variable [DecidableEq ι] [Fintype ι] {act : Act ι ApiError}

/-- What is recorded stays recorded. -/
theorem recorded_step
    (follows : source.Follows (fun i => (request i).protocol) fun i => KeyPhase.Ended (request i).cacheKey)
    (stepped : shop.Steps source act target) {j : ι} {body : ResponseBody}
    (isRecorded : (keyPhase request source j).stage = .recorded body) :
    (keyPhase request target j).stage = .recorded body := by
  rcases Engine.phase_step follows stepped j with same | ⟨op, resume, -, allowed, ⟨-, next⟩ | ⟨error, -, next⟩⟩
  · exact (congrArg KeyPhase.stage same).trans isRecorded
  · exact (congrArg KeyPhase.stage next).trans (stage_recorded_next allowed.2 isRecorded _)
  · exact (congrArg KeyPhase.stage next).trans (stage_recorded_next allowed.2 isRecorded _)

theorem undisturbed_step
    (follows : source.Follows (fun i => (request i).protocol) fun i => KeyPhase.Ended (request i).cacheKey)
    (undisturbed : Undisturbed request source) (stepped : shop.Steps source act target)
    (well : goesWell source act = true) : Undisturbed request target := by
  intro i
  rcases Engine.phase_step follows stepped i with same | ⟨op, resume, calls, allowed, ⟨-, next⟩ | ⟨error, rfl, next⟩⟩
  · rw [keyPhase, same]
    exact undisturbed i
  · rw [keyPhase, next]
    refine ⟨fun isStuck => ?_, fun aborted => ?_⟩
    · obtain ⟨cacheKey, rfl, error, isError⟩ := stage_next_stuck allowed.2 isStuck (undisturbed i).1
      exact reply_delete _ _ _ _ isError
    · rcases fate_next_aborted allowed.1 allowed.2 aborted with ⟨rfl, givenUp⟩ | ⟨rfl, error, isError⟩
      · exact givenUp
      · cases isError
  · rw [keyPhase, next]
    obtain ⟨notCommit, notDelete⟩ := goesWell_fail calls well
    refine ⟨fun isStuck => ?_, fun aborted => ?_⟩
    · obtain ⟨cacheKey, isDelete, -⟩ := stage_next_stuck allowed.2 isStuck (undisturbed i).1
      exact notDelete cacheKey isDelete
    · rcases fate_next_aborted allowed.1 allowed.2 aborted with ⟨rfl, givenUp⟩ | ⟨isCommit, -⟩
      · exact givenUp
      · exact absurd isCommit notCommit

theorem replayable_step (keyed : Keyed request start.idempotencyRecords.find source)
    (stepped : shop.Steps source act target) {record : IdempotencyRecord}
    (replayable : Replayable request start source record) : Replayable request start target record :=
  replayable.imp_right fun ⟨j, body, isKey, isRecorded, isRecord⟩ =>
    ⟨j, body, isKey, recorded_step keyed.follows stepped isRecorded, isRecord⟩

omit [DecidableEq ι] [Fintype ι] in
/-- A finished record that a lookup finds can be replayed. -/
theorem replayable_of_find (keyed : Keyed request start.idempotencyRecords.find source) {cacheKey : String}
    {record : IdempotencyRecord} (found : source.db.idempotencyRecords.find cacheKey = some record)
    (finished : record.statusCode ≠ 0) : Replayable request start source record := by
  have isKey : record.id = cacheKey := Table.key_of_find found
  subst isKey
  refine (keyed.sound.origin _ record found).imp_right fun ⟨j, holds⟩ => ?_
  obtain ⟨sameKey, holding⟩ := IdempotentRequest.holding_eq_some holds
  generalize isStage : (keyPhase request source j).stage = stage at holding
  cases stage with
  | recorded body => exact ⟨j, body, sameKey, isStage, (Option.some.inj holding).symm⟩
  | reserved | stuck => exact absurd (congrArg IdempotencyRecord.statusCode (Option.some.inj holding).symm) finished
  | opening | absent | refused | replaying | released => cases holding

/-- A replay repeats what was found in the record of the request's key. -/
theorem replaysRecorded_step (keyed : Keyed request start.idempotencyRecords.find source)
    (replays : ReplaysRecorded request start source) (stepped : shop.Steps source act target) :
    ReplaysRecorded request start target := by
  intro i record isReplay
  have old (before : (keyPhase request source i).stage = .replaying record) :=
    (replays i record before).imp_right (replayable_step keyed stepped)
  rcases Engine.phase_step keyed.follows stepped i with
    same | ⟨op, resume, calls, allowed, ⟨-, next⟩ | ⟨error, -, next⟩⟩
  · exact old ((congrArg KeyPhase.stage same).symm.trans isReplay)
  · rw [keyPhase, next] at isReplay
    have change := stageChange_next allowed.2 (shop.perform (source.thread i).session source.db op).reply
    rw [show (KeyPhase.next _ op _).stage = _ from isReplay] at change
    cases change with
    | same isStage => exact old isStage.symm
    | refuse _ _ isStage => rcases isStage with isStage | isStage <;> cases isStage
    | reserve _ _ _ isStage | finish _ _ _ _ _ isStage | release _ _ isStage | stick _ _ _ _ isStage => cases isStage
    | look cacheKey isKey isOp succeeds early =>
      subst isOp
      have looked : (KeyPhase.afterRecord (keyPhase request source i) (.findOne cacheKey)
          (.ok (source.db.idempotencyRecords.find cacheKey))).stage = .replaying record := isReplay
      rcases Option.eq_none_or_eq_some (source.db.idempotencyRecords.find cacheKey) with absent | ⟨other, found⟩
      · rw [absent] at looked
        cases looked
      · rw [found] at looked
        simp only [KeyPhase.afterRecord] at looked
        split at looked
        next => cases looked
        next finished =>
          cases looked
          refine ⟨?_, replayable_step keyed stepped (replayable_of_find keyed found finished)⟩
          rw [isKey, Table.key_of_find found]
  · rw [keyPhase, next] at isReplay
    have change := stageChange_next allowed.2 (.error error)
    rw [show (KeyPhase.next _ op _).stage = _ from isReplay] at change
    cases change with
    | same isStage => exact old isStage.symm
    | refuse _ _ isStage => rcases isStage with isStage | isStage <;> cases isStage
    | look _ _ _ succeeds _ =>
      obtain ⟨_, isOk⟩ := succeeds
      cases isOk
    | reserve _ _ _ isStage | finish _ _ _ _ _ isStage | release _ _ isStage | stick _ _ _ _ isStage => cases isStage

end Systems

/-! ## A retry -/

/-- The same database with other records. -/
def Database.withRecords (db : Database) (records : Table IdempotencyRecord.id) : Database :=
  { db with idempotencyRecords := records }

theorem Database.checkItems_withRecords (db : Database) (records : Table IdempotencyRecord.id) (rows : List OrderItem) :
    (db.withRecords records).checkItems rows = db.checkItems rows := by
  induction rows with
  | nil => rfl
  | cons row rest ih =>
    unfold checkItems
    rw [ih]
    rfl

theorem Statement.execute_withRecords {statement : Statement} (spares : statement.writesTo .idempotencyRecords = false)
    (db : Database) (records : Table IdempotencyRecord.id) :
    statement.execute (db.withRecords records) = statement.execute db := by
  cases statement with
  | idempotency statement => cases spares
  | product statement =>
    cases statement with
    | findOne id storeId => cases id <;> rfl
    | _ => rfl
  | category statement =>
    cases statement with
    | findOne id storeId => cases id <;> rfl
    | _ => rfl
  | order statement =>
    cases statement with
    | findOne id storeId => cases id <;> rfl
    | insertItems rows =>
      change ((db.withRecords records).checkItems rows).map _ = (db.checkItems rows).map _
      rw [Database.checkItems_withRecords]
    | _ => rfl
  | user statement =>
    cases statement with
    | findStaff id storeId => cases id <;> rfl
    | _ => rfl
  | store statement =>
    cases statement with
    | findOne id => cases id <;> rfl
    | _ => rfl
  | outbox statement | billing statement | audit statement => cases statement <;> rfl
  | setCurrentStore | enqueueMail => rfl

theorem applyAll_withRecords {writes : List DbWrite}
    (spares : ∀ write ∈ writes, write.key.table ≠ .idempotencyRecords) (db : Database)
    (records : Table IdempotencyRecord.id) :
    shop.applyAll (db.withRecords records) writes = (shop.applyAll db writes).withRecords records := by
  induction writes generalizing db with
  | nil => rfl
  | cons write rest ih =>
    obtain ⟨sparesFirst, sparesRest⟩ := List.forall_mem_cons.mp spares
    have first : shop.apply (db.withRecords records) write = (shop.apply db write).withRecords records := by
      cases write with
      | idempotencyRecord change => exact absurd rfl sparesFirst
      | _ => rfl
    rw [Engine.applyAll_cons, first, ih sparesRest, Engine.applyAll_cons]

/-- A program that does not touch the records does the same whatever they are. -/
theorem runWith_withRecords {α : Type} {program : Tx α}
    (only : program.Only fun op : Statement => op.writesTo .idempotencyRecords = false) (db : Database)
    (records : Table IdempotencyRecord.id) :
    (program.runWith shop.executeOn (db.withRecords records)).1 = (program.runWith shop.executeOn db).1 := by
  induction program generalizing db with
  | done | throw => rfl
  | call op resume ih =>
    have same : shop.executeOn op (db.withRecords records) =
        ((shop.executeOn op db).1, (shop.executeOn op db).2.withRecords records) := by
      unfold Engine.executeOn
      rw [show shop.execute op (db.withRecords records) = shop.execute op db from
        Statement.execute_withRecords only.1 db records]
      split
      next reply writes executed =>
        refine congrArg _ (applyAll_withRecords (fun write made isRecord => ?_) db records)
        cases (isRecord ▸ only.1).symm.trans (Statement.execute_table executed write made)
      next => rfl
    rw [Program.runWith_call, same]
    exact ih _ (only.2 _) _

/-- A statement that commits by itself, in a request that runs alone. -/
theorem runWith_auto {α : Type} {statement : Statement}
    {resume : Except ApiError (RequestOp.auto (S := statements) statement).Reply → Handler α}
    {session : Session RowKey DbWrite statements ApiError} {db after : Database} {result : Except ApiError α}
    {reply : Except ApiError (RequestOp.auto (S := statements) statement).Reply}
    (executed : shop.executeOn statement db = (reply, after))
    (continues : ∀ next : Session RowKey DbWrite statements ApiError, next.pending = session.pending →
      ((resume reply).runWith (S := requestSignature statements) shop.performOn (next, after)).1 = result) :
    ((Program.call (.auto statement) resume : Handler α).runWith (S := requestSignature statements) shop.performOn
      (session, db)).1 = result := by
  obtain ⟨sameReply, sameDb, samePending⟩ := Engine.perform_auto (E := shop) session db statement
  rw [executed] at sameReply sameDb
  rw [Program.runWith_call]
  change ((resume (shop.perform session db (.auto statement)).reply).runWith (S := requestSignature statements)
    shop.performOn (_, (shop.perform session db (.auto statement)).db)).1 = result
  rw [sameReply, sameDb]
  exact continues _ samePending

/-- The interceptor with a free key, in a transaction that has written nothing so far. -/
theorem runWith_interceptKeyed {cacheKey : String} {body : Tx ResponseBody}
    (only : body.Only fun op : Statement => op.writesTo .idempotencyRecords = false)
    {session : Session RowKey DbWrite statements ApiError} (nothing : session.pending = []) {db : Database}
    (free : db.idempotencyRecords.find cacheKey = none) :
    ((IdempotencyInterceptor.interceptKeyed cacheKey 201 body.inTransaction).runWith
      (S := requestSignature statements) shop.performOn (session, db)).1 =
      (body.runWith shop.executeOn db).1.map fun body => ⟨201, some body⟩ := by
  let reserved := db.withRecords (db.idempotencyRecords.put ⟨cacheKey, 0, none⟩)
  have held : reserved.idempotencyRecords.find cacheKey = some ⟨cacheKey, 0, none⟩ :=
    Table.find_put_same db.idempotencyRecords ⟨cacheKey, 0, none⟩
  have looked : shop.executeOn (.idempotency (.findOne cacheKey)) db = (.ok none, db) :=
    congrArg (fun found => (Except.ok found, db)) free
  have reserves : shop.executeOn (.idempotency (.insert ⟨cacheKey, 0, none⟩)) db = (.ok (), reserved) :=
    executeOn_insertRecord free
  refine runWith_auto looked fun second secondPending => ?_
  refine runWith_auto reserves fun third thirdPending => ?_
  change (((body.inTransaction.handle _).handle _).runWith (S := requestSignature statements) _ _).1 = _
  obtain ⟨after, ran, -⟩ := shop.runWith_inTransaction body third reserved
  have sameView : shop.view reserved third = reserved := by
    rw [Engine.view, thirdPending, secondPending, nothing, Engine.applyAll_nil]
  rw [sameView] at ran
  rw [Program.handle_handle, Program.runWith_handle, ran]
  have sameResult : (body.runWith shop.executeOn reserved).1 = (body.runWith shop.executeOn db).1 :=
    runWith_withRecords only db _
  rw [← sameResult]
  cases (body.runWith shop.executeOn reserved).1 with
  | ok answered => exact runWith_auto (executeOn_updateRecord held 201 (some answered)) fun _ _ => rfl
  | error error => exact runWith_auto (executeOn_deleteRecord held) fun _ _ => rfl

theorem runWith_endTransaction {α : Type} (result : Except ApiError α)
    (state : Session RowKey DbWrite statements ApiError × Database) :
    ((Program.endTransaction result : Handler α).runWith (S := requestSignature statements) shop.performOn state).1 =
      result := by
  cases result <;> rfl

/-- `OrdersService.create` does not touch the records. -/
theorem only_createOrder (env : Environment) (storeId : Uuid) (dto : CreateOrderDto) :
    (OrdersService.create env storeId dto).Only fun op : Statement => op.writesTo .idempotencyRecords = false := by
  refine ((only_takeLines env storeId dto.items 0 []).imp fun op takes => (spares_of_takes takes).2).bind
    fun taken => ?_
  refine Program.only_perform_bind rfl fun _ => Program.only_perform_bind rfl fun _ => ?_
  refine ((only_notifyOwner env storeId _).imp ?_).bind fun _ => trivial
  rintro op ⟨statement, rfl⟩
  exact (spares_of_outbox statement).2

/-- `POST /orders` with a free key, with the database to itself, answers what its handler does. -/
theorem alone_create_of_free {storeId : Uuid} {clientKey : String} (notEmpty : clientKey ≠ "") {db : Database}
    (free : db.idempotencyRecords.find (IdempotencyInterceptor.cacheKey (some storeId) "/orders" clientKey) = none)
    (env : Environment) (dto : CreateOrderDto) :
    (shop.alone (OrdersController.create env storeId (some clientKey) dto) db).1 =
      ((OrdersService.create env storeId dto).runWith shop.executeOn db).1.map fun order =>
        ⟨201, some (.order order)⟩ := by
  let body : Tx ResponseBody := OrdersService.create env storeId dto >>= fun order => return .order order
  have keyed : IdempotencyInterceptor.intercept (some storeId) "/orders" (some clientKey) 201 body.inTransaction =
      IdempotencyInterceptor.interceptKeyed (IdempotencyInterceptor.cacheKey (some storeId) "/orders" clientKey) 201
        body.inTransaction := by
    unfold IdempotencyInterceptor.intercept
    split
    next isNone => cases isNone
    next isEmpty => exact absurd (Option.some.inj isEmpty) notEmpty
    next same => rw [Option.some.inj same]
  have only : body.Only fun op : Statement => op.writesTo .idempotencyRecords = false :=
    (only_createOrder env storeId dto).bind fun _ => trivial
  have answers : (body.runWith shop.executeOn db).1 =
      ((OrdersService.create env storeId dto).runWith shop.executeOn db).1.map ResponseBody.order := by
    rw [Program.runWith_bind]
    cases ((OrdersService.create env storeId dto).runWith shop.executeOn db).1 <;> rfl
  unfold OrdersController.create Engine.alone
  change ((RlsContextInterceptor.intercept (some storeId) (IdempotencyInterceptor.intercept (some storeId) "/orders"
    (some clientKey) 201 body.inTransaction)).runWith (S := requestSignature statements) _ _).1 = _
  rw [keyed]
  change (((IdempotencyInterceptor.interceptKeyed _ 201 body.inTransaction).handle Program.endTransaction).runWith
    (S := requestSignature statements) shop.performOn
      (⟨[], [], [⟨.query (.setCurrentStore storeId), .ok ()⟩, ⟨.begin, .ok ()⟩]⟩, db)).1 = _
  rw [Program.runWith_handle, runWith_endTransaction, runWith_interceptKeyed only rfl free, answers]
  cases ((OrdersService.create env storeId dto).runWith shop.executeOn db).1 <;> rfl

/-! ## One order for each key -/

section Systems

variable {ι : Type} (request : ι → IdempotentRequest)

/-- A request that has recorded its order: it does not fail any more, and commits the order. -/
structure Succeeds (system : IdempotentSystem ι) (i : ι) (entity : OrderEntity) : Prop where
  recorded : (keyPhase request system i).stage = .recorded (.order entity)
  inserted : (keyPhase request system i).inserted = [entity.order]
  throws : ∀ error, (system.thread i).program ≠ .throw error
  answers : ∀ answer, (system.thread i).program = .done answer →
    answer = ⟨201, some (.order entity)⟩ ∧ CommittedOrder request system i entity.order

/-- What the key of a `POST /orders` stands for. -/
structure OneOrder (storeId : Uuid) (clientKey cacheKey : String) (start : Database) (system : IdempotentSystem ι) :
    Prop where
  /-- One order is committed under the key at most, and none if the key was taken at the start. -/
  single : ∀ i j row other, (request i).IsOrderUnder storeId clientKey → (request j).IsOrderUnder storeId clientKey →
    CommittedOrder request system i row → CommittedOrder request system j other → i = j ∧ row = other
  free : ∀ i row, (request i).IsOrderUnder storeId clientKey → CommittedOrder request system i row →
    start.idempotencyRecords.find cacheKey = none
  /-- The orders in the table are those of the start and those committed. -/
  table : ∀ row, system.db.orders.find row.id = some row ↔
    start.orders.find row.id = some row ∨ ∃ i, CommittedOrder request system i row
  /-- All answers under the key are that of the one request that succeeds. -/
  answered : ∀ i answer, (request i).IsOrderUnder storeId clientKey → (system.thread i).program = .done answer →
    (∃ record, start.idempotencyRecords.find cacheKey = some record ∧
      (keyPhase request system i).inserted = [] ∧ answer = ⟨record.statusCode, record.responseBody⟩) ∨
    ∃ j entity, (request j).IsOrderUnder storeId clientKey ∧ Succeeds request system j entity ∧
      answer = ⟨201, some (.order entity)⟩ ∧ (i = j ∨ (keyPhase request system i).inserted = [])
  /-- A failure is the 409, or comes before the reservation or after its release. -/
  failed : ∀ i error, (request i).IsOrderUnder storeId clientKey → (system.thread i).program = .throw error →
    (∀ row, ¬ CommittedOrder request system i row) ∧ (slots request system).holding i = none ∧
      (((keyPhase request system i).stage = .refused ∧ error = IdempotencyInterceptor.beingProcessed) ∨
        (keyPhase request system i).stage = .opening ∨ (keyPhase request system i).stage = .released)
  /-- A record belongs to a request that is at work, or to the one that succeeds. -/
  taken : ∀ record, system.db.idempotencyRecords.find cacheKey = some record →
    start.idempotencyRecords.find cacheKey = some record ∨
      ∃ i, (request i).IsOrderUnder storeId clientKey ∧
        (((keyPhase request system i).stage = .reserved ∧ (system.thread i).program.ended = false) ∨
          ∃ entity, Succeeds request system i entity)
  /-- Without a record, a retry does what its handler does. -/
  retry : system.db.idempotencyRecords.find cacheKey = none → ∀ env dto,
    (shop.alone (OrdersController.create env storeId (some clientKey) dto) system.db).1 =
      ((OrdersService.create env storeId dto).runWith shop.executeOn system.db).1.map fun order =>
        ⟨201, some (.order order)⟩
  /-- Nobody else is answered from the record. -/
  apart : ∀ i record, (keyPhase request system i).stage = .replaying record → record.id = cacheKey →
    (request i).IsOrderUnder storeId clientKey

variable {request} {start : Database} {system : IdempotentSystem ι} {storeId : Uuid} {clientKey : String}

theorem Answers.order_of_isOrder {phase : KeyPhase} {body : ResponseBody} (answers : phase.Answers true body) :
    ∃ entity, body = .order entity ∧ phase.inserted = [entity.order] := by
  cases body with
  | order entity => exact ⟨entity, rfl, answers.2⟩
  | checkoutSession session => cases answers

section Invariant

variable (keyed : Keyed request start.idempotencyRecords.find system)
include keyed

theorem inserted_of_recorded {i : ι} {body : ResponseBody} (isOrder : (request i).route.isOrder = true)
    (isRecorded : (keyPhase request system i).stage = .recorded body) :
    ∃ entity, body = .order entity ∧ (keyPhase request system i).inserted = [entity.order] := by
  have answers := (keyed.valid i).recorded body isRecorded
  rw [isOrder] at answers
  exact Answers.order_of_isOrder answers

/-- An order under a key is committed only once its answer is recorded. -/
theorem recorded_of_committed {i : ι} {row : Order} (isOrder : (request i).route.isOrder = true) {cacheKey : String}
    (isKey : (request i).cacheKey = some cacheKey) (committed : CommittedOrder request system i row) :
    ∃ entity, (keyPhase request system i).stage = .recorded (.order entity) ∧ row = entity.order := by
  have keyedRequest : (request i).cacheKey ≠ none := by
    rw [isKey]
    exact Option.some_ne_none _
  obtain ⟨answer, ready⟩ := (keyed.valid i).committed committed.1
  rcases ready.stage_cases with ⟨body, isRecorded, -⟩ | ⟨record, isReplay, -⟩ | ⟨isNone, -⟩
  · obtain ⟨entity, rfl, inserted⟩ := inserted_of_recorded keyed isOrder isRecorded
    have present := committed.2
    rw [inserted] at present
    exact ⟨entity, isRecorded, List.mem_singleton.mp present⟩
  · have nothing := (keyed.valid i).early keyedRequest (by rw [isReplay]; rfl)
    have present := committed.2
    rw [nothing] at present
    cases present
  · exact absurd isNone keyedRequest

omit keyed in
theorem holding_of_recorded {i : ι} {cacheKey : String} (isKey : (request i).cacheKey = some cacheKey)
    {body : ResponseBody} (isRecorded : (keyPhase request system i).stage = .recorded body) :
    (slots request system).holding i = some (cacheKey, ⟨cacheKey, 201, some body⟩) := by
  simp only [slotsOf, IdempotentRequest.holding, isKey, isRecorded, KeyStage.holding, Option.bind_some, Option.map_some]

theorem succeeds_of_recorded (undisturbed : Undisturbed request system) {i : ι} {entity : OrderEntity}
    (isRecorded : (keyPhase request system i).stage = .recorded (.order entity))
    (inserted : (keyPhase request system i).inserted = [entity.order]) : Succeeds request system i entity where
  recorded := isRecorded
  inserted := inserted
  throws error isThrow := by
    have ended := keyed.follows i
    rw [isThrow] at ended
    have notGivenUp : (keyPhase request system i).stage.givenUp ≠ true := by
      rw [isRecorded]
      exact Bool.false_ne_true
    rcases ended.2.1 with givenUp | ⟨aborted, -⟩
    · exact notGivenUp givenUp
    · exact notGivenUp ((undisturbed i).2 aborted)
  answers answer isDone := by
    have ended := keyed.follows i
    rw [isDone] at ended
    refine ⟨?_, ended.1, by rw [inserted]; exact List.mem_cons_self⟩
    rcases ended.2.stage_cases with ⟨body, isStage, isAnswer⟩ | ⟨record, isStage, -⟩ | ⟨-, isStage⟩
    · cases isRecorded.symm.trans isStage
      exact isAnswer
    · cases isRecorded.symm.trans isStage
    · cases isRecorded.symm.trans isStage

/-- What the invariants say about one key. -/
theorem oneOrder_of_invariants (rows : OrderRows request start system) (undisturbed : Undisturbed request system)
    (replays : ReplaysRecorded request start system) (notEmpty : clientKey ≠ "") :
    OneOrder request storeId clientKey (IdempotencyInterceptor.cacheKey (some storeId) "/orders" clientKey) start
      system := by
  have keyOf {i : ι} (ours : (request i).IsOrderUnder storeId clientKey) :=
    (IdempotentRequest.cacheKey_iff notEmpty (request i)).mpr ours
  have recordedOf {i : ι} {row : Order} (ours : (request i).IsOrderUnder storeId clientKey)
      (committed : CommittedOrder request system i row) := recorded_of_committed keyed ours.2.2 (keyOf ours) committed
  refine ⟨fun i j row other ours alsoOurs committed alsoCommitted => ?_, fun i row ours committed => ?_,
    fun row => ⟨rows.origin row.id row, ?_⟩, fun i answer ours isDone => ?_, fun i error ours isThrow => ?_,
    fun record found => ?_, fun absent env dto => alone_create_of_free notEmpty absent env dto,
    fun i record isReplay isId => ?_⟩
  · obtain ⟨entity, isRecorded, isRow⟩ := recordedOf ours committed
    obtain ⟨otherEntity, alsoRecorded, isOther⟩ := recordedOf alsoOurs alsoCommitted
    -- both hold the key, and a key has one holder
    have same : i = j := keyed.sound.single i j _ _ _ (holding_of_recorded (keyOf ours) isRecorded)
      (holding_of_recorded (keyOf alsoOurs) alsoRecorded)
    subst same
    cases isRecorded.symm.trans alsoRecorded
    exact ⟨rfl, isRow.trans isOther.symm⟩
  · obtain ⟨entity, isRecorded, -⟩ := recordedOf ours committed
    -- the record would have been at the start, where the key had to be free
    refine Option.eq_none_iff_forall_ne_some.mpr fun record found => ?_
    exact (keyed.sound.kept _ record found).2 i _ (holding_of_recorded (keyOf ours) isRecorded)
  · rintro (before | ⟨i, committed⟩)
    · exact rows.kept _ row before
    · exact rows.stored i row committed
  · have ended := keyed.follows i
    rw [isDone] at ended
    -- a request that is done has recorded its own order, replays a record or has no key
    rcases ended.2.stage_cases with ⟨body, isRecorded, isAnswer⟩ | ⟨record, isReplay, isAnswer⟩ | ⟨isNone, -⟩
    · obtain ⟨entity, rfl, inserted⟩ := inserted_of_recorded keyed ours.2.2 isRecorded
      exact .inr ⟨i, entity, ours, succeeds_of_recorded keyed undisturbed isRecorded inserted, isAnswer, .inl rfl⟩
    · obtain ⟨sameKey, replayable⟩ := replays i record isReplay
      have isId := Option.some.inj (sameKey.symm.trans (keyOf ours))
      have nothing : (keyPhase request system i).inserted = [] := by
        refine (keyed.valid i).early ?_ (by rw [isReplay]; rfl)
        rw [sameKey]
        exact Option.some_ne_none _
      -- the record was there at the start, or another of these requests has written it
      rcases replayable with before | ⟨j, body, isKey, isRecorded, isRecord⟩
      · exact .inl ⟨record, isId ▸ before, nothing, isAnswer⟩
      · have alsoOurs := (IdempotentRequest.cacheKey_iff notEmpty (request j)).mp (isId ▸ isKey)
        obtain ⟨entity, rfl, inserted⟩ := inserted_of_recorded keyed alsoOurs.2.2 isRecorded
        refine .inr ⟨j, entity, alsoOurs, succeeds_of_recorded keyed undisturbed isRecorded inserted, ?_, .inr nothing⟩
        rw [isAnswer, isRecord]
    · cases isNone.symm.trans (keyOf ours)
  · have ended := keyed.follows i
    rw [isThrow] at ended
    obtain ⟨notCommitted, gaveUp, ifRefused⟩ := ended
    -- a request that throws has let the key go
    have givenUp : (keyPhase request system i).stage.givenUp = true :=
      gaveUp.elim id fun aborted => (undisturbed i).2 aborted.1
    refine ⟨fun row committed => notCommitted committed.1, ?_⟩
    generalize isStage : (keyPhase request system i).stage = stage at givenUp ifRefused
    have released (nothing : ∀ id, stage.holding id = none) : (slots request system).holding i = none := by
      simp only [slotsOf, IdempotentRequest.holding, keyOf ours, isStage, nothing, Option.bind_some, Option.map_none]
    cases stage with
    | opening => exact ⟨released fun _ => rfl, .inr (.inl rfl)⟩
    | refused => exact ⟨released fun _ => rfl, .inl ⟨rfl, ifRefused rfl⟩⟩
    | released => exact ⟨released fun _ => rfl, .inr (.inr rfl)⟩
    -- a failed `DELETE` is the only way to keep the key, and none has failed
    | stuck => exact absurd isStage (undisturbed i).1
    | absent | replaying | reserved | recorded => cases givenUp
  -- a record in the table was there at the start or is held by a request under this key
  · refine (keyed.sound.origin _ record found).imp_right fun isHeld => ?_
    obtain ⟨i, holds⟩ := isHeld
    obtain ⟨isKey, held⟩ := IdempotentRequest.holding_eq_some holds
    have ours := (IdempotentRequest.cacheKey_iff notEmpty (request i)).mp isKey
    refine ⟨i, ours, ?_⟩
    generalize isStage : (keyPhase request system i).stage = stage at held
    cases stage with
    | reserved => exact .inl ⟨rfl, not_ended_of_reserved keyed.follows isStage⟩
    | recorded body =>
      obtain ⟨entity, rfl, inserted⟩ := inserted_of_recorded keyed ours.2.2 isStage
      exact .inr ⟨entity, succeeds_of_recorded keyed undisturbed isStage inserted⟩
    | stuck => exact absurd isStage (undisturbed i).1
    | opening | absent | refused | replaying | released => cases held
  · obtain ⟨sameKey, -⟩ := replays i record isReplay
    exact (IdempotentRequest.cacheKey_iff notEmpty (request i)).mp (isId ▸ sameKey)

end Invariant

variable [DecidableEq ι] [Fintype ι]

open Transition

/-- In every run of requests on the idempotent routes in which nobody dies and no `COMMIT` and no write of a
    record fails, all keys stand for one order at most. -/
theorem oneOrder (notEmpty : clientKey ≠ "") {run : List (Act ι ApiError × IdempotentSystem ι)}
    (isRun : Run shop.Steps (IdempotentRequest.system request start) run)
    (well : EachStep (fun source act _ => goesWell source act = true) (IdempotentRequest.system request start) run) :
    EachState (OneOrder request storeId clientKey
        (IdempotencyInterceptor.cacheKey (some storeId) "/orders" clientKey) start)
      (IdempotentRequest.system request start) run := by
  let Invariant (system : IdempotentSystem ι) : Prop := Keyed request start.idempotencyRecords.find system ∧
    OrderRows request start system ∧ shop.Exclusive system ∧ Undisturbed request system ∧
    ReplaysRecorded request start system
  have atStart : Invariant (IdempotentRequest.system request start) :=
    ⟨keyed_start request start, orderRows_start request start, shop.exclusive_start _ _,
      fun _ => ⟨KeyStage.noConfusion, Fate.noConfusion⟩, fun _ _ isReplay => nomatch isReplay⟩
  have kept (source act target) (invariant : Invariant source) (stepped : shop.Steps source act target)
      (wellDone : goesWell source act = true) : Invariant target := by
    obtain ⟨keyed, rows, exclusive, undisturbed, replays⟩ := invariant
    exact ⟨keyed.step stepped, rows.step keyed exclusive stepped, Engine.exclusive_step exclusive stepped,
      undisturbed_step keyed.follows undisturbed stepped wellDone, replaysRecorded_step keyed replays stepped⟩
  refine (eachState_of_invariant kept atStart isRun well).imp fun system invariant => ?_
  obtain ⟨keyed, rows, -, undisturbed, replays⟩ := invariant
  exact oneOrder_of_invariants keyed rows undisturbed replays notEmpty

end Systems

namespace SmallShop

/-- The order is sent twice under its key. -/
def orderedTwice : Bool → IdempotentRequest
  | false => keyedOrder
  | true => ⟨⟨6, fun n => 300 + n, fun _ => 0⟩, 1, some "k", .createOrder (orderOf (oneOf 2))⟩

/-- The first request goes through, and the second one finds its answer. -/
def orderThenReplay : List (Act Bool ApiError) := List.replicate 13 (.run false) ++ List.replicate 4 (.run true)

theorem isSome_orderThenReplay :
    (shop.trace (IdempotentRequest.system orderedTwice db) orderThenReplay).isSome = true := by
  decide +kernel

end SmallShop

theorem oneOrder_smallShop :
    Transition.EachState (OneOrder SmallShop.orderedTwice 1 "k"
        (IdempotencyInterceptor.cacheKey (some 1) "/orders" "k") SmallShop.db)
      (IdempotentRequest.system SmallShop.orderedTwice SmallShop.db)
      ((shop.trace (IdempotentRequest.system SmallShop.orderedTwice SmallShop.db) SmallShop.orderThenReplay).get
        SmallShop.isSome_orderThenReplay) :=
  oneOrder (by decide) (Engine.run_get_trace _ _) (by decide +kernel)

end StoreSaas
