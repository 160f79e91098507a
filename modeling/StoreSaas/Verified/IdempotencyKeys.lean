import StoreSaas.Library.Protocol
import StoreSaas.Library.RelyGuarantee
import StoreSaas.Library.Slots
import StoreSaas.Verified.References
import StoreSaas.Verified.ServiceStatements
import StoreSaas.Verified.WrittenTables

/-! # Requests with an `Idempotency-Key`

What a request on an `@Idempotent()` route has done to the record of its key is its
`KeyStage`; beside it stand the orders it has inserted and the fate of its transaction.
The records are slots: a request reserves the slot of its key, puts the answer there or
releases it, each by a statement that commits at once (`slots_step`).  No transaction
writes a record, and only the transactions write orders.
-/

namespace StoreSaas

/-! ## The requests -/

inductive IdempotentRoute where
  | createOrder (dto : CreateOrderDto)
  | createCheckoutSession (provider : PaymentProvider) (dto : CreateCheckoutSessionDto)

def IdempotentRoute.path : IdempotentRoute → String
  | .createOrder _ => "/orders"
  | .createCheckoutSession _ _ => "/billing/checkout-session"

def IdempotentRoute.isOrder : IdempotentRoute → Bool
  | .createOrder _ => true
  | .createCheckoutSession _ _ => false

structure IdempotentRequest where
  env : Environment
  storeId : Uuid
  clientKey : Option String
  route : IdempotentRoute

namespace IdempotentRequest

def handler (request : IdempotentRequest) : Handler HttpAnswer :=
  match request.route with
  | .createOrder dto => OrdersController.create request.env request.storeId request.clientKey dto
  | .createCheckoutSession provider dto =>
    BillingController.createCheckoutSession provider request.storeId request.clientKey dto

/-- The id of the request's record, if it has a key. -/
def cacheKey (request : IdempotentRequest) : Option String :=
  match request.clientKey with
  | none | some "" => none
  | some clientKey => some (IdempotencyInterceptor.cacheKey (some request.storeId) request.route.path clientKey)

end IdempotentRequest

/-! ## What a request does -/

inductive KeyStage where
  /-- Nothing has been found or reserved. -/
  | opening
  | absent
  /-- Another request has the key. -/
  | refused
  | replaying (record : IdempotencyRecord)
  | reserved
  | recorded (body : ResponseBody)
  | released
  /-- The reservation could not be deleted. -/
  | stuck
  deriving DecidableEq

structure KeyPhase where
  stage : KeyStage
  inserted : List Order
  fate : Fate
  deriving DecidableEq

namespace KeyStage

/-- What a request at this stage has put into the slot of its key. -/
def holding (cacheKey : String) : KeyStage → Option IdempotencyRecord
  | .reserved | .stuck => some ⟨cacheKey, 0, none⟩
  | .recorded body => some ⟨cacheKey, 201, some body⟩
  | .opening | .absent | .refused | .replaying _ | .released => none

/-- The answer that is decided. -/
def answer : KeyStage → Option HttpAnswer
  | .recorded body => some ⟨201, some body⟩
  | .replaying record => some ⟨record.statusCode, record.responseBody⟩
  | .opening | .absent | .refused | .reserved | .released | .stuck => none

/-- The request is about to fail. -/
def givenUp : KeyStage → Bool
  | .opening | .refused | .released | .stuck => true
  | .absent | .replaying _ | .reserved | .recorded _ => false

end KeyStage

namespace KeyPhase

def initial : KeyPhase := ⟨.opening, [], .running⟩

/-- The handler is at work: behind a reservation, or without a key. -/
def Working (key : Option String) (phase : KeyPhase) : Prop :=
  phase.stage = if key.isSome then .reserved else .opening

/-- The body is that of the order inserted, or of a session. -/
def Answers (isOrder : Bool) (phase : KeyPhase) : ResponseBody → Prop
  | .order entity => isOrder = true ∧ phase.inserted = [entity.order]
  | .checkoutSession _ => isOrder = false

/-- The transaction may commit, and the request will answer this. -/
def Ready (key : Option String) (phase : KeyPhase) (answer : HttpAnswer) : Prop :=
  phase.stage.answer = some answer ∨ (key = none ∧ phase.stage = .opening)

def afterQuery (phase : KeyPhase) : (statement : Statement) → Except ApiError statement.Reply → KeyPhase
  | .order (.insert row), .ok _ => { phase with inserted := row :: phase.inserted }
  | _, _ => phase

def afterRecord (phase : KeyPhase) : (statement : IdempotencyStatement) → Except ApiError statement.Reply → KeyPhase
  | .findOne _, .ok none => { phase with stage := .absent }
  | .findOne _, .ok (some record) =>
    { phase with stage := if record.statusCode = 0 then .refused else .replaying record }
  | .insert _, .ok _ => { phase with stage := .reserved }
  | .insert _, .error error => { phase with stage := if error = .uniqueViolation then .refused else .opening }
  | .update _ _ (some body), .ok _ => { phase with stage := .recorded body }
  | .delete _, .ok _ => { phase with stage := .released }
  | .delete _, .error _ => { phase with stage := .stuck }
  | .findOne _, .error _ | .update _ _ none, .ok _ | .update _ _ _, .error _ => phase

def next (phase : KeyPhase) : (op : RequestOp statements) → Except ApiError op.Reply → KeyPhase
  | .begin, _ => phase
  | .query statement, reply => phase.afterQuery statement reply
  | .auto (.idempotency statement), reply => phase.afterRecord statement reply
  | .auto _, _ => phase
  | .commit, .ok _ => { phase with fate := .committed }
  | .commit, .error _ | .rollback, _ => { phase with fate := .aborted }

end KeyPhase

inductive KeyAllows (key : Option String) (isOrder : Bool) (phase : KeyPhase) : RequestOp statements → Prop where
  | begin : KeyAllows key isOrder phase .begin
  | query {statement : Statement} (orders : statement.writesTo .orders = false)
    (records : statement.writesTo .idempotencyRecords = false) : KeyAllows key isOrder phase (.query statement)
  | auto {statement : Statement} (orders : statement.writesTo .orders = false)
    (records : statement.writesTo .idempotencyRecords = false) : KeyAllows key isOrder phase (.auto statement)
  | insertOrder {row : Order} (allowed : isOrder = true) (working : phase.Working key) (first : phase.inserted = []) :
    KeyAllows key isOrder phase (.query (.order (.insert row)))
  | look {cacheKey : String} (isKey : key = some cacheKey) (stage : phase.stage = .opening) :
    KeyAllows key isOrder phase (.auto (.idempotency (.findOne cacheKey)))
  | reserve {cacheKey : String} (isKey : key = some cacheKey) (stage : phase.stage = .absent) :
    KeyAllows key isOrder phase (.auto (.idempotency (.insert ⟨cacheKey, 0, none⟩)))
  | finish {cacheKey : String} {body : ResponseBody} (isKey : key = some cacheKey) (stage : phase.stage = .reserved)
    (answers : phase.Answers isOrder body) :
    KeyAllows key isOrder phase (.auto (.idempotency (.update cacheKey 201 (some body))))
  | release {cacheKey : String} (isKey : key = some cacheKey) (stage : phase.stage = .reserved) :
    KeyAllows key isOrder phase (.auto (.idempotency (.delete cacheKey)))
  | commit {answer : HttpAnswer} (ready : phase.Ready key answer) : KeyAllows key isOrder phase .commit
  | rollback (givenUp : phase.stage.givenUp = true) : KeyAllows key isOrder phase .rollback

/-- Nothing is done any more once the transaction is over. -/
def keyProtocol (key : Option String) (isOrder : Bool) : Protocol statements ApiError KeyPhase where
  initial := .initial
  allows phase op := phase.fate = .running ∧ KeyAllows key isOrder phase op
  next := KeyPhase.next

abbrev IdempotentRequest.protocol (request : IdempotentRequest) : Protocol statements ApiError KeyPhase :=
  keyProtocol request.cacheKey request.route.isOrder

namespace KeyPhase

variable {phase : KeyPhase}

theorem afterQuery_of_spares {statement : Statement} (spares : statement.writesTo .orders = false)
    (reply : Except ApiError statement.Reply) : phase.afterQuery statement reply = phase := by
  cases statement with
  | order statement =>
    cases statement with
    | insert row => cases spares
    | _ => rfl
  | _ => rfl

theorem next_auto_of_spares {statement : Statement} (spares : statement.writesTo .idempotencyRecords = false)
    (reply : Except ApiError statement.Reply) : phase.next (.auto statement) reply = phase := by
  cases statement with
  | idempotency statement => cases spares
  | _ => rfl

/-- How a handler ends. -/
structure Handled (key : Option String) (isOrder : Bool) (phase : KeyPhase) (result : Except ApiError ResponseBody) :
    Prop where
  running : phase.fate = .running
  working : phase.Working key
  answers : ∀ body, result = .ok body → phase.Answers isOrder body

/-- How a request comes to the end of its transaction. -/
def Finished (key : Option String) (phase : KeyPhase) : Except ApiError HttpAnswer → Prop
  | .ok answer => phase.fate = .running ∧ phase.Ready key answer
  | .error error => phase.fate = .running ∧ phase.stage.givenUp = true ∧
      (phase.stage = .refused → error = IdempotencyInterceptor.beingProcessed)

/-- How a request ends. -/
def Ended (key : Option String) (phase : KeyPhase) : Except ApiError HttpAnswer → Prop
  | .ok answer => phase.fate = .committed ∧ phase.Ready key answer
  | .error error => phase.fate ≠ .committed ∧
      (phase.stage.givenUp = true ∨ (phase.fate = .aborted ∧ ∃ answer, phase.Ready key answer)) ∧
      (phase.stage = .refused → error = IdempotencyInterceptor.beingProcessed)

theorem Ready.stage_cases {key : Option String} {answer : HttpAnswer} (ready : phase.Ready key answer) :
    (∃ body, phase.stage = .recorded body ∧ answer = ⟨201, some body⟩) ∨
      (∃ record, phase.stage = .replaying record ∧ answer = ⟨record.statusCode, record.responseBody⟩) ∨
      (key = none ∧ phase.stage = .opening) := by
  rcases ready with isAnswer | unkeyed
  · unfold KeyStage.answer at isAnswer
    split at isAnswer
    next body isStage => exact .inl ⟨body, isStage, (Option.some.inj isAnswer).symm⟩
    next record isStage => exact .inr (.inl ⟨record, isStage, (Option.some.inj isAnswer).symm⟩)
    all_goals cases isAnswer
  · exact .inr (.inr unkeyed)

theorem Ready.not_refused {key : Option String} {answer : HttpAnswer} (ready : phase.Ready key answer) :
    phase.stage ≠ .refused := by
  intro isRefused
  obtain ⟨_, isStage, -⟩ | ⟨_, isStage, -⟩ | ⟨-, isStage⟩ := ready.stage_cases <;> cases isRefused.symm.trans isStage

theorem Ready.not_reserved {key : Option String} {answer : HttpAnswer} (ready : phase.Ready key answer) :
    phase.stage ≠ .reserved := by
  intro isReserved
  obtain ⟨_, isStage, -⟩ | ⟨_, isStage, -⟩ | ⟨-, isStage⟩ := ready.stage_cases <;> cases isReserved.symm.trans isStage

end KeyPhase

/-! ## Phases that occur -/

/-- Nothing has been reserved yet, or it never will be. -/
def KeyStage.early : KeyStage → Bool
  | .opening | .absent | .refused | .replaying _ => true
  | .reserved | .recorded _ | .released | .stuck => false

structure KeyPhase.Valid (key : Option String) (isOrder : Bool) (phase : KeyPhase) : Prop where
  unkeyed : key = none → phase.stage = .opening
  early : key ≠ none → phase.stage.early = true → phase.inserted = []
  recorded : ∀ body, phase.stage = .recorded body → phase.Answers isOrder body
  reserved : phase.stage = .reserved → phase.fate = .running
  committed : phase.fate = .committed → ∃ answer, phase.Ready key answer

namespace KeyPhase.Valid

variable {key : Option String} {isOrder : Bool} {phase : KeyPhase}

theorem initial : KeyPhase.initial.Valid key isOrder where
  unkeyed _ := rfl
  early _ _ := rfl
  recorded _ isRecorded := nomatch isRecorded
  reserved isReserved := nomatch isReserved
  committed isCommitted := nomatch isCommitted

/-- A request with a key comes to another stage. -/
theorem moved (valid : phase.Valid key isOrder) {cacheKey : String} (isKey : key = some cacheKey) {stage : KeyStage}
    (running : phase.fate = .running) (early : stage.early = true → phase.stage.early = true)
    (recorded : ∀ body, stage = .recorded body → phase.Answers isOrder body) :
    ({ phase with stage := stage } : KeyPhase).Valid key isOrder where
  unkeyed isNone := by
    rw [isKey] at isNone
    cases isNone
  early keyed isEarly := valid.early keyed (early isEarly)
  recorded body isRecorded := by
    have answers := recorded body isRecorded
    cases body <;> exact answers
  reserved _ := running
  committed isCommitted := by
    rw [running] at isCommitted
    cases isCommitted

theorem next {op : RequestOp statements} (valid : phase.Valid key isOrder) (running : phase.fate = .running)
    (allowed : KeyAllows key isOrder phase op) (reply : Except ApiError op.Reply) :
    (phase.next op reply).Valid key isOrder := by
  cases allowed with
  | begin => exact valid
  | @query statement orders records =>
    have same : phase.next (.query statement) reply = phase := KeyPhase.afterQuery_of_spares orders reply
    rw [same]
    exact valid
  | @auto statement orders records =>
    have same : phase.next (.auto statement) reply = phase := KeyPhase.next_auto_of_spares records reply
    rw [same]
    exact valid
  | @insertOrder row allowed working first =>
    cases reply with
    | error error => exact valid
    | ok _ =>
      refine ⟨valid.unkeyed, fun keyed isEarly => ?_, fun body isRecorded => ?_, valid.reserved, valid.committed⟩
      · have reserved : phase.stage = .reserved := by
          rw [working, if_pos (Option.isSome_iff_ne_none.mpr keyed)]
        change phase.stage.early = true at isEarly
        rw [reserved] at isEarly
        cases isEarly
      · change phase.stage = .recorded body at isRecorded
        rw [working] at isRecorded
        split at isRecorded <;> cases isRecorded
  | @look cacheKey isKey stage =>
    have early : phase.stage.early = true := by rw [stage]; rfl
    cases reply with
    | error error => exact valid
    | ok found =>
      rcases Option.eq_none_or_eq_some (show Option IdempotencyRecord from found) with rfl | ⟨record, rfl⟩
      · exact valid.moved isKey running (fun _ => early) fun _ isRecorded => nomatch isRecorded
      · refine valid.moved isKey running (fun _ => early) fun _ isRecorded => ?_
        split at isRecorded <;> cases isRecorded
  | @reserve cacheKey isKey stage =>
    have early : phase.stage.early = true := by rw [stage]; rfl
    cases reply with
    | ok _ => exact valid.moved isKey running (fun _ => early) fun _ isRecorded => nomatch isRecorded
    | error error =>
      refine valid.moved isKey running (fun _ => early) fun _ isRecorded => ?_
      split at isRecorded <;> cases isRecorded
  | @finish cacheKey body isKey stage answers =>
    cases reply with
    | error error => exact valid
    | ok _ =>
      refine valid.moved isKey running (fun isEarly => nomatch isEarly) fun other isRecorded => ?_
      cases isRecorded
      exact answers
  | @release cacheKey isKey stage =>
    cases reply with
    | ok _ =>
      exact valid.moved isKey running (fun isEarly => nomatch isEarly) fun _ isRecorded => nomatch isRecorded
    | error error =>
      exact valid.moved isKey running (fun isEarly => nomatch isEarly) fun _ isRecorded => nomatch isRecorded
  | @commit answer ready =>
    cases reply with
    | ok _ =>
      exact ⟨valid.unkeyed, valid.early, valid.recorded, fun isReserved => absurd isReserved ready.not_reserved,
        fun _ => ⟨answer, ready⟩⟩
    | error error =>
      exact ⟨valid.unkeyed, valid.early, valid.recorded, fun isReserved => absurd isReserved ready.not_reserved,
        fun isCommitted => nomatch isCommitted⟩
  | rollback givenUp =>
    refine ⟨valid.unkeyed, valid.early, valid.recorded, fun isReserved => ?_, fun isCommitted => nomatch isCommitted⟩
    change phase.stage = .reserved at isReserved
    rw [isReserved] at givenUp
    cases givenUp

end KeyPhase.Valid

/-! ## The handlers -/

section Handlers

variable {key : Option String} {phase : KeyPhase}

theorem stays_of_query {isOrder : Bool} {statement : Statement} (running : phase.fate = .running)
    (orders : statement.writesTo .orders = false) (records : statement.writesTo .idempotencyRecords = false) :
    (keyProtocol key isOrder).allows phase (.query statement) ∧
      ∀ reply, (keyProtocol key isOrder).next phase (.query statement) reply = phase :=
  ⟨⟨running, .query orders records⟩, KeyPhase.afterQuery_of_spares orders⟩

theorem stays_of_auto {isOrder : Bool} {statement : Statement} (running : phase.fate = .running)
    (orders : statement.writesTo .orders = false) (records : statement.writesTo .idempotencyRecords = false) :
    (keyProtocol key isOrder).allows phase (.auto statement) ∧
      ∀ reply, (keyProtocol key isOrder).next phase (.auto statement) reply = phase :=
  ⟨⟨running, .auto orders records⟩, KeyPhase.next_auto_of_spares records⟩

theorem spares_of_takes {statement : Statement} (takes : statement.takes = true) :
    statement.writesTo .orders = false ∧ statement.writesTo .idempotencyRecords = false := by
  cases statement with
  | product statement => cases statement <;> exact ⟨rfl, rfl⟩
  | _ => cases takes

theorem spares_of_outbox (statement : OutboxStatement) :
    (Statement.outbox statement).writesTo .orders = false ∧
      (Statement.outbox statement).writesTo .idempotencyRecords = false := by
  cases statement <;> exact ⟨rfl, rfl⟩

theorem only_assertStaffFitsPlan (storeId : Uuid) (plan : Plan) :
    (BillingService.assertStaffFitsPlan storeId plan).Only fun op : Statement =>
      op.writesTo .orders = false ∧ op.writesTo .idempotencyRecords = false := by
  refine Program.only_perform_bind ⟨rfl, rfl⟩ fun staffCount => ?_
  split <;> trivial

theorem only_applyPlanChange (storeId : Uuid) (plan : Plan) (customerId subscriptionId : Option (Option String)) :
    (BillingService.applyPlanChange storeId plan customerId subscriptionId).Only fun op : Statement =>
      op.writesTo .orders = false ∧ op.writesTo .idempotencyRecords = false :=
  Program.only_perform_bind ⟨rfl, rfl⟩ fun _ => trivial

theorem obeys_createOrder (env : Environment) (storeId : Uuid) (dto : CreateOrderDto)
    (running : phase.fate = .running) (working : phase.Working key) (first : phase.inserted = []) :
    (OrdersService.create env storeId dto >>= fun order => return ResponseBody.order order).inTransaction.Obeys
      (keyProtocol key true) (KeyPhase.Handled key true) phase := by
  have fails (error : ApiError) : KeyPhase.Handled key true phase (.error error) :=
    ⟨running, working, fun _ isOk => nomatch isOk⟩
  unfold OrdersService.create
  rw [Program.bind_assoc, Program.inTransaction_bind]
  refine Program.Obeys.handle (Program.obeys_inTransaction_of_only (only_takeLines env storeId dto.items 0 [])
    fun op takes => stays_of_query running (spares_of_takes takes).1 (spares_of_takes takes).2)
    fun after result same => ?_
  rw [same]
  cases result with
  | error error => exact fails error
  | ok taken =>
    obtain ⟨total, items⟩ := taken
    refine And.intro ⟨running, .insertOrder rfl working first⟩ fun reply => ?_
    cases reply with
    | error error => exact fails error
    | ok _ =>
      -- The order is inserted; what follows leaves the phase as it is.
      let inserted : KeyPhase :=
        { phase with inserted := ⟨env.newId 0, storeId, .pending, total, env.now, env.now⟩ :: phase.inserted }
      have failsAfter (error : ApiError) : KeyPhase.Handled key true inserted (.error error) :=
        ⟨running, working, fun _ isOk => nomatch isOk⟩
      refine And.intro ⟨running, .query rfl rfl⟩ fun reply => ?_
      cases reply with
      | error error => exact failsAfter error
      | ok _ =>
        change ((OrdersService.notifyOwner env storeId _ >>= fun _ => _) >>= _).inTransaction.Obeys _ _ inserted
        rw [Program.bind_assoc, Program.inTransaction_bind]
        refine Program.Obeys.handle (Program.obeys_inTransaction_of_only (only_notifyOwner env storeId _)
          fun op isOutbox => ?_) fun after result same => ?_
        · obtain ⟨statement, rfl⟩ := isOutbox
          exact stays_of_query running (spares_of_outbox statement).1 (spares_of_outbox statement).2
        · rw [same]
          cases result with
          | error error => exact failsAfter error
          | ok _ =>
            refine ⟨running, working, fun body isBody => ?_⟩
            cases isBody
            exact ⟨rfl, congrArg _ first⟩

theorem obeys_createCheckoutSession (provider : PaymentProvider) (storeId : Uuid) (dto : CreateCheckoutSessionDto)
    (running : phase.fate = .running) (working : phase.Working key) :
    (BillingService.createCheckoutSession provider storeId dto >>=
      fun url => return ResponseBody.checkoutSession url).autocommit.Obeys
      (keyProtocol key false) (KeyPhase.Handled key false) phase := by
  have fails (error : ApiError) : KeyPhase.Handled key false phase (.error error) :=
    ⟨running, working, fun _ isOk => nomatch isOk⟩
  have succeeds (url : String) : KeyPhase.Handled key false phase (.ok (.checkoutSession url)) :=
    ⟨running, working, fun _ isBody => by cases isBody; rfl⟩
  unfold BillingService.createCheckoutSession
  cases provider ⟨storeId, dto.targetPlan, dto.successUrl, dto.cancelUrl⟩ with
  | error error => exact fails error
  | ok result =>
    obtain ⟨url, immediatePlan⟩ := result
    cases immediatePlan with
    | none => exact succeeds url
    | some plan =>
      have stays (op : Statement) (spares : op.writesTo .orders = false ∧ op.writesTo .idempotencyRecords = false) :
          (keyProtocol key false).allows phase (.auto op) ∧
            ∀ reply, (keyProtocol key false).next phase (.auto op) reply = phase :=
        stays_of_auto running spares.1 spares.2
      change ((BillingService.assertStaffFitsPlan storeId plan >>= fun _ => BillingService.applyPlanChange storeId plan
        none none >>= fun _ => return url) >>= fun url => return ResponseBody.checkoutSession url).autocommit.Obeys _ _ _
      rw [Program.bind_assoc, Program.autocommit_bind]
      refine Program.Obeys.handle (Program.obeys_autocommit_of_only (only_assertStaffFitsPlan storeId plan) stays)
        fun after result same => ?_
      rw [same]
      cases result with
      | error error => exact fails error
      | ok _ =>
        rw [Program.onOk_ok, Program.bind_assoc, Program.autocommit_bind]
        refine Program.Obeys.handle (Program.obeys_autocommit_of_only
          (only_applyPlanChange storeId plan none none) stays) fun after result same => ?_
        rw [same]
        cases result with
        | error error => exact fails error
        | ok _ => exact succeeds url

/-! ## The interceptors -/

open IdempotencyInterceptor

variable {isOrder : Bool}

theorem obeys_release {cacheKey : String} (isKey : key = some cacheKey) (running : phase.fate = .running)
    (reserved : phase.stage = .reserved) (error : ApiError) :
    (release cacheKey error).Obeys (keyProtocol key isOrder) (KeyPhase.Finished key) phase := by
  refine And.intro ⟨running, .release isKey reserved⟩ fun reply => ?_
  cases reply with
  | ok _ => exact ⟨running, rfl, fun isRefused => nomatch isRefused⟩
  | error _ => exact ⟨running, rfl, fun isRefused => nomatch isRefused⟩

/-- What follows a handler: its answer is recorded, or else its reservation is released. -/
theorem obeys_finish {cacheKey : String} {next : Handler ResponseBody} (isKey : key = some cacheKey)
    (obeys : next.Obeys (keyProtocol key isOrder) (KeyPhase.Handled key isOrder) phase) :
    ((next >>= finish cacheKey 201).tryCatch (release cacheKey)).Obeys (keyProtocol key isOrder)
      (KeyPhase.Finished key) phase := by
  change ((next.handle _).handle _).Obeys _ _ _
  rw [Program.handle_handle]
  refine Program.Obeys.handle obeys fun after result handled => ?_
  have reserved : after.stage = .reserved := by
    rw [handled.working, isKey]
    rfl
  cases result with
  | error error => exact obeys_release isKey handled.running reserved error
  | ok body =>
    refine And.intro ⟨handled.running, .finish isKey reserved (handled.answers body rfl)⟩ fun reply => ?_
    cases reply with
    | ok _ => exact ⟨handled.running, .inl rfl⟩
    | error error => exact obeys_release isKey handled.running reserved error

theorem obeys_interceptKeyed {cacheKey : String} {next : Handler ResponseBody} (isKey : key = some cacheKey)
    (obeys : next.Obeys (keyProtocol key isOrder) (KeyPhase.Handled key isOrder) ⟨.reserved, [], .running⟩) :
    (interceptKeyed cacheKey 201 next).Obeys (keyProtocol key isOrder) (KeyPhase.Finished key) .initial := by
  refine And.intro ⟨rfl, .look isKey rfl⟩ fun reply => ?_
  cases reply with
  | error error => exact ⟨rfl, rfl, fun isRefused => nomatch isRefused⟩
  | ok existing =>
    rcases Option.eq_none_or_eq_some (show Option IdempotencyRecord from existing) with rfl | ⟨record, rfl⟩
    · refine And.intro ⟨rfl, .reserve isKey rfl⟩ fun reply => ?_
      cases reply with
      | ok _ => exact obeys_finish isKey obeys
      | error error =>
        change (((if error = .uniqueViolation then .throw beingProcessed else .throw error : Handler Unit)) >>=
          _).Obeys _ _ (KeyPhase.mk (if error = .uniqueViolation then .refused else .opening) [] .running)
        by_cases lost : error = .uniqueViolation
        · rw [if_pos lost, if_pos lost]
          exact ⟨rfl, rfl, fun _ => rfl⟩
        · rw [if_neg lost, if_neg lost]
          exact ⟨rfl, rfl, fun isRefused => nomatch isRefused⟩
    · change (if record.statusCode = 0 then .throw beingProcessed
        else .done ⟨record.statusCode, record.responseBody⟩ : Handler HttpAnswer).Obeys _ _
        (KeyPhase.mk (if record.statusCode = 0 then .refused else .replaying record) [] .running)
      by_cases pending : record.statusCode = 0
      · rw [if_pos pending, if_pos pending]
        exact ⟨rfl, rfl, fun _ => rfl⟩
      · rw [if_neg pending, if_neg pending]
        exact ⟨rfl, .inl rfl⟩

/-- A request without a key is its handler. -/
theorem obeys_unkeyed {next : Handler ResponseBody} (unkeyed : key = none)
    (obeys : next.Obeys (keyProtocol key isOrder) (KeyPhase.Handled key isOrder) .initial) :
    (next >>= fun body => return ⟨201, some body⟩).Obeys (keyProtocol key isOrder) (KeyPhase.Finished key) .initial := by
  refine Program.Obeys.handle obeys fun after result handled => ?_
  have opening : after.stage = .opening := by
    rw [handled.working, unkeyed]
    rfl
  cases result with
  | ok body => exact ⟨handled.running, .inr ⟨unkeyed, opening⟩⟩
  | error error =>
    refine ⟨handled.running, ?_, fun isRefused => ?_⟩
    · rw [opening]
      rfl
    · rw [opening] at isRefused
      cases isRefused

theorem obeys_transaction {storeId : Uuid} {next : Handler HttpAnswer}
    (obeys : next.Obeys (keyProtocol key isOrder) (KeyPhase.Finished key) .initial) :
    (RlsContextInterceptor.intercept (some storeId) next).Obeys (keyProtocol key isOrder) (KeyPhase.Ended key)
      .initial := by
  refine Program.obeys_withTransaction (KeyPhase.Finished key) ⟨rfl, .begin⟩ (fun error => ?_) ?_
    (fun phase answer finished => ?_) fun phase error finished => ?_
  · exact ⟨Fate.noConfusion, .inl rfl, fun isRefused => nomatch isRefused⟩
  · refine And.intro ⟨rfl, .query rfl rfl⟩ fun reply => ?_
    cases reply with
    | ok _ => exact obeys
    | error error => exact ⟨rfl, rfl, fun isRefused => nomatch isRefused⟩
  · obtain ⟨running, ready⟩ := finished
    exact ⟨⟨running, .commit ready⟩, ⟨rfl, ready⟩, fun error =>
      ⟨Fate.noConfusion, .inr ⟨rfl, answer, ready⟩, fun isRefused => absurd isRefused ready.not_refused⟩⟩
  · obtain ⟨running, givenUp, refused⟩ := finished
    exact ⟨⟨running, .rollback givenUp⟩, fun _ => ⟨Fate.noConfusion, .inl givenUp, refused⟩⟩

end Handlers

namespace IdempotentRequest

/-- Whether a request has a key decides what the interceptor does. -/
theorem intercept_cases (request : IdempotentRequest) (next : Handler ResponseBody) :
    (request.cacheKey = none ∧ IdempotencyInterceptor.intercept (some request.storeId) request.route.path
      request.clientKey 201 next = next >>= fun body => return ⟨201, some body⟩) ∨
    ∃ cacheKey, request.cacheKey = some cacheKey ∧ IdempotencyInterceptor.intercept (some request.storeId)
      request.route.path request.clientKey 201 next = IdempotencyInterceptor.interceptKeyed cacheKey 201 next := by
  obtain ⟨env, storeId, clientKey, route⟩ := request
  simp only [cacheKey]
  split
  next => exact .inl ⟨rfl, rfl⟩
  next => exact .inl ⟨rfl, rfl⟩
  next clientKey notEmpty =>
    refine .inr ⟨_, rfl, ?_⟩
    unfold IdempotencyInterceptor.intercept
    split
    next isNone => cases isNone
    next isEmpty => exact absurd (Option.some.inj isEmpty) notEmpty
    next same => rw [Option.some.inj same]

theorem obeys_intercept (request : IdempotentRequest) {next : Handler ResponseBody}
    (obeys : ∀ phase : KeyPhase, phase.fate = .running → phase.Working request.cacheKey → phase.inserted = [] →
      next.Obeys request.protocol (KeyPhase.Handled request.cacheKey request.route.isOrder) phase) :
    (IdempotencyInterceptor.intercept (some request.storeId) request.route.path request.clientKey 201 next).Obeys
      request.protocol (KeyPhase.Finished request.cacheKey) .initial := by
  rcases request.intercept_cases next with ⟨unkeyed, same⟩ | ⟨cacheKey, isKey, same⟩
  · rw [same]
    exact obeys_unkeyed unkeyed (obeys .initial rfl (by rw [unkeyed]; rfl) rfl)
  · rw [same]
    exact obeys_interceptKeyed isKey (obeys ⟨.reserved, [], .running⟩ rfl (by rw [isKey]; rfl) rfl)

/-- Every request follows the protocol of its key. -/
theorem obeys (request : IdempotentRequest) :
    request.handler.Obeys request.protocol (KeyPhase.Ended request.cacheKey) request.protocol.initial := by
  obtain ⟨env, storeId, clientKey, route⟩ := request
  cases route with
  | createOrder dto =>
    exact obeys_transaction (obeys_intercept ⟨env, storeId, clientKey, .createOrder dto⟩
      fun phase running working first => obeys_createOrder env storeId dto running working first)
  | createCheckoutSession provider dto =>
    exact obeys_transaction (obeys_intercept ⟨env, storeId, clientKey, .createCheckoutSession provider dto⟩
      fun phase running working _ => obeys_createCheckoutSession provider storeId dto running working)

end IdempotentRequest

/-! ## The statements on a record -/

section Records

variable {db : Database} {cacheKey : String} {record : IdempotencyRecord}

theorem executeOn_insertRecord (absent : db.idempotencyRecords.find record.id = none) :
    shop.executeOn (.idempotency (.insert record)) db = (.ok (), db.write (.idempotencyRecord (.put record))) := by
  simp only [Engine.executeOn, shop, Statement.execute, IdempotencyStatement.execute, absent, Option.isSome_none]
  rfl

theorem executeOn_insertRecord_of_present (present : (db.idempotencyRecords.find record.id).isSome = true) :
    shop.executeOn (.idempotency (.insert record)) db = (.error .uniqueViolation, db) := by
  simp only [Engine.executeOn, shop, Statement.execute, IdempotencyStatement.execute, present, if_true]

theorem executeOn_updateRecord (found : db.idempotencyRecords.find cacheKey = some record) (statusCode : Nat)
    (body : Option ResponseBody) :
    shop.executeOn (.idempotency (.update cacheKey statusCode body)) db =
      (.ok (), db.write (.idempotencyRecord (.put ⟨cacheKey, statusCode, body⟩))) := by
  have isKey : record.id = cacheKey := Table.key_of_find found
  simp only [Engine.executeOn, shop, Statement.execute, IdempotencyStatement.execute, found, isKey]
  rfl

theorem executeOn_deleteRecord (found : db.idempotencyRecords.find cacheKey = some record) :
    shop.executeOn (.idempotency (.delete cacheKey)) db =
      (.ok (), db.write (.idempotencyRecord (.erase cacheKey))) := by
  have isKey : record.id = cacheKey := Table.key_of_find found
  simp only [Engine.executeOn, shop, Statement.execute, IdempotencyStatement.execute, found, isKey]
  rfl

end Records

/-- A lookup reserves nothing. -/
theorem holding_look (phase : KeyPhase) (cacheKey : String) (found : Option IdempotencyRecord) :
    (phase.afterRecord (.findOne cacheKey) (.ok found)).stage.holding cacheKey = none := by
  cases found with
  | none => rfl
  | some record =>
    simp only [KeyPhase.afterRecord]
    split <;> rfl

/-! ## Systems of such requests -/

/-- Any number of requests on the idempotent routes. -/
abbrev IdempotentSystem (ι : Type) : Type := System ι Database RowKey DbWrite statements ApiError HttpAnswer

/-- Requests that all begin on the same database. -/
def IdempotentRequest.system {ι : Type} (request : ι → IdempotentRequest) (start : Database) : IdempotentSystem ι :=
  System.start start fun i => (request i).handler

section Systems

variable {ι : Type} (request : ι → IdempotentRequest)

/-- What every request has done so far. -/
abbrev keyPhase (system : IdempotentSystem ι) : ι → KeyPhase := system.phase fun i => (request i).protocol

def IdempotentRequest.holding (request : IdempotentRequest) (stage : KeyStage) : Option (String × IdempotencyRecord) :=
  request.cacheKey.bind fun cacheKey => (stage.holding cacheKey).map fun record => (cacheKey, record)

theorem IdempotentRequest.holding_eq_some {request : IdempotentRequest} {stage : KeyStage} {id : String}
    {record : IdempotencyRecord} (holds : request.holding stage = some (id, record)) :
    request.cacheKey = some id ∧ stage.holding id = some record := by
  obtain ⟨cacheKey, isKey, held⟩ := Option.bind_eq_some_iff.mp holds
  obtain ⟨put, isPut, same⟩ := Option.map_eq_some_iff.mp held
  cases same
  exact ⟨isKey, isPut⟩

theorem KeyStage.reserved_or_stuck {stage : KeyStage} {id : String} {record : IdempotencyRecord}
    (holds : stage.holding id = some record) (pending : record.statusCode = 0) : stage = .reserved ∨ stage = .stuck := by
  cases stage with
  | reserved => exact .inl rfl
  | stuck => exact .inr rfl
  | recorded body =>
    cases holds
    cases pending
  | opening | absent | refused | replaying | released => cases holds

theorem KeyStage.recorded_of_holding {stage : KeyStage} {id : String} {record : IdempotencyRecord}
    {body : ResponseBody} (holds : stage.holding id = some record) (finished : record.statusCode ≠ 0)
    (isBody : record.responseBody = some body) : stage = .recorded body := by
  cases stage with
  | recorded other =>
    cases holds
    exact congrArg _ (Option.some.inj isBody)
  | reserved | stuck =>
    cases holds
    exact absurd rfl finished
  | opening | absent | refused | replaying | released => cases holds

/-- The records as slots, held by the requests that have reserved them. -/
def slotsOf (db : Database) (phase : ι → KeyPhase) : Slots ι String IdempotencyRecord where
  entry := db.idempotencyRecords.find
  holding i := (request i).holding (phase i).stage

abbrev slots (system : IdempotentSystem ι) : Slots ι String IdempotencyRecord :=
  slotsOf request system.db (keyPhase request system)

/-- What a request's transaction has not committed yet. -/
structure PendingWrites (session : Session RowKey DbWrite statements ApiError) (phase : KeyPhase) : Prop where
  records : ∀ write ∈ session.pending, write.key.table ≠ .idempotencyRecords
  orders : ∀ write ∈ session.pending, write.key.table = .orders → ∃ row ∈ phase.inserted, write = .order (.put row)

theorem pendingWrites_of_nil {session : Session RowKey DbWrite statements ApiError} (nothing : session.pending = [])
    (phase : KeyPhase) : PendingWrites session phase := by
  constructor
  · rw [nothing]
    exact fun _ pending => nomatch pending
  · rw [nothing]
    exact fun _ pending => nomatch pending

theorem PendingWrites.congr {session next : Session RowKey DbWrite statements ApiError} {phase after : KeyPhase}
    (pending : PendingWrites session phase) (samePending : next.pending = session.pending)
    (sameInserted : after.inserted = phase.inserted) : PendingWrites next after := by
  constructor
  · rw [samePending]
    exact pending.records
  · rw [samePending, sameInserted]
    exact pending.orders

theorem PendingWrites.of_query {session : Session RowKey DbWrite statements ApiError} {phase after : KeyPhase}
    (pending : PendingWrites session phase) (op : Statement) {db : Database} {reply : op.Reply} {writes : List DbWrite}
    (grows : ∀ row ∈ phase.inserted, row ∈ after.inserted)
    (records : ∀ write ∈ writes, write.key.table ≠ .idempotencyRecords)
    (orders : ∀ write ∈ writes, write.key.table = .orders → ∃ row ∈ after.inserted, write = .order (.put row)) :
    PendingWrites (shop.afterQuery session op db reply writes) after where
  records write made := (List.mem_append.mp made).elim (pending.records write) (records write)
  orders write made isOrder := by
    rcases List.mem_append.mp made with before | now
    · obtain ⟨row, present, same⟩ := pending.orders write before isOrder
      exact ⟨row, grows row present, same⟩
    · exact orders write now isOrder

theorem afterRecord_eq (phase : KeyPhase) (statement : IdempotencyStatement)
    (reply : Except ApiError statement.Reply) :
    phase.afterRecord statement reply = { phase with stage := (phase.afterRecord statement reply).stage } := by
  unfold KeyPhase.afterRecord
  split <;> rfl

/-- A statement that commits by itself is no part of the transaction. -/
theorem next_auto_eq (phase : KeyPhase) (statement : Statement)
    (reply : Except ApiError (RequestOp.auto (S := statements) statement).Reply) :
    phase.next (.auto statement) reply = { phase with stage := (phase.next (.auto statement) reply).stage } := by
  cases statement with
  | idempotency statement => exact afterRecord_eq phase statement reply
  | _ => rfl

theorem inserted_next_auto (phase : KeyPhase) (statement : Statement)
    (reply : Except ApiError (RequestOp.auto (S := statements) statement).Reply) :
    (phase.next (.auto statement) reply).inserted = phase.inserted :=
  (congrArg KeyPhase.inserted (next_auto_eq phase statement reply)).trans rfl

theorem fate_next_auto (phase : KeyPhase) (statement : Statement)
    (reply : Except ApiError (RequestOp.auto (S := statements) statement).Reply) :
    (phase.next (.auto statement) reply).fate = phase.fate :=
  (congrArg KeyPhase.fate (next_auto_eq phase statement reply)).trans rfl

theorem PendingWrites.perform {key : Option String} {isOrder : Bool} {op : RequestOp statements}
    {session : Session RowKey DbWrite statements ApiError} {phase : KeyPhase} (db : Database)
    (allowed : KeyAllows key isOrder phase op) (pending : PendingWrites session phase) :
    PendingWrites (shop.perform session db op).session (phase.next op (shop.perform session db op).reply) := by
  cases allowed with
  | begin => exact pending.congr rfl rfl
  | commit ready => exact pendingWrites_of_nil rfl _
  | rollback givenUp => exact pendingWrites_of_nil rfl _
  | @query statement orders records =>
    have same : phase.next (.query statement) (shop.perform session db (.query statement)).reply = phase :=
      KeyPhase.afterQuery_of_spares orders _
    rw [same]
    cases executed : shop.execute statement (shop.view db session) with
    | ok result =>
      rw [Engine.perform_query_ok executed]
      have table := Statement.execute_table executed
      refine pending.of_query statement (fun _ => id) (fun write made isRecord => ?_) fun write made isOrder => ?_
      · rw [← isRecord, table write made] at records
        cases records
      · rw [← isOrder, table write made] at orders
        cases orders
    | error error =>
      rw [Engine.perform_query_error executed]
      exact pending.congr rfl rfl
  | @insertOrder row _ _ _ =>
    cases executed : shop.execute (.order (.insert row)) (shop.view db session) with
    | ok result =>
      obtain ⟨reply, writes⟩ := result
      rw [Engine.perform_query_ok executed]
      obtain ⟨-, rfl⟩ := OrderStatement.execute_insert executed
      refine pending.of_query _ (fun _ => List.mem_cons_of_mem _) (fun write made => ?_) fun write made _ => ?_
      · cases List.mem_singleton.mp made
        exact TableName.noConfusion
      · exact ⟨row, List.mem_cons_self, List.mem_singleton.mp made⟩
    | error error =>
      rw [Engine.perform_query_error executed]
      exact pending.congr rfl rfl
  | auto | look | reserve | finish | release =>
    exact pending.congr (Engine.perform_auto (E := shop) session db _).2.2 (inserted_next_auto _ _ _)

theorem PendingWrites.failed {key : Option String} {isOrder : Bool} {op : RequestOp statements}
    {session : Session RowKey DbWrite statements ApiError} {phase : KeyPhase} (error : ApiError)
    (allowed : KeyAllows key isOrder phase op) (pending : PendingWrites session phase) :
    PendingWrites (Engine.failed session op error) (phase.next op (.error error)) := by
  cases allowed with
  | commit ready => exact pendingWrites_of_nil rfl _
  | rollback givenUp => exact pendingWrites_of_nil rfl _
  | begin | insertOrder => exact pending.congr rfl rfl
  | @query statement orders records =>
    have same : phase.next (.query statement) (.error error) = phase :=
      KeyPhase.afterQuery_of_spares orders (.error error)
    rw [same]
    exact pending.congr rfl rfl
  | auto | look | reserve | finish | release => exact pending.congr rfl (inserted_next_auto _ _ _)

theorem IdempotentRequest.start_follows (start : Database) :
    (IdempotentRequest.system request start).Follows (fun i => (request i).protocol)
      fun i => KeyPhase.Ended (request i).cacheKey :=
  Engine.follows_start fun i => (request i).obeys

/-! ## One step -/

variable [DecidableEq ι]

theorem slotsOf_update (db : Database) (phase : ι → KeyPhase) (i : ι) (next : KeyPhase) :
    slotsOf request db (Function.update phase i next) =
      ⟨db.idempotencyRecords.find,
        Function.update (slotsOf request db phase).holding i ((request i).holding next.stage)⟩ := by
  unfold slotsOf
  congr 1
  funext j
  by_cases same : j = i
  · subst same
    simp only [Function.update_self]
  · simp only [Function.update_of_ne same]

variable {request}

/-- Nothing happens to the records, and the request holds what it held. -/
theorem slotsOf_of_same {before db : Database} {phase : ι → KeyPhase} {i : ι} {next : KeyPhase}
    (records : ∀ id, db.idempotencyRecords.find id = before.idempotencyRecords.find id)
    (holding : (request i).holding next.stage = (request i).holding (phase i).stage) :
    slotsOf request db (Function.update phase i next) = slotsOf request before phase := by
  rw [slotsOf_update, holding, funext records]
  exact congrArg (Slots.mk _) (Function.update_eq_self i _)

theorem slotsOf_of_record {before db : Database} {phase : ι → KeyPhase} {i : ι} {next : KeyPhase}
    {cacheKey : String} (isKey : (request i).cacheKey = some cacheKey)
    (records : ∀ id, db.idempotencyRecords.find id =
      if id = cacheKey then next.stage.holding cacheKey else before.idempotencyRecords.find id) :
    slotsOf request db (Function.update phase i next) =
      (slotsOf request before phase).set i cacheKey (next.stage.holding cacheKey) := by
  rw [slotsOf_update]
  unfold Slots.set IdempotentRequest.holding
  rw [isKey]
  congr 1
  funext id
  rw [records, Function.update_apply]
  rfl

/-- A statement on the record of a key that the request may execute. -/
theorem slots_auto {db : Database} {phase : ι → KeyPhase} {i : ι} {statement : Statement}
    (allowed : KeyAllows (request i).cacheKey (request i).route.isOrder (phase i) (.auto statement))
    (held : ∀ cacheKey record, (slotsOf request db phase).holding i = some (cacheKey, record) →
      (slotsOf request db phase).entry cacheKey = some record) :
    Slots.Step (slotsOf request db phase) (slotsOf request (shop.executeOn statement db).2
      (Function.update phase i ((phase i).next (.auto statement) (shop.executeOn statement db).1))) := by
  have holdingOf {cacheKey : String} {stage : KeyStage} (isKey : (request i).cacheKey = some cacheKey)
      (isStage : (phase i).stage = stage) : (slotsOf request db phase).holding i =
        (stage.holding cacheKey).map fun record => (cacheKey, record) := by
    simp only [slotsOf, IdempotentRequest.holding, isKey, isStage, Option.bind_some]
  cases allowed with
  | auto orders records =>
    have samePhase : (phase i).next (.auto statement) (shop.executeOn statement db).1 = phase i :=
      KeyPhase.next_auto_of_spares records _
    rw [slotsOf_of_same (fun id => row_executeOn_of_table (.idempotencyRecord id) records)
      (by rw [samePhase])]
    exact .stay
  | @look cacheKey isKey stage =>
    have unread : ∀ id, (shop.executeOn (.idempotency (.findOne cacheKey)) db).2.idempotencyRecords.find id =
        db.idempotencyRecords.find id := fun _ => rfl
    rw [slotsOf_of_same unread]
    · exact .stay
    · simp only [IdempotentRequest.holding, isKey, stage, Option.bind_some]
      exact congrArg (Option.map _) (holding_look _ cacheKey _)
  | @reserve cacheKey isKey stage =>
    rcases Option.eq_none_or_eq_some (db.idempotencyRecords.find cacheKey) with free | ⟨taken, found⟩
    · rw [executeOn_insertRecord free, slotsOf_of_record isKey fun id => Table.find_put _ _ id]
      exact .reserve i cacheKey _ free (holdingOf isKey stage)
    · rw [executeOn_insertRecord_of_present (by rw [found]; rfl), slotsOf_of_same fun _ => rfl]
      · exact .stay
      · simp only [IdempotentRequest.holding, isKey, stage, Option.bind_some]
        rfl
  | @finish cacheKey body isKey stage answers =>
    have holds := holdingOf isKey stage
    rw [executeOn_updateRecord (held cacheKey _ holds), slotsOf_of_record isKey fun id => Table.find_put _ _ id]
    exact .change i cacheKey _ _ holds
  | @release cacheKey isKey stage =>
    have holds := holdingOf isKey stage
    rw [executeOn_deleteRecord (held cacheKey _ holds), slotsOf_of_record isKey fun id => Table.find_erase _ _ id]
    exact .release i cacheKey _ holds

theorem afterQuery_eq (phase : KeyPhase) (statement : Statement) (reply : Except ApiError statement.Reply) :
    (phase.afterQuery statement reply).stage = phase.stage ∧ (phase.afterQuery statement reply).fate = phase.fate := by
  unfold KeyPhase.afterQuery
  split <;> exact ⟨rfl, rfl⟩

/-- Operations other than statements that commit by themselves leave the records and what is held alone. -/
theorem stage_next_of_not_auto {op : RequestOp statements} (notAuto : op.isAuto = false) (phase : KeyPhase)
    (reply : Except ApiError op.Reply) : (phase.next op reply).stage = phase.stage := by
  cases op with
  | begin | rollback => rfl
  | commit => cases reply <;> rfl
  | auto statement => cases notAuto
  | query statement =>
    exact (afterQuery_eq phase statement reply).1

theorem records_perform_of_not_auto {op : RequestOp statements} (notAuto : op.isAuto = false)
    {session : Session RowKey DbWrite statements ApiError} {phase : KeyPhase} (pending : PendingWrites session phase)
    (db : Database) (id : String) :
    (shop.perform session db op).db.idempotencyRecords.find id = db.idempotencyRecords.find id := by
  cases op with
  | begin | rollback => rfl
  | query statement => rw [Engine.perform_query_db]
  | commit => exact row_applyAll_of_table (.idempotencyRecord id) pending.records
  | auto statement => cases notAuto

/-- How the stage of a request may change in one step. -/
inductive StageChange (key : Option String) (phase : KeyPhase) (op : RequestOp statements)
    (reply : Except ApiError op.Reply) (stage : KeyStage) : Prop where
  | same (isStage : stage = phase.stage)
  | look (cacheKey : String) (isKey : key = some cacheKey) (isOp : op = .auto (.idempotency (.findOne cacheKey)))
    (succeeds : ∃ ok, reply = .ok ok) (early : stage.early = true)
  | reserve (cacheKey : String) (isKey : key = some cacheKey)
    (isOp : op = .auto (.idempotency (.insert ⟨cacheKey, 0, none⟩))) (isStage : stage = .reserved)
  | refuse (error : ApiError) (fails : reply = .error error) (isStage : stage = .refused ∨ stage = .opening)
  | finish (cacheKey : String) (body : ResponseBody) (isKey : key = some cacheKey)
    (isOp : op = .auto (.idempotency (.update cacheKey 201 (some body)))) (succeeds : ∃ ok, reply = .ok ok)
    (isStage : stage = .recorded body)
  | release (cacheKey : String) (isOp : op = .auto (.idempotency (.delete cacheKey))) (isStage : stage = .released)
  | stick (cacheKey : String) (isOp : op = .auto (.idempotency (.delete cacheKey))) (error : ApiError)
    (fails : reply = .error error) (isStage : stage = .stuck)

theorem stageChange_next {key : Option String} {isOrder : Bool} {phase : KeyPhase} {op : RequestOp statements}
    (allowed : KeyAllows key isOrder phase op) (reply : Except ApiError op.Reply) :
    StageChange key phase op reply (phase.next op reply).stage := by
  cases allowed with
  | begin | rollback => exact .same rfl
  | query | insertOrder | commit => exact .same (stage_next_of_not_auto rfl phase reply)
  | auto orders records => exact .same (congrArg _ (KeyPhase.next_auto_of_spares records reply))
  | @look cacheKey isKey stage =>
    cases reply with
    | error error => exact .same rfl
    | ok found =>
      refine .look cacheKey isKey rfl ⟨found, rfl⟩ ?_
      rcases Option.eq_none_or_eq_some (show Option IdempotencyRecord from found) with rfl | ⟨record, rfl⟩
      · rfl
      · change (if record.statusCode = 0 then KeyStage.refused else .replaying record).early = true
        split <;> rfl
  | @reserve cacheKey isKey stage =>
    cases reply with
    | ok _ => exact .reserve cacheKey isKey rfl rfl
    | error error =>
      refine .refuse error rfl ?_
      by_cases lost : error = .uniqueViolation
      · exact .inl (if_pos lost)
      · exact .inr (if_neg lost)
  | @finish cacheKey body isKey stage answers =>
    cases reply with
    | ok ok => exact .finish cacheKey body isKey rfl ⟨ok, rfl⟩ rfl
    | error error => exact .same rfl
  | @release cacheKey isKey stage =>
    cases reply with
    | ok _ => exact .release cacheKey rfl rfl
    | error error => exact .stick cacheKey rfl error rfl rfl

/-- A request that an operation fails for holds what it held. -/
theorem holding_of_error {request : IdempotentRequest} {phase : KeyPhase} {op : RequestOp statements}
    (allowed : KeyAllows request.cacheKey request.route.isOrder phase op) (error : ApiError) :
    request.holding (phase.next op (.error error)).stage = request.holding phase.stage := by
  cases allowed with
  | begin | commit | rollback | insertOrder | look | finish => rfl
  | query orders records => exact congrArg _ (congrArg _ (KeyPhase.afterQuery_of_spares orders _))
  | auto orders records => exact congrArg _ (congrArg _ (KeyPhase.next_auto_of_spares records _))
  | reserve isKey stage =>
    simp only [IdempotentRequest.holding, isKey, stage, Option.bind_some, KeyPhase.next, KeyPhase.afterRecord]
    split <;> rfl
  | release isKey stage =>
    simp only [IdempotentRequest.holding, isKey, stage, Option.bind_some]
    rfl

/-- What holds in every state that a run reaches from a database with these records. -/
structure Keyed (request : ι → IdempotentRequest) (start : String → Option IdempotencyRecord)
    (system : IdempotentSystem ι) : Prop where
  follows : system.Follows (fun i => (request i).protocol) fun i => KeyPhase.Ended (request i).cacheKey
  pending : ∀ i, PendingWrites (system.thread i).session (keyPhase request system i)
  valid : ∀ i, (keyPhase request system i).Valid (request i).cacheKey (request i).route.isOrder
  sound : Slots.Sound start (slots request system)

variable (request) in
omit [DecidableEq ι] in
theorem keyed_start (start : Database) :
    Keyed request start.idempotencyRecords.find (IdempotentRequest.system request start) where
  follows := IdempotentRequest.start_follows request start
  pending _ := pendingWrites_of_nil rfl _
  valid _ := .initial
  sound := by
    have nothing (i : ι) : (request i).holding .opening = none := by
      unfold IdempotentRequest.holding
      cases (request i).cacheKey <;> rfl
    have same : slots request (IdempotentRequest.system request start) =
        ⟨start.idempotencyRecords.find, fun _ => none⟩ := congrArg (Slots.mk _) (funext nothing)
    rw [same]
    exact Slots.sound_start _

variable [Fintype ι] {start : String → Option IdempotencyRecord} {source target : IdempotentSystem ι}
variable {act : Act ι ApiError}

theorem Keyed.slots_step (keyed : Keyed request start source) (stepped : shop.Steps source act target) :
    Slots.Step (slots request source) (slots request target) := by
  cases Engine.phaseStep_of_follows keyed.follows stepped with
  | run i op resume alive calls allowed free =>
    unfold slots keyPhase
    rw [Engine.phase_perform]
    change Slots.Step _ (slotsOf request (shop.perform _ source.db op).db
      (Function.update _ i (KeyPhase.next _ op (shop.perform _ source.db op).reply)))
    by_cases notAuto : op.isAuto = false
    · rw [slotsOf_of_same (records_perform_of_not_auto notAuto (keyed.pending i) source.db)
        (congrArg _ (stage_next_of_not_auto notAuto _ _))]
      exact .stay
    · cases op with
      | auto statement =>
        obtain ⟨sameReply, sameDb, -⟩ := Engine.perform_auto (E := shop) (source.thread i).session source.db statement
        rw [sameDb, sameReply]
        exact slots_auto allowed.2 (keyed.sound.held i)
      | begin | query | commit | rollback => exact absurd rfl notAuto
  | fail i error op resume alive calls allowed =>
    unfold slots keyPhase
    rw [Engine.phase_failed]
    change Slots.Step _ (slotsOf request source.db (Function.update _ i (KeyPhase.next _ op (.error error))))
    rw [slotsOf_of_same (fun _ => rfl) (holding_of_error allowed.2 error)]
    exact .stay
  | crash i alive =>
    unfold slots keyPhase
    rw [Engine.phase_crash]
    exact .stay

/-- The step rule. -/
theorem Keyed.step (keyed : Keyed request start source) (stepped : shop.Steps source act target) :
    Keyed request start target where
  follows := Engine.follows_step keyed.follows stepped
  pending := Engine.thread_step (P := fun i => (request i).protocol) (fun _ _ session phase => PendingWrites session phase)
    (fun _ _ db _ _ allowed pending => pending.perform db allowed.2)
    (fun _ _ _ error _ allowed pending => pending.failed error allowed.2)
    (fun _ _ _ _ => pendingWrites_of_nil rfl _) keyed.follows keyed.pending stepped
  valid := Engine.thread_step (P := fun i => (request i).protocol) (fun i _ _ phase => phase.Valid (request i).cacheKey (request i).route.isOrder)
    (fun _ _ _ _ _ allowed valid => valid.next allowed.1 allowed.2 _)
    (fun _ _ _ _ _ allowed valid => valid.next allowed.1 allowed.2 _)
    (fun _ _ _ => id) keyed.follows keyed.valid stepped
  sound := keyed.sound.step (keyed.slots_step stepped)

end Systems

namespace SmallShop

/-- Ordering one of the three teas, under a key. -/
def keyedOrder : IdempotentRequest :=
  ⟨⟨5, fun n => 200 + n, fun _ => 0⟩, 1, some "k", .createOrder (orderOf (oneOf 2))⟩

/-- The order fails, and its key is released. -/
def failWithKey : List (Act Unit ApiError) :=
  List.replicate 4 (.run ()) ++ [.fail () (.queryFailed "57014"), .run (), .run ()]

theorem isSome_failWithKey :
    (shop.trace (IdempotentRequest.system (fun _ : Unit => keyedOrder) db) failWithKey).isSome = true := by
  decide +kernel

end SmallShop

end StoreSaas
