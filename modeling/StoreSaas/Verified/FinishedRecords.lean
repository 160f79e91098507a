import StoreSaas.Verified.KeyedOrders

/-! # Finished records and their orders

The record of a key gets its status and body by a statement that commits at once, while
the order is still uncommitted in the request's own transaction.  From then on a retry is
answered with an order that is not in the table, until the transaction commits, and for
ever if it does not (`finishedBacked_iff`).
-/

namespace StoreSaas

section Finished

variable {ι : Type} (request : ι → IdempotentRequest)

/-- A finished record of an order implies that the order is committed. -/
def FinishedBacked (db : Database) : Prop :=
  ∀ id record entity, db.idempotencyRecords.find id = some record → record.statusCode ≠ 0 →
    record.responseBody = some (.order entity) → (db.orders.find entity.order.id).isSome = true

/-- It is committed, or a live request is about to commit it. -/
def FinishedOrUnderWay (system : IdempotentSystem ι) : Prop :=
  ∀ id record entity, system.db.idempotencyRecords.find id = some record → record.statusCode ≠ 0 →
    record.responseBody = some (.order entity) → (system.db.orders.find entity.order.id).isSome = true ∨
      ∃ i, (request i).cacheKey = some id ∧ (keyPhase request system i).stage = .recorded (.order entity) ∧
        (keyPhase request system i).fate = .running ∧ (system.thread i).alive = true

/-- The step writes the answer of an order into its record. -/
def recordsOrder (source : IdempotentSystem ι) : Act ι ApiError → Bool
  | .run i =>
    match (source.thread i).program with
    | .call (.auto (.idempotency (.update _ _ (some (.order _))))) _ => true
    | _ => false
  | .fail _ _ | .crash _ => false

def KeyStage.isRecordedOrder : KeyStage → Bool
  | .recorded (.order _) => true
  | _ => false

/-- The order that a request has recorded is lost with its transaction: the request dies, or its
    `COMMIT` fails. -/
def abandonsOrder (source : IdempotentSystem ι) : Act ι ApiError → Bool
  | .run _ => false
  | .fail i _ =>
    match (source.thread i).program with
    | .call .commit _ => (keyPhase request source i).stage.isRecordedOrder
    | _ => false
  | .crash i =>
    (keyPhase request source i).stage.isRecordedOrder && decide ((keyPhase request source i).fate = .running)

/-- What the requests have recorded is in the table, unless they are excused. -/
def RecordedBacked (excused : ι → Prop) (system : IdempotentSystem ι) : Prop :=
  ∀ i entity, (keyPhase request system i).stage = .recorded (.order entity) →
    (system.db.orders.find entity.order.id).isSome = true ∨ excused i

variable {request} {start : Database} {system source target : IdempotentSystem ι}

/-- The finished records are those from the start and those that the requests have recorded. -/
theorem recordedBacked_iff (keyed : Keyed request start.idempotencyRecords.find system)
    (rows : OrderRows request start system) (backed : FinishedBacked start) (excused : ι → Prop) :
    (∀ id record entity, system.db.idempotencyRecords.find id = some record → record.statusCode ≠ 0 →
      record.responseBody = some (.order entity) → (system.db.orders.find entity.order.id).isSome = true ∨
        ∃ i, (request i).cacheKey = some id ∧ (keyPhase request system i).stage = .recorded (.order entity) ∧
          excused i) ↔
      RecordedBacked request excused system := by
  have held {i : ι} {cacheKey : String} {entity : OrderEntity} (isKey : (request i).cacheKey = some cacheKey)
      (isRecorded : (keyPhase request system i).stage = .recorded (.order entity)) :
      (slots request system).holding i = some (cacheKey, ⟨cacheKey, 201, some (.order entity)⟩) := by
    simp only [slotsOf, IdempotentRequest.holding, isKey, isRecorded, KeyStage.holding, Option.bind_some,
      Option.map_some]
  constructor
  · intro finished i entity isRecorded
    cases isKey : (request i).cacheKey with
    | none => cases isRecorded.symm.trans ((keyed.valid i).unkeyed isKey)
    | some cacheKey =>
      have found := keyed.sound.held i _ _ (held isKey isRecorded)
      refine (finished cacheKey _ entity found (Nat.succ_ne_zero _) rfl).imp_right ?_
      rintro ⟨j, sameKey, alsoRecorded, isExcused⟩
      exact keyed.sound.single j i _ _ _ (held sameKey alsoRecorded) (held isKey isRecorded) ▸ isExcused
  · intro recorded id record entity found finished isBody
    rcases keyed.sound.origin id record found with before | ⟨i, holds⟩
    · obtain ⟨row, isRow⟩ := Option.isSome_iff_exists.mp (backed id record entity before finished isBody)
      exact .inl (Option.isSome_of_mem (rows.kept _ row isRow))
    · obtain ⟨isKey, holding⟩ := IdempotentRequest.holding_eq_some holds
      have isRecorded := KeyStage.recorded_of_holding holding finished isBody
      exact (recorded i entity isRecorded).imp_right fun isExcused => ⟨i, isKey, isRecorded, isExcused⟩

/-! ## One step -/

/-- A request comes to have recorded a body by the update of its record, and in no other way. -/
theorem stage_next_recorded {key : Option String} {isOrder : Bool} {phase : KeyPhase} {op : RequestOp statements}
    {reply : Except ApiError op.Reply} {body : ResponseBody} (allowed : KeyAllows key isOrder phase op)
    (isRecorded : (phase.next op reply).stage = .recorded body) : phase.stage = .recorded body ∨
      ∃ cacheKey, op = .auto (.idempotency (.update cacheKey 201 (some body))) ∧ ∃ ok, reply = .ok ok := by
  have change := stageChange_next allowed reply
  rw [isRecorded] at change
  cases change with
  | same isStage => exact .inl isStage.symm
  | look _ _ _ _ early => cases early
  | refuse _ _ isStage => rcases isStage with isStage | isStage <;> cases isStage
  | finish cacheKey answered isKey isOp succeeds isStage =>
    cases isStage
    exact .inr ⟨cacheKey, isOp, succeeds⟩
  | reserve _ _ _ isStage | release _ _ isStage | stick _ _ _ _ isStage => cases isStage

/-- An order whose transaction is still running is not in the table. -/
theorem OrderRows.absent (rows : OrderRows request start system) {i : ι} {row : Order}
    (alive : (system.thread i).alive = true) (running : (keyPhase request system i).fate = .running)
    (inserted : (keyPhase request system i).inserted = [row]) : system.db.orders.find row.id = none :=
  rows.unpublished i row ((rows.inserted i).complete alive running row (by rw [inserted]; exact List.mem_cons_self))

theorem recordsOrder_run {i : ι} {op : RequestOp statements} {resume : Except ApiError op.Reply → Handler HttpAnswer}
    (calls : (source.thread i).program = .call op resume) :
    recordsOrder source (.run i) = true ↔
      ∃ cacheKey statusCode entity, op = .auto (.idempotency (.update cacheKey statusCode (some (.order entity)))) := by
  simp only [recordsOrder, calls]
  split
  next cacheKey statusCode entity _ isUpdate =>
    cases isUpdate
    exact iff_of_true rfl ⟨cacheKey, statusCode, entity, rfl⟩
  next others =>
    refine iff_of_false Bool.false_ne_true ?_
    rintro ⟨cacheKey, statusCode, entity, rfl⟩
    exact others cacheKey statusCode entity resume rfl

/-- An update that is executed succeeds. -/
theorem reply_update (session : Session RowKey DbWrite statements ApiError) (db : Database) (cacheKey : String)
    (statusCode : Nat) (body : Option ResponseBody) :
    (shop.perform session db (.auto (.idempotency (.update cacheKey statusCode body)))).reply = .ok () := by
  rw [(Engine.perform_auto session db _).1]
  rcases Option.eq_none_or_eq_some (db.idempotencyRecords.find cacheKey) with absent | ⟨record, found⟩
  · simp only [Engine.executeOn, shop, Statement.execute, IdempotencyStatement.execute, absent]
    rfl
  · rw [executeOn_updateRecord found]
    rfl

variable [DecidableEq ι] [Fintype ι] {act : Act ι ApiError}

theorem isSome_remains (keyed : Keyed request start.idempotencyRecords.find source)
    (rows : OrderRows request start source) (stepped : shop.Steps source act target) {id : Uuid}
    (present : (source.db.orders.find id).isSome = true) : (target.db.orders.find id).isSome = true := by
  obtain ⟨row, found⟩ := Option.isSome_iff_exists.mp present
  exact Option.isSome_of_mem (rows.remains keyed stepped found)

/-- What is recorded stays in the table exactly if no order is recorded in this step: the transaction
    that has inserted it is still running. -/
theorem recordedBacked_step (keyed : Keyed request start.idempotencyRecords.find source)
    (rows : OrderRows request start source) (backed : RecordedBacked request (fun _ => False) source)
    (stepped : shop.Steps source act target) :
    RecordedBacked request (fun _ => False) target ↔ recordsOrder source act = false := by
  have old {i : ι} {entity : OrderEntity} (isRecorded : (keyPhase request source i).stage = .recorded (.order entity)) :
      (target.db.orders.find entity.order.id).isSome = true ∨ False :=
    (backed i entity isRecorded).imp_left (isSome_remains keyed rows stepped)
  cases Engine.phaseStep_of_follows keyed.follows stepped with
  | run i op resume alive calls allowed free =>
    rw [Bool.eq_false_iff, Ne, recordsOrder_run calls]
    constructor
    -- the record is published at once, the order that it answers with is not
    · rintro backedAfter ⟨cacheKey, statusCode, entity, rfl⟩
      obtain ⟨running, permitted⟩ := allowed
      have unchanged := findOrder_perform (by simp) permitted (source.thread i).session source.db entity.order.id
      cases permitted with
      | auto orders records => cases records
      | finish isKey stage answers =>
        have recordedNow := backedAfter i entity
        unfold keyPhase at recordedNow
        rw [Engine.phase_perform, Function.update_self, reply_update] at recordedNow
        have absent := rows.absent alive running answers.2
        rcases recordedNow rfl with present | impossible
        · cases (congrArg Option.isSome (unchanged.trans absent)).symm.trans present
        · exact impossible
    · intro records j entity isRecorded
      unfold keyPhase at isRecorded
      rw [Engine.phase_perform] at isRecorded
      by_cases same : j = i
      · subst same
        rw [Function.update_self] at isRecorded
        rcases stage_next_recorded allowed.2 isRecorded with before | ⟨cacheKey, rfl, -⟩
        · exact old before
        · exact absurd ⟨cacheKey, 201, entity, rfl⟩ records
      · rw [Function.update_of_ne same] at isRecorded
        exact old isRecorded
  | fail i error op resume alive calls allowed =>
    refine iff_of_true (fun j entity isRecorded => ?_) rfl
    unfold keyPhase at isRecorded
    rw [Engine.phase_failed] at isRecorded
    by_cases same : j = i
    · subst same
      rw [Function.update_self] at isRecorded
      rcases stage_next_recorded allowed.2 isRecorded with before | ⟨_, _, ok, isOk⟩
      · exact old before
      · cases isOk
    · rw [Function.update_of_ne same] at isRecorded
      exact old isRecorded
  | crash i alive =>
    refine iff_of_true (fun j entity isRecorded => ?_) rfl
    unfold keyPhase at isRecorded
    rw [Engine.phase_crash] at isRecorded
    exact old isRecorded

/-- The request may still commit. -/
def UnderWay (request : ι → IdempotentRequest) (system : IdempotentSystem ι) (i : ι) : Prop :=
  (keyPhase request system i).fate = .running ∧ (system.thread i).alive = true

omit [DecidableEq ι] [Fintype ι] in
theorem isRecordedOrder_iff {stage : KeyStage} :
    stage.isRecordedOrder = true ↔ ∃ entity, stage = .recorded (.order entity) := by
  constructor
  · intro isOrder
    unfold KeyStage.isRecordedOrder at isOrder
    split at isOrder
    next entity => exact ⟨entity, rfl⟩
    next => cases isOrder
  · rintro ⟨entity, rfl⟩
    rfl

omit [DecidableEq ι] [Fintype ι] in
theorem abandonsOrder_fail {i : ι} {op : RequestOp statements} {resume : Except ApiError op.Reply → Handler HttpAnswer}
    (calls : (source.thread i).program = .call op resume) (error : ApiError) :
    abandonsOrder request source (.fail i error) = true ↔
      op = .commit ∧ (keyPhase request source i).stage.isRecordedOrder = true := by
  simp only [abandonsOrder, calls]
  split
  next isCommit =>
    cases isCommit
    exact (and_iff_right rfl).symm
  next others =>
    refine iff_of_false Bool.false_ne_true fun isCommit => ?_
    obtain ⟨rfl, -⟩ := isCommit
    exact others resume rfl

/-- A transaction is over for good only after a `ROLLBACK` or a `COMMIT` that failed. -/
theorem fate_next_aborted {key : Option String} {isOrder : Bool} {phase : KeyPhase} {op : RequestOp statements}
    {reply : Except ApiError op.Reply} (running : phase.fate = .running) (allowed : KeyAllows key isOrder phase op)
    (aborted : (phase.next op reply).fate = .aborted) :
    (op = .rollback ∧ phase.stage.givenUp = true) ∨ (op = .commit ∧ ∃ error, reply = .error error) := by
  cases op with
  | begin => cases running.symm.trans aborted
  | rollback =>
    cases allowed with
    | rollback givenUp => exact .inl ⟨rfl, givenUp⟩
  | commit =>
    cases reply with
    | ok _ => cases aborted
    | error error => exact .inr ⟨rfl, error, rfl⟩
  | auto statement => cases running.symm.trans ((fate_next_auto _ _ _).symm.trans aborted)
  | query statement =>
    cases running.symm.trans ((afterQuery_eq phase statement reply).2.symm.trans aborted)

omit [Fintype ι] in
/-- A request that another one's step leaves alone. -/
theorem underWay_other {db : Database} {i j : ι} {next : KeyPhase}
    {thread : Thread RowKey DbWrite statements ApiError HttpAnswer} (differs : j ≠ i)
    (phase : keyPhase request ⟨db, Function.update source.thread i thread⟩ =
      Function.update (keyPhase request source) i next) :
    keyPhase request ⟨db, Function.update source.thread i thread⟩ j = keyPhase request source j ∧
      (UnderWay request source j → UnderWay request ⟨db, Function.update source.thread i thread⟩ j) := by
  have same : keyPhase request ⟨db, Function.update source.thread i thread⟩ j = keyPhase request source j := by
    rw [phase, Function.update_of_ne differs]
  refine ⟨same, fun underWay => ⟨?_, ?_⟩⟩
  · rw [same]
    exact underWay.1
  · simp only [Function.update_of_ne differs]
    exact underWay.2

/-- What is recorded stays in the table or under way exactly if this step abandons no order. -/
theorem underWay_step (keyed : Keyed request start.idempotencyRecords.find source)
    (rows : OrderRows request start source) (exclusive : shop.Exclusive source)
    (backed : RecordedBacked request (UnderWay request source) source) (stepped : shop.Steps source act target) :
    RecordedBacked request (UnderWay request target) target ↔ abandonsOrder request source act = false := by
  have rowsAfter := rows.step keyed exclusive stepped
  have keyedAfter := keyed.step stepped
  have old {i : ι} {entity : OrderEntity} (sameThread : UnderWay request source i → UnderWay request target i)
      (isRecorded : (keyPhase request source i).stage = .recorded (.order entity)) :
      (target.db.orders.find entity.order.id).isSome = true ∨ UnderWay request target i :=
    (backed i entity isRecorded).imp (isSome_remains keyed rows stepped) sameThread
  cases Engine.phaseStep_of_follows keyed.follows stepped with
  | run i op resume alive calls allowed free =>
    refine iff_of_true (fun j entity isRecorded => ?_) rfl
    have phase := Engine.phase_perform (E := shop) (P := fun i => (request i).protocol) source i op
      (resume (shop.perform (source.thread i).session source.db op).reply)
    by_cases isI : j = i
    · subst isI
      -- the transaction of the recording request after this statement
      cases isFate : (keyPhase request _ j).fate with
      | running => exact .inr ⟨isFate, by simp only [Function.update_self]⟩
      | committed =>
        -- committed: the order is one of the rows that the request has written
        have answers := (keyedAfter.valid j).recorded _ isRecorded
        have stored := rowsAfter.stored j entity.order ⟨isFate, by rw [answers.2]; exact List.mem_cons_self⟩
        exact .inl (Option.isSome_of_mem stored)
      | aborted =>
        unfold keyPhase at isFate isRecorded
        rw [phase, Function.update_self] at isFate isRecorded
        -- a statement that succeeds rolls back only with ROLLBACK, which no recorded order is followed by
        rcases fate_next_aborted allowed.1 allowed.2 isFate with ⟨rfl, givenUp⟩ | ⟨rfl, error, isError⟩
        · rw [show (keyPhase request source j).stage = _ from isRecorded] at givenUp
          cases givenUp
        · cases isError
    · obtain ⟨same, stays⟩ := underWay_other isI phase
      rw [same] at isRecorded
      exact old stays isRecorded
  | fail i error op resume alive calls allowed =>
    have phase := Engine.phase_failed (P := fun i => (request i).protocol) source i op error (resume (.error error))
    rw [Bool.eq_false_iff, Ne, abandonsOrder_fail calls]
    constructor
    -- the failing COMMIT drops the order that the record answers with
    · rintro backedAfter ⟨rfl, isOrder⟩
      obtain ⟨entity, isRecorded⟩ := isRecordedOrder_iff.mp isOrder
      have absent := rows.absent alive allowed.1 ((keyed.valid i).recorded _ isRecorded).2
      have still : (keyPhase request _ i).stage = .recorded (.order entity) :=
        (congrArg KeyPhase.stage ((congrFun phase i).trans (Function.update_self ..))).trans isRecorded
      -- neither is left: the row is absent, and the transaction is over
      rcases backedAfter i entity still with present | ⟨running, -⟩
      · cases (congrArg Option.isSome absent).symm.trans present
      · unfold keyPhase at running
        rw [phase, Function.update_self] at running
        cases running
    · intro notAbandoned j entity isRecorded
      by_cases isI : j = i
      · subst isI
        unfold keyPhase at isRecorded
        rw [phase, Function.update_self] at isRecorded
        -- a failing statement records nothing new
        rcases stage_next_recorded allowed.2 isRecorded with before | ⟨_, _, ok, isOk⟩
        · refine .inr ⟨?_, by simp only [Function.update_self]⟩
          cases isFate : (keyPhase request _ j).fate with
          | running => rfl
          | committed =>
            unfold keyPhase at isFate
            rw [phase, Function.update_self] at isFate
            exact absurd isFate (fate_next_error allowed.1 error)
          | aborted =>
            unfold keyPhase at isFate
            rw [phase, Function.update_self] at isFate
            rcases fate_next_aborted allowed.1 allowed.2 isFate with ⟨rfl, givenUp⟩ | ⟨rfl, -⟩
            · rw [before] at givenUp
              cases givenUp
            · exact absurd ⟨rfl, isRecordedOrder_iff.mpr ⟨entity, before⟩⟩ notAbandoned
        · cases isOk
      · obtain ⟨same, stays⟩ := underWay_other isI phase
        rw [same] at isRecorded
        exact old stays isRecorded
  | crash i alive =>
    have phase := Engine.phase_crash (P := fun i => (request i).protocol) source i
    rw [abandonsOrder, Bool.eq_false_iff, Ne, Bool.and_eq_true, decide_eq_true_iff, isRecordedOrder_iff]
    constructor
    -- the crash takes the open transaction along
    · rintro backedAfter ⟨⟨entity, isRecorded⟩, running⟩
      have absent := rows.absent alive running ((keyed.valid i).recorded _ isRecorded).2
      have still : (keyPhase request _ i).stage = .recorded (.order entity) :=
        (congrArg KeyPhase.stage (congrFun phase i)).trans isRecorded
      rcases backedAfter i entity still with present | ⟨-, aliveAfter⟩
      · cases (congrArg Option.isSome absent).symm.trans present
      · simp only [Function.update_self] at aliveAfter
        cases aliveAfter
    · intro notAbandoned j entity isRecorded
      unfold keyPhase at isRecorded
      rw [phase] at isRecorded
      by_cases isI : j = i
      · subst isI
        refine old (fun underWay => ?_) isRecorded
        -- it would have been under way
        exact absurd ⟨⟨entity, isRecorded⟩, underWay.1⟩ notAbandoned
      · refine old (fun underWay => ⟨?_, ?_⟩) isRecorded
        · exact (congrArg KeyPhase.fate (congrFun phase j)).trans underWay.1
        · simp only [Function.update_of_ne isI]
          exact underWay.2

open Transition

/-- In every run of requests on the idempotent routes: a finished record is backed by a committed order
    throughout exactly if no order is ever recorded; and it is backed or still to be backed by a live request
    exactly if no request is lost between recording its order and committing it. -/
theorem finishedBacked_iff (backed : FinishedBacked start) {run : List (Act ι ApiError × IdempotentSystem ι)}
    (isRun : Run shop.Steps (IdempotentRequest.system request start) run) :
    (EachState (fun system => FinishedBacked system.db) (IdempotentRequest.system request start) run ↔
      EachStep (fun source act _ => recordsOrder source act = false) (IdempotentRequest.system request start) run) ∧
    (EachState (FinishedOrUnderWay request) (IdempotentRequest.system request start) run ↔
      EachStep (fun source act _ => abandonsOrder request source act = false) (IdempotentRequest.system request start)
        run) := by
  let Invariant (system : IdempotentSystem ι) : Prop := Keyed request start.idempotencyRecords.find system ∧
    OrderRows request start system ∧ shop.Exclusive system
  have atStart : Invariant (IdempotentRequest.system request start) :=
    ⟨keyed_start request start, orderRows_start request start, shop.exclusive_start _ _⟩
  have kept {source act target} (invariant : Invariant source) (stepped : shop.Steps source act target) :
      Invariant target :=
    ⟨invariant.1.step stepped, invariant.2.1.step invariant.1 invariant.2.2 stepped,
      Engine.exclusive_step invariant.2.2 stepped⟩
  have nobody {system : IdempotentSystem ι} (invariant : Invariant system) :
      FinishedBacked system.db ↔ RecordedBacked request (fun _ => False) system := by
    rw [← recordedBacked_iff invariant.1 invariant.2.1 backed]
    simp only [FinishedBacked, and_false, exists_false, or_false]
  have underWay {system : IdempotentSystem ι} (invariant : Invariant system) :
      FinishedOrUnderWay request system ↔ RecordedBacked request (UnderWay request system) system :=
    recordedBacked_iff invariant.1 invariant.2.1 backed _
  have exact_backed (source act target) (invariant : Invariant source) (holds : FinishedBacked source.db)
      (stepped : shop.Steps source act target) : FinishedBacked target.db ↔ recordsOrder source act = false := by
    rw [nobody (kept invariant stepped)]
    exact recordedBacked_step invariant.1 invariant.2.1 ((nobody invariant).mp holds) stepped
  have exact_underWay (source act target) (invariant : Invariant source) (holds : FinishedOrUnderWay request source)
      (stepped : shop.Steps source act target) :
      FinishedOrUnderWay request target ↔ abandonsOrder request source act = false := by
    rw [underWay (kept invariant stepped)]
    exact underWay_step invariant.1 invariant.2.1 invariant.2.2 ((underWay invariant).mp holds) stepped
  constructor
  · exact eachState_iff_eachStep exact_backed (fun _ _ _ invariant _ stepped _ => kept invariant stepped) atStart
      backed isRun
  · exact eachState_iff_eachStep exact_underWay (fun _ _ _ invariant _ stepped _ => kept invariant stepped) atStart
      (fun id record entity found finished isBody => .inl (backed id record entity found finished isBody)) isRun

end Finished

/-! ## A small shop -/

namespace SmallShop

/-- What the order is answered with. -/
def answeredOrder : OrderEntity := ⟨⟨200, 1, .pending, 450, 5, 5⟩, [⟨202, 200, some 2, "Tea", 1, 450, 5⟩]⟩

/-- The order is recorded, and the `COMMIT` fails. -/
def commitFails : List (Act Unit ApiError) := List.replicate 12 (.run ()) ++ [.fail () (.queryFailed "08006")]

/-- The order is recorded and committed. -/
def orderCommits : List (Act Unit ApiError) := List.replicate 13 (.run ())

theorem isSome_orderCommits :
    (shop.trace (IdempotentRequest.system (fun _ : Unit => keyedOrder) db) orderCommits).isSome = true := by
  decide +kernel

end SmallShop

theorem finishedBacked_smallShop :
    Transition.EachState (FinishedOrUnderWay fun _ : Unit => SmallShop.keyedOrder)
      (IdempotentRequest.system (fun _ => SmallShop.keyedOrder) SmallShop.db)
      ((shop.trace (IdempotentRequest.system (fun _ : Unit => SmallShop.keyedOrder) SmallShop.db)
        SmallShop.orderCommits).get SmallShop.isSome_orderCommits) := by
  have noRecords : FinishedBacked SmallShop.db := fun _ _ _ found => nomatch found
  exact Iff.mpr (finishedBacked_iff noRecords (Engine.run_get_trace _ _)).right (by decide +kernel)

/-- The order is recorded under its key, its transaction does not commit, and the record stays. -/
theorem not_finishedBacked :
    ¬ ∀ (request : Unit → IdempotentRequest) (start : Database)
      (run : List (Act Unit ApiError × IdempotentSystem Unit)), FinishedBacked start →
      Transition.Run shop.Steps (IdempotentRequest.system request start) run →
      FinishedBacked (Transition.final (IdempotentRequest.system request start) run).db := by
  intro finishedBacked
  have noRecords : FinishedBacked SmallShop.db := fun _ _ _ found => nomatch found
  have backed := finishedBacked (fun _ => SmallShop.keyedOrder) SmallShop.db
    ((shop.trace (IdempotentRequest.system (fun _ : Unit => SmallShop.keyedOrder) SmallShop.db)
      SmallShop.commitFails).get (by decide +kernel)) noRecords (shop.run_get_trace _)
    "00000000-0000-0000-0000-000000000001:/orders:k"
    ⟨"00000000-0000-0000-0000-000000000001:/orders:k", 201, some (.order SmallShop.answeredOrder)⟩
    SmallShop.answeredOrder (by decide +kernel) (by decide) rfl
  revert backed
  decide +kernel

end StoreSaas
