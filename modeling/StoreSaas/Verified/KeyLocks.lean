import StoreSaas.Library.Transactions
import StoreSaas.Verified.IdempotencyKeys

/-! # Keys that stay locked

A record with status 0 is a reservation, and other requests for its key are refused as
long as it stands.  Only the request that made it releases it, by recording an answer
or by deleting it, so it stands for ever when that request dies first or when the
deletion fails (`noKeyLocked_iff`).
-/

namespace StoreSaas

section Locks

variable {ι : Type} (request : ι → IdempotentRequest)

/-- Every reservation is held by a request that is still being handled. -/
def NoKeyLocked (system : IdempotentSystem ι) : Prop :=
  ∀ id record, system.db.idempotencyRecords.find id = some record → record.statusCode = 0 →
    ∃ i, (request i).cacheKey = some id ∧ (keyPhase request system i).stage = .reserved ∧
      (system.thread i).alive = true ∧ (system.thread i).program.ended = false

/-- The step neither kills a request that has reserved its key nor fails the deletion of a record. -/
def unlocks (source : IdempotentSystem ι) : Act ι ApiError → Bool
  | .run _ => true
  | .fail i _ =>
    match (source.thread i).program with
    | .call (.auto (.idempotency (.delete _))) _ => false
    | _ => true
  | .crash i => (keyPhase request source i).stage ≠ .reserved

/-- The reservations are those of live requests that will release them. -/
def Watched (system : IdempotentSystem ι) : Prop :=
  ∀ i, (keyPhase request system i).stage ≠ .stuck ∧
    ((keyPhase request system i).stage = .reserved → (system.thread i).alive = true)

variable {request} {system source target : IdempotentSystem ι}

/-- A request that has reserved its key has not ended. -/
theorem not_ended_of_reserved
    (follows : system.Follows (fun i => (request i).protocol) fun i => KeyPhase.Ended (request i).cacheKey) {i : ι}
    (reserved : (keyPhase request system i).stage = .reserved) : (system.thread i).program.ended = false := by
  have obeys := follows i
  change Program.Obeys _ _ _ (keyPhase request system i) at obeys
  cases program : (system.thread i).program with
  | call op resume => rfl
  | done answer =>
    rw [program] at obeys
    exact absurd reserved obeys.2.not_reserved
  | throw error =>
    rw [program] at obeys
    obtain ⟨-, givenUp | ⟨-, answer, ready⟩, -⟩ := obeys
    · rw [reserved] at givenUp
      cases givenUp
    · exact absurd reserved ready.not_reserved

/-- No key is locked exactly if all reservations are watched. -/
theorem noKeyLocked_iff_watched {start : String → Option IdempotencyRecord} (keyed : Keyed request start system)
    (fresh : ∀ id record, start id = some record → record.statusCode ≠ 0) :
    NoKeyLocked request system ↔ Watched request system := by
  constructor
  · intro unlocked i
    have mine {stage : KeyStage} (isStage : (keyPhase request system i).stage = stage)
        (holds : ∀ id, stage.holding id = some ⟨id, 0, none⟩) :
        (keyPhase request system i).stage = .reserved ∧ (system.thread i).alive = true := by
      cases isKey : (request i).cacheKey with
      | none =>
        have opening := (keyed.valid i).unkeyed isKey
        rw [isStage] at opening
        subst opening
        cases holds ""
      | some cacheKey =>
        have held : (slots request system).holding i = some (cacheKey, ⟨cacheKey, 0, none⟩) := by
          simp only [slotsOf, IdempotentRequest.holding, isKey, isStage, holds, Option.bind_some, Option.map_some]
        obtain ⟨j, sameKey, reserved, alive, -⟩ := unlocked cacheKey _ (keyed.sound.held i _ _ held) rfl
        have alsoHeld : (slots request system).holding j = some (cacheKey, ⟨cacheKey, 0, none⟩) := by
          simp only [slotsOf, IdempotentRequest.holding, sameKey, reserved, KeyStage.holding, Option.bind_some,
            Option.map_some]
        have same : j = i := keyed.sound.single j i _ _ _ alsoHeld held
        subst same
        exact ⟨reserved, alive⟩
    refine ⟨fun isStuck => ?_, fun isReserved => (mine isReserved fun _ => rfl).2⟩
    cases (mine isStuck fun _ => rfl).1.symm.trans isStuck
  · intro watched id record found pending
    rcases keyed.sound.origin id record found with before | ⟨i, holds⟩
    · exact absurd pending (fresh id record before)
    · obtain ⟨isKey, held⟩ := IdempotentRequest.holding_eq_some holds
      rcases KeyStage.reserved_or_stuck held pending with reserved | isStuck
      · exact ⟨i, isKey, reserved, (watched i).2 reserved, not_ended_of_reserved keyed.follows reserved⟩
      · exact absurd isStuck (watched i).1

/-! ## One step -/

/-- A reservation becomes stuck when its deletion fails, and in no other way. -/
theorem stage_next_stuck {key : Option String} {isOrder : Bool} {phase : KeyPhase} {op : RequestOp statements}
    {reply : Except ApiError op.Reply} (allowed : KeyAllows key isOrder phase op)
    (isStuck : (phase.next op reply).stage = .stuck) (before : phase.stage ≠ .stuck) :
    ∃ cacheKey, op = .auto (.idempotency (.delete cacheKey)) ∧ ∃ error, reply = .error error := by
  have change := stageChange_next allowed reply
  rw [isStuck] at change
  cases change with
  | same isStage => exact absurd isStage.symm before
  | look _ _ _ _ early => cases early
  | refuse _ _ isStage => rcases isStage with isStage | isStage <;> cases isStage
  | stick cacheKey isOp error fails => exact ⟨cacheKey, isOp, error, fails⟩
  | reserve _ _ _ isStage | finish _ _ _ _ _ isStage | release _ _ isStage => cases isStage

/-- A deletion that is executed succeeds. -/
theorem reply_delete (session : Session RowKey DbWrite statements ApiError) (db : Database) (cacheKey : String)
    (error : ApiError) : (shop.perform session db (.auto (.idempotency (.delete cacheKey)))).reply ≠ .error error := by
  intro isError
  rw [(Engine.perform_auto session db _).1] at isError
  rcases Option.eq_none_or_eq_some (db.idempotencyRecords.find cacheKey) with absent | ⟨record, found⟩
  · simp only [Engine.executeOn, shop, Statement.execute, IdempotencyStatement.execute, absent] at isError
    cases isError
  · rw [executeOn_deleteRecord found] at isError
    cases isError

theorem unlocks_fail {i : ι} {op : RequestOp statements} {resume : Except ApiError op.Reply → Handler HttpAnswer}
    (calls : (source.thread i).program = .call op resume) (error : ApiError) :
    unlocks request source (.fail i error) = true ↔ ∀ cacheKey, op ≠ .auto (.idempotency (.delete cacheKey)) := by
  simp only [unlocks, calls]
  split
  next cacheKey _ isDelete =>
    cases isDelete
    exact iff_of_false Bool.false_ne_true fun never => never cacheKey rfl
  next others =>
    refine iff_of_true rfl fun cacheKey isDelete => ?_
    subst isDelete
    exact others cacheKey resume rfl

variable [DecidableEq ι] [Fintype ι] {act : Act ι ApiError}

theorem watched_step (follows : source.Follows (fun i => (request i).protocol)
      fun i => KeyPhase.Ended (request i).cacheKey)
    (watched : Watched request source) (stepped : shop.Steps source act target) :
    Watched request target ↔ unlocks request source act = true := by
  cases Engine.phaseStep_of_follows follows stepped with
  | run i op resume alive calls allowed free =>
    refine iff_of_true (fun j => ?_) rfl
    unfold keyPhase
    rw [Engine.phase_perform]
    by_cases same : j = i
    · subst same
      simp only [Function.update_self]
      refine ⟨fun isStuck => ?_, fun _ => trivial⟩
      -- stuck only after a `DELETE` that fails
      obtain ⟨cacheKey, rfl, error, isError⟩ := stage_next_stuck allowed.2 isStuck (watched j).1
      exact reply_delete _ _ _ _ isError
    · simp only [Function.update_of_ne same]
      exact watched j
  | fail i error op resume alive calls allowed =>
    rw [unlocks_fail calls]
    constructor
    -- a failing `DELETE` of the key is just what leaves it behind
    · rintro watchedAfter cacheKey rfl
      have mine := (watchedAfter i).1
      unfold keyPhase at mine
      rw [Engine.phase_failed, Function.update_self] at mine
      exact mine rfl
    · intro unlocks j
      unfold keyPhase
      rw [Engine.phase_failed]
      by_cases same : j = i
      · subst same
        simp only [Function.update_self]
        refine ⟨fun isStuck => ?_, fun _ => trivial⟩
        obtain ⟨cacheKey, rfl, -⟩ := stage_next_stuck allowed.2 isStuck (watched j).1
        exact unlocks cacheKey rfl
      · simp only [Function.update_of_ne same]
        exact watched j
  | crash i alive =>
    rw [unlocks, decide_eq_true_iff]
    constructor
    -- so does a crash between the reservation and its end
    · intro watchedAfter isReserved
      have mine := (watchedAfter i).2
      unfold keyPhase at mine
      rw [Engine.phase_crash] at mine
      have aliveAfter := mine isReserved
      simp only [Function.update_self] at aliveAfter
      cases aliveAfter
    · intro unlocks j
      unfold keyPhase
      rw [Engine.phase_crash]
      by_cases same : j = i
      · subst same
        exact ⟨(watched j).1, fun isReserved => absurd isReserved unlocks⟩
      · simp only [Function.update_of_ne same]
        exact watched j

open Transition

/-- In any run of requests on the idempotent routes, no key stays locked if and only if no request dies
    while it has its key reserved and no deletion of a record fails. -/
theorem noKeyLocked_iff {start : Database} (fresh : ∀ record ∈ start.idempotencyRecords.rows, record.statusCode ≠ 0)
    {run : List (Act ι ApiError × IdempotentSystem ι)}
    (isRun : Run shop.Steps (IdempotentRequest.system request start) run) :
    EachState (NoKeyLocked request) (IdempotentRequest.system request start) run ↔
      EachStep (fun source act _ => unlocks request source act = true) (IdempotentRequest.system request start) run := by
  have freshRecords : ∀ id record, start.idempotencyRecords.find id = some record → record.statusCode ≠ 0 :=
    fun id record found => fresh record (Table.mem_of_find found)
  have atStart := keyed_start request start
  have exact_step (source act target) (keyed : Keyed request start.idempotencyRecords.find source)
      (unlocked : NoKeyLocked request source) (stepped : shop.Steps source act target) :
      NoKeyLocked request target ↔ unlocks request source act = true := by
    rw [noKeyLocked_iff_watched keyed freshRecords] at unlocked
    rw [noKeyLocked_iff_watched (keyed.step stepped) freshRecords]
    exact watched_step keyed.follows unlocked stepped
  refine eachState_iff_eachStep exact_step (fun _ _ _ keyed _ stepped _ => keyed.step stepped) atStart ?_ isRun
  exact (noKeyLocked_iff_watched atStart freshRecords).mpr fun i => ⟨fun isStuck => (nomatch isStuck), fun _ => rfl⟩

end Locks

/-! ## A small shop -/

namespace SmallShop

/-- The order dies with its key reserved. -/
def crashWithKey : List (Act Unit ApiError) := List.replicate 4 (.run ()) ++ [.crash ()]

end SmallShop

theorem noKeyLocked_smallShop :
    Transition.EachState (NoKeyLocked fun _ : Unit => SmallShop.keyedOrder)
      (IdempotentRequest.system (fun _ => SmallShop.keyedOrder) SmallShop.db)
      ((shop.trace (IdempotentRequest.system (fun _ : Unit => SmallShop.keyedOrder) SmallShop.db)
        SmallShop.failWithKey).get SmallShop.isSome_failWithKey) := by
  have isRun : Transition.Run shop.Steps (IdempotentRequest.system (fun _ => SmallShop.keyedOrder) SmallShop.db)
      ((shop.trace (IdempotentRequest.system (fun _ : Unit => SmallShop.keyedOrder) SmallShop.db)
        SmallShop.failWithKey).get SmallShop.isSome_failWithKey) := shop.run_get_trace _
  exact (noKeyLocked_iff (by decide +kernel) isRun).mpr (by decide +kernel)

/-- A request that dies leaves its key locked. -/
theorem not_noKeyLocked :
    ¬ ∀ (request : Unit → IdempotentRequest) (start : Database)
      (run : List (Act Unit ApiError × IdempotentSystem Unit)),
      (∀ record ∈ start.idempotencyRecords.rows, record.statusCode ≠ 0) →
      Transition.Run shop.Steps (IdempotentRequest.system request start) run →
      NoKeyLocked request (Transition.final (IdempotentRequest.system request start) run) := by
  intro noKeyLocked
  have unlocked := noKeyLocked (fun _ => SmallShop.keyedOrder) SmallShop.db
    ((shop.trace (IdempotentRequest.system (fun _ : Unit => SmallShop.keyedOrder) SmallShop.db)
      SmallShop.crashWithKey).get (by decide +kernel)) (by decide +kernel) (shop.run_get_trace _)
  obtain ⟨⟨⟩, -, -, alive, -⟩ := unlocked "00000000-0000-0000-0000-000000000001:/orders:k"
    ⟨"00000000-0000-0000-0000-000000000001:/orders:k", 0, none⟩ (by decide +kernel) rfl
  revert alive
  decide +kernel

end StoreSaas
