import StoreSaas.Library.Protocol
import StoreSaas.Services.StoresService
import StoreSaas.Verified.AccountRows
import StoreSaas.Verified.AuthMethods
import StoreSaas.Verified.References

/-! # The staff limit of a plan

`inviteStaff` counts and then inserts, `createCheckoutSession` counts and then changes
the plan, with nothing locked in between.  A request remembers in its phase what it has
read; as long as no request writes on the strength of a count or a plan that has moved
against it, the limit holds in every state (`seatsFit_of_notOutdated`).
-/

namespace StoreSaas

inductive SeatCall where
  | inviteStaff (dto : InviteStaffDto)
  | removeStaff (staffId : RouteId)
  | createCheckoutSession (dto : CreateCheckoutSessionDto)

structure SeatRequest where
  env : Environment
  salt : Bytes
  randomUuid : Uuid
  storeId : Uuid
  call : SeatCall

def SeatRequest.handler (crypto : Crypto) (request : SeatRequest) : Tx Unit :=
  match request.call with
  | .inviteStaff dto => do
    let _ ← StoresService.inviteStaff crypto request.salt request.env request.storeId dto
    return ()
  | .removeStaff staffId => StoresService.removeStaff request.storeId staffId
  | .createCheckoutSession dto => do
    let _ ← BillingService.createCheckoutSession (MockPaymentProvider.createCheckoutSession request.randomUuid)
      request.storeId dto
    return ()

/-- What a request has read: the limit of the plan, and the number of staff. -/
structure SeatPhase where
  limit : Option Nat
  counted : Option Nat
  deriving DecidableEq

/-- Staff is added where the count was below the limit, and a plan chosen that admits the count. -/
def seatProtocol (storeId : Uuid) : AutoProtocol statements ApiError SeatPhase where
  initial := ⟨none, none⟩
  allows phase
    | .user (.insert entity) => entity.role = .staff ∧ entity.storeId = some storeId ∧
        ∃ limit counted, phase = ⟨some limit, some counted⟩ ∧ counted < limit
    | .billing (.updateSubscription id change) => id = storeId ∧
        ∃ counted, phase.counted = some counted ∧ counted ≤ change.plan.maxStaff
    | .user (.count id role) => id = storeId ∧ role = .staff
    | .billing (.findSubscriptionOf id) => id = storeId
    | .user (.findByEmail _) | .user (.findStaff _ _) | .user (.delete _) => True
    | _ => False
  next phase
    | .user (.count _ _), .ok counted => { phase with counted := some counted }
    | .billing (.findSubscriptionOf _), .ok subscription =>
      { phase with limit := some (StoresService.staffLimit subscription) }
    | _, _ => phase

namespace SeatRequest

theorem keeps_removeStaff (storeId : Uuid) (staffId : RouteId) (phase : SeatPhase) :
    (StoresService.removeStaff storeId staffId).Keeps (seatProtocol storeId) (fun _ _ => True) phase := by
  have found : (StoresService.findStaffOrThrow storeId staffId).Keeps (seatProtocol storeId) (fun _ _ => True) phase := by
    refine Program.keeps_perform_bind trivial (fun _ => trivial) fun staff => ?_
    cases staff <;> trivial
  refine found.handle fun _ staff _ => ?_
  cases staff with
  | error => trivial
  | ok staff => exact Program.keeps_perform trivial fun _ => trivial

theorem keeps_inviteStaff (crypto : Crypto) (salt : Bytes) (env : Environment) (storeId : Uuid) (dto : InviteStaffDto) :
    (StoresService.inviteStaff crypto salt env storeId dto).Keeps (seatProtocol storeId) (fun _ _ => True)
      ⟨none, none⟩ := by
  refine Program.keeps_perform_bind trivial (fun _ => trivial) fun existing => ?_
  cases existing with
  | some _ => trivial
  | none =>
    refine Program.keeps_perform_bind rfl (fun _ => trivial) fun subscription => ?_
    refine Program.keeps_perform_bind ⟨rfl, rfl⟩ (fun _ => trivial) fun currentStaffCount => ?_
    dsimp only
    split
    next => trivial
    next below =>
      refine Program.keeps_perform_bind ⟨rfl, rfl, _, currentStaffCount, rfl, Nat.lt_of_not_ge below⟩ (fun _ => trivial)
        fun _ => trivial

theorem keeps_createCheckoutSession (randomUuid storeId : Uuid) (dto : CreateCheckoutSessionDto) :
    (BillingService.createCheckoutSession (MockPaymentProvider.createCheckoutSession randomUuid) storeId dto).Keeps
      (seatProtocol storeId) (fun _ _ => True) ⟨none, none⟩ := by
  have counts : (BillingService.assertStaffFitsPlan storeId dto.targetPlan).Keeps (seatProtocol storeId)
      (fun phase result => result = .ok () → ∃ counted, phase.counted = some counted ∧ counted ≤ dto.targetPlan.maxStaff)
      ⟨none, none⟩ := by
    refine Program.keeps_perform_bind ⟨rfl, rfl⟩ (fun _ failed => nomatch failed) fun staffCount => ?_
    dsimp only
    split
    next => exact fun failed => nomatch failed
    next fits => exact fun _ => ⟨staffCount, rfl, Nat.le_of_not_gt fits⟩
  refine counts.handle fun phase result fits => ?_
  cases result with
  | error => trivial
  | ok _ =>
    obtain ⟨counted, isCount, atMost⟩ := fits rfl
    have changes : (BillingService.applyPlanChange storeId dto.targetPlan none none).Keeps (seatProtocol storeId)
        (fun _ _ => True) phase :=
      Program.keeps_perform_bind ⟨rfl, counted, isCount, atMost⟩ (fun _ => trivial) fun _ => trivial
    refine changes.handle fun _ result _ => ?_
    cases result <;> trivial

theorem keeps_handler (crypto : Crypto) (request : SeatRequest) :
    (request.handler crypto).Keeps (seatProtocol request.storeId) (fun _ _ => True) ⟨none, none⟩ := by
  obtain ⟨env, salt, randomUuid, storeId, call⟩ := request
  cases call with
  | inviteStaff dto =>
    refine (keeps_inviteStaff crypto salt env storeId dto).handle fun _ result _ => ?_
    cases result <;> trivial
  | removeStaff staffId => exact keeps_removeStaff storeId staffId _
  | createCheckoutSession dto =>
    refine (keeps_createCheckoutSession randomUuid storeId dto).handle fun _ result _ => ?_
    cases result <;> trivial

end SeatRequest

/-! ## The limit -/

namespace Database

/-- The store has a subscription, and no more staff than its plan admits. -/
def SeatsFit (db : Database) (storeId : Uuid) : Prop :=
  ∃ subscription, db.subscriptionOf storeId = some subscription ∧ db.staffCount storeId ≤ subscription.plan.maxStaff

instance (db : Database) (storeId : Uuid) : Decidable (db.SeatsFit storeId) :=
  match found : db.subscriptionOf storeId with
  | none => isFalse fun ⟨_, exist, _⟩ => by rw [found] at exist; cases exist
  | some subscription =>
    decidable_of_iff (db.staffCount storeId ≤ subscription.plan.maxStaff)
      ⟨fun fits => ⟨subscription, found, fits⟩, fun ⟨_, exist, fits⟩ => by
        rw [found] at exist; cases exist; exact fits⟩

def staffLimit (db : Database) (storeId : Uuid) : Nat := StoresService.staffLimit (db.subscriptionOf storeId)

end Database

/-- A write whose request has read a smaller count, or a higher limit, than there is by now. -/
def SeatPhase.outdated (phase : SeatPhase) (db : Database) (storeId : Uuid) : Statement → Bool
  | .user (.insert _) =>
    phase.counted.any (· < db.staffCount storeId) || phase.limit.any (db.staffLimit storeId < ·)
  | .billing (.updateSubscription _ _) => phase.counted.any (· < db.staffCount storeId)
  | _ => false

section Systems

variable {ι : Type} (crypto : Crypto) (requests : ι → SeatRequest) (storeId : Uuid)

abbrev SeatSystem (ι : Type) : Type := System ι Database RowKey DbWrite statements ApiError Unit

namespace SeatRequest

def system (start : Database) : SeatSystem ι :=
  System.start start fun i => ((requests i).handler crypto).autocommit

def protocol (i : ι) : Protocol statements ApiError SeatPhase := (seatProtocol (requests i).storeId).lift

/-- The step writes on the strength of an outdated read of this store. -/
def writesOutdated (source : SeatSystem ι) : Act ι ApiError → Bool
  | .run i =>
    match (source.thread i).program with
    | .call (.auto op) _ =>
      decide ((requests i).storeId = storeId) && (source.phase (protocol requests) i).outdated source.db storeId op
    | _ => false
  | .fail _ _ | .crash _ => false

end SeatRequest

end Systems

section Steps

variable {ι : Type} {requests : ι → SeatRequest} {storeId : Uuid} {db : Database}

/-- The statements that a request may execute keep the limit, unless they rest on an outdated read. -/
theorem seatsFit_executeOn {ofStore : Uuid} {phase : SeatPhase} {op : Statement}
    (allowed : (seatProtocol ofStore).allows phase op)
    (current : ofStore = storeId → phase.outdated db storeId op = false) (fits : db.SeatsFit storeId) :
    (shop.executeOn op db).2.SeatsFit storeId := by
  obtain ⟨subscription, found, atMost⟩ := fits
  have sameState : db.SeatsFit storeId := ⟨subscription, found, atMost⟩
  cases op with
  | user statement =>
    cases statement with
    | insert entity =>
      cases executed : (UserStatement.insert entity).execute db with
      | error error =>
        simp only [Engine.executeOn, shop, Statement.execute, executed]
        exact sameState
      | ok result =>
        obtain ⟨row, isRow, absent, writes⟩ := UserStatement.execute_insert executed
        have after : (shop.executeOn (.user (.insert entity)) db).2 = { db with users := db.users.put row } := by
          simp only [Engine.executeOn, shop, Statement.execute, executed, writes]
          rfl
        rw [after]
        refine ⟨subscription, found, ?_⟩
        rw [Database.staffCount_put_of_absent absent]
        have isEntity : row.storeId = entity.storeId ∧ row.role = entity.role := by
          obtain ⟨hash, -, rfl⟩ := Option.map_eq_some_iff.mp isRow
          exact ⟨rfl, rfl⟩
        obtain ⟨-, inStore, limit, counted, rfl, below⟩ := allowed
        -- the count and the limit that the request has read are those of now
        by_cases sameStore : ofStore = storeId
        · have isCurrent := current sameStore
          simp only [SeatPhase.outdated, Option.any_some, Bool.or_eq_false_iff, decide_eq_false_iff_not, Nat.not_lt,
            Database.staffLimit, found, StoresService.staffLimit, Option.map_some, Option.getD_some] at isCurrent
          obtain ⟨countNow, limitNow⟩ := isCurrent
          split <;> omega
        -- a member of another store takes no seat here
        · have elsewhere : ¬ (row.storeId = some storeId ∧ row.role = .staff) := by
            rw [isEntity.1, inStore]
            exact fun both => sameStore (Option.some.inj both.1)
          rw [if_neg elsewhere]
          exact atMost
    | delete id =>
      rw [Database.executeOn_deleteUser]
      exact ⟨subscription, found, Nat.le_trans (Database.staffCount_erase_le id storeId) atMost⟩
    | findStaff id inStore => cases id <;> exact sameState
    | count | findByEmail => exact sameState
    | findForLogin | findById | findByResetTokenHash | update | reselect | saveChanges => exact allowed.elim
  | billing statement =>
    cases statement with
    | updateSubscription id change =>
      obtain ⟨rfl, counted, isCount, admits⟩ := allowed
      rw [Database.executeOn_updateSubscription]
      -- the new plan admits the members that were counted, and there are not more now
      by_cases sameStore : storeId = id
      · subst sameStore
        have isCurrent := current rfl
        simp only [SeatPhase.outdated, isCount, Option.any_some, decide_eq_false_iff_not, Nat.not_lt] at isCurrent
        refine ⟨change.applyTo subscription, ?_, Nat.le_trans isCurrent admits⟩
        rw [Database.subscriptionOf_changeSubscription, if_pos rfl, found]
        rfl
      · refine ⟨subscription, ?_, atMost⟩
        rw [Database.subscriptionOf_changeSubscription, if_neg sameStore, found]
    | findSubscriptionOf => exact sameState
    | findWebhookEvent | reselectWebhookEvent | insertWebhookEvent | updateWebhookEvent
    | findByStripeSubscriptionId => exact allowed.elim
  | setCurrentStore | product | category | order | outbox | idempotency | store | audit | enqueueMail => exact allowed.elim

variable [Fintype ι] [DecidableEq ι] {crypto : Crypto}

open Transition

/-- However invitations, removals and plan changes interleave: as long as none of them writes on the
    strength of a count or a plan that has moved against it, no store has more staff than its plan admits. -/
theorem seatsFit_of_notOutdated {start : Database} {run : List (Act ι ApiError × SeatSystem ι)}
    (fits : start.SeatsFit storeId) (isRun : Run shop.Steps (SeatRequest.system crypto requests start) run)
    (current : EachStep (fun source act _ => SeatRequest.writesOutdated requests storeId source act = false)
      (SeatRequest.system crypto requests start) run) :
    EachState (fun system => system.db.SeatsFit storeId) (SeatRequest.system crypto requests start) run := by
  let Invariant (system : SeatSystem ι) : Prop :=
    system.Follows (SeatRequest.protocol requests) (fun _ _ _ => True) ∧ system.db.SeatsFit storeId
  have atStart : Invariant (SeatRequest.system crypto requests start) :=
    ⟨Engine.follows_start fun i => ((requests i).keeps_handler crypto).autocommit, fits⟩
  suffices kept : EachState Invariant (SeatRequest.system crypto requests start) run from
    kept.imp fun _ invariant => invariant.2
  refine eachState_of_invariant ?_ atStart isRun current
  rintro source act target ⟨follows, fits⟩ stepped current
  obtain ⟨stillFollows, ⟨i, op, resume, rfl, calls, allowed, after, -⟩ | ⟨i, op, error, -, -, same, -⟩ | ⟨i, -, same, -⟩⟩ :=
    Engine.autoStep_cases follows stepped
  · refine ⟨stillFollows, after ▸ seatsFit_executeOn allowed (fun sameStore => ?_) fits⟩
    simp only [SeatRequest.writesOutdated, calls, sameStore, decide_true, Bool.true_and] at current
    exact current
  · exact ⟨stillFollows, same ▸ fits⟩
  · exact ⟨stillFollows, same ▸ fits⟩

end Steps

/-! ## A small shop on the free plan -/

namespace SmallShop

def invite (newId : Uuid) (email : String) : SeatRequest :=
  ⟨⟨1, fun _ => newId, fun _ => 0⟩, [], 0, 1, .inviteStaff ⟨email, utf8 "till number"⟩⟩

def twoInvitations : Bool → SeatRequest
  | false => invite 20 "ann@corner.example"
  | true => invite 21 "bob@corner.example"

/-- One invitation after the other. -/
def inviteThenInvite : List (Act Bool ApiError) := List.replicate 4 (.run false) ++ List.replicate 3 (.run true)

/-- Both count before one of them inserts. -/
def inviteBoth : List (Act Bool ApiError) :=
  List.replicate 3 (.run false) ++ List.replicate 3 (.run true) ++ [.run false, .run true]

end SmallShop

theorem seatsFit_smallShop :
    Transition.EachState (fun system => system.db.SeatsFit 1)
      (SeatRequest.system SmallShop.crypto SmallShop.twoInvitations SmallShop.freeStore)
      ((shop.trace (SeatRequest.system SmallShop.crypto SmallShop.twoInvitations SmallShop.freeStore)
        SmallShop.inviteThenInvite).get (by decide +kernel)) :=
  seatsFit_of_notOutdated (by decide +kernel) (shop.run_get_trace _) (by decide +kernel)

/-- Two invitations that both count first fill two seats of one. -/
theorem not_seatsFit :
    ¬ ∀ (crypto : Crypto) (requests : Bool → SeatRequest) (start : Database)
      (run : List (Act Bool ApiError × SeatSystem Bool)), start.SeatsFit 1 →
      Transition.Run shop.Steps (SeatRequest.system crypto requests start) run →
      (Transition.final (SeatRequest.system crypto requests start) run).db.SeatsFit 1 := by
  intro seatsFit
  have both := seatsFit SmallShop.crypto SmallShop.twoInvitations SmallShop.freeStore
    ((shop.trace (SeatRequest.system SmallShop.crypto SmallShop.twoInvitations SmallShop.freeStore)
      SmallShop.inviteBoth).get (by decide +kernel)) (by decide +kernel) (shop.run_get_trace _)
  revert both
  decide +kernel

end StoreSaas
