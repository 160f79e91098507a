import StoreSaas.Library.Protocol
import StoreSaas.Services.BillingService
import StoreSaas.Verified.AuthMethods
import StoreSaas.Verified.References

/-! # Webhook events that are delivered more than once

A delivery looks its event up, changes the plan and then records the event, each statement
committed by itself.  A delivery is overtaken when another one of its event changes the plan
or records the event in between, or has changed the plan without recording it so far.  Such a
delivery applies the event again, and no other does.  None is overtaken when no delivery looks
up an event that another one is still working on or has applied without recording it
(`appliesOnce_iff`).
-/

namespace StoreSaas

/-- The id of an event, as the provider delivers it. -/
def StripeEvent.id : StripeEvent → String
  | .checkoutSessionCompleted id _ _ _ _ | .customerSubscriptionDeleted id _ | .other id _ => id

/-- The service keeps the id of the provider. -/
theorem StripePaymentProvider.eventId_of_handleWebhook {delivered : StripeEvent} {event : WebhookEvent}
    (handled : handleWebhook delivered = some event) : event.eventId = delivered.id := by
  cases delivered with
  | checkoutSessionCompleted id storeId targetPlan customer subscription =>
    cases storeId with
    | none => cases handled
    | some storeId =>
      cases targetPlan with
      | none => cases handled
      | some plan => cases handled; rfl
  | customerSubscriptionDeleted id subscriptionId => cases handled; rfl
  | other id type => cases handled

/-! ## What a delivery does -/

/-- How far a delivery has come: it has not found its event recorded, has changed the plan, or has found the event
    recorded or sent its record. -/
inductive DeliveryPhase where
  | started
  | checked
  | applied
  | settled
  deriving DecidableEq

/-- The delivery has found no record of its event, and has sent none. -/
def DeliveryPhase.isOpen : DeliveryPhase → Bool
  | .checked | .applied => true
  | .started | .settled => false

/-- The statements around the event of a delivery. -/
def deliveryProtocol (eventId : String) : AutoProtocol statements ApiError DeliveryPhase where
  initial := .started
  allows phase
    | .billing (.findWebhookEvent id) => phase = .started ∧ id = eventId
    | .billing (.findByStripeSubscriptionId _) | .billing (.updateSubscription _ _) => phase = .checked
    | .billing (.reselectWebhookEvent row) | .billing (.insertWebhookEvent row) | .billing (.updateWebhookEvent row) =>
      row.eventId = eventId ∧ phase.isOpen = true
    | _ => False
  next phase
    | .billing (.findWebhookEvent _), .ok found => if Option.isSome found = true then .settled else .checked
    | .billing (.updateSubscription _ _), .ok _ => .applied
    | .billing (.insertWebhookEvent _), _ => .settled
    | _, _ => phase

namespace BillingService

variable {eventId : String}

theorem keeps_saveWebhookEvent {row : WebhookEventRow} (isRow : row.eventId = eventId) {phase : DeliveryPhase}
    (isOpen : phase.isOpen = true) :
    (saveWebhookEvent row).Keeps (deliveryProtocol eventId) (fun _ _ => True) phase := by
  refine Program.keeps_perform_bind ⟨isRow, isOpen⟩ (fun _ => trivial) fun found => ?_
  cases found with
  | none => exact Program.keeps_perform ⟨isRow, isOpen⟩ fun _ => trivial
  | some stored =>
    exact Program.keeps_ite (fun _ => trivial) fun _ => Program.keeps_perform ⟨isRow, isOpen⟩ fun _ => trivial

theorem keeps_applyPlanChange (storeId : Uuid) (plan : Plan) (customer subscription : Option (Option String)) :
    (applyPlanChange storeId plan customer subscription).Keeps (deliveryProtocol eventId)
      (fun phase _ => phase.isOpen = true) .checked :=
  Program.keeps_perform_bind rfl (fun _ => rfl) fun _ => rfl

theorem keeps_applyEvent (event : WebhookEvent) :
    (applyEvent event).Keeps (deliveryProtocol eventId) (fun phase _ => phase.isOpen = true) .checked := by
  cases event with
  | checkoutCompleted _ storeId plan customer subscription => exact keeps_applyPlanChange storeId plan _ _
  | subscriptionEnded _ subscriptionId =>
    refine Program.keeps_perform_bind rfl (fun _ => rfl) fun found => ?_
    cases found with
    | none => rfl
    | some subscription => exact keeps_applyPlanChange subscription.storeId .free _ _

theorem keeps_handleEvent {event : WebhookEvent} (isEvent : event.eventId = eventId) :
    (handleEvent event).Keeps (deliveryProtocol eventId) (fun _ _ => True) .started := by
  refine Program.keeps_perform_bind ⟨rfl, isEvent⟩ (fun _ => trivial) fun found => ?_
  cases found with
  | some _ => trivial
  | none =>
    refine (keeps_applyEvent event).handle fun phase result isOpen => ?_
    cases result with
    | ok _ => exact keeps_saveWebhookEvent isEvent isOpen
    | error error => trivial

theorem keeps_handleWebhook (delivered : StripeEvent) :
    (handleWebhook delivered).Keeps (deliveryProtocol delivered.id) (fun _ _ => True) .started := by
  unfold handleWebhook
  cases handled : StripePaymentProvider.handleWebhook delivered with
  | none => trivial
  | some event => exact keeps_handleEvent (StripePaymentProvider.eventId_of_handleWebhook handled)

end BillingService

/-! ## Systems of deliveries -/

abbrev WebhookSystem (ι : Type) : Type := System ι Database RowKey DbWrite statements ApiError Unit

/-- What the deliveries have done. -/
structure WebhookHistory (ι : Type) where
  /-- The event of each `UPDATE` that changed a subscription, and whether it was recorded by then. -/
  applied : List (String × Bool)
  /-- The event of a delivery was applied and not recorded before the delivery looked it up, or has been applied or
      recorded since. -/
  overtaken : ι → Bool

def WebhookHistory.none {ι : Type} : WebhookHistory ι := ⟨[], fun _ => false⟩

/-- The store has a subscription to change. -/
def Database.isSubscribed (db : Database) (storeId : Uuid) : Bool :=
  db.subscriptions.rows.any fun row => row.storeId = storeId

/-- The event is recorded as processed. -/
def Database.isRecorded (db : Database) (eventId : String) : Bool := (db.webhookEvents.find eventId).isSome

namespace Database

theorem isRecorded_updateSubscription (db : Database) (storeId : Uuid) (change : PlanChange) (eventId : String) :
    (shop.executeOn (.billing (.updateSubscription storeId change)) db).2.isRecorded eventId =
      db.isRecorded eventId := by
  have untouched : ∀ write ∈ (db.subscriptions.rows.filter fun row => row.storeId = storeId).map fun row =>
      DbWrite.subscription (.put (change.applyTo row)), shop.keyOf write ≠ .webhookEvent eventId := by
    intro write made
    obtain ⟨row, -, rfl⟩ := List.mem_map.mp made
    exact RowKey.noConfusion
  exact congrArg Option.isSome (shop.get_applyAll_of_untouched untouched)

theorem isRecorded_put (db : Database) (row : WebhookEventRow) (eventId : String) :
    (db.write (.webhookEvent (.put row))).isRecorded eventId =
      (decide (eventId = row.eventId) || db.isRecorded eventId) := by
  change ((db.webhookEvents.put row).find eventId).isSome = _
  rw [Table.find_put]
  by_cases same : eventId = row.eventId
  · rw [if_pos same, decide_eq_true same]
    rfl
  · rw [if_neg same, decide_eq_false same]
    rfl

/-- An event that is recorded already is recorded still. -/
theorem isRecorded_insertWebhookEvent (db : Database) (row : WebhookEventRow) (eventId : String) :
    (shop.executeOn (.billing (.insertWebhookEvent row)) db).2.isRecorded eventId =
      (decide (eventId = row.eventId) || db.isRecorded eventId) := by
  simp only [Engine.executeOn, shop, Statement.execute, BillingStatement.execute]
  by_cases present : (db.webhookEvents.find row.eventId).isSome = true
  · rw [if_pos present]
    by_cases same : eventId = row.eventId
    · rw [decide_eq_true same, same]
      exact present
    · rw [decide_eq_false same]
      rfl
  · rw [if_neg present]
    exact isRecorded_put db row eventId

theorem isRecorded_updateWebhookEvent (db : Database) (row : WebhookEventRow) (eventId : String) :
    (shop.executeOn (.billing (.updateWebhookEvent row)) db).2.isRecorded eventId = db.isRecorded eventId := by
  simp only [Engine.executeOn, shop, Statement.execute, BillingStatement.execute]
  cases found : db.webhookEvents.find row.eventId with
  | none => rfl
  | some stored =>
    refine (isRecorded_put db row eventId).trans ?_
    by_cases same : eventId = row.eventId
    · rw [decide_eq_true same, same, isRecorded, found]
      rfl
    · rw [decide_eq_false same]
      rfl

end Database

section Systems

variable {ι : Type} [DecidableEq ι] (deliveries : ι → StripeEvent)

/-- The history after an operation of a delivery. -/
def WebhookHistory.note (before : WebhookHistory ι) (db : Database) (i : ι) :
    RequestOp statements → WebhookHistory ι
  | .auto (.billing (.findWebhookEvent eventId)) =>
    { before with
      overtaken := Function.update before.overtaken i
        (!db.isRecorded eventId && before.applied.any fun change => change.1 = eventId) }
  | .auto (.billing (.updateSubscription storeId _)) =>
    if db.isSubscribed storeId = true then
      ⟨((deliveries i).id, db.isRecorded (deliveries i).id) :: before.applied,
        fun j => before.overtaken j || (deliveries j).id = (deliveries i).id⟩
    else before
  | .auto (.billing (.insertWebhookEvent row)) =>
    { before with overtaken := fun j => before.overtaken j || (deliveries j).id = row.eventId }
  | _ => before

namespace WebhookSystem

def ofDeliveries (start : Database) : WebhookSystem ι :=
  System.start start fun i => (BillingService.handleWebhook (deliveries i)).autocommit

def protocol (i : ι) : Protocol statements ApiError DeliveryPhase := (deliveryProtocol (deliveries i).id).lift

def observe (source : WebhookSystem ι) (act : Act ι ApiError) (before : WebhookHistory ι) : WebhookHistory ι :=
  match source.executes act with
  | none => before
  | some (i, op) => before.note deliveries source.db i op

/-- An overtaken delivery changes a plan. -/
def appliesAgain (source : WebhookSystem ι) (act : Act ι ApiError) (before : WebhookHistory ι) : Bool :=
  match source.executes act with
  | some (i, .auto (.billing (.updateSubscription storeId _))) => before.overtaken i && source.db.isSubscribed storeId
  | _ => false

/-- A delivery that has found no record of its event is still working on it. -/
def claims (system : WebhookSystem ι) (i : ι) : Bool :=
  (system.phase (protocol deliveries) i).isOpen && (system.thread i).underWay

/-- A delivery looks an event up that is not recorded, but is applied or claimed. -/
def looksUpClaimed [Fintype ι] (source : WebhookSystem ι) (act : Act ι ApiError) (before : WebhookHistory ι) : Bool :=
  match source.executes act with
  | some (_, .auto (.billing (.findWebhookEvent eventId))) =>
    !source.db.isRecorded eventId &&
      ((before.applied.any fun change => change.1 = eventId) ||
        decide (∃ j, (deliveries j).id = eventId ∧ source.claims deliveries j = true))
  | _ => false

/-- No event has changed a subscription twice, and none after it was recorded. -/
structure AppliesOnce (history : WebhookHistory ι) : Prop where
  once : (history.applied.map Prod.fst).Nodup
  unrecorded : ∀ change ∈ history.applied, change.2 = false

end WebhookSystem

end Systems

section Runs

variable {ι : Type} [DecidableEq ι] {deliveries : ι → StripeEvent} {start : Database}

namespace WebhookSystem

/-- The phase of every delivery. -/
abbrev phases (deliveries : ι → StripeEvent) (state : WebhookSystem ι × WebhookHistory ι) : ι → DeliveryPhase :=
  state.1.phase (protocol deliveries)

/-- What a step can do, and whether it looks a claimed event up or applies an event again. -/
inductive Move [Fintype ι] (deliveries : ι → StripeEvent) (source target : WebhookSystem ι × WebhookHistory ι) :
    Bool → Bool → Prop where
  | quiet (recorded : ∀ eventId, target.1.db.isRecorded eventId = source.1.db.isRecorded eventId)
    (settles : ∀ i, phases deliveries target i = .checked → phases deliveries source i = .checked)
    (opens : ∀ i, (phases deliveries target i).isOpen = true → (phases deliveries source i).isOpen = true)
    (sameHistory : target.2 = source.2) : Move deliveries source target false false
  | looksUp (i : ι) (sameDb : target.1.db = source.1.db)
    (phased : phases deliveries target = Function.update (phases deliveries source) i
      (if source.1.db.isRecorded (deliveries i).id = true then .settled else .checked))
    (history : target.2 = { source.2 with
      overtaken := Function.update source.2.overtaken i (!source.1.db.isRecorded (deliveries i).id &&
        source.2.applied.any fun change => change.1 = (deliveries i).id) }) :
    Move deliveries source target (!source.1.db.isRecorded (deliveries i).id &&
      ((source.2.applied.any fun change => change.1 = (deliveries i).id) ||
        decide (∃ j, (deliveries j).id = (deliveries i).id ∧ source.1.claims deliveries j = true))) false
  | applies (i : ι) (recorded : ∀ eventId, target.1.db.isRecorded eventId = source.1.db.isRecorded eventId)
    (underWay : (source.1.thread i).underWay = true) (before : phases deliveries source i = .checked)
    (phased : phases deliveries target = Function.update (phases deliveries source) i .applied)
    (history : target.2 =
      ⟨((deliveries i).id, source.1.db.isRecorded (deliveries i).id) :: source.2.applied,
        fun j => source.2.overtaken j || (deliveries j).id = (deliveries i).id⟩) :
    Move deliveries source target false (source.2.overtaken i)
  | records (i : ι) (recorded : ∀ eventId,
      target.1.db.isRecorded eventId = (decide (eventId = (deliveries i).id) || source.1.db.isRecorded eventId))
    (underWay : (source.1.thread i).underWay = true) (before : (phases deliveries source i).isOpen = true)
    (phased : phases deliveries target = Function.update (phases deliveries source) i .settled)
    (history : target.2 = { source.2 with
      overtaken := fun j => source.2.overtaken j || (deliveries j).id = (deliveries i).id }) :
    Move deliveries source target false false

theorem move_of_step [Fintype ι] {source target : WebhookSystem ι × WebhookHistory ι} {act : Act ι ApiError}
    (follows : source.1.Follows (protocol deliveries) fun _ _ _ => True)
    (stepped : shop.Steps source.1 act target.1) (observed : target.2 = observe deliveries source.1 act source.2) :
    Move deliveries source target (source.1.looksUpClaimed deliveries act source.2)
      (appliesAgain source.1 act source.2) := by
  obtain ⟨-, ⟨i, op, resume, rfl, calls, allowed, after, phased⟩ | ⟨i, op, error, rfl, -, after, phased⟩ |
    ⟨i, rfl, after, phased⟩⟩ := Engine.autoStep_cases (P := fun i => deliveryProtocol (deliveries i).id) follows stepped
  · have executes := System.executes_run calls
    change phases deliveries target = _ at phased
    simp only [observe, executes] at observed
    simp only [looksUpClaimed, appliesAgain, executes]
    have underWay := Engine.underWay_of_run shop stepped
    have stays (sameNext : ∀ phase, (deliveryProtocol (deliveries i).id).next phase op
        (shop.executeOn op source.1.db).1 = phase) : phases deliveries target = phases deliveries source := by
      rw [phased, sameNext]
      exact Function.update_eq_self i _
    have quiet (recorded : ∀ eventId, target.1.db.isRecorded eventId = source.1.db.isRecorded eventId)
        (samePhases : phases deliveries target = phases deliveries source) (sameHistory : target.2 = source.2) :
        Move deliveries source target false false :=
      .quiet recorded (fun j => by rw [samePhases]; exact id) (fun j => by rw [samePhases]; exact id) sameHistory
    cases op with
    | billing statement =>
      cases statement with
      | findWebhookEvent eventId =>
        obtain ⟨-, rfl⟩ := allowed
        exact .looksUp i after phased observed
      | findByStripeSubscriptionId subscriptionId =>
        exact quiet (fun eventId => after ▸ rfl) (stays fun _ => rfl) observed
      | updateSubscription storeId change =>
        have recorded (eventId : String) : target.1.db.isRecorded eventId = source.1.db.isRecorded eventId :=
          after ▸ Database.isRecorded_updateSubscription source.1.db storeId change eventId
        simp only [WebhookHistory.note] at observed
        change Move deliveries source target false (source.2.overtaken i && source.1.db.isSubscribed storeId)
        cases subscribed : source.1.db.isSubscribed storeId with
        | false =>
          -- No row has changed, and still the delivery does not send its change again.
          rw [subscribed] at observed
          rw [Bool.and_false]
          refine .quiet recorded (fun j isChecked => ?_) (fun j isOpen => ?_) observed
          · rw [phased] at isChecked
            by_cases same : j = i
            · subst same
              cases (Function.update_self ..).symm.trans isChecked
            · exact (Function.update_of_ne same ..).symm.trans isChecked
          · rw [phased] at isOpen
            by_cases same : j = i
            · subst same
              exact (congrArg DeliveryPhase.isOpen allowed).trans rfl
            · exact (congrArg DeliveryPhase.isOpen (Function.update_of_ne same ..)).symm.trans isOpen
        | true =>
          rw [subscribed] at observed
          rw [Bool.and_true]
          exact .applies i recorded underWay allowed phased observed
      | reselectWebhookEvent row => exact quiet (fun eventId => after ▸ rfl) (stays fun _ => rfl) observed
      | insertWebhookEvent row =>
        obtain ⟨isRow, isOpen⟩ := allowed
        have recorded (eventId : String) := Database.isRecorded_insertWebhookEvent source.1.db row eventId
        simp only [WebhookHistory.note, isRow] at observed
        simp only [isRow] at recorded
        exact .records i (fun eventId => after ▸ recorded eventId) underWay isOpen phased observed
      | updateWebhookEvent row =>
        exact quiet (fun eventId => after ▸ Database.isRecorded_updateWebhookEvent source.1.db row eventId)
          (stays fun _ => rfl) observed
      | findSubscriptionOf => exact allowed.elim
    | _ => exact allowed.elim
  · have stays : ∀ j, phases deliveries target j = phases deliveries source j ∨
        phases deliveries target j = .settled := by
      intro j
      rw [show phases deliveries target = _ from phased]
      by_cases same : j = i
      · subst same
        rw [Function.update_self]
        cases op with
        | billing statement =>
          cases statement with
          | insertWebhookEvent row => exact .inr rfl
          | _ => exact .inl rfl
        | _ => exact .inl rfl
      · exact .inl (Function.update_of_ne same ..)
    refine .quiet (fun eventId => after ▸ rfl) (fun j isChecked => ?_) (fun j isOpen => ?_) observed
    · exact (stays j).elim (fun same => same ▸ isChecked) fun settled => nomatch settled.symm.trans isChecked
    · refine (stays j).elim (fun same => same ▸ isOpen) fun settled => ?_
      rw [settled] at isOpen
      cases isOpen
  · have samePhases : phases deliveries target = phases deliveries source := phased
    exact .quiet (fun eventId => after ▸ rfl) (fun j => by rw [samePhases]; exact id)
      (fun j => by rw [samePhases]; exact id) observed

/-- The event has changed a subscription, or is recorded. -/
def Touched (state : WebhookSystem ι × WebhookHistory ι) (eventId : String) : Prop :=
  eventId ∈ state.2.applied.map Prod.fst ∨ state.1.db.isRecorded eventId = true

/-- What is known beside the claim: a delivery that has not found its event recorded is overtaken exactly if the
    event has been applied or recorded. -/
structure Invariant (deliveries : ι → StripeEvent) (state : WebhookSystem ι × WebhookHistory ι) : Prop where
  follows : state.1.Follows (protocol deliveries) fun _ _ _ => True
  overtaken : ∀ i, phases deliveries state i = .checked →
    (state.2.overtaken i = true ↔ Touched state (deliveries i).id)

variable {source target : WebhookSystem ι × WebhookHistory ι}

omit [DecidableEq ι] in
theorem touched_congr {eventId : String} (recorded : target.1.db.isRecorded eventId = source.1.db.isRecorded eventId)
    (sameApplied : target.2.applied = source.2.applied) : Touched target eventId ↔ Touched source eventId := by
  rw [Touched, Touched, recorded, sameApplied]

omit [DecidableEq ι] in
theorem touched_of_applied {eventId applied : String} {wasRecorded : Bool}
    (recorded : target.1.db.isRecorded eventId = source.1.db.isRecorded eventId)
    (history : target.2.applied = (applied, wasRecorded) :: source.2.applied) :
    Touched target eventId ↔ eventId = applied ∨ Touched source eventId := by
  rw [Touched, recorded, history, List.map_cons, List.mem_cons, or_assoc]
  rfl

omit [DecidableEq ι] in
theorem touched_of_recorded {eventId inserted : String}
    (recorded : target.1.db.isRecorded eventId = (decide (eventId = inserted) || source.1.db.isRecorded eventId))
    (sameApplied : target.2.applied = source.2.applied) :
    Touched target eventId ↔ eventId = inserted ∨ Touched source eventId := by
  rw [Touched, recorded, sameApplied, Bool.or_eq_true, decide_eq_true_eq, or_left_comm]
  rfl

omit [DecidableEq ι] in
/-- An event is applied once more: it has not been before, and is not recorded, exactly if it is not touched. -/
theorem appliesOnce_cons {eventId : String} (once : AppliesOnce source.2)
    (applied : target.2.applied = (eventId, source.1.db.isRecorded eventId) :: source.2.applied) :
    AppliesOnce target.2 ↔ ¬ Touched source eventId := by
  constructor
  · rintro ⟨distinct, unrecorded⟩ touched
    rw [applied] at distinct unrecorded
    obtain before | recorded := touched
    · exact (List.nodup_cons.mp distinct).1 before
    · exact Bool.noConfusion (recorded.symm.trans (unrecorded _ List.mem_cons_self))
  · intro untouched
    obtain ⟨notApplied, notRecorded⟩ := not_or.mp untouched
    refine ⟨?_, ?_⟩
    · rw [applied]
      exact List.nodup_cons.mpr ⟨notApplied, once.once⟩
    · rw [applied]
      intro change present
      obtain rfl | earlier := List.mem_cons.mp present
      · exact Bool.eq_false_of_not_eq_true notRecorded
      · exact once.unrecorded change earlier

/-- A step keeps the invariant, and applies an event again exactly if an overtaken delivery changes a plan. -/
theorem appliesOnce_step [Fintype ι] {act : Act ι ApiError} (invariant : Invariant deliveries source)
    (once : AppliesOnce source.2) (stepped : shop.Steps source.1 act target.1)
    (observed : target.2 = observe deliveries source.1 act source.2) :
    Invariant deliveries target ∧ (AppliesOnce target.2 ↔ appliesAgain source.1 act source.2 = false) := by
  have follows := Engine.follows_step invariant.follows stepped
  have move := move_of_step invariant.follows stepped observed
  generalize appliesAgain source.1 act source.2 = again at move
  generalize source.1.looksUpClaimed deliveries act source.2 = claimed at move
  cases move with
  | quiet recorded settles _ sameHistory =>
    refine ⟨⟨follows, fun i isChecked => ?_⟩, iff_of_true (sameHistory ▸ once) rfl⟩
    rw [touched_congr (recorded _) (by rw [sameHistory]), sameHistory]
    exact invariant.overtaken i (settles i isChecked)
  | looksUp i sameDb phased history =>
    have sameApplied : target.2.applied = source.2.applied := by rw [history]
    refine ⟨⟨follows, fun j isChecked => ?_⟩, iff_of_true ⟨sameApplied ▸ once.once, sameApplied ▸ once.unrecorded⟩ rfl⟩
    rw [touched_congr (by rw [sameDb]) sameApplied]
    rw [phased] at isChecked
    by_cases same : j = i
    · subst same
      rw [Function.update_self] at isChecked
      -- a delivery goes on only where its event is not recorded
      have notRecorded : ¬ source.1.db.isRecorded (deliveries j).id = true := by
        intro recorded
        rw [if_pos recorded] at isChecked
        cases isChecked
      have isOvertaken : target.2.overtaken j =
          source.2.applied.any fun change => change.1 = (deliveries j).id := by
        rw [Bool.not_eq_true] at notRecorded
        rw [history]
        simp only [Function.update_self, notRecorded, Bool.not_false, Bool.true_and]
      -- and then it is overtaken exactly if the event has been applied
      rw [isOvertaken, List.any_eq_true, Touched, List.mem_map]
      constructor
      · rintro ⟨change, present, isEvent⟩
        exact .inl ⟨change, present, of_decide_eq_true isEvent⟩
      · rintro (⟨change, present, isEvent⟩ | recorded)
        · exact ⟨change, present, decide_eq_true isEvent⟩
        · exact absurd recorded notRecorded
    · rw [Function.update_of_ne same] at isChecked
      have sameOvertaken : target.2.overtaken j = source.2.overtaken j := by
        rw [history]
        exact Function.update_of_ne same ..
      rw [sameOvertaken]
      exact invariant.overtaken j isChecked
  | applies i recorded _ before phased history =>
    have applied : target.2.applied =
        ((deliveries i).id, source.1.db.isRecorded (deliveries i).id) :: source.2.applied := by rw [history]
    refine ⟨⟨follows, fun j isChecked => ?_⟩, ?_⟩
    · have notSelf : j ≠ i := by
        rintro rfl
        rw [phased, Function.update_self] at isChecked
        cases isChecked
      rw [phased, Function.update_of_ne notSelf] at isChecked
      rw [touched_of_applied (recorded _) applied, ← invariant.overtaken j isChecked, history]
      change (_ || decide _) = true ↔ _
      rw [Bool.or_eq_true, decide_eq_true_eq, or_comm]
    -- the plan change is the second one exactly if this delivery was overtaken
    · rw [appliesOnce_cons once applied, ← invariant.overtaken i before, Bool.not_eq_true]
  | records i recorded _ _ phased history =>
    have sameApplied : target.2.applied = source.2.applied := by rw [history]
    refine ⟨⟨follows, fun j isChecked => ?_⟩, iff_of_true ⟨sameApplied ▸ once.once, sameApplied ▸ once.unrecorded⟩ rfl⟩
    have notSelf : j ≠ i := by
      rintro rfl
      rw [phased, Function.update_self] at isChecked
      cases isChecked
    rw [phased, Function.update_of_ne notSelf] at isChecked
    rw [touched_of_recorded (recorded _) sameApplied, ← invariant.overtaken j isChecked, history]
    change (_ || decide _) = true ↔ _
    rw [Bool.or_eq_true, decide_eq_true_eq, or_comm]

/-- No two deliveries claim an event, and none that still has a plan to change is overtaken. -/
structure Apart (deliveries : ι → StripeEvent) (state : WebhookSystem ι × WebhookHistory ι) : Prop where
  alone : ∀ i j, (deliveries i).id = (deliveries j).id → state.1.claims deliveries i = true →
    state.1.claims deliveries j = true → i = j
  untouched : ∀ i, phases deliveries state i = .checked → (state.1.thread i).underWay = true →
    ¬ Touched state (deliveries i).id

omit [DecidableEq ι] in
theorem claims_eq_true {system : WebhookSystem ι} {i : ι} : system.claims deliveries i = true ↔
    (system.phase (protocol deliveries) i).isOpen = true ∧ (system.thread i).underWay = true :=
  Bool.and_eq_true_iff

omit [DecidableEq ι] in
theorem claims_of_checked {system : WebhookSystem ι} {i : ι}
    (isChecked : system.phase (protocol deliveries) i = .checked) (underWay : (system.thread i).underWay = true) :
    system.claims deliveries i = true :=
  claims_eq_true.mpr ⟨by rw [isChecked]; rfl, underWay⟩

/-- Only the delivery that takes the step can claim an event anew. -/
theorem claims_of_update {i j : ι} {phase : DeliveryPhase}
    (phased : phases deliveries target = Function.update (phases deliveries source) i phase)
    (stillUnderWay : (target.1.thread j).underWay = true → (source.1.thread j).underWay = true)
    (claims : target.1.claims deliveries j = true) :
    (j = i ∧ phase.isOpen = true) ∨ source.1.claims deliveries j = true := by
  obtain ⟨isOpen, underWay⟩ := claims_eq_true.mp claims
  rw [show target.1.phase (protocol deliveries) = _ from phased] at isOpen
  by_cases same : j = i
  · subst same
    rw [Function.update_self] at isOpen
    exact .inl ⟨rfl, isOpen⟩
  · rw [Function.update_of_ne same] at isOpen
    exact .inr (claims_eq_true.mpr ⟨isOpen, stillUnderWay underWay⟩)

variable [Fintype ι] {act : Act ι ApiError}

/-- A step keeps deliveries apart and applies no event again, unless it looks a claimed event up. -/
theorem Apart.step (apart : Apart deliveries source) (invariant : Invariant deliveries source)
    (stepped : shop.Steps source.1 act target.1) (observed : target.2 = observe deliveries source.1 act source.2)
    (free : source.1.looksUpClaimed deliveries act source.2 = false) :
    Apart deliveries target ∧ appliesAgain source.1 act source.2 = false := by
  have move := move_of_step invariant.follows stepped observed
  have stillUnderWay (i : ι) := Engine.underWay_of_steps shop stepped (i := i)
  generalize appliesAgain source.1 act source.2 = again at move
  generalize source.1.looksUpClaimed deliveries act source.2 = claimed at move free
  have alone (stays : ∀ j, target.1.claims deliveries j = true → source.1.claims deliveries j = true) (i j)
      (same : (deliveries i).id = (deliveries j).id) (claimsI : target.1.claims deliveries i = true)
      (claimsJ : target.1.claims deliveries j = true) : i = j :=
    apart.alone i j same (stays i claimsI) (stays j claimsJ)
  cases move with
  | quiet recorded settles opens sameHistory =>
    refine ⟨⟨alone fun j claims => ?_, fun j isChecked underWay => ?_⟩, rfl⟩
    · obtain ⟨isOpen, underWay⟩ := claims_eq_true.mp claims
      exact claims_eq_true.mpr ⟨opens j isOpen, stillUnderWay j underWay⟩
    · rw [touched_congr (recorded _) (by rw [sameHistory])]
      exact apart.untouched j (settles j isChecked) (stillUnderWay j underWay)
  | looksUp i sameDb phased history =>
    have sameTouched (eventId : String) : Touched target eventId ↔ Touched source eventId :=
      touched_congr (by rw [sameDb]) (by rw [history])
    have others {j : ι} (differs : j ≠ i) (isChecked : phases deliveries target j = .checked)
        (underWay : (target.1.thread j).underWay = true) : ¬ Touched target (deliveries j).id := by
      rw [phased, Function.update_of_ne differs] at isChecked
      rw [sameTouched]
      exact apart.untouched j isChecked (stillUnderWay j underWay)
    cases isRecorded : source.1.db.isRecorded (deliveries i).id with
    | true =>
      rw [isRecorded, if_pos rfl] at phased
      refine ⟨⟨alone fun j claims => ?_, fun j isChecked underWay => ?_⟩, rfl⟩
      -- the event is recorded: the delivery ends and claims nothing
      · exact (claims_of_update phased (stillUnderWay j) claims).resolve_left fun isOpen => nomatch isOpen.2
      · refine others ?_ isChecked underWay
        rintro rfl
        rw [phased, Function.update_self] at isChecked
        cases isChecked
    | false =>
      rw [isRecorded, Bool.not_false, Bool.true_and, Bool.or_eq_false_iff, decide_eq_false_iff_not] at free
      obtain ⟨notApplied, unclaimed⟩ := free
      -- nobody else holds the event, so the delivery is alone with it from here on
      have isI {j : ι} (same : (deliveries j).id = (deliveries i).id) (claims : target.1.claims deliveries j = true) :
          j = i :=
        (claims_of_update phased (stillUnderWay j) claims).elim And.left fun before =>
          absurd ⟨j, same, before⟩ unclaimed
      refine ⟨⟨fun j k same claimsJ claimsK => ?_, fun j isChecked underWay => ?_⟩, rfl⟩
      · rcases claims_of_update phased (stillUnderWay j) claimsJ with ⟨rfl, -⟩ | beforeJ
        · exact (isI same.symm claimsK).symm
        rcases claims_of_update phased (stillUnderWay k) claimsK with ⟨rfl, -⟩ | beforeK
        · exact isI same claimsJ
        exact apart.alone j k same beforeJ beforeK
      · by_cases differs : j = i
        · subst differs
          rw [sameTouched]
          -- the lookup has found the event neither applied nor recorded
          rintro (applied | recorded)
          · obtain ⟨change, present, isEvent⟩ := List.mem_map.mp applied
            exact List.any_eq_false.mp notApplied change present (decide_eq_true isEvent)
          · cases isRecorded.symm.trans recorded
        · exact others differs isChecked underWay
  | applies i recorded underWay before phased history =>
    have claimsI := claims_of_checked before underWay
    refine ⟨⟨alone fun j claims => ?_, fun j isChecked stillRuns => ?_⟩, ?_⟩
    · rcases claims_of_update phased (stillUnderWay j) claims with ⟨rfl, -⟩ | claims
      · exact claimsI
      · exact claims
    -- any other delivery that has checked is about another event
    · have notSelf : j ≠ i := by
        rintro rfl
        rw [phased, Function.update_self] at isChecked
        cases isChecked
      rw [phased, Function.update_of_ne notSelf] at isChecked
      rw [touched_of_applied (recorded _) (by rw [history])]
      rintro (same | touched)
      · exact notSelf (apart.alone j i same (claims_of_checked isChecked (stillUnderWay j stillRuns)) claimsI)
      · exact apart.untouched j isChecked (stillUnderWay j stillRuns) touched
    -- the event was untouched when this delivery applied it
    · rw [← Bool.not_eq_true, invariant.overtaken i before]
      exact apart.untouched i before underWay
  | records i recorded underWay before phased history =>
    refine ⟨⟨alone fun j claims => ?_, fun j isChecked stillRuns => ?_⟩, rfl⟩
    · exact (claims_of_update phased (stillUnderWay j) claims).resolve_left fun isOpen => nomatch isOpen.2
    · have notSelf : j ≠ i := by
        rintro rfl
        rw [phased, Function.update_self] at isChecked
        cases isChecked
      rw [phased, Function.update_of_ne notSelf] at isChecked
      rw [touched_of_recorded (recorded _) (by rw [history])]
      rintro (same | touched)
      · exact notSelf (apart.alone j i same (claims_of_checked isChecked (stillUnderWay j stillRuns))
          (claims_eq_true.mpr ⟨before, underWay⟩))
      · exact apart.untouched j isChecked (stillUnderWay j stillRuns) touched

end WebhookSystem

open Transition WebhookSystem in
/-- However deliveries interleave and crash, each event changes a subscription at most once, and not after it is
    recorded, exactly if no overtaken delivery changes a plan; and so it is as long as no delivery looks up an
    unrecorded event that is applied or that another delivery is still working on. -/
theorem appliesOnce_iff [Fintype ι] {run : List (Act ι ApiError × WebhookSystem ι)}
    (isRun : Run shop.Steps (ofDeliveries deliveries start) run) :
    (EachState (fun state => AppliesOnce state.2) (ofDeliveries deliveries start, WebhookHistory.none)
        (withHistory (observe deliveries) (ofDeliveries deliveries start) .none run) ↔
      EachStep (fun source act _ => appliesAgain source.1 act source.2 = false)
        (ofDeliveries deliveries start, WebhookHistory.none)
        (withHistory (observe deliveries) (ofDeliveries deliveries start) .none run)) ∧
    (EachStep (fun source act _ => source.1.looksUpClaimed deliveries act source.2 = false)
        (ofDeliveries deliveries start, WebhookHistory.none)
        (withHistory (observe deliveries) (ofDeliveries deliveries start) .none run) →
      EachState (fun state => AppliesOnce state.2) (ofDeliveries deliveries start, WebhookHistory.none)
        (withHistory (observe deliveries) (ofDeliveries deliveries start) .none run)) := by
  have atStart : WebhookSystem.Invariant deliveries (ofDeliveries deliveries start, WebhookHistory.none) :=
    { follows := Engine.follows_start fun i => (BillingService.keeps_handleWebhook (deliveries i)).autocommit
      overtaken := fun i isChecked => DeliveryPhase.noConfusion isChecked }
  have apartAtStart : WebhookSystem.Apart deliveries (ofDeliveries deliveries start, WebhookHistory.none) :=
    { alone := fun i j _ claims => nomatch (claims_eq_true.mp claims).1
      untouched := fun i isChecked => DeliveryPhase.noConfusion isChecked }
  constructor
  · exact eachState_iff_eachStep
      (fun source act target invariant once stepped => (appliesOnce_step invariant once stepped.1 stepped.2).2)
      (fun source act target invariant once stepped _ => (appliesOnce_step invariant once stepped.1 stepped.2).1)
      atStart ⟨List.nodup_nil, List.forall_mem_nil _⟩ (run_withHistory _ _ isRun)
  · intro free
    let Kept (state : WebhookSystem ι × WebhookHistory ι) : Prop :=
      WebhookSystem.Invariant deliveries state ∧ WebhookSystem.Apart deliveries state ∧ AppliesOnce state.2
    suffices kept : EachState Kept (ofDeliveries deliveries start, WebhookHistory.none)
        (withHistory (observe deliveries) (ofDeliveries deliveries start) .none run) from
      kept.imp fun _ kept => kept.2.2
    refine eachState_of_invariant ?_ ⟨atStart, apartAtStart, List.nodup_nil, List.forall_mem_nil _⟩
      (run_withHistory _ _ isRun) free
    rintro source act target ⟨invariant, apart, once⟩ ⟨stepped, observed⟩ unclaimed
    obtain ⟨stillApart, notAgain⟩ := apart.step invariant stepped observed unclaimed
    obtain ⟨kept, stays⟩ := appliesOnce_step invariant once stepped observed
    exact ⟨kept, stillApart, stays.mpr notAgain⟩

end Runs

/-! ## A checkout that is delivered twice -/

namespace SmallShop

def checkoutTwice (_ : Bool) : StripeEvent :=
  .checkoutSessionCompleted "evt_1" (some 1) (some .pro) (.id "cus_1") (.id "sub_1")

/-- The second delivery finds the event recorded. -/
def redelivered : List (Act Bool ApiError) := List.replicate 4 (.run false) ++ [.run true]

/-- Both deliveries look the event up before either changes the plan. -/
def deliveredAtOnce : List (Act Bool ApiError) := [.run false, .run true, .run false, .run true]

end SmallShop

open WebhookSystem in
theorem appliesOnce_redelivered :
    Transition.EachState (fun state => AppliesOnce state.2)
      (ofDeliveries SmallShop.checkoutTwice SmallShop.freeStore, WebhookHistory.none)
      (Transition.withHistory (observe SmallShop.checkoutTwice)
        (ofDeliveries SmallShop.checkoutTwice SmallShop.freeStore) .none
        ((shop.trace (ofDeliveries SmallShop.checkoutTwice SmallShop.freeStore)
          SmallShop.redelivered).get (by decide +kernel))) :=
  (appliesOnce_iff (shop.run_get_trace _)).2 (by decide +kernel)

open WebhookSystem in
/-- Two deliveries at once both apply the event. -/
theorem not_appliesOnce :
    ¬ ∀ (deliveries : Bool → StripeEvent) (start : Database) (run : List (Act Bool ApiError × WebhookSystem Bool)),
      Transition.Run shop.Steps (ofDeliveries deliveries start) run →
      AppliesOnce (Transition.final (ofDeliveries deliveries start, WebhookHistory.none)
        (Transition.withHistory (observe deliveries) (ofDeliveries deliveries start) .none run)).2 := by
  intro appliesOnce
  have applied := (appliesOnce SmallShop.checkoutTwice SmallShop.freeStore
    ((shop.trace (ofDeliveries SmallShop.checkoutTwice SmallShop.freeStore) SmallShop.deliveredAtOnce).get
      (by decide +kernel)) (shop.run_get_trace _)).once
  revert applied
  decide +kernel

end StoreSaas
