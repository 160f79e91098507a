import StoreSaas.Verified.ProductLimit
import StoreSaas.Verified.WebhookDeliveries

/-! # The order in which provider events are delivered

Deliveries come one at a time, in any order and any of them again.  The end of a subscription
that no store has yet is recorded without effect, so a checkout that is delivered after it
stands: the plan depends on the last checkout to be delivered and on what follows it
(`isFree_iff`).
-/

namespace StoreSaas

namespace WebhookEvent

/-- The database after an event is applied. -/
def appliedTo (db : Database) : WebhookEvent → Database
  | .checkoutCompleted _ storeId plan customer subscription =>
    db.changeSubscription storeId ⟨plan, .active, some customer, some subscription⟩
  | .subscriptionEnded _ subscriptionId =>
    match db.subscriptions.rows.find? fun row => row.stripeSubscriptionId = some subscriptionId with
    | none => db
    | some row => db.changeSubscription row.storeId ⟨.free, .active, none, none⟩

theorem webhookEvents_appliedTo (event : WebhookEvent) (db : Database) :
    (event.appliedTo db).webhookEvents = db.webhookEvents := by
  cases event with
  | checkoutCompleted => rfl
  | subscriptionEnded _ subscriptionId =>
    unfold appliedTo
    dsimp only
    split <;> rfl

end WebhookEvent

namespace BillingService

theorem runWith_applyPlanChange (storeId : Uuid) (plan : Plan) (customer subscription : Option (Option String))
    (db : Database) :
    (applyPlanChange storeId plan customer subscription).runWith shop.executeOn db =
      (.ok (), db.changeSubscription storeId ⟨plan, .active, customer, subscription⟩) :=
  Program.runWith_perform_ok _ (db.executeOn_updateSubscription storeId _)

theorem runWith_applyEvent (event : WebhookEvent) (db : Database) :
    (applyEvent event).runWith shop.executeOn db = (.ok (), event.appliedTo db) := by
  cases event with
  | checkoutCompleted _ storeId plan customer subscription => exact runWith_applyPlanChange storeId plan _ _ db
  | subscriptionEnded _ subscriptionId =>
    have ran : shop.executeOn (.billing (.findByStripeSubscriptionId subscriptionId)) db =
        (.ok (db.subscriptions.rows.find? fun row => row.stripeSubscriptionId = some subscriptionId), db) := rfl
    refine (Program.runWith_perform_ok _ ran).trans ?_
    rw [WebhookEvent.appliedTo]
    cases db.subscriptions.rows.find? fun row => row.stripeSubscriptionId = some subscriptionId with
    | none => rfl
    | some row => exact runWith_applyPlanChange row.storeId .free none none db

theorem runWith_saveWebhookEvent {row : WebhookEventRow} {db : Database}
    (absent : db.webhookEvents.find row.eventId = none) :
    (saveWebhookEvent row).runWith shop.executeOn db = (.ok (), db.write (.webhookEvent (.put row))) := by
  have selected : shop.executeOn (.billing (.reselectWebhookEvent row)) db =
      (.ok (db.webhookEvents.find row.eventId), db) := rfl
  have inserted : shop.executeOn (.billing (.insertWebhookEvent row)) db =
      (.ok (), db.write (.webhookEvent (.put row))) := by
    simp only [Engine.executeOn, shop, Statement.execute, BillingStatement.execute]
    rw [absent]
    rfl
  refine (Program.runWith_perform_ok _ selected).trans ?_
  rw [absent]
  exact (Program.runWith_perform _ _ _).trans inserted

/-- An event is applied and recorded, unless it is recorded already. -/
theorem runWith_handleEvent (event : WebhookEvent) (db : Database) :
    (handleEvent event).runWith shop.executeOn db =
      (.ok (), if db.isRecorded event.eventId = true then db
        else (event.appliedTo db).write (.webhookEvent (.put ⟨event.eventId, "stripe"⟩))) := by
  have selected : shop.executeOn (.billing (.findWebhookEvent event.eventId)) db =
      (.ok (db.webhookEvents.find event.eventId), db) := rfl
  refine (Program.runWith_perform_ok _ selected).trans ?_
  unfold Database.isRecorded
  cases found : db.webhookEvents.find event.eventId with
  | some _ => rfl
  | none =>
    refine (Program.runWith_bind_ok _ (runWith_applyEvent event db)).trans ?_
    exact runWith_saveWebhookEvent ((congrArg (Table.find · _) (event.webhookEvents_appliedTo db)).trans found)

end BillingService

/-! ## Deliveries one at a time -/

def StripeEvent.deliverTo (db : Database) (delivered : StripeEvent) : Database :=
  (shop.alone (BillingService.handleWebhook delivered).autocommit db).2

/-- The database after all deliveries, the first of them first. -/
def deliverAll (deliveries : List StripeEvent) (db : Database) : Database := deliveries.foldl StripeEvent.deliverTo db

namespace StripeEvent

theorem deliverTo_eq {delivered : StripeEvent} {event : WebhookEvent}
    (handled : StripePaymentProvider.handleWebhook delivered = some event) (db : Database) :
    delivered.deliverTo db = if db.isRecorded delivered.id = true then db
      else (event.appliedTo db).write (.webhookEvent (.put ⟨delivered.id, "stripe"⟩)) := by
  rw [deliverTo, Engine.alone_autocommit, ← StripePaymentProvider.eventId_of_handleWebhook handled]
  unfold BillingService.handleWebhook
  rw [handled]
  exact congrArg Prod.snd (BillingService.runWith_handleEvent event db)

/-- The plan and the subscription of a checkout of this store. -/
def checkout (storeId : Uuid) : StripeEvent → Option (Plan × String)
  | .checkoutSessionCompleted _ (some store) (some plan) _ (.id subscriptionId) =>
    if store = storeId then some (plan, subscriptionId) else none
  | _ => none

/-- The subscription that ends. -/
def endedId : StripeEvent → Option String
  | .customerSubscriptionDeleted _ subscriptionId => some subscriptionId
  | _ => none

theorem exists_of_checkout {storeId : Uuid} {delivered : StripeEvent} {plan : Plan} {subscriptionId : String}
    (isCheckout : delivered.checkout storeId = some (plan, subscriptionId)) :
    ∃ customer, StripePaymentProvider.handleWebhook delivered =
      some (.checkoutCompleted delivered.id storeId plan customer (some subscriptionId)) := by
  unfold checkout at isCheckout
  split at isCheckout
  next id store plan customer subscriptionId =>
    split at isCheckout
    next same =>
      cases isCheckout
      exact ⟨customer.stringOrNull, same ▸ rfl⟩
    next => cases isCheckout
  next => cases isCheckout

theorem handleWebhook_of_endedId {delivered : StripeEvent} {subscriptionId : String}
    (ended : delivered.endedId = some subscriptionId) :
    StripePaymentProvider.handleWebhook delivered = some (.subscriptionEnded delivered.id subscriptionId) := by
  unfold endedId at ended
  split at ended
  next => cases ended; rfl
  next => cases ended

end StripeEvent

/-- Provider events of one store, as they are delivered: each checkout starts a subscription of its own, and
    each subscription that is started ends. -/
structure EventsOf (storeId : Uuid) (deliveries : List StripeEvent) (start : Database) : Prop where
  nonempty : deliveries ≠ []
  known : ∀ event ∈ deliveries, (event.checkout storeId).isSome = true ∨ event.endedId.isSome = true
  distinct : ∀ event ∈ deliveries, ∀ other ∈ deliveries, event.id = other.id → event = other
  own : ∀ event ∈ deliveries, ∀ other ∈ deliveries, ∀ plan otherPlan subscriptionId,
    event.checkout storeId = some (plan, subscriptionId) → other.checkout storeId = some (otherPlan, subscriptionId) →
    event = other
  ends : ∀ event ∈ deliveries, ∀ plan subscriptionId, event.checkout storeId = some (plan, subscriptionId) →
    ∃ ended ∈ deliveries, ended.endedId = some subscriptionId
  fresh : ∀ event ∈ deliveries, start.isRecorded event.id = false
  ofStore : ∀ event ∈ deliveries, ∀ subscriptionId, event.endedId = some subscriptionId →
    ∀ row ∈ start.subscriptions.rows, row.stripeSubscriptionId = some subscriptionId → row.storeId = storeId
  subscribed : (start.subscriptionOf storeId).isSome = true

/-- The checkout whose first delivery is the last of all checkouts. -/
structure IsLastCheckout (storeId : Uuid) (deliveries : List StripeEvent) (last : StripeEvent) (plan : Plan)
    (subscriptionId : String) : Prop where
  delivered : last ∈ deliveries
  asks : last.checkout storeId = some (plan, subscriptionId)
  isLast : ∀ event ∈ deliveries, (event.checkout storeId).isSome = true →
    deliveries.idxOf event ≤ deliveries.idxOf last

/-- The subscription's end is first delivered after the event. -/
def EndsAfter (deliveries : List StripeEvent) (event : StripeEvent) (subscriptionId : String) : Prop :=
  ∃ ended ∈ deliveries, ended.endedId = some subscriptionId ∧ deliveries.idxOf event < deliveries.idxOf ended

/-- What the deliveries so far have left. -/
structure Delivered (storeId : Uuid) (deliveries : List StripeEvent) (start : Database) (seen : List StripeEvent)
    (db : Database) : Prop where
  recorded : ∀ event ∈ deliveries, db.isRecorded event.id = true ↔ event ∈ seen
  others : ∀ row ∈ db.subscriptions.rows, row.storeId ≠ storeId → row ∈ start.subscriptions.rows
  subscribed : (db.subscriptionOf storeId).isSome = true
  standing : ∀ last plan subscriptionId, IsLastCheckout storeId seen last plan subscriptionId →
    ∀ row ∈ db.subscriptions.rows, row.storeId = storeId →
      row.stripeSubscriptionId = some subscriptionId ∧
        (row.plan = .free ↔ plan = .free ∨ EndsAfter seen last subscriptionId)

section

variable {storeId : Uuid} {deliveries seen : List StripeEvent} {start db : Database} {event : StripeEvent}

/-! ### First deliveries -/

theorem idxOf_concat_of_mem {other : StripeEvent} (before : other ∈ seen) :
    (seen ++ [event]).idxOf other = seen.idxOf other := by
  rw [List.idxOf_append, if_pos before]

theorem idxOf_concat_self (new : event ∉ seen) : (seen ++ [event]).idxOf event = seen.length := by
  rw [List.idxOf_append, if_neg new, List.idxOf_cons_self, Nat.zero_add]

/-- A redelivery does not make another checkout the last, and neither does an event that is no checkout. -/
theorem isLastCheckout_concat {last : StripeEvent} {plan : Plan} {subscriptionId : String}
    (noCheckout : event ∈ seen ∨ event.checkout storeId = none) :
    IsLastCheckout storeId (seen ++ [event]) last plan subscriptionId ↔
      IsLastCheckout storeId seen last plan subscriptionId := by
  have before {other : StripeEvent} (delivered : other ∈ seen ++ [event])
      (isCheckout : (other.checkout storeId).isSome = true) : other ∈ seen := by
    obtain earlier | isNew := List.mem_append.mp delivered
    · exact earlier
    · obtain rfl := List.mem_singleton.mp isNew
      refine noCheckout.resolve_right fun isNone => ?_
      rw [isNone] at isCheckout
      cases isCheckout
  constructor
  · rintro ⟨delivered, asks, isLast⟩
    have inSeen := before delivered (asks ▸ rfl)
    refine ⟨inSeen, asks, fun other otherSeen isCheckout => ?_⟩
    have order := isLast other (List.mem_append_left _ otherSeen) isCheckout
    rwa [idxOf_concat_of_mem otherSeen, idxOf_concat_of_mem inSeen] at order
  · rintro ⟨delivered, asks, isLast⟩
    refine ⟨List.mem_append_left _ delivered, asks, fun other otherDelivered isCheckout => ?_⟩
    have otherSeen := before otherDelivered isCheckout
    rw [idxOf_concat_of_mem otherSeen, idxOf_concat_of_mem delivered]
    exact isLast other otherSeen isCheckout

theorem endsAfter_concat {last : StripeEvent} {subscriptionId : String} (delivered : last ∈ seen)
    (noEnd : event ∈ seen ∨ event.endedId ≠ some subscriptionId) :
    EndsAfter (seen ++ [event]) last subscriptionId ↔ EndsAfter seen last subscriptionId := by
  constructor
  · rintro ⟨ended, endedDelivered, isEnd, after⟩
    have inSeen : ended ∈ seen := by
      obtain earlier | isNew := List.mem_append.mp endedDelivered
      · exact earlier
      · obtain rfl := List.mem_singleton.mp isNew
        exact noEnd.resolve_right fun differs => differs isEnd
    rw [idxOf_concat_of_mem delivered, idxOf_concat_of_mem inSeen] at after
    exact ⟨ended, inSeen, isEnd, after⟩
  · rintro ⟨ended, endedSeen, isEnd, after⟩
    refine ⟨ended, List.mem_append_left _ endedSeen, isEnd, ?_⟩
    rwa [idxOf_concat_of_mem delivered, idxOf_concat_of_mem endedSeen]

/-- A new checkout is the last, and nothing has been delivered after it. -/
theorem isLastCheckout_new {last : StripeEvent} {plan otherPlan : Plan} {subscriptionId otherId : String}
    (new : event ∉ seen) (isCheckout : event.checkout storeId = some (plan, subscriptionId))
    (isLast : IsLastCheckout storeId (seen ++ [event]) last otherPlan otherId) :
    last = event ∧ otherPlan = plan ∧ otherId = subscriptionId := by
  have order := isLast.isLast event (List.mem_append_right _ (List.mem_singleton_self _)) (isCheckout ▸ rfl)
  rw [idxOf_concat_self new] at order
  obtain earlier | isNew := List.mem_append.mp isLast.delivered
  · rw [idxOf_concat_of_mem earlier] at order
    exact absurd (List.idxOf_lt_length_of_mem earlier) (Nat.not_lt.mpr order)
  · obtain rfl := List.mem_singleton.mp isNew
    cases isLast.asks.symm.trans isCheckout
    exact ⟨rfl, rfl, rfl⟩

theorem not_endsAfter_new {subscriptionId : String} (new : event ∉ seen) :
    ¬ EndsAfter (seen ++ [event]) event subscriptionId := by
  rintro ⟨ended, delivered, -, after⟩
  have bound := List.idxOf_lt_length_of_mem delivered
  rw [idxOf_concat_self new] at after
  rw [List.length_append, List.length_singleton] at bound
  omega

/-! ### One delivery -/

theorem EventsOf.exists_handled (events : EventsOf storeId deliveries start) (isDelivery : event ∈ deliveries) :
    ∃ handled, StripePaymentProvider.handleWebhook event = some handled := by
  obtain isCheckout | isEnd := events.known event isDelivery
  · obtain ⟨asked, isCheckout⟩ := Option.isSome_iff_exists.mp isCheckout
    obtain ⟨customer, handled⟩ := StripeEvent.exists_of_checkout isCheckout
    exact ⟨_, handled⟩
  · obtain ⟨subscriptionId, isEnd⟩ := Option.isSome_iff_exists.mp isEnd
    exact ⟨_, StripeEvent.handleWebhook_of_endedId isEnd⟩

/-- A redelivery changes nothing. -/
theorem Delivered.again (delivered : Delivered storeId deliveries start seen db)
    (events : EventsOf storeId deliveries start) (isDelivery : event ∈ deliveries) (before : event ∈ seen) :
    Delivered storeId deliveries start (seen ++ [event]) (event.deliverTo db) := by
  obtain ⟨handled, isHandled⟩ := events.exists_handled isDelivery
  rw [StripeEvent.deliverTo_eq isHandled, if_pos ((delivered.recorded event isDelivery).mpr before)]
  refine ⟨fun other isOther => ?_, delivered.others, delivered.subscribed, ?_⟩
  · rw [delivered.recorded other isOther, List.mem_append, List.mem_singleton]
    exact ⟨.inl, fun either => either.elim id fun same => same ▸ before⟩
  · intro last plan subscriptionId isLast
    have wasLast := (isLastCheckout_concat (.inl before)).mp isLast
    rw [endsAfter_concat wasLast.delivered (.inl before)]
    exact delivered.standing last plan subscriptionId wasLast

/-- A new event is recorded. -/
theorem Delivered.recorded_new (delivered : Delivered storeId deliveries start seen db)
    (events : EventsOf storeId deliveries start) (isDelivery : event ∈ deliveries) {applied : Database}
    (sameEvents : applied.webhookEvents = db.webhookEvents) (provider : String) {other : StripeEvent}
    (isOther : other ∈ deliveries) :
    (applied.write (.webhookEvent (.put ⟨event.id, provider⟩))).isRecorded other.id = true ↔
      other ∈ seen ++ [event] := by
  have same : applied.isRecorded other.id = db.isRecorded other.id :=
    congrArg (fun table => (Table.find table other.id).isSome) sameEvents
  rw [Database.isRecorded_put, same, Bool.or_eq_true, decide_eq_true_eq, delivered.recorded other isOther,
    List.mem_append, List.mem_singleton, or_comm]
  exact or_congr_right ⟨events.distinct other isOther event isDelivery, congrArg StripeEvent.id⟩

theorem mem_rows_changeSubscription {row : Subscription} {change : PlanChange}
    (present : row ∈ (db.changeSubscription storeId change).subscriptions.rows) :
    ∃ old ∈ db.subscriptions.rows, row.storeId = old.storeId ∧
      row = if old.storeId = storeId then change.applyTo old else old := by
  rw [Database.rows_changeSubscription] at present
  obtain ⟨old, inTable, rfl⟩ := List.mem_map.mp present
  refine ⟨old, inTable, ?_, rfl⟩
  split <;> rfl

/-- A change of the store's own subscription leaves the others alone. -/
theorem Delivered.others_changed (delivered : Delivered storeId deliveries start seen db) (change : PlanChange)
    {row : Subscription} (present : row ∈ (db.changeSubscription storeId change).subscriptions.rows)
    (isOther : row.storeId ≠ storeId) : row ∈ start.subscriptions.rows := by
  obtain ⟨old, inTable, sameStore, rfl⟩ := mem_rows_changeSubscription present
  rw [sameStore] at isOther
  rw [if_neg isOther]
  exact delivered.others old inTable isOther

theorem Delivered.subscribed_changed (delivered : Delivered storeId deliveries start seen db) (change : PlanChange) :
    ((db.changeSubscription storeId change).subscriptionOf storeId).isSome = true := by
  rw [Database.subscriptionOf_changeSubscription, if_pos rfl, Option.isSome_map]
  exact delivered.subscribed

/-- After a new checkout the store has its plan and its subscription. -/
theorem Delivered.checksOut (delivered : Delivered storeId deliveries start seen db)
    (events : EventsOf storeId deliveries start) (isDelivery : event ∈ deliveries) (new : event ∉ seen)
    {plan : Plan} {subscriptionId : String} (isCheckout : event.checkout storeId = some (plan, subscriptionId)) :
    Delivered storeId deliveries start (seen ++ [event]) (event.deliverTo db) := by
  obtain ⟨customer, isHandled⟩ := StripeEvent.exists_of_checkout isCheckout
  have isNew : ¬ db.isRecorded event.id = true := fun recorded =>
    new ((delivered.recorded event isDelivery).mp recorded)
  rw [StripeEvent.deliverTo_eq isHandled, if_neg isNew]
  refine ⟨fun other isOther => delivered.recorded_new events isDelivery rfl _ isOther,
    fun row present isOther => delivered.others_changed _ present isOther, delivered.subscribed_changed _, ?_⟩
  intro last otherPlan otherId isLast row present inStore
  obtain ⟨rfl, rfl, rfl⟩ := isLastCheckout_new new isCheckout isLast
  obtain ⟨old, inTable, sameStore, rfl⟩ := mem_rows_changeSubscription present
  rw [if_pos (sameStore.symm.trans inStore)]
  exact ⟨rfl, (or_iff_left (not_endsAfter_new new)).symm⟩

/-- The end of a subscription changes the store that has it, if there is one. -/
theorem appliedTo_subscriptionEnded (eventId endedId : String) (db : Database) :
    ((∀ row ∈ db.subscriptions.rows, row.stripeSubscriptionId ≠ some endedId) ∧
      (WebhookEvent.subscriptionEnded eventId endedId).appliedTo db = db) ∨
    ∃ row ∈ db.subscriptions.rows, row.stripeSubscriptionId = some endedId ∧
      (WebhookEvent.subscriptionEnded eventId endedId).appliedTo db =
        db.changeSubscription row.storeId ⟨.free, .active, none, none⟩ := by
  rw [WebhookEvent.appliedTo]
  cases found : db.subscriptions.rows.find? fun row => row.stripeSubscriptionId = some endedId with
  | none =>
    refine .inl ⟨fun row present isEnded => ?_, rfl⟩
    exact List.find?_eq_none.mp found row present (decide_eq_true isEnded)
  | some row =>
    have isEnded := List.find?_some found
    exact .inr ⟨row, List.mem_of_find?_eq_some found, of_decide_eq_true isEnded, rfl⟩

theorem endsAfter_new {last : StripeEvent} {subscriptionId : String} (delivered : last ∈ seen) (new : event ∉ seen)
    (isEnd : event.endedId = some subscriptionId) : EndsAfter (seen ++ [event]) last subscriptionId := by
  refine ⟨event, List.mem_append_right _ (List.mem_singleton_self _), isEnd, ?_⟩
  rw [idxOf_concat_of_mem delivered, idxOf_concat_self new]
  exact List.idxOf_lt_length_of_mem delivered

/-- An end that is new sets the plan to FREE if its subscription is the store's, and has no effect otherwise. -/
theorem Delivered.ends (delivered : Delivered storeId deliveries start seen db)
    (events : EventsOf storeId deliveries start) (isDelivery : event ∈ deliveries) (new : event ∉ seen)
    {endedId : String} (isEnd : event.endedId = some endedId) :
    Delivered storeId deliveries start (seen ++ [event]) (event.deliverTo db) := by
  have isHandled := StripeEvent.handleWebhook_of_endedId isEnd
  have isNew : ¬ db.isRecorded event.id = true := fun recorded =>
    new ((delivered.recorded event isDelivery).mp recorded)
  have noCheckout : event.checkout storeId = none := by
    cases event with
    | customerSubscriptionDeleted => rfl
    | checkoutSessionCompleted | other => cases isEnd
  -- only the store's own row can have the subscription
  have ofStore {row : Subscription} (present : row ∈ db.subscriptions.rows)
      (isEnded : row.stripeSubscriptionId = some endedId) : row.storeId = storeId := by
    by_contra isOther
    exact isOther (events.ofStore event isDelivery endedId isEnd row (delivered.others row present isOther) isEnded)
  rw [StripeEvent.deliverTo_eq isHandled, if_neg isNew]
  have recorded {other : StripeEvent} (isOther : other ∈ deliveries) := delivered.recorded_new events isDelivery
    (WebhookEvent.webhookEvents_appliedTo (.subscriptionEnded event.id endedId) db) "stripe" isOther
  obtain ⟨unmatched, unchanged⟩ | ⟨matched, inTable, isEnded, changed⟩ :=
    appliedTo_subscriptionEnded event.id endedId db
  · rw [unchanged] at recorded ⊢
    refine ⟨fun _ isOther => recorded isOther, delivered.others, delivered.subscribed, ?_⟩
    intro last plan subscriptionId isLast row present inStore
    have wasLast := (isLastCheckout_concat (.inr noCheckout)).mp isLast
    have stands := delivered.standing last plan subscriptionId wasLast row present inStore
    have differs : event.endedId ≠ some subscriptionId := fun same =>
      unmatched row present (stands.1.trans (same.symm.trans isEnd))
    rw [endsAfter_concat wasLast.delivered (.inr differs)]
    exact stands
  · have isOwn := ofStore inTable isEnded
    rw [changed, isOwn] at recorded ⊢
    refine ⟨fun _ isOther => recorded isOther, fun row present isOther => delivered.others_changed _ present isOther,
      delivered.subscribed_changed _, ?_⟩
    intro last plan subscriptionId isLast row present inStore
    have wasLast := (isLastCheckout_concat (.inr noCheckout)).mp isLast
    have stands := delivered.standing last plan subscriptionId wasLast
    have isSame : some endedId = some subscriptionId := isEnded.symm.trans (stands matched inTable isOwn).1
    obtain ⟨old, oldPresent, sameStore, rfl⟩ := mem_rows_changeSubscription present
    have oldInStore := sameStore.symm.trans inStore
    rw [if_pos oldInStore]
    refine ⟨(stands old oldPresent oldInStore).1, iff_of_true rfl (.inr ?_)⟩
    exact endsAfter_new wasLast.delivered new (isEnd.trans isSame)

theorem Delivered.deliver (delivered : Delivered storeId deliveries start seen db)
    (events : EventsOf storeId deliveries start) (isDelivery : event ∈ deliveries) :
    Delivered storeId deliveries start (seen ++ [event]) (event.deliverTo db) := by
  by_cases before : event ∈ seen
  · exact delivered.again events isDelivery before
  · obtain isCheckout | isEnd := events.known event isDelivery
    · obtain ⟨asked, isCheckout⟩ := Option.isSome_iff_exists.mp isCheckout
      exact delivered.checksOut events isDelivery before isCheckout
    · obtain ⟨endedId, isEnd⟩ := Option.isSome_iff_exists.mp isEnd
      exact delivered.ends events isDelivery before isEnd

/-- The invariant holds after each of the deliveries. -/
theorem delivered_deliverAll (events : EventsOf storeId deliveries start) (each : ∀ event ∈ seen, event ∈ deliveries) :
    Delivered storeId deliveries start seen (deliverAll seen start) := by
  induction seen using List.reverseRecOn with
  | nil =>
    refine ⟨fun event isDelivery => ?_, fun _ present _ => present, events.subscribed, ?_⟩
    · exact iff_of_false (Bool.not_eq_true _ ▸ events.fresh event isDelivery) List.not_mem_nil
    · exact fun last plan subscriptionId isLast => absurd isLast.delivered List.not_mem_nil
  | append_singleton seen event ih =>
    rw [deliverAll, List.foldl_append]
    exact (ih fun other before => each other (List.mem_append_left _ before)).deliver events
      (each event (List.mem_append_right _ (List.mem_singleton_self _)))

/-- The store's plan is FREE in the end exactly if the last checkout asked for it, or its subscription's end was
    delivered after it. -/
theorem isFree_iff (events : EventsOf storeId deliveries start) {last : StripeEvent} {plan : Plan}
    {subscriptionId : String} (isLast : IsLastCheckout storeId deliveries last plan subscriptionId) :
    (deliverAll deliveries start).planOf storeId = some .free ↔
      plan = .free ∨ EndsAfter deliveries last subscriptionId := by
  have delivered := delivered_deliverAll events fun _ isDelivery => isDelivery
  obtain ⟨row, found⟩ := Option.isSome_iff_exists.mp delivered.subscribed
  have inStore := List.find?_some found
  have stands := delivered.standing last plan subscriptionId isLast row (List.mem_of_find?_eq_some found)
    (of_decide_eq_true inStore)
  rw [Database.planOf, found, Option.map_some, Option.some.injEq]
  exact stands.2

end

/-! ## A checkout and the end of its subscription -/

namespace SmallShop

def checkedOut : StripeEvent := .checkoutSessionCompleted "evt_1" (some 1) (some .pro) (.id "cus_1") (.id "sub_1")

def subscriptionDeleted : StripeEvent := .customerSubscriptionDeleted "evt_2" "sub_1"

/-- The two events, in either order and the end once more. -/
theorem eventsOf_checkedOut {deliveries : List StripeEvent} (ends : subscriptionDeleted ∈ deliveries)
    (known : ∀ event ∈ deliveries, event = checkedOut ∨ event = subscriptionDeleted) :
    EventsOf 1 deliveries freeStore where
  nonempty := List.ne_nil_of_mem ends
  known event isDelivery := by obtain rfl | rfl := known event isDelivery <;> decide
  distinct event isDelivery other isOther := by
    obtain rfl | rfl := known event isDelivery <;> obtain rfl | rfl := known other isOther <;> decide
  own event isDelivery other isOther _ _ _ isCheckout otherCheckout := by
    obtain rfl | rfl := known event isDelivery
    · obtain rfl | rfl := known other isOther
      · rfl
      · cases otherCheckout
    · cases isCheckout
  ends event isDelivery plan subscriptionId isCheckout := by
    refine ⟨subscriptionDeleted, ends, ?_⟩
    obtain rfl | rfl := known event isDelivery
    · cases isCheckout
      rfl
    · cases isCheckout
  fresh _ _ := rfl
  ofStore _ _ _ _ row present _ := by
    obtain rfl := List.mem_singleton.mp present
    rfl
  subscribed := rfl

end SmallShop

theorem isFree_checkedOut :
    (deliverAll [SmallShop.checkedOut, SmallShop.subscriptionDeleted] SmallShop.freeStore).planOf 1 = some .free ↔
      Plan.pro = .free ∨ EndsAfter [SmallShop.checkedOut, SmallShop.subscriptionDeleted] SmallShop.checkedOut "sub_1" :=
  isFree_iff (SmallShop.eventsOf_checkedOut (by decide) (by decide)) ⟨by decide, rfl, by decide⟩

/-- An end that is delivered before its checkout leaves the store on PRO. -/
theorem not_isFree :
    ¬ ∀ (storeId : Uuid) (deliveries : List StripeEvent) (start : Database), EventsOf storeId deliveries start →
      (deliverAll deliveries start).planOf storeId = some .free := by
  intro isFree
  have free := isFree 1 [SmallShop.subscriptionDeleted, SmallShop.checkedOut] SmallShop.freeStore
    (SmallShop.eventsOf_checkedOut (by decide) (by decide))
  revert free
  decide +kernel

end StoreSaas
