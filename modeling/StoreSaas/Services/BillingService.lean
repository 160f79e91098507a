import StoreSaas.Schema.Statements

/-! # `BillingService`, the mock provider and the webhook side of `StripePaymentProvider`

Checking a webhook's signature is Stripe's own code; what the provider makes of a
verified event, and what the service does with it, is modelled here.
-/

namespace StoreSaas

inductive WebhookEvent where
  | checkoutCompleted (eventId : String) (storeId : Uuid) (plan : Plan)
      (providerCustomerId providerSubscriptionId : Option String)
  | subscriptionEnded (eventId providerSubscriptionId : String)
  deriving DecidableEq, Repr

def WebhookEvent.eventId : WebhookEvent → String
  | .checkoutCompleted eventId _ _ _ _ => eventId
  | .subscriptionEnded eventId _ => eventId

/-! ## `StripePaymentProvider.handleWebhook` -/

/-- A field that Stripe may expand: an id, an object, or nothing. -/
inductive Expandable where
  | id (text : String)
  | object
  | null
  deriving DecidableEq, Repr

/-- A verified event, as far as the provider looks into it. -/
inductive StripeEvent where
  | checkoutSessionCompleted (id : String) (storeId : Option Uuid) (targetPlan : Option Plan)
      (customer subscription : Expandable)
  | customerSubscriptionDeleted (id subscriptionId : String)
  | other (id type : String)
  deriving DecidableEq, Repr

/-- `typeof field === 'string' ? field : null` -/
def Expandable.stringOrNull : Expandable → Option String
  | .id text => some text
  | .object | .null => none

def StripePaymentProvider.handleWebhook : StripeEvent → Option WebhookEvent
  | .checkoutSessionCompleted id (some storeId) (some targetPlan) customer subscription =>
    some (.checkoutCompleted id storeId targetPlan customer.stringOrNull subscription.stringOrNull)
  | .checkoutSessionCompleted _ _ _ _ _ => none
  | .customerSubscriptionDeleted id subscriptionId => some (.subscriptionEnded id subscriptionId)
  | .other _ _ => none

/-! ## Checkout -/

structure CheckoutSessionParams where
  storeId : Uuid
  targetPlan : Plan
  successUrl : String
  cancelUrl : String
  deriving DecidableEq

structure CheckoutSessionResult where
  url : String
  immediatePlan : Option Plan
  deriving DecidableEq

structure CreateCheckoutSessionDto where
  targetPlan : Plan
  successUrl : String
  cancelUrl : String
  deriving DecidableEq

/-- What a provider answers, or the error with which it rejects. -/
abbrev PaymentProvider : Type := CheckoutSessionParams → Except ApiError CheckoutSessionResult

def MockPaymentProvider.createCheckoutSession (randomUuid : Uuid) : PaymentProvider := fun params =>
  .ok ⟨s!"{params.successUrl}?mock_session={randomUuid.text}&plan={params.targetPlan.text}", some params.targetPlan⟩

/-! ## `BillingService` -/

namespace BillingService

def applyPlanChange (storeId : Uuid) (plan : Plan) (stripeCustomerId stripeSubscriptionId : Option (Option String)) :
    Tx Unit := do
  let _ ← Tx.billing (.updateSubscription storeId ⟨plan, .active, stripeCustomerId, stripeSubscriptionId⟩)
  return ()

def staffExceedsPlan (plan : Plan) (staffCount : Nat) : ApiError :=
  .conflict (s!"Cannot switch to the {plan.text} plan: this store currently has {staffCount} staff member(s), " ++
    s!"but the {plan.text} plan only allows {plan.maxStaff}. Remove {staffCount - plan.maxStaff} " ++
    "staff member(s) first, then try again.")

def assertStaffFitsPlan (storeId : Uuid) (plan : Plan) : Tx Unit := do
  let staffCount : Nat ← Tx.user (.count storeId .staff)
  if staffCount > plan.maxStaff then Tx.raise (staffExceedsPlan plan staffCount)
  else return ()

def createCheckoutSession (provider : PaymentProvider) (storeId : Uuid) (dto : CreateCheckoutSessionDto) : Tx String := do
  let result ← Program.ofExcept (provider ⟨storeId, dto.targetPlan, dto.successUrl, dto.cancelUrl⟩)
  match result.immediatePlan with
  | none => return result.url
  | some immediatePlan =>
    assertStaffFitsPlan storeId immediatePlan
    applyPlanChange storeId immediatePlan none none
    return result.url

/-- What an event changes. -/
def applyEvent : WebhookEvent → Tx Unit
  | .checkoutCompleted _ storeId plan providerCustomerId providerSubscriptionId =>
    applyPlanChange storeId plan (some providerCustomerId) (some providerSubscriptionId)
  | .subscriptionEnded _ providerSubscriptionId => do
    let subscription : Option Subscription ← Tx.billing (.findByStripeSubscriptionId providerSubscriptionId)
    match subscription with
    | none => return ()
    | some subscription => applyPlanChange subscription.storeId .free none none

/-- `webhookEvents.save(...)`: the row is selected by its key before it is inserted. -/
def saveWebhookEvent (row : WebhookEventRow) : Tx Unit := do
  let found : Option WebhookEventRow ← Tx.billing (.reselectWebhookEvent row)
  match found with
  | none => Tx.billing (.insertWebhookEvent row)
  | some stored => if stored.provider = row.provider then return () else Tx.billing (.updateWebhookEvent row)

/-- The handling of an event that the provider did not drop. -/
def handleEvent (event : WebhookEvent) : Tx Unit := do
  let alreadyProcessed : Option WebhookEventRow ← Tx.billing (.findWebhookEvent event.eventId)
  match alreadyProcessed with
  | some _ => return ()
  | none =>
    applyEvent event
    saveWebhookEvent ⟨event.eventId, "stripe"⟩

def handleWebhook (delivered : StripeEvent) : Tx Unit :=
  match StripePaymentProvider.handleWebhook delivered with
  | none => return ()
  | some event => handleEvent event

end BillingService

end StoreSaas
