import StoreSaas.Services.AppRequests
import StoreSaas.Verified.ServiceStatements

/-! # What the handlers of the routes do

The three catalogue services stay in the request's transaction, and the others never touch
a table that has a policy.
-/

namespace StoreSaas

/-! ## The statements of the three services -/

section Services

theorem catalogue_findOneCategory (storeId : Uuid) (id : RouteId) :
    (CategoriesService.findOne storeId id).Only fun op : Statement => op.isCatalogue = true := by
  refine Program.only_perform_bind (by rfl) fun found => ?_
  cases found <;> trivial

theorem catalogue_findOneProduct (storeId : Uuid) (id : RouteId) :
    (ProductsService.findOne storeId id).Only fun op : Statement => op.isCatalogue = true := by
  refine Program.only_perform_bind (by rfl) fun found => ?_
  cases found <;> trivial

theorem catalogue_findOneOrder (storeId : Uuid) (id : RouteId) :
    (OrdersService.findOne storeId id).Only fun op : Statement => op.isCatalogue = true := by
  refine Program.only_perform_bind (by rfl) fun found => ?_
  cases found <;> trivial

theorem catalogue_requireCategory (storeId : Uuid) (categoryId : Field Uuid) :
    (ProductsService.requireCategory storeId categoryId).Only fun op : Statement => op.isCatalogue = true := by
  cases categoryId with
  | undefined | null => trivial
  | value id => exact (catalogue_findOneCategory storeId (some id)).bind fun _ => trivial

theorem catalogue_saveCategory (env : Environment) (entity : CategoryEntity) :
    (CategoriesService.save env entity).Only fun op : Statement => op.isCatalogue = true := by
  refine Program.only_perform_bind (by rfl) fun found => ?_
  cases found with
  | none => exact Program.only_perform_bind (by rfl) fun _ => trivial
  | some row => exact Program.only_ite trivial (Program.only_perform_bind (by rfl) fun _ => trivial)

theorem catalogue_saveProduct (env : Environment) (entity : ProductEntity) :
    (ProductsService.save env entity).Only fun op : Statement => op.isCatalogue = true :=
  (only_saveProduct_saves env entity).imp fun op saves => by cases saves <;> rfl

theorem catalogue_createOrder (env : Environment) (storeId : Uuid) (dto : CreateOrderDto) :
    (OrdersService.create env storeId dto).Only fun op : Statement => op.isCatalogue = true := by
  have takes (op : Statement) (isTaken : op.takes = true) : op.isCatalogue = true := by
    cases op with
    | product => rfl
    | _ => cases isTaken
  refine ((only_takeLines env storeId dto.items 0 []).imp takes).bind fun taken => ?_
  refine Program.only_perform_bind (by rfl) fun _ => Program.only_perform_bind (by rfl) fun _ => ?_
  refine Program.Only.bind ((only_notifyOwner env storeId _).imp fun op mails => ?_) fun _ => trivial
  obtain ⟨mail, rfl⟩ := mails
  rfl

theorem catalogue_updateStatus (env : Environment) (storeId : Uuid) (id : RouteId) (dto : UpdateOrderStatusDto) :
    (OrdersService.updateStatus env storeId id dto).Only fun op : Statement => op.isCatalogue = true := by
  refine (catalogue_findOneOrder storeId id).bind fun entity => ?_
  have restocks : (OrdersService.restock env storeId entity.items).Only fun op : Statement => op.isCatalogue = true := by
    refine (only_restock env storeId entity.items).imp fun op increments => ?_
    obtain ⟨id, quantity, rfl⟩ := increments
    rfl
  refine Program.Only.bind (Program.only_ite restocks trivial) fun _ => ?_
  exact (only_saveOrder env _).imp fun op saves => by cases saves <;> rfl

/-- All operations of the three services. -/
theorem catalogue_call (env : Environment) (storeId : Uuid) (call : Call) :
    (call.handler env storeId).Only fun op : Statement => op.isCatalogue = true := by
  cases call with
  | createCategory dto =>
    refine Program.Only.bind ?_ fun _ => trivial
    exact Program.only_perform_bind (by rfl) fun _ => trivial
  | findAllCategories => exact (Program.only_perform (by rfl)).bind fun _ => trivial
  | findOneCategory id => exact (catalogue_findOneCategory storeId id).bind fun _ => trivial
  | updateCategory id dto =>
    refine Program.Only.bind ?_ fun _ => trivial
    exact (catalogue_findOneCategory storeId id).bind fun _ => catalogue_saveCategory env _
  | removeCategory id =>
    refine Program.Only.bind ?_ fun _ => trivial
    exact (catalogue_findOneCategory storeId id).bind fun _ => Program.only_perform (by rfl)
  | createProduct dto =>
    refine Program.Only.bind ?_ fun _ => trivial
    exact (catalogue_requireCategory storeId dto.categoryId).bind fun _ =>
      Program.only_perform_bind (by rfl) fun _ => trivial
  | findAllProducts query =>
    refine Program.Only.bind ?_ fun _ => trivial
    exact Program.only_perform_bind (by rfl) fun _ => trivial
  | findOneProduct id => exact (catalogue_findOneProduct storeId id).bind fun _ => trivial
  | updateProduct id dto =>
    refine Program.Only.bind ?_ fun _ => trivial
    exact (catalogue_findOneProduct storeId id).bind fun _ =>
      (catalogue_requireCategory storeId dto.categoryId).bind fun _ => catalogue_saveProduct env _
  | removeProduct id =>
    refine Program.Only.bind ?_ fun _ => trivial
    exact (catalogue_findOneProduct storeId id).bind fun _ => Program.only_perform (by rfl)
  | setImage id imageUrl =>
    refine Program.Only.bind ?_ fun _ => trivial
    exact (catalogue_findOneProduct storeId id).bind fun _ => catalogue_saveProduct env _
  | createOrder dto => exact (catalogue_createOrder env storeId dto).bind fun _ => trivial
  | findAllOrders query =>
    refine Program.Only.bind ?_ fun _ => trivial
    exact Program.only_perform_bind (by rfl) fun _ => Program.only_perform_bind (by rfl) fun _ => trivial
  | findOneOrder id => exact (catalogue_findOneOrder storeId id).bind fun _ => trivial
  | updateStatus id dto => exact (catalogue_updateStatus env storeId id dto).bind fun _ => trivial

end Services

/-! ## The statements of the other services -/

section Shared

theorem shared_issueTokens (crypto : Crypto) (config : AuthConfig) (env : AuthEnvironment) (user : User) :
    (AuthService.issueTokens crypto config env user).Only fun op : Statement => op.isShared = true :=
  Program.only_perform_bind (by rfl) fun _ => trivial

theorem shared_login (crypto : Crypto) (config : AuthConfig) (env : AuthEnvironment) (dto : LoginDto) :
    (AuthService.login crypto config env dto).Only fun op : Statement => op.isShared = true := by
  have admitted (row : LoginRow) : (AuthService.assertStaffAdmitted row).Only fun op : Statement => op.isShared = true := by
    unfold AuthService.assertStaffAdmitted
    split
    next => trivial
    next =>
      refine Program.only_ite (Program.only_perform_bind (by rfl) fun staffCount => ?_) trivial
      split <;> trivial
  refine Program.only_perform_bind (by rfl) fun found => ?_
  cases found with
  | none => trivial
  | some row =>
    refine Program.only_ite trivial (Program.only_ite trivial ?_)
    exact (admitted row).bind fun _ => shared_issueTokens ..

theorem shared_refresh (crypto : Crypto) (config : AuthConfig) (env : AuthEnvironment) (token : SignedToken) :
    (AuthController.refresh crypto config env token).Only fun op : Statement => op.isShared = true := by
  refine Program.only_ite trivial (Program.only_perform_bind (by rfl) fun found => ?_)
  split
  next => trivial
  next => exact Program.only_ite trivial (shared_issueTokens ..)

theorem shared_createAccount (crypto : Crypto) (env : AuthEnvironment) (newId : Nat → Uuid) (dto : RegisterDto) :
    (AuthService.createAccount crypto env newId dto).Only fun op : Statement => op.isShared = true := by
  refine Program.only_perform_bind (by rfl) fun _ => Program.only_perform_bind (by rfl) fun _ =>
    Program.only_perform_bind (by rfl) fun _ => Program.Only.bind ?_ fun _ => trivial
  refine Program.only_perform_bind (by rfl) fun found => ?_
  cases found with
  | none => exact Program.only_perform (by rfl)
  | some row => exact Program.only_ite trivial (Program.only_perform (by rfl))

theorem shared_applyPlanChange (storeId : Uuid) (plan : Plan) (customerId subscriptionId : Option (Option String)) :
    (BillingService.applyPlanChange storeId plan customerId subscriptionId).Only fun op : Statement =>
      op.isShared = true :=
  Program.only_perform_bind (by rfl) fun _ => trivial

theorem shared_createCheckoutSession (provider : PaymentProvider) (storeId : Uuid) (dto : CreateCheckoutSessionDto) :
    (BillingService.createCheckoutSession provider storeId dto).Only fun op : Statement => op.isShared = true := by
  unfold BillingService.createCheckoutSession
  cases provider ⟨storeId, dto.targetPlan, dto.successUrl, dto.cancelUrl⟩ with
  | error error => trivial
  | ok result =>
    rw [Program.ofExcept, Program.done_bind]
    split
    next => trivial
    next plan _ =>
      refine Program.Only.bind ?_ fun _ => (shared_applyPlanChange storeId plan none none).bind fun _ => trivial
      refine Program.only_perform_bind (by rfl) fun staffCount => ?_
      split <;> trivial

theorem shared_handleWebhook (delivered : StripeEvent) :
    (BillingService.handleWebhook delivered).Only fun op : Statement => op.isShared = true := by
  have applies (event : WebhookEvent) : (BillingService.applyEvent event).Only fun op : Statement => op.isShared = true := by
    cases event with
    | checkoutCompleted => exact shared_applyPlanChange ..
    | subscriptionEnded =>
      refine Program.only_perform_bind (by rfl) fun found => ?_
      cases found with
      | none => trivial
      | some subscription => exact shared_applyPlanChange ..
  have saves (row : WebhookEventRow) :
      (BillingService.saveWebhookEvent row).Only fun op : Statement => op.isShared = true := by
    refine Program.only_perform_bind (by rfl) fun found => ?_
    cases found with
    | none => exact Program.only_perform (by rfl)
    | some stored => exact Program.only_ite trivial (Program.only_perform (by rfl))
  unfold BillingService.handleWebhook
  split
  next => trivial
  next event _ =>
    refine Program.only_perform_bind (by rfl) fun found => ?_
    cases found with
    | some _ => trivial
    | none => exact (applies event).bind fun _ => saves _

theorem shared_saveStore (entity : StoreEntity) :
    (StoresService.saveStore entity).Only fun op : Statement => op.isShared = true := by
  refine Program.only_perform_bind (by rfl) fun found => ?_
  cases found with
  | none => exact Program.only_perform_bind (by rfl) fun _ => trivial
  | some row => exact Program.only_ite trivial (Program.only_perform_bind (by rfl) fun _ => trivial)

theorem shared_findStaff (storeId : Uuid) (staffId : RouteId) :
    (StoresService.findStaffOrThrow storeId staffId).Only fun op : Statement => op.isShared = true := by
  refine Program.only_perform_bind (by rfl) fun staff => ?_
  cases staff <;> trivial

theorem shared_inviteStaff (crypto : Crypto) (salt : Bytes) (env : Environment) (storeId : Uuid) (dto : InviteStaffDto) :
    (StoresService.inviteStaff crypto salt env storeId dto).Only fun op : Statement => op.isShared = true := by
  refine Program.only_perform_bind (by rfl) fun existing => ?_
  cases existing with
  | some _ => trivial
  | none =>
    refine Program.only_perform_bind (by rfl) fun _ => Program.only_perform_bind (by rfl) fun _ => ?_
    dsimp only
    split
    next => trivial
    next => exact Program.only_perform_bind (by rfl) fun _ => trivial

theorem shared_saveStaff (entity : UserEntity) :
    (StoresService.save entity).Only fun op : Statement => op.isShared = true := by
  refine Program.only_perform_bind (by rfl) fun found => ?_
  cases found with
  | none => exact Program.only_perform_bind (by rfl) fun _ => trivial
  | some row => exact Program.only_ite trivial (Program.only_perform_bind (by rfl) fun _ => trivial)

/-- The audited routes on the services whose repositories are injected. -/
theorem shared_body (crypto : Crypto) (salt : Bytes) (env : Environment) {call : AuditedCall}
    (isInjected : call.isTransactional = false) :
    (call.body crypto salt env).Only fun op : Statement => op.isShared = true := by
  cases call with
  | createProduct | updateProduct | removeProduct => cases isInjected
  | updateMine storeId dto =>
    refine Program.Only.bind (Program.Only.bind ?_ fun _ => shared_saveStore _) fun _ => trivial
    refine Program.only_perform_bind (by rfl) fun store => ?_
    cases store <;> trivial
  | inviteStaff storeId dto => exact (shared_inviteStaff crypto salt env storeId dto).bind fun _ => trivial
  | updateStaff storeId staffId dto =>
    exact ((shared_findStaff storeId staffId).bind fun _ => shared_saveStaff _).bind fun _ => trivial
  | removeStaff storeId staffId =>
    refine Program.Only.bind ?_ fun _ => trivial
    exact (shared_findStaff storeId staffId).bind fun _ => Program.only_perform (by rfl)
  | setSuspended id suspended =>
    refine Program.Only.bind (Program.only_perform_bind (by rfl) fun store => ?_) fun _ => trivial
    cases store with
    | none => trivial
    | some store => exact shared_saveStore _

/-- The audited routes on products. -/
theorem catalogue_body (crypto : Crypto) (salt : Bytes) (env : Environment) {call : AuditedCall}
    (isTransactional : call.isTransactional = true) :
    (call.body crypto salt env).Only fun op : Statement => op.isCatalogue = true := by
  cases call with
  | createProduct storeId dto =>
    refine Program.Only.bind ?_ fun _ => trivial
    exact (catalogue_requireCategory storeId dto.categoryId).bind fun _ =>
      Program.only_perform_bind (by rfl) fun _ => trivial
  | updateProduct storeId id body =>
    refine Program.Only.bind ?_ fun _ => trivial
    exact (catalogue_findOneProduct storeId id).bind fun _ =>
      (catalogue_requireCategory storeId _).bind fun _ => catalogue_saveProduct env _
  | removeProduct storeId id =>
    refine Program.Only.bind ?_ fun _ => trivial
    exact (catalogue_findOneProduct storeId id).bind fun _ => Program.only_perform (by rfl)
  | updateMine | inviteStaff | updateStaff | removeStaff | setSuspended => cases isTransactional

end Shared

/-! ## The routes as requests on the pool -/

section Routes

variable {α : Type}

/-- What the handler of a route may do, by whether it uses injected repositories. -/
def RequestOp.Injects (injects : Bool) (op : RequestOp statements) : Prop :=
  op.isInside = true ∧ (op.isAuto = true → injects = true)

theorem injects_catalogue {body : Tx α} (injects : Bool) (only : body.Only fun op : Statement => op.isCatalogue = true) :
    body.inTransaction.Only (RequestOp.Injects injects) := by
  refine only.inTransaction fun op isCatalogue => ⟨?_, fun isAuto => by cases isAuto⟩
  cases op with
  | setCurrentStore => cases isCatalogue
  | _ => rfl

theorem injects_shared {body : Tx α} (only : body.Only fun op : Statement => op.isShared = true) :
    body.autocommit.Only (RequestOp.Injects true) :=
  only.autocommit fun _ isShared => ⟨isShared, fun _ => rfl⟩

theorem injects_keyed (storeId : Option Uuid) (path : String) (clientKey : Option String) (statusCode : Nat)
    {next : Handler ResponseBody} {injects : Bool} (keyed : clientKey.any (· ≠ "") = true → injects = true)
    (only : next.Only (RequestOp.Injects injects)) :
    (IdempotencyInterceptor.intercept storeId path clientKey statusCode next).Only (RequestOp.Injects injects) := by
  unfold IdempotencyInterceptor.intercept
  split
  next => exact only.bind fun _ => trivial
  next => exact only.bind fun _ => trivial
  next clientKey isGiven =>
    obtain rfl : injects = true := keyed (by simpa using isGiven)
    have records (statement : IdempotencyStatement) :
        (Tx.idempotency statement).autocommit.Only (RequestOp.Injects true) :=
      injects_shared (Program.only_perform (by rfl))
    refine (records _).bind fun existing => ?_
    cases existing with
    | some record => exact Program.only_ite trivial trivial
    | none =>
      refine Program.Only.bind (Program.Only.handle (records _) fun result => ?_) fun _ => ?_
      · cases result with
        | ok _ => trivial
        | error error => exact Program.only_ite trivial trivial
      · refine Program.Only.handle (only.bind fun body => (records _).bind fun _ => trivial) fun result => ?_
        cases result with
        | ok answer => trivial
        | error error => exact (records _).bind fun _ => trivial

theorem injects_store (storeId : Uuid) (user : AuthenticatedUser) (isStore : user.storeId = some storeId)
    (route : StoreRoute) :
    (route.handler storeId).Only (RequestOp.Injects (AppRoute.store user storeId isStore route).injects) := by
  cases route with
  | catalogue env call => exact (injects_catalogue _ (catalogue_call env storeId call)).bind fun _ => trivial
  | createOrder env clientKey dto =>
    refine (injects_keyed _ _ _ _ id (injects_catalogue _ ?_)).bind fun _ => trivial
    exact (catalogue_createOrder env storeId dto).bind fun _ => trivial
  | createCheckoutSession provider clientKey dto =>
    refine (injects_keyed _ _ _ _ (fun _ => rfl) (injects_shared ?_)).bind fun _ => trivial
    exact (shared_createCheckoutSession provider storeId dto).bind fun _ => trivial

theorem injects_audited (crypto : Crypto) (request : AuditedHttpRequest) :
    (AuditInterceptor.intercept request.env request.audited (Option.map Uuid.text) (request.handler crypto)).Only
      (RequestOp.Injects true) := by
  have handled : (request.handler crypto).Only (RequestOp.Injects true) := by
    unfold AuditedHttpRequest.handler
    cases request.call with
    | error error => trivial
    | ok call =>
      dsimp only
      unfold AuditedCall.handler
      split
      next isTransactional => exact injects_catalogue true (catalogue_body crypto _ _ isTransactional)
      next isInjected => exact injects_shared (shared_body crypto _ _ (Bool.eq_false_iff.mpr isInjected))
  refine handled.bind fun body => ?_
  exact (injects_shared (Program.only_perform (by rfl))).bind fun _ => trivial

/-- Without a store, statements that commit by themselves follow the protocol. -/
theorem unscoped_shared {body : Tx α} (only : body.Only fun op : Statement => op.isShared = true) :
    body.autocommit.Obeys unscoped (fun after _ => after = .outside) .outside :=
  Program.obeys_autocommit_of_only only fun _ _ => ⟨trivial, fun _ => rfl⟩

/-- A user without a store gets past the guards of an audited route only to `setSuspended`. -/
theorem unscoped_audited (crypto : Crypto) {request : AuditedHttpRequest}
    (routed : ∀ call, request.call = .ok call → request.Routed call) (noStore : request.user.storeId = none) :
    (AuditInterceptor.intercept request.env request.audited (Option.map Uuid.text) (request.handler crypto)).Obeys
      unscoped (fun after _ => after = .outside) .outside := by
  have handled : (request.handler crypto).Obeys unscoped (fun after _ => after = .outside) .outside := by
    unfold AuditedHttpRequest.handler
    cases isCall : request.call with
    | error error => rfl
    | ok call =>
      have sameStore : none = call.storeId := noStore.symm.trans (routed call isCall).storeId
      cases call with
      | setSuspended => exact unscoped_shared (shared_body crypto _ _ rfl)
      | createProduct | updateProduct | removeProduct | updateMine | inviteStaff | updateStaff | removeStaff =>
        cases sameStore
  refine handled.handle fun phase result isOutside => ?_
  rw [isOutside]
  cases result with
  | error error => rfl
  | ok answer =>
    refine (unscoped_shared (Program.only_perform (by rfl))).handle fun phase result isOutside => ?_
    cases result <;> exact isOutside

/-- Every route hands out its tokens outside of any request's transaction; `register` opens one of its own. -/
theorem unscoped_tokens (crypto : Crypto) (config : AuthConfig) (env : AuthEnvironment) (route : TokenRoute) :
    (AuthController.tokens crypto config env route).Obeys unscoped (fun _ _ => True) .outside := by
  cases route with
  | login dto => exact (unscoped_shared (shared_login crypto config env dto)).imp fun _ _ _ => trivial
  | refresh token => exact (unscoped_shared (shared_refresh crypto config env token)).imp fun _ _ _ => trivial
  | register newId dto =>
    refine (unscoped_shared (Program.only_perform (by rfl))).handle fun phase result isOutside => ?_
    rw [isOutside]
    cases result with
    | error error => trivial
    | ok existing =>
      cases existing with
      | some user => trivial
      | none =>
        have creates : (AuthService.createAccount crypto env newId dto).inTransaction.Obeys unscoped
            (fun after _ => after = .opened) .opened := by
          refine Program.obeys_inTransaction_of_only (shared_createAccount crypto env newId dto) fun op isShared => ?_
          have setsNone : pooling.sets op = none := by
            cases op with
            | setCurrentStore => cases isShared
            | _ => rfl
          exact ⟨setsNone, fun reply => by cases reply <;> rfl⟩
        have registers : (Program.withTransaction (AuthService.createAccount crypto env newId dto).inTransaction).Obeys
            unscoped (fun after _ => after = .outside) .outside := by
          refine Program.obeys_withTransaction _ trivial (fun _ => rfl) creates (fun phase value isOpened => ?_)
            fun phase error isOpened => ?_
          · subst isOpened
            exact ⟨rfl, rfl, fun _ => rfl⟩
          · subst isOpened
            exact ⟨trivial, fun _ => rfl⟩
        refine registers.handle fun phase result isOutside => ?_
        rw [isOutside]
        cases result with
        | error error => trivial
        | ok user =>
          refine (unscoped_shared (Program.only_perform (by rfl))).handle fun phase result isOutside => ?_
          rw [isOutside]
          cases result with
          | error error => trivial
          | ok _ => exact (unscoped_shared (shared_issueTokens crypto config env user)).imp fun _ _ _ => trivial

/-- Nothing comes after the handler but its answer. -/
theorem unscoped_answered {handler : Handler α} {post : SettingPhase → Except ApiError α → Prop}
    (obeys : handler.Obeys unscoped post .outside) :
    (handler >>= fun _ => (return () : Handler Unit)).Obeys unscoped (fun _ _ => True) .outside :=
  obeys.handle fun phase result _ => by cases result <;> trivial

/-- Every route, as a request on the pool. -/
def AppRequest.ofRoute (crypto : Crypto) (route : AppRoute) : AppRequest Unit where
  user := route.user
  handler := route.handler crypto
  injects := route.injects
  inside stored := by
    cases route with
    | store user storeId isStore route => exact injects_store storeId user isStore route
    | audited request routed => exact (injects_audited crypto request).bind fun _ => trivial
    | tokens | webhook => cases stored
  outside noStore := by
    cases route with
    | store user storeId isStore route => cases isStore.symm.trans noStore
    | audited request routed => exact unscoped_answered (unscoped_audited crypto routed noStore)
    | tokens config env route => exact unscoped_answered (unscoped_tokens crypto config env route)
    | webhook delivered => exact (unscoped_shared (shared_handleWebhook delivered)).imp fun _ _ _ => trivial

end Routes

end StoreSaas
