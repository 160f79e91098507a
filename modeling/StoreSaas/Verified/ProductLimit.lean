import StoreSaas.Services.Calls
import StoreSaas.Verified.AccountRows
import StoreSaas.Verified.References

/-! # The product limit of a plan

`PLAN_LIMITS` gives every plan a `maxProducts`, but `ProductsService.create` does not
look at it, and `createCheckoutSession` checks the staff alone.  The limit therefore
holds as long as no call adds a product to a full store or chooses a plan that is too
small for the products there are (`productsFit_iff_withinLimit`).
-/

namespace StoreSaas

inductive LimitCall where
  | createProduct (env : Environment) (dto : CreateProductDto)
  | removeProduct (id : RouteId)
  | createCheckoutSession (randomUuid : Uuid) (dto : CreateCheckoutSessionDto)

/-- One call of the store, with the database to itself. -/
def LimitCall.serve (storeId : Uuid) (db : Database) : LimitCall → Database
  | .createProduct env dto => (StoreSaas.serve storeId (ProductsService.create env storeId dto) db).2
  | .removeProduct id => (StoreSaas.serve storeId (ProductsService.remove storeId id) db).2
  | .createCheckoutSession randomUuid dto =>
    (shop.alone (BillingService.createCheckoutSession (MockPaymentProvider.createCheckoutSession randomUuid)
      storeId dto).autocommit db).2

/-! ## The products of a store -/

/-- The row that `ProductsService.create` inserts. -/
def CreateProductDto.toRow (dto : CreateProductDto) (env : Environment) (storeId : Uuid) : Product where
  id := env.newId 0
  storeId := storeId
  categoryId := dto.categoryId.toOption
  name := dto.name
  description := dto.description.toOption
  price := dto.price
  stock := dto.stock.orElse 0
  imageUrl := none
  createdAt := env.now
  updatedAt := env.now

namespace Database

variable {db : Database} {storeId : Uuid}

def productCount (db : Database) (storeId : Uuid) : Nat :=
  (db.products.rows.filter fun row => row.storeId = storeId).length

/-- The lookups and the constraints that a new product has to pass. -/
def admitsProduct (db : Database) (row : Product) : Bool :=
  row.categoryId.all (fun id => (db.findCategory id row.storeId).isSome) && row.fitsColumns &&
    (db.products.find row.id).isNone && db.storeExists row.storeId

theorem productCount_put_of_absent {row : Product} (absent : db.products.find row.id = none)
    (inStore : row.storeId = storeId) :
    (db.write (.product (.put row))).productCount storeId = db.productCount storeId + 1 := by
  have rows := Table.rows_put_of_absent absent
  simp [productCount, write, Table.write, rows, List.filter_append, inStore]

/-- The database without a product, and its items unlinked from it. -/
def removeProduct (db : Database) (p : Uuid) : Database :=
  shop.applyAll db (.product (.erase p) :: db.unlinkProduct p)

theorem applyAll_items {writes : List DbWrite} (items : ∀ write ∈ writes, ∃ change, write = .orderItem change) :
    (shop.applyAll db writes).products = db.products ∧ (shop.applyAll db writes).subscriptions = db.subscriptions := by
  induction writes generalizing db with
  | nil => exact ⟨rfl, rfl⟩
  | cons write rest ih =>
    obtain ⟨⟨change, rfl⟩, inRest⟩ := List.forall_mem_cons.mp items
    exact ih inRest

theorem tables_removeProduct (db : Database) (p : Uuid) :
    (db.removeProduct p).products = db.products.erase p ∧ (db.removeProduct p).subscriptions = db.subscriptions := by
  have items : ∀ write ∈ db.unlinkProduct p, ∃ change, write = .orderItem change := by
    intro write made
    obtain ⟨item, -, rfl⟩ := List.mem_map.mp made
    exact ⟨_, rfl⟩
  have kept := @applyAll_items (db.write (.product (.erase p))) _ items
  exact kept

theorem productCount_removeProduct_le (p : Uuid) : (db.removeProduct p).productCount storeId ≤ db.productCount storeId := by
  rw [productCount, (tables_removeProduct db p).1]
  exact (List.filter_sublist.filter _).length_le

end Database

/-! ## What the calls do -/

section Calls

variable {db : Database} {storeId : Uuid}

theorem runWith_findOneCategory (storeId id : Uuid) (db : Database) :
    (CategoriesService.findOne storeId (some id)).runWith shop.executeOn db =
      (match db.findCategory id storeId with
        | some category => .ok category
        | none => .error (.notFound "Category not found"), db) := by
  have found : (Tx.category (.findOne (some id) storeId)).runWith shop.executeOn db =
      (.ok (db.findCategory id storeId), db) := Program.runWith_perform shop.executeOn _ db
  refine (Program.runWith_bind_ok shop.executeOn found).trans ?_
  cases db.findCategory id storeId <;> rfl

theorem runWith_requireCategory (categoryId : Field Uuid) (db : Database) :
    (ProductsService.requireCategory storeId categoryId).runWith shop.executeOn db =
      (if categoryId.toOption.all fun id => (db.findCategory id storeId).isSome then .ok ()
        else .error (.notFound "Category not found"), db) := by
  cases categoryId with
  | undefined | null => rfl
  | value id =>
    have looked := runWith_findOneCategory storeId id db
    have passes : (Field.value id).toOption.all (fun id => (db.findCategory id storeId).isSome) =
        (db.findCategory id storeId).isSome := rfl
    refine (Program.runWith_bind shop.executeOn _ _ db).trans ?_
    rw [looked, passes]
    rcases Option.eq_none_or_eq_some (db.findCategory id storeId) with absent | ⟨category, found⟩
    · rw [absent]
      rfl
    · rw [found]
      rfl

/-- The `INSERT` of a product whose category exists. -/
theorem runWith_insertProduct {entity : ProductEntity} (row : Product) (isRow : entity.toRow? = some row)
    (exist : db.categoryExists row.categoryId = true) :
    ((row.fitsColumns && (db.products.find row.id).isNone && db.storeExists row.storeId) = true ∧
      (Tx.product (.insert entity) >>= fun _ => return entity : Tx ProductEntity).runWith shop.executeOn db =
        (.ok entity, db.write (.product (.put row)))) ∨
    ((row.fitsColumns && (db.products.find row.id).isNone && db.storeExists row.storeId) = false ∧
      ∃ error, (Tx.product (.insert entity) >>= fun _ => return entity : Tx ProductEntity).runWith shop.executeOn db =
        (.error error, db)) := by
  have inserts : (Tx.product (.insert entity) >>= fun _ => return entity : Tx ProductEntity).runWith shop.executeOn db =
      (Program.onOk (fun _ => .done entity) (shop.executeOn (.product (.insert entity)) db).1).runWith shop.executeOn
        (shop.executeOn (.product (.insert entity)) db).2 := Program.runWith_perform_bind shop.executeOn _ _ db
  rw [inserts]
  simp only [Engine.executeOn, shop, Statement.execute, ProductStatement.execute, isRow, exist, Bool.and_true]
  cases row.fitsColumns with
  | false => exact .inr ⟨rfl, _, rfl⟩
  | true =>
    cases db.products.find row.id with
    | some _ => exact .inr ⟨rfl, _, rfl⟩
    | none =>
      cases db.storeExists row.storeId with
      | false => exact .inr ⟨rfl, _, rfl⟩
      | true => exact .inl ⟨rfl, rfl⟩

/-- A product is created exactly if the database admits it. -/
theorem runWith_createProduct (storeId : Uuid) (env : Environment) (dto : CreateProductDto) (db : Database) :
    (db.admitsProduct (dto.toRow env storeId) = true ∧
      ∃ entity, (ProductsService.create env storeId dto).runWith shop.executeOn db =
        (.ok entity, db.write (.product (.put (dto.toRow env storeId))))) ∨
    (db.admitsProduct (dto.toRow env storeId) = false ∧
      ∃ error, (ProductsService.create env storeId dto).runWith shop.executeOn db = (.error error, db)) := by
  unfold ProductsService.create
  rw [Program.runWith_bind, runWith_requireCategory]
  have sameCategory : (dto.toRow env storeId).categoryId = dto.categoryId.toOption := rfl
  have sameStore : (dto.toRow env storeId).storeId = storeId := rfl
  cases found : dto.categoryId.toOption.all fun id => (db.findCategory id storeId).isSome with
  -- `requireCategory` throws before anything is written
  | false =>
    refine .inr ⟨?_, _, rfl⟩
    rw [Database.admitsProduct, sameCategory, sameStore, found]
    rfl
  | true =>
    -- a category of the store is a category, so the foreign key holds
    have exist : db.categoryExists (dto.toRow env storeId).categoryId = true := by
      rw [sameCategory]
      cases isId : dto.categoryId.toOption with
      | none => rfl
      | some id =>
        rw [isId, Option.all_some, Option.isSome_iff_exists] at found
        obtain ⟨category, isCategory⟩ := found
        exact Option.isSome_iff_exists.mpr ⟨category, (Option.filter_eq_some_iff.mp isCategory).1⟩
    have admits : db.admitsProduct (dto.toRow env storeId) =
        ((dto.toRow env storeId).fitsColumns && (db.products.find (dto.toRow env storeId).id).isNone &&
          db.storeExists (dto.toRow env storeId).storeId) := by
      rw [Database.admitsProduct, sameCategory, sameStore, found, Bool.true_and]
    rw [admits]
    let product : ProductEntity := {
      id := env.newId 0
      storeId := storeId
      categoryId := dto.categoryId.toOption
      name := some dto.name
      description := dto.description.toOption
      price := some dto.price
      stock := some (dto.stock.orElse 0)
      imageUrl := none
      createdAt := env.now
      updatedAt := env.now
      category := none }
    have isRow : product.toRow? = some (dto.toRow env storeId) := rfl
    rcases runWith_insertProduct (dto.toRow env storeId) isRow exist with ⟨passes, ran⟩ | stopped
    · exact .inl ⟨passes, _, ran⟩
    · exact .inr stopped

theorem serve_createProduct (env : Environment) (dto : CreateProductDto) (db : Database) :
    (serve storeId (ProductsService.create env storeId dto) db).2 =
      if db.admitsProduct (dto.toRow env storeId) then db.write (.product (.put (dto.toRow env storeId))) else db := by
  rw [serve_eq_transact, Engine.transact]
  obtain ⟨admits, entity, ran⟩ | ⟨rejects, error, ran⟩ := runWith_createProduct storeId env dto db
  · rw [ran, if_pos admits]
  · rw [ran, rejects, if_neg Bool.false_ne_true]

theorem ensures_removeProduct (id : RouteId) (db : Database) :
    Program.Ensures shop.executeOn (ProductsService.remove storeId id) db fun _ after =>
      after = db ∨ ∃ p, after = db.removeProduct p := by
  have looks : Program.Ensures shop.executeOn (ProductsService.findOne storeId id) db fun _ after => after = db := by
    refine Program.ensures_perform_bind fun found after ran => ?_
    obtain ⟨writes, executed, rfl⟩ := Engine.executeOn_eq_ok ran
    have noWrites : writes = [] := ProductStatement.execute_read rfl executed
    subst noWrites
    cases found with
    | none => exact Program.ensures_throw
    | some product => exact Program.ensures_done rfl
  refine looks.bind fun product after same => ?_
  subst same
  refine Program.ensures_perform fun reply final ran => ?_
  obtain ⟨writes, executed, rfl⟩ := Engine.executeOn_eq_ok ran
  obtain ⟨-, rfl⟩ | ⟨row, -, rfl⟩ := ProductStatement.execute_delete executed
  · exact .inl rfl
  · exact .inr ⟨row.id, rfl⟩

theorem serve_removeProduct (id : RouteId) (db : Database) :
    (serve storeId (ProductsService.remove storeId id) db).2 = db ∨
      ∃ p, (serve storeId (ProductsService.remove storeId id) db).2 = db.removeProduct p := by
  rcases serve_cases storeId (ProductsService.remove storeId id) db with ⟨value, ran⟩ | ⟨same, -⟩
  · exact ensures_removeProduct id db value _ ran
  · exact .inl same

theorem runWith_assertStaffFitsPlan (storeId : Uuid) (plan : Plan) (db : Database) :
    (BillingService.assertStaffFitsPlan storeId plan).runWith shop.executeOn db =
      (if db.staffCount storeId ≤ plan.maxStaff then .ok ()
        else .error (BillingService.staffExceedsPlan plan (db.staffCount storeId)), db) := by
  have counted : (Tx.user (.count storeId .staff)).runWith shop.executeOn db = (.ok (db.staffCount storeId), db) :=
    Program.runWith_perform shop.executeOn _ db
  refine (Program.runWith_bind_ok shop.executeOn counted).trans ?_
  by_cases fits : db.staffCount storeId ≤ plan.maxStaff
  · rw [if_pos fits, if_neg (Nat.not_lt.mpr fits)]
    rfl
  · rw [if_neg fits, if_pos (Nat.lt_of_not_ge fits)]
    rfl

/-- A plan is changed exactly if the staff fits it. -/
theorem alone_createCheckoutSession (randomUuid : Uuid) (dto : CreateCheckoutSessionDto) (db : Database) :
    (shop.alone (BillingService.createCheckoutSession (MockPaymentProvider.createCheckoutSession randomUuid)
      storeId dto).autocommit db).2 =
      if db.staffCount storeId ≤ dto.targetPlan.maxStaff then
        db.changeSubscription storeId ⟨dto.targetPlan, .active, none, none⟩
      else db := by
  rw [Engine.alone_autocommit]
  have checked := runWith_assertStaffFitsPlan storeId dto.targetPlan db
  have changes : (BillingService.applyPlanChange storeId dto.targetPlan none none).runWith shop.executeOn db =
      (.ok (), db.changeSubscription storeId ⟨dto.targetPlan, .active, none, none⟩) := by
    refine (Program.runWith_perform_bind shop.executeOn _ _ db).trans ?_
    rw [Database.executeOn_updateSubscription]
    rfl
  -- the mock provider always answers, with the plan that was asked for
  let url : String := s!"{dto.successUrl}?mock_session={randomUuid.text}&plan={dto.targetPlan.text}"
  change (Program.runWith shop.executeOn (BillingService.assertStaffFitsPlan storeId dto.targetPlan >>= fun _ =>
    BillingService.applyPlanChange storeId dto.targetPlan none none >>= fun _ => (return url : Tx String)) db).2 = _
  by_cases fits : db.staffCount storeId ≤ dto.targetPlan.maxStaff
  · rw [if_pos fits] at checked ⊢
    rw [Program.runWith_bind_ok shop.executeOn checked, Program.runWith_bind_ok shop.executeOn changes]
    rfl
  · rw [if_neg fits] at checked ⊢
    rw [Program.runWith_bind, checked]
    rfl

end Calls

/-! ## The limit -/

namespace Database

/-- The store has a subscription, and no more products than its plan admits. -/
def ProductsFit (db : Database) (storeId : Uuid) : Prop :=
  ∃ subscription, db.subscriptionOf storeId = some subscription ∧
    ∀ maxProducts, subscription.plan.maxProducts = some maxProducts → db.productCount storeId ≤ maxProducts

/-- What `AuthService.register` leaves of a new store: the free plan, and nothing in the catalogue. -/
structure FreshlyRegistered (db : Database) (storeId : Uuid) : Prop where
  store : db.storeExists storeId = true
  plan : ∃ subscription, db.subscriptionOf storeId = some subscription ∧ subscription.plan = .free
  staff : db.staffCount storeId = 0
  products : db.productCount storeId = 0

theorem FreshlyRegistered.productsFit {db : Database} {storeId : Uuid} (fresh : db.FreshlyRegistered storeId) :
    db.ProductsFit storeId := by
  obtain ⟨subscription, found, -⟩ := fresh.plan
  exact ⟨subscription, found, fun maxProducts _ => fresh.products ▸ Nat.zero_le _⟩

/-- The plan that the store has now. -/
def planOf (db : Database) (storeId : Uuid) : Option Plan := (db.subscriptionOf storeId).map Subscription.plan

end Database

/-- A product that is added has room in the plan; a plan that is chosen has room for the products. -/
def LimitCall.withinLimit (storeId : Uuid) (db : Database) : LimitCall → Bool
  | .createProduct env dto =>
    !db.admitsProduct (dto.toRow env storeId) ||
      ((db.planOf storeId).bind Plan.maxProducts).all (db.productCount storeId + 1 ≤ ·)
  | .removeProduct _ => true
  | .createCheckoutSession _ dto =>
    !decide (db.staffCount storeId ≤ dto.targetPlan.maxStaff) ||
      dto.targetPlan.maxProducts.all (db.productCount storeId ≤ ·)

section Runs

variable {storeId : Uuid}

theorem productsFit_iff {db : Database} {subscription : Subscription} (found : db.subscriptionOf storeId = some subscription) :
    db.ProductsFit storeId ↔ subscription.plan.maxProducts.all (db.productCount storeId ≤ ·) = true := by
  have onlyOne : db.ProductsFit storeId ↔
      ∀ maxProducts, subscription.plan.maxProducts = some maxProducts → db.productCount storeId ≤ maxProducts := by
    constructor
    · rintro ⟨other, isOther, fits⟩
      rw [found] at isOther
      cases isOther
      exact fits
    · exact fun fits => ⟨subscription, found, fits⟩
  rw [onlyOne]
  cases subscription.plan.maxProducts <;> simp

/-- One call keeps the limit exactly if it is within the limit. -/
theorem productsFit_serve_iff {db : Database} (fits : db.ProductsFit storeId) (call : LimitCall) :
    (call.serve storeId db).ProductsFit storeId ↔ call.withinLimit storeId db = true := by
  obtain ⟨subscription, found, limit⟩ := fits
  have fitsNow : db.ProductsFit storeId := ⟨subscription, found, limit⟩
  cases call with
  | createProduct env dto =>
    simp only [LimitCall.serve, serve_createProduct, LimitCall.withinLimit]
    cases admits : db.admitsProduct (dto.toRow env storeId) with
    | false => exact iff_of_true fitsNow rfl
    | true =>
      have absent : db.products.find (dto.toRow env storeId).id = none := by
        simp only [Database.admitsProduct, Bool.and_eq_true, Option.isNone_iff_eq_none] at admits
        exact admits.1.2
      have sameSubscription : (db.write (.product (.put (dto.toRow env storeId)))).subscriptionOf storeId =
          some subscription := found
      have inStore : (dto.toRow env storeId).storeId = storeId := rfl
      rw [if_pos rfl, productsFit_iff sameSubscription, Database.productCount_put_of_absent absent inStore,
        Database.planOf, found]
      rfl
  | removeProduct id =>
    refine iff_of_true ?_ rfl
    rcases serve_removeProduct id db with same | ⟨p, removed⟩
    · rw [LimitCall.serve, same]
      exact fitsNow
    · rw [LimitCall.serve, removed]
      refine ⟨subscription, ?_, fun maxProducts isLimit => ?_⟩
      · rw [Database.subscriptionOf, (Database.tables_removeProduct db p).2]
        exact found
      · exact Nat.le_trans (Database.productCount_removeProduct_le p) (limit maxProducts isLimit)
  | createCheckoutSession randomUuid dto =>
    simp only [LimitCall.serve, alone_createCheckoutSession, LimitCall.withinLimit]
    by_cases admits : db.staffCount storeId ≤ dto.targetPlan.maxStaff
    · have changed : (db.changeSubscription storeId ⟨dto.targetPlan, .active, none, none⟩).subscriptionOf storeId =
          some (PlanChange.applyTo ⟨dto.targetPlan, .active, none, none⟩ subscription) := by
        rw [Database.subscriptionOf_changeSubscription, if_pos rfl, found]
        rfl
      rw [if_pos admits, productsFit_iff changed, decide_eq_true admits]
      rfl
    · rw [if_neg admits, decide_eq_false admits]
      exact iff_of_true fitsNow rfl

open Transition

/-- Whatever is created, removed and chosen from registration on, the limit holds throughout exactly
    if every call is within it. -/
theorem productsFit_iff_withinLimit {start : Database} {run : List (LimitCall × Database)}
    (fresh : start.FreshlyRegistered storeId)
    (isRun : Run (fun source call target => target = call.serve storeId source) start run) :
    EachState (fun db => db.ProductsFit storeId) start run ↔
      EachStep (fun source call _ => call.withinLimit storeId source = true) start run := by
  have exact_step : ∀ source call target, True → source.ProductsFit storeId → target = LimitCall.serve storeId source call →
      (target.ProductsFit storeId ↔ call.withinLimit storeId source = true) := by
    rintro source call target - fits rfl
    exact productsFit_serve_iff fits call
  exact eachState_iff_eachStep exact_step (fun _ _ _ _ _ _ _ => trivial) trivial fresh.productsFit isRun

end Runs

/-! ## A small shop on the free plan -/

namespace SmallShop

theorem freshlyRegistered : freeStore.FreshlyRegistered 1 where
  store := by decide
  plan := ⟨⟨5, 1, .free, .active, none, none⟩, by decide⟩
  staff := by decide
  products := by decide

/-- One more packet of tea. -/
def createTea (newId : Nat) : LimitCall :=
  .createProduct ⟨1, fun _ => newId, fun _ => 0⟩ ⟨"Tea", .undefined, 450, .undefined, .undefined⟩

/-- A first product, the other plan, and back again without the product. -/
def upAndDown : List LimitCall :=
  [createTea 20, .createCheckoutSession 0 ⟨.pro, "https://corner.example/paid", "https://corner.example/plans"⟩, .removeProduct (some 20),
    .createCheckoutSession 0 ⟨.free, "https://corner.example/paid", "https://corner.example/plans"⟩]

def oneTooMany : List LimitCall := (List.range 21).map createTea

end SmallShop

theorem productsFit_smallShop :
    Transition.EachState (fun db => db.ProductsFit 1) SmallShop.freeStore
      (Transition.runOf (LimitCall.serve 1) SmallShop.freeStore SmallShop.upAndDown) :=
  (productsFit_iff_withinLimit SmallShop.freshlyRegistered (Transition.run_runOf _ _ _)).mpr (by decide)

/-- The free plan does not stop the twenty-first product. -/
theorem not_productsFit :
    ¬ ∀ (storeId : Uuid) (start : Database) (run : List (LimitCall × Database)), start.FreshlyRegistered storeId →
      Transition.Run (fun source call target => target = LimitCall.serve storeId source call) start run →
      (Transition.final start run).ProductsFit storeId := by
  intro productsFit
  obtain ⟨subscription, found, limit⟩ := productsFit 1 SmallShop.freeStore
    (Transition.runOf (LimitCall.serve 1) SmallShop.freeStore SmallShop.oneTooMany) SmallShop.freshlyRegistered
    (Transition.run_runOf _ _ _)
  let after := Transition.final SmallShop.freeStore
    (Transition.runOf (LimitCall.serve 1) SmallShop.freeStore SmallShop.oneTooMany)
  have stillFree : after.subscriptionOf 1 = some ⟨5, 1, .free, .active, none, none⟩ := by decide +kernel
  have count : after.productCount 1 = 21 := by decide +kernel
  rw [stillFree] at found
  cases found
  have atMost : after.productCount 1 ≤ 20 := limit 20 rfl
  omega

end StoreSaas
