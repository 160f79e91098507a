import StoreSaas.Library.Transition
import StoreSaas.Verified.OrderMethods

/-! # Orders and stock, one call after the other

`heldQuantity` is what a product's stock and its orders that are not cancelled add up
to.  `heldQuantity_result` says exactly what one call does to it: nothing, except that
a status other than `CANCELLED` set on a cancelled order adds the order's items, which
are not taken out of the stock again.
-/

namespace StoreSaas

inductive OrderCall where
  | create (dto : CreateOrderDto)
  | updateStatus (id : RouteId) (dto : UpdateOrderStatusDto)

def OrderCall.handler (env : Environment) (storeId : Uuid) : OrderCall → Tx OrderEntity
  | .create dto => OrdersService.create env storeId dto
  | .updateStatus id dto => OrdersService.updateStatus env storeId id dto

/-- One call of a run; one that is aborted from outside is rolled back. -/
structure OrderAction where
  env : Environment
  storeId : Uuid
  call : OrderCall
  aborted : Bool

namespace OrderAction

def result (action : OrderAction) (db : Database) : Database :=
  if action.aborted then db
  else (serve action.storeId (action.call.handler action.env action.storeId) db).2

def Steps (source : Database) (action : OrderAction) (target : Database) : Prop :=
  target = action.result source

/-- The call is about the status of this order. -/
def changesStatusOf (orderId : Uuid) (action : OrderAction) : Bool :=
  match action.call with
  | .updateStatus id _ => id = some orderId
  | .create _ => false

/-- The cancelled order that a call takes out of `CANCELLED`. -/
def reopened (action : OrderAction) (db : Database) : Option Order :=
  match action.aborted, action.call with
  | false, .updateStatus (some id) dto =>
    if dto.status = .cancelled then none
    else (db.findOrder id action.storeId).filter fun order => order.status = .cancelled
  | _, _ => none

/-- A call that takes an order out of `CANCELLED` that has an item whose product still exists. -/
def Reopens (db : Database) (action : OrderAction) : Prop :=
  ∃ order, action.reopened db = some order ∧ ∃ item ∈ db.itemsOf order.id, item.productId.isSome = true

theorem reopened_eq_some {action : OrderAction} {db : Database} {order : Order}
    (reopens : action.reopened db = some order) :
    action.aborted = false ∧ ∃ id dto, action.call = .updateStatus (some id) dto ∧ dto.status ≠ .cancelled ∧
      db.findOrder id action.storeId = some order ∧ order.status = .cancelled := by
  obtain ⟨env, storeId, call, aborted⟩ := action
  cases aborted with
  | true => cases reopens
  | false =>
    cases call with
    | create dto => cases reopens
    | updateStatus id dto =>
      cases id with
      | none => cases reopens
      | some id =>
        simp only [reopened] at reopens
        split at reopens
        next => cases reopens
        next keeps =>
          obtain ⟨found, isCancelled⟩ := Option.filter_eq_some_iff.mp reopens
          exact ⟨rfl, id, dto, rfl, keeps, found, of_decide_eq_true isCancelled⟩

/-- What each call leads to. -/
theorem result_cases (action : OrderAction) {db : Database} (linked : db.Linked) :
    (action.result db = db ∧ action.reopened db = none) ∨
    (action.reopened db = none ∧ (∀ id, action.changesStatusOf id = false) ∧
      ∃ lines newOrder rows, OrderCreated db (action.result db) action.storeId lines newOrder rows) ∨
    (∃ id status order updated, (∀ other, action.changesStatusOf other = decide (id = other)) ∧
      action.reopened db = (if order.status = .cancelled ∧ status ≠ .cancelled then some order else none) ∧
      StatusSet db (action.result db) id action.storeId status order updated) := by
  obtain ⟨env, storeId, call, aborted⟩ := action
  cases aborted with
  | true => exact .inl ⟨rfl, rfl⟩
  | false =>
    cases call with
    | create dto =>
      rcases serve_cases storeId (OrdersService.create env storeId dto) db with ⟨entity, ran⟩ | ⟨failed, -⟩
      · exact .inr (.inl ⟨rfl, fun _ => rfl, dto.items, entity.order, entity.items,
          ensures_create env storeId dto db _ _ ran⟩)
      · exact .inl ⟨failed, rfl⟩
    | updateStatus id dto =>
      rcases serve_cases storeId (OrdersService.updateStatus env storeId id dto) db with
        ⟨entity, ran⟩ | ⟨failed, error, after, ran⟩
      · obtain ⟨uuid, order, updated, rfl, set⟩ := ensures_updateStatus env storeId id dto linked _ _ ran
        refine .inr (.inr ⟨uuid, dto.status, order, updated, fun other => ?_, ?_, set⟩)
        · simp only [changesStatusOf, Option.some.injEq]
        · simp only [reopened, set.found]
          by_cases cancels : dto.status = .cancelled
          · rw [if_pos cancels, if_neg fun both => both.2 cancels]
          · by_cases was : order.status = .cancelled <;> simp [Option.filter, cancels, was]
      · refine .inl ⟨failed, ?_⟩
        by_contra reopens
        obtain ⟨order, isReopened⟩ := Option.ne_none_iff_exists'.mp reopens
        obtain ⟨-, uuid, other, isCall, keeps, found, -⟩ := reopened_eq_some isReopened
        cases isCall
        obtain ⟨entity, after, succeeds⟩ := runWith_updateStatus env found
          (by simp [OrdersService.isNewlyCancelled, keeps] : OrdersService.isNewlyCancelled dto order = false)
        cases ran.symm.trans succeeds

end OrderAction

/-! ## What a product's stock and orders add up to -/

/-- What an order holds of a product: its items, unless it is cancelled. -/
def Database.heldBy (db : Database) (p : Uuid) (order : Order) : Int :=
  if order.status = .cancelled then 0 else quantityOf p (db.itemsOf order.id)

def Database.heldQuantity (db : Database) (p : Uuid) : Int := db.stockOf p + db.orders.total (db.heldBy p)

/-- What an order has given back of a product. -/
def Database.returnedBy (db : Database) (orderId p : Uuid) : Int :=
  match db.orders.find orderId with
  | none => 0
  | some order => if order.status = .cancelled then quantityOf p (db.itemsOf orderId) else 0

theorem Database.returnedBy_nonneg (db : Database) (orderId p : Uuid) : 0 ≤ db.returnedBy orderId p := by
  unfold returnedBy
  split
  next => exact le_refl 0
  next =>
    split
    next => exact quantityOf_nonneg p _
    next => exact le_refl 0

theorem Database.returnedBy_le (db : Database) (orderId p : Uuid) :
    db.returnedBy orderId p ≤ quantityOf p (db.itemsOf orderId) := by
  have nonneg := quantityOf_nonneg p (db.itemsOf orderId)
  unfold returnedBy
  split
  next => exact nonneg
  next => split <;> omega

namespace OrderCreated

variable {before after : Database} {storeId : Uuid} {lines : List CreateOrderItemDto} {newOrder : Order}
  {rows : List OrderItem}

theorem find_ne (created : OrderCreated before after storeId lines newOrder rows) {id : Uuid}
    (differs : id ≠ newOrder.id) : after.orders.find id = before.orders.find id := by
  rw [created.orders, Table.find_put_ne _ differs]

theorem find_new (created : OrderCreated before after storeId lines newOrder rows) :
    after.orders.find newOrder.id = some newOrder := by
  rw [created.orders, Table.find_put_same]

theorem itemsOf_ne (created : OrderCreated before after storeId lines newOrder rows) {id : Uuid}
    (differs : id ≠ newOrder.id) : after.itemsOf id = before.itemsOf id := by
  have noRow : rows.filter (fun item => item.orderId = id) = [] := by
    refine List.filter_eq_nil_iff.mpr fun row present => ?_
    simpa [created.ofOrder row present] using differs.symm
  rw [Database.itemsOf, created.orderItems, List.filter_append, noRow, List.append_nil, Database.itemsOf]

theorem itemsOf_new (created : OrderCreated before after storeId lines newOrder rows) (linked : before.Linked) :
    after.itemsOf newOrder.id = rows := by
  have allRows : rows.filter (fun item => item.orderId = newOrder.id) = rows :=
    List.filter_eq_self.mpr fun row present => decide_eq_true (created.ofOrder row present)
  have noneBefore := linked.itemsOf_of_absent created.fresh
  rw [Database.itemsOf] at noneBefore
  rw [Database.itemsOf, created.orderItems, List.filter_append, noneBefore, allRows, List.nil_append]

theorem heldQuantity (created : OrderCreated before after storeId lines newOrder rows) (linked : before.Linked)
    (p : Uuid) : after.heldQuantity p = before.heldQuantity p := by
  have others : before.orders.total (after.heldBy p) = before.orders.total (before.heldBy p) := by
    refine Table.total_congr fun order present => ?_
    have differs : order.id ≠ newOrder.id := by
      intro same
      have found := Table.find_of_mem present
      rw [same, created.fresh] at found
      cases found
    rw [Database.heldBy, Database.heldBy, created.itemsOf_ne differs]
  have own : after.heldBy p newOrder = orderedQuantity p lines := by
    rw [Database.heldBy, created.pending, if_neg (by decide), created.itemsOf_new linked, created.taken]
  rw [Database.heldQuantity, created.orders, Table.total_put_of_absent _ created.fresh, others, own,
    created.stock, Database.heldQuantity]
  omega

theorem returnedBy (created : OrderCreated before after storeId lines newOrder rows) (orderId p : Uuid) :
    after.returnedBy orderId p = before.returnedBy orderId p := by
  by_cases same : orderId = newOrder.id
  · subst same
    rw [Database.returnedBy, created.find_new, Database.returnedBy, created.fresh]
    dsimp only
    rw [created.pending, if_neg (by decide)]
  · rw [Database.returnedBy, created.find_ne same, created.itemsOf_ne same, Database.returnedBy]

end OrderCreated

namespace StatusSet

variable {before after : Database} {id storeId : Uuid} {status : OrderStatus} {order updated : Order}

theorem stored (set : StatusSet before after id storeId status order updated) :
    before.orders.find updated.id = some order := by
  rw [set.sameId]
  exact (Database.findOrder_eq_some set.found).1

theorem itemsOf (set : StatusSet before after id storeId status order updated) (other : Uuid) :
    after.itemsOf other = before.itemsOf other := by
  rw [Database.itemsOf, set.orderItems, Database.itemsOf]

theorem heldQuantity (set : StatusSet before after id storeId status order updated) (p : Uuid) :
    after.heldQuantity p = before.heldQuantity p +
      if order.status = .cancelled ∧ status ≠ .cancelled then quantityOf p (before.itemsOf id) else 0 := by
  obtain ⟨-, sameOrder, -⟩ := Database.findOrder_eq_some set.found
  have sameAmounts : after.orders.total (after.heldBy p) = after.orders.total (before.heldBy p) :=
    Table.total_congr fun other _ => by rw [Database.heldBy, set.itemsOf, Database.heldBy]
  rw [Database.heldQuantity, sameAmounts, set.orders, Table.total_put_of_present _ set.stored, set.stock,
    Database.heldQuantity, Database.heldBy, Database.heldBy, set.newStatus, set.sameId, sameOrder, restocked]
  cases was : order.status <;> cases status <;> simp [OrdersService.isNewlyCancelled, was] <;> omega

theorem returnedBy_ne (set : StatusSet before after id storeId status order updated) {orderId : Uuid}
    (differs : orderId ≠ id) (p : Uuid) : after.returnedBy orderId p = before.returnedBy orderId p := by
  rw [Database.returnedBy, set.orders, Table.find_put_ne _ (by rw [set.sameId]; exact differs), set.itemsOf,
    Database.returnedBy]

/-- What `updateStatus` adds to the stock is what the order has given back by it, unless it reopens the order. -/
theorem returnedBy_same (set : StatusSet before after id storeId status order updated)
    {p : Uuid} (keeps : order.status = .cancelled ∧ status ≠ .cancelled → quantityOf p (before.itemsOf id) = 0) :
    after.stockOf p - before.stockOf p = after.returnedBy id p - before.returnedBy id p := by
  have stored := set.stored
  obtain rfl := set.sameId
  rw [set.stock, restocked, Database.returnedBy, set.orders, Table.find_put_same, set.itemsOf, Database.returnedBy,
    stored]
  dsimp only
  rw [set.newStatus]
  cases was : order.status <;> cases isNow : status <;>
    simp_all [OrdersService.isNewlyCancelled]

end StatusSet

/-! ## References survive the calls -/

/-- Rows that stay in their place are found where they were. -/
theorem find_of_places {before after : Database}
    (places : ∀ p, (after.products.find p).map Product.place = (before.products.find p).map Product.place)
    {p : Uuid} {row : Product} (found : after.products.find p = some row) :
    ∃ old, before.products.find p = some old ∧ old.place = row.place := by
  have place := places p
  rw [found, Option.map_some] at place
  exact Option.map_eq_some_iff.mp place.symm

namespace Database.Linked

variable {before after : Database}

/-- Product rows that stay in their place keep their categories. -/
theorem productCategory_of_places (linked : before.Linked)
    (places : ∀ p, (after.products.find p).map Product.place = (before.products.find p).map Product.place)
    (categories : after.categories = before.categories) :
    ∀ row ∈ after.products.rows, ∀ c, row.categoryId = some c →
      ∃ category, after.categories.find c = some category ∧ category.storeId = row.storeId := by
  intro row present c isC
  obtain ⟨old, oldAt, samePlace⟩ := find_of_places places (Table.find_of_mem present)
  obtain ⟨category, found, inStore⟩ := linked.productCategory old (Table.mem_of_find oldAt) c
    ((congrArg Prod.snd samePlace).trans isC)
  exact ⟨category, by rw [categories]; exact found, inStore.trans (congrArg Prod.fst samePlace)⟩

theorem product_of_places {storeId p : Uuid}
    (places : ∀ p, (after.products.find p).map Product.place = (before.products.find p).map Product.place)
    (inStore : ∃ row, before.products.find p = some row ∧ row.storeId = storeId) :
    ∃ row, after.products.find p = some row ∧ row.storeId = storeId := by
  obtain ⟨row, found, rowStore⟩ := inStore
  obtain ⟨new, newAt, samePlace⟩ := find_of_places (fun q => (places q).symm) found
  exact ⟨new, newAt, (congrArg Prod.fst samePlace).trans rowStore⟩

end Database.Linked

theorem OrderCreated.keepsLinked {before after : Database} {storeId : Uuid} {lines : List CreateOrderItemDto}
    {newOrder : Order} {rows : List OrderItem} (created : OrderCreated before after storeId lines newOrder rows)
    (linked : before.Linked) : after.Linked where
  itemOrder item present := by
    rw [created.orderItems, List.mem_append] at present
    rcases present with old | new
    · have exist := linked.itemOrder item old
      have differs : item.orderId ≠ newOrder.id := by
        intro same
        rw [same, created.fresh] at exist
        cases exist
      rw [created.find_ne differs]
      exact exist
    · rw [created.ofOrder item new, created.find_new]
      rfl
  itemProduct item present order isOrder p isP := by
    refine Database.Linked.product_of_places created.places ?_
    rw [created.orderItems, List.mem_append] at present
    rcases present with old | new
    · have exist := linked.itemOrder item old
      have differs : item.orderId ≠ newOrder.id := by
        intro same
        rw [same, created.fresh] at exist
        cases exist
      rw [created.find_ne differs] at isOrder
      exact linked.itemProduct item old order isOrder p isP
    · rw [created.ofOrder item new, created.find_new] at isOrder
      cases isOrder
      rw [created.inStore]
      exact (created.linked item new).2 p isP
  productCategory := linked.productCategory_of_places created.places created.categories
  positive item present := by
    rw [created.orderItems, List.mem_append] at present
    exact present.elim (linked.positive item) fun new => (created.linked item new).1

theorem StatusSet.keepsLinked {before after : Database} {id storeId : Uuid} {status : OrderStatus}
    {order updated : Order} (set : StatusSet before after id storeId status order updated)
    (linked : before.Linked) : after.Linked where
  itemOrder item present := by
    rw [set.orderItems] at present
    rw [set.orders, Table.find_put]
    split
    next => rfl
    next => exact linked.itemOrder item present
  itemProduct item present other isOther p isP := by
    rw [set.orderItems] at present
    refine Database.Linked.product_of_places set.places ?_
    rw [set.orders, Table.find_put] at isOther
    split at isOther
    next same =>
      cases isOther
      obtain ⟨-, -, inStore⟩ := Database.findOrder_eq_some set.found
      rw [set.sameStore, ← inStore]
      exact linked.itemProduct item present order (by rw [same]; exact set.stored) p isP
    next => exact linked.itemProduct item present other isOther p isP
  productCategory := linked.productCategory_of_places set.places set.categories
  positive item present := linked.positive item (by rw [set.orderItems] at present; exact present)

/-! ## One call -/

namespace OrderAction

variable (action : OrderAction) {db : Database} (linked : db.Linked)

include linked

theorem result_linked : (action.result db).Linked := by
  rcases action.result_cases linked with ⟨same, -⟩ | ⟨-, -, _, _, _, created⟩ | ⟨_, _, _, _, -, -, set⟩
  · rw [same]; exact linked
  · exact created.keepsLinked linked
  · exact set.keepsLinked linked

/-- A call changes what a product's stock and orders add up to only by reopening an order, by its items. -/
theorem heldQuantity_result (p : Uuid) :
    (action.result db).heldQuantity p = db.heldQuantity p +
      ((action.reopened db).map fun order => quantityOf p (db.itemsOf order.id)).getD 0 := by
  rcases action.result_cases linked with
    ⟨same, nothing⟩ | ⟨nothing, -, _, _, _, created⟩ | ⟨id, status, order, updated, -, reopens, set⟩
  · rw [same, nothing]; simp
  · rw [created.heldQuantity linked, nothing]; simp
  · obtain ⟨-, sameOrder, -⟩ := Database.findOrder_eq_some set.found
    rw [set.heldQuantity, reopens]
    split
    next => rw [Option.map_some, Option.getD_some, sameOrder]
    next => simp

theorem conserves_iff :
    (∀ p, (action.result db).heldQuantity p = db.heldQuantity p) ↔ ¬ action.Reopens db := by
  simp only [action.heldQuantity_result linked]
  constructor
  · rintro conserved ⟨order, reopens, item, present, hasProduct⟩
    obtain ⟨p, isP⟩ := Option.isSome_iff_exists.mp hasProduct
    have unchanged := conserved p
    rw [reopens, Option.map_some, Option.getD_some] at unchanged
    have positive := quantityOf_pos present isP (linked.positive item (Database.mem_itemsOf.mp present).1)
    omega
  · intro keeps p
    cases reopens : action.reopened db with
    | none => simp
    | some order =>
      have nothing : quantityOf p (db.itemsOf order.id) = 0 := quantityOf_eq_zero fun item present isP =>
        keeps ⟨order, reopens, item, present, by rw [isP]; rfl⟩
      rw [Option.map_some, Option.getD_some, nothing, Int.add_zero]

/-- Without reopening, the calls on an order add to the stock what the order has given back. -/
theorem returnedBy_result (keeps : ¬ action.Reopens db) (orderId p : Uuid) :
    (if action.changesStatusOf orderId then (action.result db).stockOf p - db.stockOf p else 0) =
      (action.result db).returnedBy orderId p - db.returnedBy orderId p := by
  rcases action.result_cases linked with
    ⟨same, -⟩ | ⟨-, noStatus, _, _, _, created⟩ | ⟨id, status, order, updated, names, reopens, set⟩
  · rw [same]
    simp
  · rw [noStatus, created.returnedBy]
    simp
  · rw [names]
    by_cases same : id = orderId
    · subst same
      have nothing : order.status = .cancelled ∧ status ≠ .cancelled → quantityOf p (db.itemsOf id) = 0 := by
        intro takenOut
        obtain ⟨-, sameOrder, -⟩ := Database.findOrder_eq_some set.found
        rw [if_pos takenOut] at reopens
        exact quantityOf_eq_zero fun item present isP =>
          keeps ⟨order, reopens, item, by rw [sameOrder]; exact present, by rw [isP]; rfl⟩
      rw [← set.returnedBy_same nothing]
      simp
    · rw [set.returnedBy_ne (Ne.symm same)]
      simp [same]

end OrderAction

/-! ## Runs -/

open Transition

/-- What the calls on an order's status add to a product's stock, over a run. -/
def givenBack (orderId p : Uuid) : Database → List (OrderAction × Database) → Int
  | _, [] => 0
  | source, (action, target) :: rest =>
    (if action.changesStatusOf orderId then target.stockOf p - source.stockOf p else 0) +
      givenBack orderId p target rest

/-- Every product keeps what its stock and its orders add up to, in every state of the run, and no
    order gives back more of it than it took. -/
def StockConserved (start : Database) (run : List (OrderAction × Database)) : Prop :=
  EachState (fun db => ∀ p, db.heldQuantity p = start.heldQuantity p) start run ∧
    ∀ orderId p, givenBack orderId p start run ≤ quantityOf p ((final start run).itemsOf orderId)

theorem givenBack_eq {start : Database} {run : List (OrderAction × Database)} (linked : start.Linked)
    (isRun : Run OrderAction.Steps start run)
    (keeps : EachStep (fun source action _ => ¬ action.Reopens source) start run) (orderId p : Uuid) :
    givenBack orderId p start run = (final start run).returnedBy orderId p - start.returnedBy orderId p := by
  induction run generalizing start with
  | nil => exact (Int.sub_self _).symm
  | cons entry rest ih =>
    obtain ⟨action, target⟩ := entry
    obtain ⟨stepped, restRun⟩ := isRun
    obtain ⟨keepsNow, keepsRest⟩ := keeps
    have targetIs : target = action.result start := stepped
    subst targetIs
    rw [givenBack, action.returnedBy_result linked keepsNow, ih (action.result_linked linked) restRun keepsRest, final]
    omega

/-- Stock is conserved in exactly those runs in which no call takes a cancelled order with a product
    that still exists back out of `CANCELLED`. -/
theorem stockConserved_iff {start : Database} {run : List (OrderAction × Database)} (linked : start.Linked)
    (isRun : Run OrderAction.Steps start run) :
    StockConserved start run ↔ EachStep (fun source action _ => ¬ action.Reopens source) start run := by
  have held : EachState (fun db => ∀ p, db.heldQuantity p = start.heldQuantity p) start run ↔
      EachStep (fun source action _ => ¬ action.Reopens source) start run := by
    refine eachState_iff_eachStep ?_ ?_ linked (fun _ => rfl) isRun
    · rintro source action target sourceLinked before stepped
      have targetIs : target = action.result source := stepped
      subst targetIs
      rw [← action.conserves_iff sourceLinked]
      exact forall_congr' fun p => by rw [before p]
    · rintro source action target sourceLinked - stepped -
      have targetIs : target = action.result source := stepped
      exact targetIs ▸ action.result_linked sourceLinked
  constructor
  · exact fun conserved => held.mp conserved.1
  · intro keeps
    refine ⟨held.mpr keeps, fun orderId p => ?_⟩
    rw [givenBack_eq linked isRun keeps]
    have atMost := (final start run).returnedBy_le orderId p
    have before := start.returnedBy_nonneg orderId p
    omega

/-- Setting the status of the small shop's order. -/
def SmallShop.setStatus (status : OrderStatus) : OrderAction :=
  ⟨⟨1, fun n => 100 + n, fun _ => 0⟩, 1, .updateStatus (some 3) ⟨status⟩, false⟩

/-- A run, given by its calls. -/
def runOf (start : Database) : List OrderAction → List (OrderAction × Database)
  | [] => []
  | action :: rest => (action, action.result start) :: runOf (action.result start) rest

theorem run_runOf (start : Database) (actions : List OrderAction) :
    Run OrderAction.Steps start (runOf start actions) := by
  induction actions generalizing start with
  | nil => trivial
  | cons action rest ih => exact ⟨rfl, ih _⟩

theorem stockConserved_smallShop :
    StockConserved SmallShop.db (runOf SmallShop.db
      [SmallShop.setStatus .completed, SmallShop.setStatus .cancelled, SmallShop.setStatus .cancelled]) := by
  refine (stockConserved_iff SmallShop.linked (run_runOf _ _)).mpr ⟨?_, ?_, ?_, trivial⟩ <;>
    exact fun ⟨_, reopens, _⟩ => nomatch reopens

/-- Cancelled, set back to pending and cancelled again, the order of two gives back four. -/
theorem not_stockConserved :
    ¬ ∀ start run, start.Linked → Run OrderAction.Steps start run → StockConserved start run := by
  intro conserved
  have atMost := (conserved SmallShop.db _ SmallShop.linked (run_runOf _
    [SmallShop.setStatus .cancelled, SmallShop.setStatus .pending, SmallShop.setStatus .cancelled])).2 3 2
  revert atMost
  decide

end StoreSaas
