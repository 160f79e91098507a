import StoreSaas.Services.Calls

/-! # Which statements the services use

For each method the statements it can come to, whatever the database replies.  An
invariant that all of them keep holds through the method (`Engine.body_of_only`).
-/

namespace StoreSaas

/-! ## Reading -/

theorem Statement.executeOn_read {op : Statement} (reads : op.isRead = true) (db : Database) :
    (shop.executeOn op db).2 = db := by
  unfold Engine.executeOn
  cases executed : shop.execute op db with
  | error error => rfl
  | ok result =>
    obtain ⟨reply, writes⟩ := result
    obtain rfl : writes = [] := Statement.execute_read reads executed
    rfl

theorem runWith_reads {α : Type} {body : Tx α} (only : body.Only fun op : Statement => op.isRead = true)
    (db : Database) : (body.runWith shop.executeOn db).2 = db :=
  by
  have keeps : ∀ (op : Statement) (state : Database), op.isRead = true → state = db →
      (shop.executeOn op state).2 = db :=
    fun _ _ reads same => (Statement.executeOn_read reads _).trans same
  exact Program.runWith_of_only shop.executeOn only keeps rfl

theorem only_findOneProduct (storeId : Uuid) (id : RouteId) :
    (ProductsService.findOne storeId id).Only fun op : Statement => op.isRead = true := by
  refine Program.only_perform_bind (by rfl) fun found => ?_
  cases found <;> trivial

theorem only_findOneCategory (storeId : Uuid) (id : RouteId) :
    (CategoriesService.findOne storeId id).Only fun op : Statement => op.isRead = true := by
  refine Program.only_perform_bind (by rfl) fun found => ?_
  cases found <;> trivial

theorem only_requireCategory (storeId : Uuid) (categoryId : Field Uuid) :
    (ProductsService.requireCategory storeId categoryId).Only fun op : Statement => op.isRead = true := by
  cases categoryId with
  | undefined | null => trivial
  | value id => exact (only_findOneCategory storeId (some id)).bind fun _ => trivial

theorem only_findOneOrder (storeId : Uuid) (id : RouteId) :
    (OrdersService.findOne storeId id).Only fun op : Statement => op.isRead = true := by
  refine Program.only_perform_bind (by rfl) fun found => ?_
  cases found <;> trivial

/-! ## Creating an order -/

/-- The statements on products of `OrdersService.create`. -/
def Statement.takes : Statement → Bool
  | .product (.selectForUpdate _ _) | .product (.reselect _) | .product (.insert _) | .product (.update _ _ _) => true
  | _ => false

/-- The statements with which `save` writes a product. -/
inductive SavesProduct (env : Environment) (entity : ProductEntity) : Statement → Prop where
  | reselect : SavesProduct env entity (.product (.reselect entity))
  | insert : SavesProduct env entity (.product (.insert entity))
  | update (changes : ProductChanges) : SavesProduct env entity (.product (.update entity.id changes env.now))

theorem only_saveProduct_saves (env : Environment) (entity : ProductEntity) :
    (ProductsService.save env entity).Only (SavesProduct env entity) := by
  refine Program.only_perform_bind .reselect fun found => ?_
  cases found with
  | none => exact Program.only_perform_bind .insert fun _ => trivial
  | some row =>
    dsimp only
    split
    next => trivial
    next => exact Program.only_perform_bind (.update _) fun _ => trivial

theorem only_saveProduct (env : Environment) (entity : ProductEntity) :
    (ProductsService.save env entity).Only fun op : Statement => op.takes = true :=
  (only_saveProduct_saves env entity).imp fun op saves => by cases saves <;> rfl

theorem only_takeLine (env : Environment) (storeId : Uuid) (line : CreateOrderItemDto) :
    (OrdersService.takeLine env storeId line).Only fun op : Statement => op.takes = true := by
  refine Program.only_perform_bind (by rfl) fun locked => ?_
  cases locked with
  | none => trivial
  | some product =>
    dsimp only
    split
    next => trivial
    next => exact (only_saveProduct env _).bind fun _ => trivial

theorem only_takeLines (env : Environment) (storeId : Uuid) (lines : List CreateOrderItemDto) (total : Cents)
    (items : List OrdersService.NewItem) :
    (OrdersService.takeLines env storeId lines total items).Only fun op : Statement => op.takes = true := by
  induction lines generalizing total items with
  | nil => trivial
  | cons line rest ih => exact (only_takeLine env storeId line).bind fun _ => ih _ _

theorem only_notifyOwner (env : Environment) (storeId : Uuid) (savedOrder : Order) :
    (OrdersService.notifyOwner env storeId savedOrder).Only fun op : Statement => ∃ mail, op = .outbox mail := by
  refine Program.only_perform_bind ⟨_, rfl⟩ fun store => ?_
  cases store with
  | none => trivial
  | some store =>
    refine Program.only_perform_bind ⟨_, rfl⟩ fun owner => ?_
    cases owner with
    | none => trivial
    | some owner => exact Program.only_perform ⟨_, rfl⟩

/-! ## Setting the status of an order -/

theorem only_restock (env : Environment) (storeId : Uuid) (items : List OrderItem) :
    (OrdersService.restock env storeId items).Only fun op : Statement =>
      ∃ id quantity, op = .product (.increment id storeId quantity env.now) := by
  induction items with
  | nil => trivial
  | cons item rest ih =>
    unfold OrdersService.restock
    split
    next => exact ih
    next => exact Program.only_perform_bind ⟨_, _, rfl⟩ fun _ => ih

/-- The statements with which `save` writes an order and cascades to its items. -/
inductive SavesOrder (env : Environment) (entity : OrderEntity) : Statement → Prop where
  | reselect : SavesOrder env entity (.order (.reselect entity))
  | insert : SavesOrder env entity (.order (.insert entity.order))
  | insertItems : SavesOrder env entity (.order (.insertItems entity.items))
  | updateStatus : SavesOrder env entity (.order (.updateStatus entity.order.id entity.order.status env.now))
  | updateItem {item : OrderItem} : item ∈ entity.items →
      SavesOrder env entity (.order (.updateItemProduct item.id item.productId))

theorem only_saveItems (env : Environment) (entity : OrderEntity) {items : List OrderItem} (stored : List OrderItem)
    (all : ∀ item ∈ items, item ∈ entity.items) :
    (OrdersService.saveItems items stored).Only (SavesOrder env entity) := by
  induction items with
  | nil => trivial
  | cons item rest ih =>
    obtain ⟨ofEntity, restOfEntity⟩ := List.forall_mem_cons.mp all
    unfold OrdersService.saveItems
    split
    next => exact Program.only_perform_bind (.updateItem ofEntity) fun _ => ih restOfEntity
    next => exact ih restOfEntity

theorem only_saveOrder (env : Environment) (entity : OrderEntity) :
    (OrdersService.save env entity).Only (SavesOrder env entity) := by
  refine Program.only_perform_bind .reselect fun found => ?_
  cases found with
  | none =>
    exact Program.only_perform_bind .insert fun _ => Program.only_perform_bind .insertItems fun _ => trivial
  | some stored =>
    have cascade := only_saveItems env entity stored.items fun _ => id
    dsimp only
    split
    next => exact cascade.bind fun _ => trivial
    next => exact Program.only_perform_bind .updateStatus fun _ => cascade.bind fun _ => trivial

end StoreSaas
