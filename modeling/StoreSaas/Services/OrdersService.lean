import StoreSaas.Services.ProductsService

/-! # `OrdersService` and `OutboxService`

The bodies of the methods; the transaction in which `create` and `updateStatus` run
is the one the request already has.
-/

namespace StoreSaas

/-- What `IsUUID` lets through: the text as it was sent and the UUID it spells. -/
structure UuidText where
  text : String
  id : Uuid
  spelled : text.toLower = id.text

/-- The spelling that the database itself uses. -/
def UuidText.ofUuid (id : Uuid) : UuidText := ⟨id.text, id, id.toLower_text⟩

structure CreateOrderItemDto where
  productId : UuidText
  quantity : Nat
  atLeastOne : 1 ≤ quantity

structure CreateOrderDto where
  items : List CreateOrderItemDto
  nonempty : items ≠ []

structure UpdateOrderStatusDto where
  status : OrderStatus
  deriving DecidableEq

/-- `amount.toFixed(2)`, for an amount in hundredths. -/
def toFixed2 (amount : Cents) : String :=
  let hundredths := amount.natAbs % 100
  (if amount < 0 then "-" else "") ++ s!"{amount.natAbs / 100}." ++
    (if hundredths < 10 then s!"0{hundredths}" else s!"{hundredths}")

/-! ## The outbox -/

def OutboxService.writeSendEmail (env : Environment) (message : MailMessage) : Tx Unit :=
  Tx.outbox (.insert {
    id := env.newId 1
    eventType := "send-email"
    payload := message
    processed := false
    createdAt := env.now
    processedAt := none })

namespace OrdersService

/-! ## Creating an order -/

/-- An `OrderItem` that has not been saved yet. -/
structure NewItem where
  productId : Uuid
  productName : String
  quantity : Nat
  unitPrice : Cents
  deriving DecidableEq

/-- The row that is inserted for the item at `position`. -/
def NewItem.toRow (env : Environment) (position : Nat) (item : NewItem) : OrderItem where
  id := env.newId (2 + position)
  orderId := env.newId 0
  productId := some item.productId
  productName := item.productName
  quantity := item.quantity
  unitPrice := item.unitPrice
  createdAt := env.now

/-- One round of the loop over `dto.items`: lock, check, decrement. -/
def takeLine (env : Environment) (storeId : Uuid) (line : CreateOrderItemDto) : Tx NewItem := do
  let locked : Option Product ← Tx.product (.selectForUpdate line.productId.id storeId)
  match locked with
  | none => Tx.raise (.notFound s!"Product {line.productId.text} not found")
  | some product =>
    if product.stock < line.quantity then
      Tx.raise (.badRequest
        s!"Insufficient stock for \"{product.name}\": requested {line.quantity}, have {product.stock}")
    else
      let _ ← ProductsService.save env
        { product.toEntity none with stock := some (product.stock - line.quantity) }
      return ⟨product.id, product.name, line.quantity, product.price⟩

/-- The loop over `dto.items`, with `total` and `items` as it accumulates them. -/
def takeLines (env : Environment) (storeId : Uuid) :
    List CreateOrderItemDto → Cents → List NewItem → Tx (Cents × List NewItem)
  | [], total, items => return (total, items)
  | line :: rest, total, items => do
    let item ← takeLine env storeId line
    takeLines env storeId rest (total + item.unitPrice * item.quantity) (items ++ [item])

/-- The e-mail to the owner, written with the order. -/
def notifyOwner (env : Environment) (storeId : Uuid) (savedOrder : Order) : Tx Unit := do
  let store : Option Store ← Tx.outbox (.findStore storeId)
  match store with
  | none => return ()
  | some store =>
    let owner : Option User ← Tx.outbox (.findUser store.ownerId)
    match owner with
    | none => return ()
    | some owner => OutboxService.writeSendEmail env {
        toAddress := owner.email
        subject := s!"New order for {store.name}"
        html := s!"<p>A new order ({savedOrder.id.text}) was created for <strong>{store.name}</strong>, total ${toFixed2 savedOrder.total}.</p>" }

def create (env : Environment) (storeId : Uuid) (dto : CreateOrderDto) : Tx OrderEntity := do
  let (total, items) ← takeLines env storeId dto.items 0 []
  let newOrder : Order := ⟨env.newId 0, storeId, .pending, total, env.now, env.now⟩
  let rows := items.mapIdx (NewItem.toRow env)
  let _ ← Tx.order (.insert newOrder)
  let _ ← Tx.order (.insertItems rows)
  notifyOwner env storeId newOrder
  return ⟨newOrder, rows⟩

/-! ## Reading orders -/

def findAll (env : Environment) (storeId : Uuid) (query : QueryOrderDto) : Tx (Paginated OrderEntity) := do
  let page := query.page.getD 1
  let limit := query.limit.getD 20
  let data : List OrderEntity ← Tx.order (.getMany storeId query env.rank)
  let total : Nat ← Tx.order (.getCount storeId query)
  return ⟨data, buildPaginationMeta total page limit⟩

def findOne (storeId : Uuid) (id : RouteId) : Tx OrderEntity := do
  let order : Option OrderEntity ← Tx.order (.findOne id storeId)
  match order with
  | some order => return order
  | none => Tx.raise (.notFound "Order not found")

/-! ## The status of an order -/

/-- The loop over `order.items`; a line whose product was deleted since is skipped. -/
def restock (env : Environment) (storeId : Uuid) : List OrderItem → Tx Unit
  | [] => return ()
  | item :: rest =>
    match item.productId with
    | none => restock env storeId rest
    | some productId => do
      let _ ← Tx.product (.increment productId storeId item.quantity env.now)
      restock env storeId rest

/-- The cascade of `save` to the items: those whose `product_id` is no longer as it was loaded. -/
def saveItems : List OrderItem → List OrderItem → Tx Unit
  | [], _ => return ()
  | item :: rest, stored => do
    if stored.any (fun row => row.id = item.id ∧ row.productId ≠ item.productId) then
      let _ ← Tx.order (.updateItemProduct item.id item.productId)
    saveItems rest stored

def save (env : Environment) (entity : OrderEntity) : Tx OrderEntity := do
  let found : Option OrderEntity ← Tx.order (.reselect entity)
  match found with
  | none =>
    let _ ← Tx.order (.insert entity.order)
    let _ ← Tx.order (.insertItems entity.items)
    return entity
  | some stored =>
    if entity.order.status = stored.order.status then
      saveItems entity.items stored.items
      return entity
    let _ ← Tx.order (.updateStatus entity.order.id entity.order.status env.now)
    saveItems entity.items stored.items
    return { entity with order := { entity.order with updatedAt := env.now } }

/-- `isNewlyCancelled` -/
def isNewlyCancelled (dto : UpdateOrderStatusDto) (order : Order) : Bool :=
  dto.status = .cancelled ∧ order.status ≠ .cancelled

def updateStatus (env : Environment) (storeId : Uuid) (id : RouteId) (dto : UpdateOrderStatusDto) :
    Tx OrderEntity := do
  let entity ← findOne storeId id
  (if isNewlyCancelled dto entity.order then restock env storeId entity.items else return ())
  save env { entity with order := { entity.order with status := dto.status } }

end OrdersService

end StoreSaas
