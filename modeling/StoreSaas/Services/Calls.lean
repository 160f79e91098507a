import StoreSaas.Library.Sequential
import StoreSaas.Services.Interceptors

/-! # Calls of the catalogue and the orders

Every operation of the three services as a value, with the handler that serves it,
and `serve`: the request of one call with the database to itself.
-/

namespace StoreSaas

inductive Call where
  | createCategory (dto : CreateCategoryDto)
  | findAllCategories
  | findOneCategory (id : RouteId)
  | updateCategory (id : RouteId) (dto : UpdateCategoryDto)
  | removeCategory (id : RouteId)
  | createProduct (dto : CreateProductDto)
  | findAllProducts (query : QueryProductDto)
  | findOneProduct (id : RouteId)
  | updateProduct (id : RouteId) (dto : UpdateProductDto)
  | removeProduct (id : RouteId)
  | setImage (id : RouteId) (imageUrl : String)
  | createOrder (dto : CreateOrderDto)
  | findAllOrders (query : QueryOrderDto)
  | findOneOrder (id : RouteId)
  | updateStatus (id : RouteId) (dto : UpdateOrderStatusDto)

inductive CallResult where
  | category (entity : CategoryEntity)
  | categories (rows : List Category)
  | product (entity : ProductEntity)
  | products (page : Paginated ProductEntity)
  | order (entity : OrderEntity)
  | orders (page : Paginated OrderEntity)
  | nothing
  deriving DecidableEq

def Call.handler (env : Environment) (storeId : Uuid) : Call → Tx CallResult
  | .createCategory dto => do return .category (← CategoriesService.create env storeId dto)
  | .findAllCategories => do return .categories (← CategoriesService.findAll env storeId)
  | .findOneCategory id => do return .category (← CategoriesService.findOne storeId id).toEntity
  | .updateCategory id dto => do return .category (← CategoriesService.update env storeId id dto)
  | .removeCategory id => do
    CategoriesService.remove storeId id
    return .nothing
  | .createProduct dto => do return .product (← ProductsService.create env storeId dto)
  | .findAllProducts query => do return .products (← ProductsService.findAll env storeId query)
  | .findOneProduct id => do return .product (← ProductsService.findOne storeId id)
  | .updateProduct id dto => do return .product (← ProductsService.update env storeId id dto)
  | .removeProduct id => do
    ProductsService.remove storeId id
    return .nothing
  | .setImage id imageUrl => do return .product (← ProductsService.setImage env storeId id imageUrl)
  | .createOrder dto => do return .order (← OrdersService.create env storeId dto)
  | .findAllOrders query => do return .orders (← OrdersService.findAll env storeId query)
  | .findOneOrder id => do return .order (← OrdersService.findOne storeId id)
  | .updateStatus id dto => do return .order (← OrdersService.updateStatus env storeId id dto)

/-- A request that nothing interleaves with. -/
def serve {α : Type} (storeId : Uuid) (handler : Tx α) (db : Database) : Except ApiError α × Database :=
  shop.alone (inRequest storeId handler) db

/-- The handler's transaction, as the scheduler sees it. -/
theorem inRequest_eq {α : Type} (storeId : Uuid) (handler : Tx α) :
    inRequest storeId handler =
      Program.withTransaction (Program.inTransaction (Tx.setCurrentStore storeId >>= fun _ => handler)) := by
  rw [Program.inTransaction_bind]
  rfl

theorem serve_eq_transact {α : Type} (storeId : Uuid) (handler : Tx α) (db : Database) :
    serve storeId handler db = shop.transact handler db := by
  rw [serve, inRequest_eq, Engine.alone_withTransaction]
  rfl

theorem serve_of_ok {α : Type} (storeId : Uuid) {handler : Tx α} {db after : Database} {value : α}
    (ran : handler.runWith shop.executeOn db = (.ok value, after)) :
    serve storeId handler db = (.ok value, after) := by
  rw [serve_eq_transact, Engine.transact, ran]

/-- A call either returns what its handler does, or fails and leaves the database as it was. -/
theorem serve_cases {α : Type} (storeId : Uuid) (handler : Tx α) (db : Database) :
    (∃ value, handler.runWith shop.executeOn db = (.ok value, (serve storeId handler db).2)) ∨
      ((serve storeId handler db).2 = db ∧
        ∃ error after, handler.runWith shop.executeOn db = (.error error, after)) := by
  rw [serve_eq_transact]
  unfold Engine.transact
  cases ran : handler.runWith shop.executeOn db with
  | mk result after =>
    cases result with
    | ok value => exact .inl ⟨value, rfl⟩
    | error error => exact .inr ⟨rfl, error, after, rfl⟩

end StoreSaas
