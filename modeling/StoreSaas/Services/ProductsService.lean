import StoreSaas.Services.CategoriesService

/-! # `ProductsService` -/

namespace StoreSaas

/-- `CreateProductDto`; the class sets `stock` to 0 where the body has none. -/
structure CreateProductDto where
  name : String
  description : Field String
  price : Nat
  stock : Field Nat
  categoryId : Field Uuid
  deriving DecidableEq

/-- `UpdateProductDto`, as it reaches the service. -/
structure UpdateProductDto where
  name : Field String
  description : Field String
  price : Field Nat
  stock : Field Nat
  categoryId : Field Uuid
  deriving DecidableEq

/-- The JSON body of a `PATCH /products/:id` that passes validation: the fields of the class, and the
    other keys, which the whitelist strips. -/
structure PatchProductBody where
  name : Field String
  description : Field String
  price : Field Nat
  stock : Field Nat
  categoryId : Field Uuid
  otherKeys : List String
  deriving DecidableEq

/-- `new UpdateProductDto()`: `PartialType` copies the property initializers of `CreateProductDto`. -/
def UpdateProductDto.new : UpdateProductDto := ⟨.undefined, .undefined, .undefined, .value 0, .undefined⟩

/-- What a class instance has for a field once the keys of the body are copied onto it. -/
def Field.over {α : Type} : Field α → Field α → Field α
  | .undefined, initial => initial
  | .null, _ => .null
  | .value given, _ => .value given

/-- `ValidationPipe { whitelist: true, transform: true }` -/
def ValidationPipe.transform (body : PatchProductBody) : UpdateProductDto where
  name := body.name.over UpdateProductDto.new.name
  description := body.description.over UpdateProductDto.new.description
  price := body.price.over UpdateProductDto.new.price
  stock := body.stock.over UpdateProductDto.new.stock
  categoryId := body.categoryId.over UpdateProductDto.new.categoryId

structure PaginationMeta where
  total : Nat
  page : Nat
  limit : Nat
  totalPages : Nat
  deriving DecidableEq

structure Paginated (Row : Type) where
  data : List Row
  pagination : PaginationMeta
  deriving DecidableEq

/-- `Math.max(1, Math.ceil(total / limit))` -/
def buildPaginationMeta (total page limit : Nat) : PaginationMeta where
  total := total
  page := page
  limit := limit
  totalPages := max 1 ((total + limit - 1) / limit)

/-- `Object.assign(product, dto)` -/
def UpdateProductDto.assignTo (dto : UpdateProductDto) (product : ProductEntity) : ProductEntity :=
  { product with
    name := dto.name.assign product.name
    description := dto.description.assign product.description
    price := (match dto.price with
      | .undefined => product.price
      | .null => none
      | .value price => some price)
    stock := (match dto.stock with
      | .undefined => product.stock
      | .null => none
      | .value stock => some stock)
    categoryId := dto.categoryId.assign product.categoryId }

namespace ProductsService

def save (env : Environment) (entity : ProductEntity) : Tx ProductEntity := do
  let found : Option Product ← Tx.product (.reselect entity)
  match found with
  | none =>
    let _ ← Tx.product (.insert entity)
    return entity
  | some row =>
    if entity.changes row = .unchanged then return entity
    let _ ← Tx.product (.update entity.id (entity.changes row) env.now)
    return { entity with updatedAt := env.now }

/-- The lookup that throws if the category does not exist or belongs to another store. -/
def requireCategory (storeId : Uuid) (categoryId : Field Uuid) : Tx Unit :=
  match categoryId with
  | .value id => do
    let _ ← CategoriesService.findOne storeId (some id)
    return ()
  | .undefined | .null => return ()

def create (env : Environment) (storeId : Uuid) (dto : CreateProductDto) : Tx ProductEntity := do
  requireCategory storeId dto.categoryId
  let product : ProductEntity := {
    id := env.newId 0
    storeId := storeId
    categoryId := dto.categoryId.toOption
    name := some dto.name
    description := dto.description.toOption
    price := some dto.price
    stock := some (dto.stock.orElse 0)
    imageUrl := none
    createdAt := env.now
    updatedAt := env.now
    category := none }
  let _ ← Tx.product (.insert product)
  return product

def findAll (env : Environment) (storeId : Uuid) (query : QueryProductDto) :
    Tx (Paginated ProductEntity) := do
  let page := query.page.getD 1
  let limit := query.limit.getD 20
  let counted : List ProductEntity × Nat ← Tx.product (.getManyAndCount storeId query env.rank)
  return ⟨counted.1, buildPaginationMeta counted.2 page limit⟩

def findOne (storeId : Uuid) (id : RouteId) : Tx ProductEntity := do
  let product : Option ProductEntity ← Tx.product (.findOne id storeId)
  match product with
  | some product => return product
  | none => Tx.raise (.notFound "Product not found")

def update (env : Environment) (storeId : Uuid) (id : RouteId) (dto : UpdateProductDto) :
    Tx ProductEntity := do
  let product ← findOne storeId id
  requireCategory storeId dto.categoryId
  save env (dto.assignTo product)

def remove (storeId : Uuid) (id : RouteId) : Tx Unit := do
  let product ← findOne storeId id
  Tx.product (.delete product.id)

def setImage (env : Environment) (storeId : Uuid) (id : RouteId) (imageUrl : String) :
    Tx ProductEntity := do
  let product ← findOne storeId id
  save env { product with imageUrl := some imageUrl }

end ProductsService

/-- `PATCH /products/:id` -/
def ProductsController.update (env : Environment) (storeId : Uuid) (id : RouteId) (body : PatchProductBody) :
    Tx ProductEntity :=
  ProductsService.update env storeId id (ValidationPipe.transform body)

end StoreSaas
