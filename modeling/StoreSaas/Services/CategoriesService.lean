import StoreSaas.Schema.Statements

/-! # `CategoriesService`

`save` of an entity without an id is an `INSERT`; `save` of a loaded one selects the
row again by its primary key and then inserts it, updates the columns that differ,
or does nothing.
-/

namespace StoreSaas

/-- What a call takes from its surroundings: the clock, the ids that the database
    generates, and how it orders rows that an `ORDER BY` leaves equal. -/
structure Environment where
  now : Timestamp
  newId : Nat → Uuid
  rank : Uuid → Nat

structure CreateCategoryDto where
  name : String
  deriving DecidableEq

structure UpdateCategoryDto where
  name : Field String
  deriving DecidableEq

/-- `Object.assign`, for one field: what the body does not mention stays. -/
def Field.assign {α : Type} : Field α → Option α → Option α
  | .undefined, old => old
  | .null, _ => none
  | .value given, _ => some given

/-- `dto.field ?? fallback` -/
def Field.orElse {α : Type} : Field α → α → α
  | .value given, _ => given
  | .undefined, fallback | .null, fallback => fallback

/-- `dto.field ?? null`, and the value that is tested by `if (dto.field)`. -/
def Field.toOption {α : Type} : Field α → Option α
  | .value given => some given
  | .undefined | .null => none

namespace CategoriesService

def save (env : Environment) (entity : CategoryEntity) : Tx CategoryEntity := do
  let found : Option Category ← Tx.category (.reselect entity)
  match found with
  | none =>
    let _ ← Tx.category (.insert entity)
    return entity
  | some row =>
    if entity.name = some row.name then return entity
    let _ ← Tx.category (.update entity.id entity.name env.now)
    return { entity with updatedAt := env.now }

def create (env : Environment) (storeId : Uuid) (dto : CreateCategoryDto) : Tx CategoryEntity := do
  let category : CategoryEntity := ⟨env.newId 0, storeId, some dto.name, env.now, env.now⟩
  let _ ← Tx.category (.insert category)
  return category

def findAll (env : Environment) (storeId : Uuid) : Tx (List Category) :=
  Tx.category (.find storeId env.rank)

def findOne (storeId : Uuid) (id : RouteId) : Tx Category := do
  let category : Option Category ← Tx.category (.findOne id storeId)
  match category with
  | some category => return category
  | none => Tx.raise (.notFound "Category not found")

def update (env : Environment) (storeId : Uuid) (id : RouteId) (dto : UpdateCategoryDto) :
    Tx CategoryEntity := do
  let category ← findOne storeId id
  save env { category.toEntity with name := dto.name.assign (some category.name) }

def remove (storeId : Uuid) (id : RouteId) : Tx Unit := do
  let category ← findOne storeId id
  Tx.category (.delete category.id)

end CategoriesService

end StoreSaas
