import StoreSaas.Services.ProductsService
import StoreSaas.Services.StoresService

/-! # Store settings and `AdminService`

Both load a store, assign to it and `save` it, each statement committed by itself, and a
SuperAdmin may list all stores.
-/

namespace StoreSaas

structure UpdateStoreDto where
  name : Field String
  deriving DecidableEq

namespace StoresService

def findMine (storeId : Uuid) : Tx Store := do
  let store : Option Store ← Tx.store (.findOne (some storeId))
  match store with
  | some store => return store
  | none => Tx.raise (.notFound "Store not found")

/-- `stores.save(store)` -/
def saveStore (entity : StoreEntity) : Tx StoreEntity := do
  let found : Option Store ← Tx.store (.reselect entity)
  match found with
  | none =>
    let _ ← Tx.store (.insert entity)
    return entity
  | some row =>
    if entity.changes row = .nothing then return entity
    let _ ← Tx.store (.update entity.id (entity.changes row))
    return entity

def updateMine (storeId : Uuid) (dto : UpdateStoreDto) : Tx StoreEntity := do
  let store ← findMine storeId
  saveStore { store.toEntity with name := dto.name.assign (some store.name) }

end StoresService

namespace AdminService

/-- `findAllStores`, with the stores' subscriptions. -/
def findAllStores (rank : Uuid → Nat) (page limit : Option Nat) : Tx (Paginated (Store × Option Subscription)) := do
  let page := page.getD 1
  let limit := limit.getD 20
  let counted : List (Store × Option Subscription) × Nat ← Tx.store (.findAndCount page limit rank)
  return ⟨counted.1, buildPaginationMeta counted.2 page limit⟩

def setSuspended (storeId : RouteId) (suspended : Bool) : Tx StoreEntity := do
  let store : Option Store ← Tx.store (.findOne storeId)
  match store with
  | some store => StoresService.saveStore { store.toEntity with isSuspended := suspended }
  | none => Tx.raise (.notFound "Store not found")

end AdminService

end StoreSaas
