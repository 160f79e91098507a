import StoreSaas.Services.AppRequests

/-! # The statements under the policies

`products`, `categories` and `orders` have the policy `tenant_isolation`.  A statement under
it selects from the rows that the setting admits, changes and deletes such rows only, and
inserts no others.  Foreign keys and unique columns are checked on the whole tables, and
`ON DELETE SET NULL` is carried out there.
-/

namespace StoreSaas

/-- The rows that the policies admit, and the tables that have none. -/
def Database.visible (db : Database) (setting : Option Uuid) : Database :=
  { db with
    categories := db.categories.restrict ((tenantIsolation Category.storeId).admitted setting)
    products := db.products.restrict ((tenantIsolation Product.storeId).admitted setting)
    orders := db.orders.restrict ((tenantIsolation Order.storeId).admitted setting) }

/-- `new row violates row-level security policy` -/
def ApiError.insufficientPrivilege : ApiError := .queryFailed "42501"

namespace Statement

/-- The store of the row that an `INSERT` adds to a table with a policy. -/
def insertsFor : Statement → Option Uuid
  | .product (.insert entity) => some entity.storeId
  | .category (.insert entity) => some entity.storeId
  | .order (.insert row) => some row.storeId
  | _ => none

/-- The row of a table with a policy that an `UPDATE` or a `DELETE` is about. -/
def changes : Statement → Option RowKey
  | .product (.update id _ _) | .product (.increment id _ _ _) | .product (.delete id) => some (.product id)
  | .category (.update id _ _) | .category (.delete id) => some (.category id)
  | .order (.updateStatus id _ _) => some (.order id)
  | _ => none

/-- No `UPDATE` of the services changes a `store_id`, so that `WITH CHECK` is about the `INSERT`s. -/
def executeSecured (setting : Option Uuid) (statement : Statement) (db : Database) :
    Except ApiError (statement.Reply × List DbWrite) :=
  if statement.isRead = true then statement.execute (db.visible setting)
  else if statement.insertsFor.any (fun storeId => setting ≠ some storeId) = true then .error .insufficientPrivilege
  else if statement.changes.any (fun key => ((db.visible setting).row key).isNone) = true then
    statement.execute (db.visible setting)
  else statement.execute db

/-- With the setting of the transaction, which `set_config` changes. -/
def executeSecuredOn (statement : Statement) (state : Option Uuid × Database) :
    Except ApiError statement.Reply × (Option Uuid × Database) :=
  match statement.executeSecured state.1 state.2 with
  | .ok (reply, writes) => (.ok reply, ((pooling.sets statement).or state.1, shop.applyAll state.2 writes))
  | .error error => (.error error, state)

end Statement

/-- A request that nothing interleaves with, under the policies. -/
def serveSecured {α : Type} (storeId : Uuid) (handler : Tx α) (db : Database) : Except ApiError α × Database :=
  match (Tx.setCurrentStore storeId >>= fun _ => handler).runWith Statement.executeSecuredOn (none, db) with
  | (.ok value, (_, after)) => (.ok value, after)
  | (.error error, _) => (.error error, db)

end StoreSaas
