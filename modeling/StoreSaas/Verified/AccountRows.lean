import StoreSaas.Library.Sequential
import StoreSaas.Services.BillingService

/-! # Users and subscriptions, as their statements leave them

What `updateSubscription` makes of the subscriptions, and what each write to `users`
does to the number of a store's staff.
-/

namespace StoreSaas.Database

variable {db : Database}

/-! ## Subscriptions -/

/-- Every subscription row of the store is changed. -/
def changeSubscription (db : Database) (storeId : Uuid) (change : PlanChange) : Database :=
  let matching := db.subscriptions.rows.filter fun row => row.storeId = storeId
  { db with subscriptions := (matching.map change.applyTo).foldl Table.put db.subscriptions }

theorem rows_changeSubscription (db : Database) (storeId : Uuid) (change : PlanChange) :
    (db.changeSubscription storeId change).subscriptions.rows =
      db.subscriptions.rows.map fun row => if row.storeId = storeId then change.applyTo row else row := by
  have keeps : ∀ row : Subscription, (change.applyTo row).id = row.id := fun _ => rfl
  have updated := Table.rows_update_where db.subscriptions (fun row => row.storeId = storeId) keeps
  simpa [changeSubscription] using updated

theorem executeOn_updateSubscription (db : Database) (storeId : Uuid) (change : PlanChange) :
    shop.executeOn (.billing (.updateSubscription storeId change)) db =
      (.ok (db.subscriptions.rows.filter fun row => row.storeId = storeId).length,
        db.changeSubscription storeId change) := by
  have folded : ∀ (rows : List Subscription) (before : Database),
      shop.applyAll before (rows.map fun row => DbWrite.subscription (.put (change.applyTo row))) =
        { before with subscriptions := (rows.map change.applyTo).foldl Table.put before.subscriptions } := by
    intro rows
    induction rows with
    | nil => exact fun before => rfl
    | cons row rest ih => exact fun before => ih _
  exact Prod.ext rfl (folded _ db)

theorem subscriptionOf_changeSubscription (storeId other : Uuid) (change : PlanChange) :
    (db.changeSubscription storeId change).subscriptionOf other =
      if other = storeId then (db.subscriptionOf other).map change.applyTo else db.subscriptionOf other := by
  have keepsStore : ∀ row : Subscription, (change.applyTo row).storeId = row.storeId := fun _ => rfl
  rw [subscriptionOf, rows_changeSubscription, List.find?_map, subscriptionOf]
  have samePredicate : ((fun row : Subscription => decide (row.storeId = other)) ∘ fun row =>
      if row.storeId = storeId then change.applyTo row else row) = fun row => decide (row.storeId = other) := by
    funext row
    simp only [Function.comp_apply]
    split <;> rfl
  rw [samePredicate]
  cases found : db.subscriptions.rows.find? fun row => decide (row.storeId = other) with
  | none => split <;> rfl
  | some row =>
    have isOther : row.storeId = other := by simpa using List.find?_some found
    simp only [Option.map_some, isOther]
    split <;> rfl

/-! ## Staff -/

theorem staffCount_put_of_absent {row : User} (absent : db.users.find row.id = none) (storeId : Uuid) :
    ({ db with users := db.users.put row } : Database).staffCount storeId =
      db.staffCount storeId + if row.storeId = some storeId ∧ row.role = .staff then 1 else 0 := by
  simp only [staffCount, Table.rows_put_of_absent absent, List.filter_append, List.length_append, Nat.add_left_cancel_iff]
  by_cases isStaff : row.storeId = some storeId ∧ row.role = .staff <;> simp [isStaff]

theorem staffCount_erase_le (id storeId : Uuid) :
    ({ db with users := db.users.erase id } : Database).staffCount storeId ≤ db.staffCount storeId :=
  (List.filter_sublist.filter _).length_le

theorem executeOn_deleteUser (db : Database) (id : Uuid) :
    shop.executeOn (.user (.delete id)) db = (.ok (), { db with users := db.users.erase id }) := by
  simp only [Engine.executeOn, shop, Statement.execute, UserStatement.execute]
  cases found : db.users.find id with
  | none =>
    refine Prod.ext rfl ?_
    have unchanged : db.users.erase id = db.users := by
      apply Table.ext
      refine List.filter_eq_self.mpr fun row present => ?_
      exact decide_eq_true (Table.find_eq_none_iff.mp found row present)
    change db = { db with users := db.users.erase id }
    rw [unchanged]
  | some row =>
    have isId : row.id = id := Table.key_of_find found
    subst isId
    rfl

end StoreSaas.Database
