import StoreSaas.Verified.AccountRows
import StoreSaas.Verified.UniqueColumns

/-! # Owners, stores and subscriptions

An abstract view of three tables: the role and the store of each user, the owner of each
store, the store of each subscription.  A registration makes a family, one of each, that
name each other.  `Accounts.Sound` says that families are there as a whole or not at all,
that there are no owners and stores outside them, and that staff has a store; most
statements do not change the view.
-/

namespace StoreSaas

/-- What the tables say of who belongs where. -/
@[ext]
structure Accounts where
  users : Uuid → Option (Role × Option Uuid)
  /-- The owner of each store. -/
  stores : Uuid → Option Uuid
  /-- The store of each subscription. -/
  subscriptions : Uuid → Option Uuid

/-- The ids of the three rows that a registration makes. -/
structure Family where
  owner : Uuid
  store : Uuid
  subscription : Uuid

namespace Family

/-- The rows are there and name each other. -/
structure Born (family : Family) (accounts : Accounts) : Prop where
  owner : accounts.users family.owner = some (.storeOwner, some family.store)
  store : accounts.stores family.store = some family.owner
  subscription : accounts.subscriptions family.subscription = some family.store

structure Unborn (family : Family) (accounts : Accounts) : Prop where
  owner : accounts.users family.owner = none
  store : accounts.stores family.store = none
  subscription : accounts.subscriptions family.subscription = none

end Family

namespace Accounts

variable {families makes : Family → Prop} {before after : Accounts}

/-- All owners and stores are of families that are there as a whole. -/
structure Sound (families : Family → Prop) (accounts : Accounts) : Prop where
  whole : ∀ family, families family → family.Born accounts ∨ family.Unborn accounts
  owner : ∀ id storeId, accounts.users id = some (.storeOwner, storeId) → ∃ family, families family ∧ family.owner = id
  store : ∀ id ownerId, accounts.stores id = some ownerId → ∃ family, families family ∧ family.store = id
  staff : ∀ id storeId, accounts.users id = some (.staff, storeId) →
    ∃ s ownerId, storeId = some s ∧ accounts.stores s = some ownerId

/-- What a change leaves sound; `makes` are the families it may bring into being. -/
structure Evolves (families makes : Family → Prop) (before after : Accounts) : Prop where
  sound : after.Sound families
  born : ∀ family, families family → family.Born before → family.Born after
  unborn : ∀ family, families family → ¬ makes family → family.Unborn before → family.Unborn after

theorem Evolves.same (sound : before.Sound families) : Evolves families makes before before :=
  ⟨sound, fun _ _ born => born, fun _ _ _ unborn => unborn⟩

/-- A family with its owner, or with its store, is born. -/
theorem Sound.born_of_owner (sound : before.Sound families) {family : Family} (isFamily : families family)
    (present : before.users family.owner ≠ none) : family.Born before :=
  (sound.whole family isFamily).resolve_right fun unborn => present unborn.owner

theorem Sound.born_of_store (sound : before.Sound families) {family : Family} (isFamily : families family)
    (present : before.stores family.store ≠ none) : family.Born before :=
  (sound.whole family isFamily).resolve_right fun unborn => present unborn.store

/-- Someone who is, or was, staff is the owner of no family. -/
theorem Sound.ne_owner_of_staff (sound : before.Sound families) {id : Uuid} {storeId : Option Uuid}
    (isStaff : before.users id = some (.staff, storeId)) : ∀ family, families family → family.owner ≠ id := by
  rintro family isFamily rfl
  have born := sound.born_of_owner isFamily (by rw [isStaff]; exact Option.some_ne_none _)
  rw [born.owner] at isStaff
  cases isStaff

def setUser (accounts : Accounts) (id : Uuid) (value : Option (Role × Option Uuid)) : Accounts :=
  { accounts with users := Function.update accounts.users id value }

@[simp] theorem users_setUser_self (accounts : Accounts) (id : Uuid) (value : Option (Role × Option Uuid)) :
    (accounts.setUser id value).users id = value := by
  simp only [setUser, Function.update_self]

/-- A user comes or goes who is the owner of no family; one who comes is staff of a store. -/
theorem Evolves.setUser (sound : before.Sound families) {id : Uuid} {value : Option (Role × Option Uuid)}
    (noOwner : ∀ family, families family → family.owner ≠ id)
    (isStaff : ∀ role storeId, value = some (role, storeId) →
      role = .staff ∧ ∃ s ownerId, storeId = some s ∧ before.stores s = some ownerId) :
    Evolves families makes before (before.setUser id value) := by
  have others {family : Family} (isFamily : families family) :
      (before.setUser id value).users family.owner = before.users family.owner :=
    Function.update_of_ne (noOwner family isFamily) _ _
  have born (family : Family) (isFamily : families family) (born : family.Born before) :
      family.Born (before.setUser id value) :=
    ⟨(others isFamily).trans born.owner, born.store, born.subscription⟩
  have unborn (family : Family) (isFamily : families family) (unborn : family.Unborn before) :
      family.Unborn (before.setUser id value) :=
    ⟨(others isFamily).trans unborn.owner, unborn.store, unborn.subscription⟩
  refine ⟨⟨fun family isFamily => ?_, fun other storeId isOwner => ?_, sound.store, fun other storeId staff => ?_⟩,
    born, fun family isFamily _ => unborn family isFamily⟩
  · exact (sound.whole family isFamily).imp (born family isFamily) (unborn family isFamily)
  · by_cases same : other = id
    · subst same
      obtain ⟨role, -⟩ := isStaff .storeOwner storeId ((users_setUser_self before other value).symm.trans isOwner)
      cases role
    · exact sound.owner other storeId ((Function.update_of_ne same ..).symm.trans isOwner)
  · by_cases same : other = id
    · subst same
      exact (isStaff .staff storeId ((users_setUser_self before other value).symm.trans staff)).2
    · exact sound.staff other storeId ((Function.update_of_ne same ..).symm.trans staff)

/-- The accounts after a registration. -/
def register (accounts : Accounts) (family : Family) : Accounts where
  users := Function.update accounts.users family.owner (some (.storeOwner, some family.store))
  stores := Function.update accounts.stores family.store (some family.owner)
  subscriptions := Function.update accounts.subscriptions family.subscription (some family.store)

/-- Ids that two families share belong to one family. -/
def Distinct (families : Family → Prop) (family : Family) : Prop :=
  ∀ other, families other → (other.owner = family.owner ∨ other.store = family.store ∨
    other.subscription = family.subscription) → other = family

/-- A registration brings its own family into being. -/
theorem Evolves.register (sound : before.Sound families) {family : Family} (isFamily : families family)
    (makesFamily : makes family) (distinct : Distinct families family) (unborn : family.Unborn before) :
    Evolves families makes before (before.register family) := by
  have isBorn : family.Born (before.register family) :=
    ⟨Function.update_self .., Function.update_self .., Function.update_self ..⟩
  have others {other : Family} (isOther : families other) (differs : other ≠ family) :
      (before.register family).users other.owner = before.users other.owner ∧
        (before.register family).stores other.store = before.stores other.store ∧
        (before.register family).subscriptions other.subscription = before.subscriptions other.subscription := by
    refine ⟨Function.update_of_ne (fun same => differs ?_) _ _, Function.update_of_ne (fun same => differs ?_) _ _,
      Function.update_of_ne (fun same => differs ?_) _ _⟩
    · exact distinct other isOther (.inl same)
    · exact distinct other isOther (.inr (.inl same))
    · exact distinct other isOther (.inr (.inr same))
  have born (other : Family) (isOther : families other) (wasBorn : other.Born before) :
      other.Born (before.register family) := by
    by_cases same : other = family
    · exact same ▸ isBorn
    · obtain ⟨owner, store, subscription⟩ := others isOther same
      exact ⟨owner.trans wasBorn.owner, store.trans wasBorn.store, subscription.trans wasBorn.subscription⟩
  have stillUnborn (other : Family) (isOther : families other) (differs : other ≠ family)
      (wasUnborn : other.Unborn before) : other.Unborn (before.register family) := by
    obtain ⟨owner, store, subscription⟩ := others isOther differs
    exact ⟨owner.trans wasUnborn.owner, store.trans wasUnborn.store, subscription.trans wasUnborn.subscription⟩
  refine ⟨⟨fun other isOther => ?_, fun id storeId isOwner => ?_, fun id ownerId isStore => ?_, fun id storeId staff => ?_⟩,
    born, fun other isOther notMade wasUnborn => stillUnborn other isOther (fun same => ?_) wasUnborn⟩
  · by_cases same : other = family
    · exact .inl (same ▸ isBorn)
    · exact (sound.whole other isOther).imp (born other isOther) (stillUnborn other isOther same)
  · by_cases same : id = family.owner
    · exact ⟨family, isFamily, same.symm⟩
    · exact sound.owner id storeId ((Function.update_of_ne same ..).symm.trans isOwner)
  · by_cases same : id = family.store
    · exact ⟨family, isFamily, same.symm⟩
    · exact sound.store id ownerId ((Function.update_of_ne same ..).symm.trans isStore)
  · by_cases same : id = family.owner
    · subst same
      cases (Function.update_self ..).symm.trans staff
    · obtain ⟨s, ownerId, rfl, exist⟩ := sound.staff id storeId ((Function.update_of_ne same ..).symm.trans staff)
      refine ⟨s, ownerId, rfl, (Function.update_of_ne (fun isStore => ?_) _ _).trans exist⟩
      rw [isStore, unborn.store] at exist
      cases exist
  · exact notMade (same ▸ makesFamily)

end Accounts

/-! ## The accounts of a database -/

namespace Database

variable {db : Database} {writes : List DbWrite}

def accounts (db : Database) : Accounts where
  users id := (db.users.find id).map fun row => (row.role, row.storeId)
  stores id := (db.stores.find id).map Store.ownerId
  subscriptions id := (db.subscriptions.find id).map Subscription.storeId

theorem accounts_users {id : Uuid} {row : User} (found : db.users.find id = some row) :
    db.accounts.users id = some (row.role, row.storeId) := by
  simp only [accounts, found, Option.map_some]

theorem accounts_stores {id : Uuid} {row : Store} (found : db.stores.find id = some row) :
    db.accounts.stores id = some row.ownerId := by
  simp only [accounts, found, Option.map_some]

/-- A user row that is put. -/
theorem accounts_put_user (db : Database) (row : User) :
    (shop.applyAll db [.user (.put row)]).accounts = db.accounts.setUser row.id (some (row.role, row.storeId)) := by
  refine Accounts.ext (funext fun id => ?_) rfl rfl
  change ((db.users.put row).find id).map (fun row => (row.role, row.storeId)) =
    Function.update db.accounts.users row.id (some (row.role, row.storeId)) id
  by_cases same : id = row.id
  · subst same
    rw [Table.find_put_same, Function.update_self]
    rfl
  · rw [Table.find_put_ne _ same, Function.update_of_ne same]
    rfl

theorem accounts_put_store (db : Database) (row : Store) :
    (shop.applyAll db [.store (.put row)]).accounts =
      { db.accounts with stores := Function.update db.accounts.stores row.id (some row.ownerId) } := by
  refine Accounts.ext rfl (funext fun id => ?_) rfl
  change ((db.stores.put row).find id).map Store.ownerId = Function.update db.accounts.stores row.id (some row.ownerId) id
  by_cases same : id = row.id
  · rw [same, Table.find_put_same, Function.update_self, Option.map_some]
  · rw [Table.find_put_ne _ same, Function.update_of_ne same]
    rfl

theorem accounts_put_subscription (db : Database) (row : Subscription) :
    (shop.applyAll db [.subscription (.put row)]).accounts =
      { db.accounts with
        subscriptions := Function.update db.accounts.subscriptions row.id (some row.storeId) } := by
  refine Accounts.ext rfl rfl (funext fun id => ?_)
  change ((db.subscriptions.put row).find id).map Subscription.storeId =
    Function.update db.accounts.subscriptions row.id (some row.storeId) id
  by_cases same : id = row.id
  · rw [same, Table.find_put_same, Function.update_self, Option.map_some]
  · rw [Table.find_put_ne _ same, Function.update_of_ne same]
    rfl

/-- A user row that is put with the role and the store it had. -/
theorem accounts_update_user {row next : User} (found : db.users.find row.id = some row) (sameId : next.id = row.id)
    (sameRole : next.role = row.role) (sameStore : next.storeId = row.storeId) :
    (shop.applyAll db [.user (.put next)]).accounts = db.accounts := by
  rw [accounts_put_user, sameId, sameRole, sameStore]
  refine Accounts.ext ?_ rfl rfl
  change Function.update _ _ _ = _
  rw [← accounts_users found, Function.update_eq_self]

theorem accounts_erase_user (db : Database) (id : Uuid) :
    (shop.applyAll db [.user (.erase id)]).accounts = db.accounts.setUser id none := by
  refine Accounts.ext (funext fun other => ?_) rfl rfl
  change ((db.users.erase id).find other).map (fun row => (row.role, row.storeId)) =
    Function.update db.accounts.users id none other
  by_cases same : other = id
  · subst same
    rw [Table.find_erase_same, Function.update_self]
    rfl
  · rw [Table.find_erase_ne _ same, Function.update_of_ne same]
    rfl

theorem accounts_update_store {row next : Store} (found : db.stores.find row.id = some row) (sameId : next.id = row.id)
    (sameOwner : next.ownerId = row.ownerId) : (shop.applyAll db [.store (.put next)]).accounts = db.accounts := by
  rw [accounts_put_store, sameId, sameOwner]
  refine Accounts.ext rfl ?_ rfl
  change Function.update _ _ _ = _
  rw [← accounts_stores found, Function.update_eq_self]

/-- Writes to other tables. -/
theorem accounts_of_elsewhere (elsewhere : ∀ write ∈ writes,
    write.key.table ≠ .users ∧ write.key.table ≠ .stores ∧ write.key.table ≠ .subscriptions) :
    (shop.applyAll db writes).accounts = db.accounts := by
  have same (key : RowKey) (isTable : key.table = .users ∨ key.table = .stores ∨ key.table = .subscriptions) :
      (shop.applyAll db writes).row key = db.row key := by
    refine row_applyAll_of_table key fun write made sameTable => ?_
    obtain ⟨users, stores, subscriptions⟩ := elsewhere write made
    rcases isTable with isTable | isTable | isTable <;> rw [isTable] at sameTable <;> contradiction
  refine Accounts.ext (funext fun id => ?_) (funext fun id => ?_) (funext fun id => ?_)
  · exact congrArg (Option.map _) (same (.user id) (.inl rfl))
  · exact congrArg (Option.map _) (same (.store id) (.inr (.inl rfl)))
  · exact congrArg (Option.map _) (same (.subscription id) (.inr (.inr rfl)))

theorem accounts_changeSubscription (db : Database) (storeId : Uuid) (change : PlanChange) :
    (db.changeSubscription storeId change).accounts = db.accounts := by
  refine Accounts.ext rfl rfl (funext fun id => ?_)
  change ((db.changeSubscription storeId change).subscriptions.find id).map _ = (db.subscriptions.find id).map _
  rw [Table.find, rows_changeSubscription, List.find?_map, Table.find, Option.map_map]
  have sameKey : ((fun row : Subscription => decide (row.id = id)) ∘ fun row =>
      if row.storeId = storeId then change.applyTo row else row) = fun row => decide (row.id = id) := by
    funext row
    simp only [Function.comp_apply]
    split <;> rfl
  rw [sameKey]
  congr 1
  funext row
  simp only [Function.comp_apply]
  split <;> rfl

end Database

/-! ## The statements that change nothing in the accounts -/

/-- All but those that insert or delete a user or a store, or change whose a store is. -/
def Statement.keepsAccounts : Statement → Bool
  | .user (.insert _) | .user (.delete _) => false
  | .store (.findOne _) | .store (.reselect _) => true
  | .store _ => false
  | _ => true

theorem Statement.accounts_of_keeps {statement : Statement} {db : Database} {reply : statement.Reply}
    {writes : List DbWrite} (keeps : statement.keepsAccounts = true)
    (executed : statement.execute db = .ok (reply, writes)) : (shop.applyAll db writes).accounts = db.accounts := by
  -- a statement on other tables
  have elsewhere (users : statement.writesTo .users = false) (stores : statement.writesTo .stores = false)
      (subscriptions : statement.writesTo .subscriptions = false) :
      (shop.applyAll db writes).accounts = db.accounts := by
    refine Database.accounts_of_elsewhere fun write made => ?_
    have table := execute_table executed write made
    refine ⟨fun same => ?_, fun same => ?_, fun same => ?_⟩ <;> rw [same] at table
    · exact absurd (users.symm.trans table) Bool.false_ne_true
    · exact absurd (stores.symm.trans table) Bool.false_ne_true
    · exact absurd (subscriptions.symm.trans table) Bool.false_ne_true
  cases statement with
  | user statement =>
    cases statement with
    | insert | delete => cases keeps
    | findByEmail | findForLogin | findById | findByResetTokenHash | count | reselect => cases executed; rfl
    | findStaff id storeId =>
      cases id with
      | none => cases executed
      | some id => cases executed; rfl
    | update id changes =>
      obtain ⟨-, rfl⟩ | ⟨row, found, rfl⟩ := UserStatement.execute_update executed
      · rfl
      · have isId : row.id = id := Table.key_of_find found
        subst isId
        exact Database.accounts_update_user found rfl rfl rfl
    | saveChanges id changes =>
      obtain ⟨-, rfl⟩ | ⟨row, found, rfl⟩ := UserStatement.execute_saveChanges executed
      · rfl
      · have isId : row.id = id := Table.key_of_find found
        subst isId
        exact Database.accounts_update_user found rfl rfl rfl
  | store statement =>
    cases statement with
    | findOne id =>
      cases id with
      | none => cases executed
      | some id => cases executed; rfl
    | reselect => cases executed; rfl
    | _ => cases keeps
  | billing statement =>
    cases statement with
    | updateSubscription storeId change =>
      -- the plan of a subscription changes, not whose it is
      have ran := Database.executeOn_updateSubscription db storeId change
      simp only [Engine.executeOn, shop] at ran
      rw [show Statement.execute (.billing (.updateSubscription storeId change)) db = .ok (reply, writes) from executed] at ran
      exact (congrArg (fun result => result.2.accounts) ran).trans (Database.accounts_changeSubscription db storeId change)
    | insertWebhookEvent row =>
      simp only [execute, BillingStatement.execute] at executed
      split at executed
      next => cases executed
      next => cases executed; rfl
    | updateWebhookEvent row =>
      simp only [execute, BillingStatement.execute] at executed
      split at executed
      next => cases executed; rfl
      next => cases executed; rfl
    | findWebhookEvent | reselectWebhookEvent | findSubscriptionOf | findByStripeSubscriptionId => cases executed; rfl
  | setCurrentStore | enqueueMail | idempotency | audit => exact elsewhere rfl rfl rfl
  | product statement => cases statement <;> exact elsewhere rfl rfl rfl
  | category statement => cases statement <;> exact elsewhere rfl rfl rfl
  | order statement => cases statement <;> exact elsewhere rfl rfl rfl
  | outbox statement => cases statement <;> exact elsewhere rfl rfl rfl

end StoreSaas
