import StoreSaas.Library.Autocommit
import StoreSaas.Services.AdminService
import StoreSaas.Services.BillingService
import StoreSaas.Services.Registration
import StoreSaas.Verified.AccountFamilies

/-! # Accounts stay structurally sound

Every request keeps the accounts sound, what is born, and what others are about to make.
A registration writes its three rows in one transaction and publishes them with its commit
as a family; the others change no owner and no store.
-/

namespace StoreSaas

section Contracts

variable (families makes : Family → Prop)

/-- The others keep what is born, and leave alone what this request is to make. -/
def accountContract : Contract Database RowKey DbWrite statements ApiError where
  assume _ _ db := db.accounts.Sound families
  rely before after := ∀ family, families family →
    (family.Born before.accounts → family.Born after.accounts) ∧
      (makes family → family.Unborn before.accounts → family.Unborn after.accounts)
  reflexive _ _ _ := ⟨id, fun _ => id⟩
  transitive _ _ _ left right family isFamily :=
    ⟨fun born => (right family isFamily).1 ((left family isFamily).1 born),
      fun made unborn => (right family isFamily).2 made ((left family isFamily).2 made unborn)⟩
  guarantee _ _ before after := Accounts.Evolves families makes before.accounts after.accounts

end Contracts

section Methods

variable {families makes : Family → Prop} {held : List (RowLock RowKey)} {pending : List DbWrite} {db : Database}

open Engine

/-- A statement that fails publishes nothing. -/
theorem silent_account (op : Statement) (session : Session RowKey DbWrite statements ApiError) (db : Database)
    (assumed : (accountContract families makes).assume session (.auto op) db) :
    (accountContract families makes).guarantee session (.auto op) db db :=
  Accounts.Evolves.same assumed

theorem evolves_of_keeps {statement : Statement} {reply : statement.Reply} {writes : List DbWrite}
    (sound : db.accounts.Sound families) (keeps : statement.keepsAccounts = true)
    (executed : statement.execute db = .ok (reply, writes)) :
    Accounts.Evolves families makes db.accounts (shop.applyAll db writes).accounts := by
  rw [Statement.accounts_of_keeps keeps executed]
  exact .same sound

theorem accounts_of_only {α : Type} {body : Tx α} (only : body.Only fun op : Statement => op.keepsAccounts = true) :
    shop.Autocommitted (accountContract families makes) (fun _ _ => True) body held pending db :=
  autocommitted_of_only only (fun session op db => silent_account op session db)
    fun _ _ _ _ _ keeps sound executed => evolves_of_keeps sound keeps executed

theorem accounts_perform_bind {α : Type} (fact : Database → Prop) {post : α → Database → Prop} {op : Statement}
    {next : op.Reply → Tx α}
    (stable : ∀ before after, (accountContract families makes).rely before after → fact before → fact after)
    (now : fact db)
    (continues : ∀ db reply writes, fact db → db.accounts.Sound families → op.execute db = .ok (reply, writes) →
      Accounts.Evolves families makes db.accounts (shop.applyAll db writes).accounts ∧
        shop.Autocommitted (accountContract families makes) post (next reply) held pending (shop.applyAll db writes)) :
    shop.Autocommitted (accountContract families makes) post (Program.perform (S := statements) op >>= next) held pending db :=
  autocommitted_perform_bind fact stable now (silent_account op)
    fun _ db reply writes holds sound executed => continues db reply writes holds sound executed

/-- A read of the accounts, whatever the others do. -/
theorem accounts_read_bind {α : Type} {post : α → Database → Prop} {op : Statement} {next : op.Reply → Tx α}
    (keeps : op.keepsAccounts = true)
    (continues : ∀ db reply writes, db.accounts.Sound families → op.execute db = .ok (reply, writes) →
      shop.Autocommitted (accountContract families makes) post (next reply) held pending (shop.applyAll db writes)) :
    shop.Autocommitted (accountContract families makes) post (Program.perform (S := statements) op >>= next) held pending db :=
  accounts_perform_bind (fun _ => True) (fun _ _ _ _ => trivial) trivial fun db reply writes _ sound executed =>
    ⟨evolves_of_keeps sound keeps executed, continues db reply writes sound executed⟩

/-! ## Staff -/

/-- A member of staff in memory, with a store, and with an id that belongs to no owner. -/
structure UserEntity.IsStaff (families : Family → Prop) (entity : UserEntity) : Prop where
  role : entity.role = .staff
  store : ∃ storeId, entity.storeId = some storeId
  noOwner : ∀ family, families family → family.owner ≠ entity.id

theorem evolves_insertStaff {entity : UserEntity} {reply : Statement.Reply (.user (.insert entity))}
    {writes : List DbWrite} (sound : db.accounts.Sound families) (isStaff : entity.IsStaff families)
    (executed : Statement.execute (.user (.insert entity)) db = .ok (reply, writes)) :
    Accounts.Evolves families makes db.accounts (shop.applyAll db writes).accounts := by
  simp only [Statement.execute, UserStatement.execute] at executed
  split at executed
  next => cases executed
  next row isRow =>
    obtain ⟨hash, -, rfl⟩ := Option.map_eq_some_iff.mp isRow
    split at executed
    next => cases executed
    next =>
      split at executed
      next => cases executed
      next exist =>
        cases executed
        obtain ⟨storeId, inStore⟩ := isStaff.store
        rw [Database.accounts_put_user]
        refine .setUser sound isStaff.noOwner fun role storeId' isValue => ?_
        cases isValue
        refine ⟨isStaff.role, storeId, ?_⟩
        rw [inStore, Option.map_some, Option.some.injEq, Bool.not_eq_false] at exist
        obtain ⟨store, found⟩ := Option.isSome_iff_exists.mp exist
        exact ⟨store.ownerId, inStore, Database.accounts_stores found⟩

theorem accounts_findStaffOrThrow (storeId : Uuid) (staffId : RouteId) :
    shop.Autocommitted (accountContract families makes) (fun entity _ => entity.IsStaff families)
      (StoresService.findStaffOrThrow storeId staffId) held pending db := by
  refine accounts_read_bind rfl fun db staff writes sound executed => ?_
  cases staffId with
  | none => cases executed
  | some id =>
    cases executed
    cases isFound : db.findStaff id storeId with
    | none => exact autocommitted_throw _
    | some row =>
      obtain ⟨found, isStaff⟩ := Option.filter_eq_some_iff.mp isFound
      obtain ⟨inStore, role⟩ := of_decide_eq_true isStaff
      have isId : row.id = id := Table.key_of_find found
      refine autocommitted_done fun _ _ => ⟨role, ⟨storeId, inStore⟩, ?_⟩
      have isUser := Database.accounts_users (isId ▸ found : db.users.find row.id = some row)
      rw [inStore, role] at isUser
      exact sound.ne_owner_of_staff isUser

theorem accounts_save {entity : UserEntity} (isStaff : entity.IsStaff families) :
    shop.Autocommitted (accountContract families makes) (fun _ _ => True) (StoresService.save entity) held pending db := by
  refine accounts_read_bind rfl fun db found writes _ _ => ?_
  cases found with
  | none =>
    refine accounts_perform_bind (fun _ => True) (fun _ _ _ _ => trivial) trivial
      fun db _ writes _ sound executed => ⟨evolves_insertStaff sound isStaff executed, ?_⟩
    exact autocommitted_done fun _ _ => trivial
  | some row =>
    dsimp only
    split
    next => exact autocommitted_done fun _ _ => trivial
    next => exact accounts_read_bind rfl fun _ _ _ _ _ => autocommitted_done fun _ _ => trivial

theorem accounts_inviteStaff (crypto : Crypto) (salt : Bytes) (env : Environment) (storeId : Uuid) (dto : InviteStaffDto)
    (noOwner : ∀ family, families family → family.owner ≠ env.newId 0) :
    shop.Autocommitted (accountContract families makes) (fun _ _ => True)
      (StoresService.inviteStaff crypto salt env storeId dto) held pending db := by
  refine accounts_read_bind rfl fun _ existing _ _ _ => ?_
  cases existing with
  | some _ => exact autocommitted_throw _
  | none =>
    refine accounts_read_bind rfl fun _ subscription _ _ _ => ?_
    refine accounts_read_bind rfl fun _ currentStaffCount _ _ _ => ?_
    dsimp only
    split
    next => exact autocommitted_throw _
    next =>
      refine accounts_perform_bind (fun _ => True) (fun _ _ _ _ => trivial) trivial
        fun db _ writes _ sound executed => ⟨?_, autocommitted_done fun _ _ => trivial⟩
      exact evolves_insertStaff sound ⟨rfl, ⟨storeId, rfl⟩, noOwner⟩ executed

theorem accounts_updateStaff (crypto : Crypto) (salt : Bytes) (storeId : Uuid) (staffId : RouteId) (dto : UpdateStaffDto) :
    shop.Autocommitted (accountContract families makes) (fun _ _ => True)
      (StoresService.updateStaff crypto salt storeId staffId dto) held pending db :=
  (accounts_findStaffOrThrow storeId staffId).bind fun _ _ isStaff =>
    accounts_save ⟨isStaff.role, isStaff.store, isStaff.noOwner⟩

theorem accounts_removeStaff (storeId : Uuid) (staffId : RouteId) :
    shop.Autocommitted (accountContract families makes) (fun _ _ => True)
      (StoresService.removeStaff storeId staffId) held pending db := by
  refine (accounts_findStaffOrThrow storeId staffId).bind fun staff db isStaff => ?_
  refine autocommitted_perform (fun _ => True) (fun _ _ _ _ => trivial) trivial (silent_account _)
    fun _ db _ writes _ sound executed => ⟨?_, fun _ _ => trivial⟩
  obtain ⟨-, rfl⟩ | ⟨row, found, rfl⟩ := UserStatement.execute_delete executed
  · exact .same sound
  · have isId : row.id = staff.id := Table.key_of_find found
    change Accounts.Evolves families makes db.accounts (shop.applyAll db [.user (.erase row.id)]).accounts
    rw [Database.accounts_erase_user, isId]
    exact .setUser sound isStaff.noOwner fun _ _ none => nomatch none

/-! ## Stores -/

/-- A store in memory belongs to a family that is there. -/
def StoreEntity.InFamily (families : Family → Prop) (entity : StoreEntity) (db : Database) : Prop :=
  ∃ family, families family ∧ family.Born db.accounts ∧ family.store = entity.id ∧ family.owner = entity.ownerId

theorem inFamily_stable (entity : StoreEntity) (before after : Database)
    (relied : (accountContract families makes).rely before after) (inFamily : entity.InFamily families before) :
    entity.InFamily families after := by
  obtain ⟨family, isFamily, born, isStore, isOwner⟩ := inFamily
  exact ⟨family, isFamily, (relied family isFamily).1 born, isStore, isOwner⟩

/-- The store that was found is there, with the owner it has in memory. -/
theorem StoreEntity.InFamily.found {entity : StoreEntity} (inFamily : entity.InFamily families db) :
    ∃ row, db.stores.find entity.id = some row ∧ row.ownerId = entity.ownerId := by
  obtain ⟨family, -, born, isStore, isOwner⟩ := inFamily
  have present := born.store
  rw [isStore, isOwner] at present
  exact Option.map_eq_some_iff.mp present

theorem evolves_update_store {entity : StoreEntity} {row : Store}
    {reply : (StoreStatement.update entity.id (entity.changes row)).Reply} {writes : List DbWrite}
    (sound : db.accounts.Sound families) (inFamily : entity.InFamily families db)
    (executed : (StoreStatement.update entity.id (entity.changes row)).execute db = .ok (reply, writes)) :
    Accounts.Evolves families makes db.accounts (shop.applyAll db writes).accounts := by
  obtain ⟨-, rfl⟩ | ⟨stored, next, found, applied, rfl⟩ := StoreStatement.execute_update executed
  · exact .same sound
  · obtain ⟨present, isPresent, sameOwner⟩ := inFamily.found
    cases found.symm.trans isPresent
    obtain ⟨name, -, rfl⟩ := Option.map_eq_some_iff.mp applied
    have isId : stored.id = entity.id := Table.key_of_find found
    have keepsOwner : (changed entity.ownerId row.ownerId).getD stored.ownerId = stored.ownerId := by
      unfold changed
      split
      next => rfl
      next => exact sameOwner.symm
    rw [Database.accounts_update_store (isId ▸ found : db.stores.find stored.id = some stored)]
    · exact .same sound
    · rfl
    · exact keepsOwner

theorem accounts_saveStore {entity : StoreEntity} (inFamily : entity.InFamily families db) :
    shop.Autocommitted (accountContract families makes) (fun _ _ => True)
      (StoresService.saveStore entity) held pending db := by
  refine accounts_perform_bind (entity.InFamily families) (inFamily_stable entity) inFamily fun db reply writes inFamily sound executed => ?_
  obtain ⟨row, found, -⟩ := inFamily.found
  -- a store is never deleted, so `save` does not insert it again
  obtain rfl : writes = [] := by cases executed; rfl
  obtain rfl : reply = some row := (congrArg Prod.fst (Except.ok.inj executed)).symm.trans found
  refine ⟨.same sound, ?_⟩
  dsimp only
  split
  next => exact autocommitted_done fun _ _ => trivial
  next =>
    exact accounts_perform_bind (entity.InFamily families) (inFamily_stable entity) inFamily fun db _ writes inFamily sound executed =>
      ⟨evolves_update_store sound inFamily executed, autocommitted_done fun _ _ => trivial⟩

theorem accounts_setSuspended (storeId : RouteId) (suspended : Bool) :
    shop.Autocommitted (accountContract families makes) (fun _ _ => True)
      (AdminService.setSuspended storeId suspended) held pending db := by
  refine accounts_read_bind rfl fun db store writes sound executed => ?_
  cases storeId with
  | none => cases executed
  | some id =>
    cases executed
    cases found : db.stores.find id with
    | none => exact autocommitted_throw _
    | some row =>
      have isId : row.id = id := Table.key_of_find found
      obtain ⟨family, isFamily, isStore⟩ := sound.store id row.ownerId (Database.accounts_stores found)
      subst isStore
      have born := sound.born_of_store isFamily (by rw [Database.accounts_stores found]; exact Option.some_ne_none _)
      have isOwner : family.owner = row.ownerId :=
        Option.some.inj (born.store.symm.trans (Database.accounts_stores found))
      exact accounts_saveStore ⟨family, isFamily, born, isId.symm, isOwner⟩

/-! ## Plans -/

theorem keeps_applyPlanChange (storeId : Uuid) (plan : Plan) (stripeCustomerId stripeSubscriptionId : Option (Option String)) :
    (BillingService.applyPlanChange storeId plan stripeCustomerId stripeSubscriptionId).Only
      fun op : Statement => op.keepsAccounts = true :=
  Program.only_perform_bind (by rfl) fun _ => trivial

theorem keeps_createCheckoutSession (provider : PaymentProvider) (storeId : Uuid) (dto : CreateCheckoutSessionDto) :
    (BillingService.createCheckoutSession provider storeId dto).Only fun op : Statement => op.keepsAccounts = true := by
  unfold BillingService.createCheckoutSession
  cases provider ⟨storeId, dto.targetPlan, dto.successUrl, dto.cancelUrl⟩ with
  | error error => trivial
  | ok result =>
    obtain ⟨url, immediatePlan⟩ := result
    cases immediatePlan with
    | none => trivial
    | some plan =>
      have fits : (BillingService.assertStaffFitsPlan storeId plan).Only fun op : Statement => op.keepsAccounts = true := by
        refine Program.only_perform_bind (by rfl) fun staffCount => ?_
        change (if (show Nat from staffCount) > plan.maxStaff then _ else _ : Tx Unit).Only _
        exact Program.only_ite trivial trivial
      exact fits.bind fun _ => (keeps_applyPlanChange storeId plan none none).bind fun _ => trivial

theorem keeps_handleWebhook (delivered : StripeEvent) :
    (BillingService.handleWebhook delivered).Only fun op : Statement => op.keepsAccounts = true := by
  unfold BillingService.handleWebhook
  cases StripePaymentProvider.handleWebhook delivered with
  | none => trivial
  | some event =>
    have applies : (BillingService.applyEvent event).Only fun op : Statement => op.keepsAccounts = true := by
      cases event with
      | checkoutCompleted eventId storeId plan customerId subscriptionId => exact keeps_applyPlanChange storeId plan _ _
      | subscriptionEnded eventId subscriptionId =>
        refine Program.only_perform_bind (by rfl) fun subscription => ?_
        cases subscription with
        | none => trivial
        | some subscription => exact keeps_applyPlanChange subscription.storeId .free none none
    refine Program.only_perform_bind (by rfl) fun alreadyProcessed => ?_
    cases alreadyProcessed with
    | some _ => trivial
    | none =>
      refine applies.bind fun _ => Program.only_perform_bind (by rfl) fun found => ?_
      cases found with
      | none => exact Program.only_perform (by rfl)
      | some stored => exact Program.only_ite trivial (Program.only_perform (by rfl))

/-! ## Registrations -/

namespace AuthService

variable (crypto : Crypto) (config : AuthConfig) (env : AuthEnvironment) (newId : Nat → Uuid) (dto : RegisterDto)

def newFamily : Family := ⟨newId 0, newId 1, newId 2⟩

/-- The owner as it is inserted, with no store yet. -/
def newOwner : User :=
  ⟨newId 0, dto.email, crypto.bcryptHash env.salt dto.password, .storeOwner, none, none, none, none⟩

/-- What a registration is about to write when it commits. -/
def newRows : List DbWrite :=
  [.user (.put (newOwner crypto env newId dto)), .store (.put ⟨newId 1, dto.storeName, newId 0, false, env.now⟩),
    .subscription (.put ⟨newId 2, newId 1, .free, .active, none, none⟩),
    .user (.put { newOwner crypto env newId dto with storeId := some (newId 1) })]

theorem accounts_newRows (db : Database) :
    (shop.applyAll db (newRows crypto env newId dto)).accounts = db.accounts.register (newFamily newId) := by
  change (shop.applyAll (shop.applyAll (shop.applyAll (shop.applyAll db [.user (.put (newOwner crypto env newId dto))])
    [.store (.put ⟨newId 1, dto.storeName, newId 0, false, env.now⟩)])
    [.subscription (.put ⟨newId 2, newId 1, .free, .active, none, none⟩)])
    [.user (.put { newOwner crypto env newId dto with storeId := some (newId 1) })]).accounts = _
  rw [Database.accounts_put_user, Database.accounts_put_subscription, Database.accounts_put_store,
    Database.accounts_put_user]
  refine Accounts.ext ?_ rfl rfl
  exact Function.update_idem ..

theorem body_makes_bind {α : Type} {C : Contract Database RowKey DbWrite statements ApiError}
    {post : α → Session RowKey DbWrite statements ApiError → Database → Prop} {op : Statement} {next : op.Reply → Tx α}
    {earlier : List DbWrite} (made : List DbWrite) {session : Session RowKey DbWrite statements ApiError} {db : Database}
    (isPending : session.pending = earlier)
    (makes : ∀ view reply writes, op.execute view = .ok (reply, writes) → writes = made)
    (continues : ∀ session db reply, session.pending = earlier ++ made → shop.Body C post (next reply) session db) :
    shop.Body C post (Program.perform (S := statements) op >>= next) session db := by
  refine body_perform_bind fun after reply writes _ _ executed => continues _ after reply ?_
  rw [← isPending, ← makes _ reply writes executed]
  rfl

theorem writes_insertUser {entity : UserEntity} {row : User} {view : Database}
    {reply : Statement.Reply (.user (.insert entity))} {writes : List DbWrite} (isRow : entity.toRow? = some row)
    (executed : Statement.execute (.user (.insert entity)) view = .ok (reply, writes)) : writes = [.user (.put row)] := by
  obtain ⟨inserted, isInserted, -, isWrites⟩ :=
    UserStatement.execute_insert (show (UserStatement.insert entity).execute view = .ok (reply, writes) from executed)
  cases isRow.symm.trans isInserted
  exact isWrites

theorem writes_insertStore {entity : StoreEntity} {row : Store} {view : Database}
    {reply : Statement.Reply (.store (.insert entity))} {writes : List DbWrite} (isRow : entity.toRow? = some row)
    (executed : Statement.execute (.store (.insert entity)) view = .ok (reply, writes)) : writes = [.store (.put row)] := by
  obtain ⟨inserted, isInserted, -, isWrites⟩ :=
    StoreStatement.execute_insert (show (StoreStatement.insert entity).execute view = .ok (reply, writes) from executed)
  cases isRow.symm.trans isInserted
  exact isWrites

/-- The owner as `save` finds it again, in the transaction's own view. -/
theorem find_newOwner {session : Session RowKey DbWrite statements ApiError}
    (isPending : session.pending = (newRows crypto env newId dto).take 3) (db : Database) :
    (shop.view db session).users.find (newId 0) = some (newOwner crypto env newId dto) := by
  rw [Engine.view, isPending]
  exact Table.find_put_same db.users (newOwner crypto env newId dto)

theorem body_saveOwner {session : Session RowKey DbWrite statements ApiError}
    (isPending : session.pending = (newRows crypto env newId dto).take 3) :
    shop.Body (accountContract families makes) (fun _ session _ => session.pending = newRows crypto env newId dto)
      (saveOwner ⟨newId 0, dto.email, some (crypto.bcryptHash env.salt dto.password), .storeOwner, some (newId 1)⟩)
      session db := by
  refine body_perform_bind fun after found writes _ _ executed => ?_
  obtain rfl : writes = [] := by cases executed; rfl
  obtain rfl : found = some (newOwner crypto env newId dto) :=
    (congrArg Prod.fst (Except.ok.inj executed)).symm.trans (find_newOwner crypto env newId dto isPending after)
  dsimp only
  -- `select: false` leaves the stored hash out, so the one in memory always counts as a change
  change shop.Body _ _ (Program.perform (S := statements) (.store (.updateOwner (newId 0) _))) _ _
  refine body_perform fun later _ writes _ _ executed => body_done fun _ _ => ?_
  have stillPending : session.pending ++ [] = (newRows crypto env newId dto).take 3 := (List.append_nil _).trans isPending
  obtain ⟨absent, -⟩ | ⟨row, present, rfl⟩ := StoreStatement.execute_updateOwner executed
  · cases absent.symm.trans (find_newOwner crypto env newId dto stillPending later)
  · cases present.symm.trans (find_newOwner crypto env newId dto stillPending later)
    exact congrArg (· ++ _) stillPending

/-- The transaction has its rows pending when it commits. -/
theorem body_createAccount {session : Session RowKey DbWrite statements ApiError} (isNew : session.pending = []) :
    shop.Body (accountContract families makes) (fun _ session _ => session.pending = newRows crypto env newId dto)
      (createAccount crypto env newId dto) session db := by
  refine body_makes_bind [.user (.put (newOwner crypto env newId dto))] isNew
    (fun _ _ _ executed => writes_insertUser rfl executed) fun session db _ isPending => ?_
  refine body_makes_bind [.store (.put ⟨newId 1, dto.storeName, newId 0, false, env.now⟩)] isPending
    (fun _ _ _ executed => writes_insertStore rfl executed) fun session db _ isPending => ?_
  refine body_makes_bind [.subscription (.put ⟨newId 2, newId 1, .free, .active, none, none⟩)] isPending
    (fun _ _ _ executed => (StoreStatement.execute_insertSubscription executed).2.2) fun session db _ isPending => ?_
  exact (body_saveOwner crypto env newId dto isPending).bind fun _ _ _ isPending => body_done fun _ _ => isPending

theorem accounts_view {session : Session RowKey DbWrite statements ApiError}
    (isPending : session.pending = newRows crypto env newId dto) (db : Database) :
    (shop.view db session).accounts = db.accounts.register (newFamily newId) := by
  rw [Engine.view, isPending, accounts_newRows]

/-- Nobody else brings the family of this request into being. -/
theorem unborn_stable (families makes : Family → Prop) (isFamily : families (newFamily newId))
    (isMade : makes (newFamily newId)) (before after : Database)
    (relied : (accountContract families makes).rely before after) (unborn : (newFamily newId).Unborn before.accounts) :
    (newFamily newId).Unborn after.accounts :=
  (relied _ isFamily).2 isMade unborn

theorem safe_register {log : List (Σ op : RequestOp statements, Except ApiError op.Reply)}
    (isFamily : families (newFamily newId)) (isMade : makes (newFamily newId))
    (distinct : Accounts.Distinct families (newFamily newId)) (unborn : (newFamily newId).Unborn db.accounts) :
    shop.Safe (accountContract families makes) (fun _ _ _ => True) (register crypto config env newId dto)
      ⟨[], [], log⟩ db := by
  have stable := unborn_stable newId families makes isFamily isMade
  have looks : shop.Autocommitted (accountContract families makes) (fun _ db => (newFamily newId).Unborn db.accounts)
      (Tx.user (.findByEmail dto.email)) [] [] db := by
    refine autocommitted_perform (fun db => (newFamily newId).Unborn db.accounts) stable unborn (silent_account _)
      fun _ db _ writes unborn sound executed => ?_
    cases executed
    exact ⟨.same sound, fun after relied => stable _ after relied unborn⟩
  refine looks.then fun existing log db found => ?_
  cases existing with
  | error error => exact fun _ _ => trivial
  | ok existing =>
    have unborn := found existing rfl
    cases existing with
    | some _ => exact fun _ _ => trivial
    | none =>
      have creates : shop.Safe (accountContract families makes) (fun _ _ _ => True)
          (Program.withTransaction (createAccount crypto env newId dto).inTransaction) ⟨[], [], log⟩ db := by
        refine safe_withTransaction
          (fun after interferes => (body_createAccount crypto env newId dto rfl).frame stable
            (stable _ _ interferes.allowed unborn)) ?_
        rintro _ session db ⟨isPending, unborn⟩ sound
        change Accounts.Evolves families makes db.accounts (shop.view db session).accounts
        rw [accounts_view crypto env newId dto isPending]
        exact .register sound isFamily isMade distinct unborn
      refine creates.handle fun user session db _ => ?_
      cases user with
      | error error => exact fun _ _ => trivial
      | ok user =>
        have mails : (Tx.enqueueMail (welcomeMail dto)).Only fun op : Statement => op.keepsAccounts = true :=
          Program.only_perform (by rfl)
        refine (accounts_of_only mails).then fun sent log db _ => ?_
        cases sent with
        | error error => exact fun _ _ => trivial
        | ok _ =>
          have tokens : (issueTokens crypto config env user).Only fun op : Statement => op.keepsAccounts = true :=
            Program.only_perform_bind (by rfl) fun _ => trivial
          exact (accounts_of_only tokens).safe

end AuthService

end Methods

end StoreSaas
