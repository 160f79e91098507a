import StoreSaas.Verified.AccountsSound
import StoreSaas.Verified.AuthMethods

/-! # Runs of account requests

Any number of registrations, invitations, changes of staff, suspensions, checkouts and
webhooks, with every failure and crash.  The families are those of the start and those
that some registration is about to make; no step leaves one half there.
-/

namespace StoreSaas

/-- Who belongs where, as the tables have it. -/
structure Database.AccountsSound (db : Database) : Prop where
  emails : ∀ left ∈ db.users.rows, ∀ right ∈ db.users.rows, left.email = right.email → left = right
  owner : ∀ user ∈ db.users.rows, user.role = .storeOwner →
    ∃ store ∈ db.stores.rows, user.storeId = some store.id ∧ store.ownerId = user.id
  store : ∀ store ∈ db.stores.rows,
    ∃ user ∈ db.users.rows, user.id = store.ownerId ∧ user.role = .storeOwner ∧ user.storeId = some store.id
  subscription : ∀ store ∈ db.stores.rows,
    ∃! subscription, subscription ∈ db.subscriptions.rows ∧ subscription.storeId = store.id
  staff : ∀ user ∈ db.users.rows, user.role = .staff → ∃ store ∈ db.stores.rows, user.storeId = some store.id

inductive AccountCall
  | register (dto : RegisterDto)
  | inviteStaff (storeId : Uuid) (dto : InviteStaffDto)
  | updateStaff (storeId : Uuid) (staffId : RouteId) (dto : UpdateStaffDto)
  | removeStaff (storeId : Uuid) (staffId : RouteId)
  | setSuspended (storeId : RouteId) (suspended : Bool)
  | createCheckoutSession (provider : PaymentProvider) (storeId : Uuid) (dto : CreateCheckoutSessionDto)
  | handleWebhook (delivered : StripeEvent)

structure AccountRequest where
  auth : AuthEnvironment
  env : Environment
  call : AccountCall

namespace AccountRequest

variable (crypto : Crypto) (config : AuthConfig)

/-- What the request runs, its reply left out. -/
def program (request : AccountRequest) : Handler Unit :=
  match request.call with
  | .register dto => AuthService.register crypto config request.auth request.env.newId dto >>= fun _ => return ()
  | .inviteStaff storeId dto =>
    (StoresService.inviteStaff crypto request.auth.salt request.env storeId dto >>= fun _ => return ()).autocommit
  | .updateStaff storeId staffId dto =>
    (StoresService.updateStaff crypto request.auth.salt storeId staffId dto >>= fun _ => return ()).autocommit
  | .removeStaff storeId staffId => (StoresService.removeStaff storeId staffId).autocommit
  | .setSuspended storeId suspended => (AdminService.setSuspended storeId suspended >>= fun _ => return ()).autocommit
  | .createCheckoutSession provider storeId dto =>
    (BillingService.createCheckoutSession provider storeId dto >>= fun _ => return ()).autocommit
  | .handleWebhook delivered => (BillingService.handleWebhook delivered).autocommit

/-- The request inserts the row. -/
def Makes (request : AccountRequest) (key : RowKey) : Prop :=
  match request.call, key with
  | .register _, .user id => id = request.env.newId 0
  | .register _, .store id => id = request.env.newId 1
  | .register _, .subscription id => id = request.env.newId 2
  | .inviteStaff _ _, .user id => id = request.env.newId 0
  | _, _ => False

/-- The request registers the family. -/
def Registers (request : AccountRequest) (family : Family) : Prop :=
  (∃ dto, request.call = .register dto) ∧ family = AuthService.newFamily request.env.newId

variable {ι : Type} {start : Database} {requests : ι → AccountRequest}

/-- The ids the database generates are new, and no two requests get the same. -/
structure FreshKeys (start : Database) (requests : ι → AccountRequest) : Prop where
  unused : ∀ i key, (requests i).Makes key → start.row key = none
  distinct : ∀ i j key, (requests i).Makes key → (requests j).Makes key → i = j

def FamilyOf (start : Database) (requests : ι → AccountRequest) (family : Family) : Prop :=
  family.Born start.accounts ∨ ∃ i, (requests i).Registers family

def system (start : Database) (requests : ι → AccountRequest) :
    System ι Database RowKey DbWrite statements ApiError Unit :=
  System.start start fun i => (requests i).program crypto config

/-! ## Families -/

theorem Registers.makes {request : AccountRequest} {family : Family} (registers : request.Registers family) :
    request.Makes (.user family.owner) ∧ request.Makes (.store family.store) ∧
      request.Makes (.subscription family.subscription) := by
  obtain ⟨⟨dto, isCall⟩, rfl⟩ := registers
  simp only [Makes, isCall]
  exact ⟨rfl, rfl, rfl⟩

theorem FreshKeys.absent_user (fresh : FreshKeys start requests) {i : ι} {id : Uuid}
    (makes : (requests i).Makes (.user id)) : start.accounts.users id = none :=
  congrArg (Option.map _) (fresh.unused i (.user id) makes)

theorem FreshKeys.absent_store (fresh : FreshKeys start requests) {i : ι} {id : Uuid}
    (makes : (requests i).Makes (.store id)) : start.accounts.stores id = none :=
  congrArg (Option.map _) (fresh.unused i (.store id) makes)

theorem FreshKeys.absent_subscription (fresh : FreshKeys start requests) {i : ι} {id : Uuid}
    (makes : (requests i).Makes (.subscription id)) : start.accounts.subscriptions id = none :=
  congrArg (Option.map _) (fresh.unused i (.subscription id) makes)

theorem FreshKeys.unborn (fresh : FreshKeys start requests) {i : ι} {family : Family}
    (registers : (requests i).Registers family) : family.Unborn start.accounts :=
  ⟨fresh.absent_user registers.makes.1, fresh.absent_store registers.makes.2.1,
    fresh.absent_subscription registers.makes.2.2⟩

/-- The family of a registration shares no id with another one. -/
theorem FreshKeys.distinct_family (fresh : FreshKeys start requests) {i : ι} {family : Family}
    (registers : (requests i).Registers family) : Accounts.Distinct (FamilyOf start requests) family := by
  rintro other (born | ⟨j, also⟩) shared
  · have unborn := fresh.unborn registers
    rcases shared with same | same | same
    · cases (same ▸ born.owner).symm.trans unborn.owner
    · cases (same ▸ born.store).symm.trans unborn.store
    · cases (same ▸ born.subscription).symm.trans unborn.subscription
  · have sameRequest : j = i := by
      rcases shared with same | same | same
      · exact fresh.distinct j i (.user other.owner) also.makes.1 (same ▸ registers.makes.1)
      · exact fresh.distinct j i (.store other.store) also.makes.2.1 (same ▸ registers.makes.2.1)
      · exact fresh.distinct j i (.subscription other.subscription) also.makes.2.2 (same ▸ registers.makes.2.2)
    subst sameRequest
    exact also.2.trans registers.2.symm

/-- Two requests register no family together. -/
theorem FreshKeys.registers_once (fresh : FreshKeys start requests) {i j : ι} {family : Family}
    (left : (requests i).Registers family) (right : (requests j).Registers family) : i = j :=
  fresh.distinct i j _ left.makes.1 right.makes.1

/-- Who is invited is not the owner of a family. -/
theorem FreshKeys.invited_noOwner (fresh : FreshKeys start requests) {i : ι} {storeId : Uuid} {dto : InviteStaffDto}
    (isCall : (requests i).call = .inviteStaff storeId dto) :
    ∀ family, FamilyOf start requests family → family.owner ≠ (requests i).env.newId 0 := by
  have makes : (requests i).Makes (.user ((requests i).env.newId 0)) := by
    simp only [Makes, isCall]
  rintro family (born | ⟨j, registers⟩) same
  · cases (same ▸ born.owner).symm.trans (fresh.absent_user makes)
  · obtain rfl := fresh.distinct j i _ registers.makes.1 (same ▸ makes)
    obtain ⟨⟨other, isRegister⟩, -⟩ := registers
    cases isCall.symm.trans isRegister

/-! ## Every request keeps its contract -/

abbrev contract (start : Database) (requests : ι → AccountRequest) (i : ι) :
    Contract Database RowKey DbWrite statements ApiError :=
  accountContract (FamilyOf start requests) (requests i).Registers

theorem compatible (fresh : FreshKeys start requests) : Engine.Compatible (contract start requests) := by
  intro i j differ session op before after evolves family isFamily
  exact ⟨evolves.born family isFamily, fun registers =>
    evolves.unborn family isFamily fun also => differ (fresh.registers_once registers also)⟩

theorem safe_program (fresh : FreshKeys start requests) (i : ι) :
    shop.Safe (contract start requests i) (fun _ _ _ => True) ((requests i).program crypto config) .empty start := by
  have ends {α : Type} {body : Tx α} {post : α → Database → Prop}
      (keeps : shop.Autocommitted (contract start requests i) post body [] [] start) :
      shop.Safe (contract start requests i) (fun _ _ _ => True)
        (body >>= fun _ => (return () : Tx Unit)).autocommit .empty start := by
    have all : shop.Autocommitted (contract start requests i) (fun _ _ => True) (body >>= fun _ => (return () : Tx Unit))
        [] [] start := keeps.bind fun _ _ _ => Engine.autocommitted_done fun _ _ => trivial
    exact all.safe
  unfold program
  cases isCall : (requests i).call with
  | register dto =>
    have registers : (requests i).Registers (AuthService.newFamily (requests i).env.newId) := ⟨⟨dto, isCall⟩, rfl⟩
    refine Engine.Safe.handle (AuthService.safe_register crypto config (requests i).auth (requests i).env.newId dto
      (.inr ⟨i, registers⟩) registers (fresh.distinct_family registers) (fresh.unborn registers)) fun result _ _ _ => ?_
    cases result <;> exact fun _ _ => trivial
  | inviteStaff storeId dto =>
    exact ends (accounts_inviteStaff crypto _ _ storeId dto (fresh.invited_noOwner isCall))
  | updateStaff storeId staffId dto => exact ends (accounts_updateStaff crypto _ storeId staffId dto)
  | removeStaff storeId staffId => exact (accounts_removeStaff storeId staffId).safe
  | setSuspended storeId suspended => exact ends (accounts_setSuspended storeId suspended)
  | createCheckoutSession provider storeId dto =>
    exact ends (accounts_of_only (keeps_createCheckoutSession provider storeId dto))
  | handleWebhook delivered => exact (accounts_of_only (keeps_handleWebhook delivered)).safe

/-! ## From the rows to the accounts and back -/

theorem sound_start (fresh : FreshKeys start requests) (sound : start.AccountsSound) :
    start.accounts.Sound (FamilyOf start requests) := by
  have family {user : User} {store : Store} (isUser : user ∈ start.users.rows) (isStore : store ∈ start.stores.rows)
      (role : user.role = .storeOwner) (inStore : user.storeId = some store.id) (ofOwner : store.ownerId = user.id) :
      ∃ subscription, Family.Born ⟨user.id, store.id, subscription⟩ start.accounts := by
    obtain ⟨subscription, ⟨isSubscription, ofStore⟩, -⟩ := sound.subscription store isStore
    refine ⟨subscription.id, ?_, ?_, ?_⟩
    · rw [Database.accounts_users (Table.find_of_mem isUser), role, inStore]
    · rw [Database.accounts_stores (Table.find_of_mem isStore), ofOwner]
    · simp only [Database.accounts, Table.find_of_mem isSubscription, Option.map_some, ofStore]
  refine ⟨fun family isFamily => ?_, fun id storeId isOwner => ?_, fun id ownerId isStore => ?_, fun id storeId isStaff => ?_⟩
  · refine isFamily.imp_right fun isMade => ?_
    obtain ⟨_, registers⟩ := isMade
    exact fresh.unborn registers
  · obtain ⟨user, found, isUser⟩ := Option.map_eq_some_iff.mp isOwner
    obtain ⟨role, -⟩ := Prod.mk.inj isUser
    obtain ⟨store, present, inStore, ofOwner⟩ := sound.owner user (Table.mem_of_find found) role
    obtain ⟨subscription, born⟩ := family (Table.mem_of_find found) present role inStore ofOwner
    have isId : user.id = id := Table.key_of_find found
    exact ⟨_, .inl born, isId⟩
  · obtain ⟨store, found, rfl⟩ := Option.map_eq_some_iff.mp isStore
    obtain ⟨user, present, isId, role, inStore⟩ := sound.store store (Table.mem_of_find found)
    obtain ⟨subscription, born⟩ := family present (Table.mem_of_find found) role inStore isId.symm
    have isKey : store.id = id := Table.key_of_find found
    exact ⟨_, .inl born, isKey⟩
  · obtain ⟨user, found, isUser⟩ := Option.map_eq_some_iff.mp isStaff
    obtain ⟨role, rfl⟩ := Prod.mk.inj isUser
    obtain ⟨store, present, inStore⟩ := sound.staff user (Table.mem_of_find found) role
    exact ⟨store.id, store.ownerId, inStore, Database.accounts_stores (Table.find_of_mem present)⟩

theorem accountsSound_of_sound {db : Database} {families : Family → Prop} (sound : db.accounts.Sound families)
    (unique : db.EntriesUnique) : db.AccountsSound := by
  have born_user {family : Family} (born : family.Born db.accounts) :
      ∃ user ∈ db.users.rows, user.id = family.owner ∧ user.role = .storeOwner ∧ user.storeId = some family.store := by
    obtain ⟨user, found, isUser⟩ := Option.map_eq_some_iff.mp born.owner
    obtain ⟨role, inStore⟩ := Prod.mk.inj isUser
    exact ⟨user, Table.mem_of_find found, Table.key_of_find found, role, inStore⟩
  have born_store {family : Family} (born : family.Born db.accounts) :
      ∃ store ∈ db.stores.rows, store.id = family.store ∧ store.ownerId = family.owner := by
    obtain ⟨store, found, ofOwner⟩ := Option.map_eq_some_iff.mp born.store
    exact ⟨store, Table.mem_of_find found, Table.key_of_find found, ofOwner⟩
  have born_of {store : Store} (present : store ∈ db.stores.rows) :
      ∃ family : Family, family.Born db.accounts ∧ family.store = store.id ∧ family.owner = store.ownerId := by
    have isStore := Database.accounts_stores (Table.find_of_mem present)
    obtain ⟨family, isFamily, sameStore⟩ := sound.store store.id store.ownerId isStore
    have born := sound.born_of_store isFamily (by rw [sameStore, isStore]; exact Option.some_ne_none _)
    exact ⟨family, born, sameStore, Option.some.inj (born.store.symm.trans (sameStore ▸ isStore))⟩
  refine ⟨fun _ isLeft _ isRight sameEmail => unique.user isLeft isRight sameEmail, fun user present role => ?_,
    fun store present => ?_, fun store present => ?_, fun user present role => ?_⟩
  · have isOwner := Database.accounts_users (Table.find_of_mem present)
    rw [role] at isOwner
    obtain ⟨family, isFamily, isId⟩ := sound.owner user.id user.storeId isOwner
    rw [← isId] at isOwner
    have born := sound.born_of_owner isFamily (by rw [isOwner]; exact Option.some_ne_none _)
    obtain ⟨store, isStore, sameStore, ofOwner⟩ := born_store born
    refine ⟨store, isStore, ?_, ofOwner.trans isId⟩
    rw [sameStore]
    exact (Prod.mk.inj (Option.some.inj (isOwner.symm.trans born.owner))).2
  · obtain ⟨family, born, sameStore, isOwner⟩ := born_of present
    obtain ⟨user, isUser, isId, role, inStore⟩ := born_user born
    exact ⟨user, isUser, isId.trans isOwner, role, inStore.trans (congrArg some sameStore)⟩
  · obtain ⟨family, born, sameStore, -⟩ := born_of present
    obtain ⟨subscription, found, ofStore⟩ := Option.map_eq_some_iff.mp born.subscription
    have belongs : subscription.storeId = store.id := ofStore.trans sameStore
    refine ⟨subscription, ⟨Table.mem_of_find found, belongs⟩, fun other ⟨isOther, also⟩ => ?_⟩
    exact unique.subscription isOther (Table.mem_of_find found) (also.trans belongs.symm)
  · have isStaff := Database.accounts_users (Table.find_of_mem present)
    rw [role] at isStaff
    obtain ⟨storeId, ownerId, inStore, isStore⟩ := sound.staff user.id user.storeId isStaff
    obtain ⟨store, found, -⟩ := Option.map_eq_some_iff.mp isStore
    exact ⟨store, Table.mem_of_find found, inStore.trans (congrArg some (Table.key_of_find found).symm)⟩

/-! ## Runs -/

variable [Fintype ι] [DecidableEq ι]

/-- Accounts that are sound stay so, whatever fails and wherever a request dies. -/
theorem accountsSound (unique : start.EntriesUnique) (sound : start.AccountsSound) (fresh : FreshKeys start requests)
    {run : List (Act ι ApiError × System ι Database RowKey DbWrite statements ApiError Unit)}
    (isRun : Transition.Run shop.Steps (system crypto config start requests) run) :
    Transition.EachState (fun state => state.db.AccountsSound) (system crypto config start requests) run := by
  have sounds := Engine.conforms_of_run (compatible fresh) (fun _ _ _ _ isSound => isSound)
    (fun _ _ _ _ _ evolves => Accounts.Evolves.sound evolves)
    (Engine.conforms_start fun i => safe_program crypto config fresh i) (sound_start fresh sound) isRun
  have rules := Engine.entriesRules keepsEntries
  have uniques := Engine.pendingKept_of_run rules (Engine.pendingKept_start rules unique) isRun
  exact (sounds.and uniques).imp fun state ⟨⟨_, isSound⟩, kept⟩ => accountsSound_of_sound isSound kept.db

end AccountRequest

/-! ## Two registrations of one email -/

namespace SmallShop

def registerFrom (firstId : Uuid) : AccountRequest :=
  ⟨morning, ⟨0, fun n => firstId + n, fun _ => 0⟩, .register ⟨"owner@corner.example", utf8 "safe deposit", "Tea"⟩⟩

def twoRegistrations : Bool → AccountRequest
  | false => registerFrom 30
  | true => registerFrom 40

/-- Both find the email free; one commits and signs in before the other inserts, fails and rolls back. -/
def registerBoth : List (Act Bool ApiError) :=
  [.run false, .run true, .run true] ++ List.replicate 9 (.run false) ++ [.run true, .run true]

theorem registrations_fresh : AccountRequest.FreshKeys Database.empty twoRegistrations where
  unused i key makes := by cases key <;> rfl
  distinct i j key left right := by
    cases i <;> cases j <;> cases key <;> first | rfl | exact left.elim | exact absurd (left.symm.trans right) (by decide)

theorem empty_unique : Database.empty.EntriesUnique := by
  rintro left right e ⟨row, found, -⟩ -
  cases left <;> cases found

theorem empty_sound : Database.empty.AccountsSound where
  emails _ present := nomatch present
  owner _ present := nomatch present
  store _ present := nomatch present
  subscription _ present := nomatch present
  staff _ present := nomatch present

end SmallShop

theorem AccountRequest.accountsSound_registerBoth :
    Transition.EachState (fun state => state.db.AccountsSound)
      (system SmallShop.crypto SmallShop.longLived Database.empty SmallShop.twoRegistrations)
      ((shop.trace (system SmallShop.crypto SmallShop.longLived Database.empty SmallShop.twoRegistrations)
        SmallShop.registerBoth).get (by decide +kernel)) :=
  accountsSound SmallShop.crypto SmallShop.longLived SmallShop.empty_unique SmallShop.empty_sound
    SmallShop.registrations_fresh (shop.run_get_trace _)

end StoreSaas
