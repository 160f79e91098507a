import StoreSaas.Verified.AuthMethods
import StoreSaas.Verified.ExactOrders
import StoreSaas.Verified.RouteStatements

/-! # The store that is set when a statement runs

However requests share the connections, a statement of the three tenant services runs on a
connection on which its own store is set, and no connection is handed out with a store
still set on it.
-/

namespace StoreSaas

/-- An operation of a handler, whose statements on other connections are `inside`. -/
def RequestOp.Inside (inside : Statement → Prop) (op : RequestOp statements) : Prop :=
  op.isInside = true ∧ ∀ statement, op = .auto statement → inside statement

namespace AppRequest

variable {α : Type} (request : AppRequest α)

/-- What a request of a store may run before its transaction. -/
def Before (op : Statement) : Prop := request.storeId.isSome = true → op.isTenant = false

theorem only_canActivate (user : Option AuthenticatedUser) :
    (StoreSuspensionGuard.canActivate user).Only fun op : Statement => op.isTenant = false := by
  unfold StoreSuspensionGuard.canActivate
  split
  next => trivial
  next =>
    refine Program.only_perform_bind (by rfl) fun store => ?_
    exact Program.only_ite trivial trivial

variable {request} {inside : Statement → Prop}

/-- Inside the interceptor the request's store is set first, and is not set again. -/
theorem obeys_intercept {before : Statement → Prop} {storeId : Uuid} {handler : Handler α}
    (only : handler.Only (RequestOp.Inside inside)) :
    (RlsContextInterceptor.intercept (some storeId) handler).Obeys
      (settingProtocol pooling (some storeId) before inside) (fun _ _ => True) .outside := by
  let P : Protocol statements ApiError SettingPhase := settingProtocol pooling (some storeId) before inside
  have stays (op : RequestOp statements) (allowed : op.Inside inside) :
      P.allows .set op ∧ ∀ reply, P.next .set op reply = .set := by
    cases op with
    | query op => exact ⟨Option.isNone_iff_eq_none.mp allowed.1, fun _ => rfl⟩
    | auto op => exact ⟨allowed.2 op rfl, fun _ => rfl⟩
    | begin | commit | rollback => cases allowed.1
  refine Program.obeys_withTransaction (fun phase result => phase = .set ∨ phase = .opened ∧ ∃ error, result = .error error)
    trivial (fun _ => trivial) ⟨rfl, fun reply => ?_⟩ (fun phase value ended => ?_) fun phase error ended => ?_
  · cases reply with
    | ok _ => exact (Program.obeys_of_only only stays).imp fun phase _ isSet => .inl isSet
    | error error => exact .inr ⟨rfl, error, rfl⟩
  · obtain rfl | ⟨-, error, isError⟩ := ended
    · exact ⟨trivial, trivial, fun _ => trivial⟩
    · cases isError
  · obtain rfl | ⟨rfl, -⟩ := ended
    · exact ⟨trivial, fun _ => trivial⟩
    · exact ⟨trivial, fun _ => trivial⟩

theorem obeys_program
    (only : request.storeId.isSome = true → request.handler.Only (RequestOp.Inside inside)) :
    request.program.Obeys (settingProtocol pooling request.storeId request.Before inside) (fun _ _ => True)
      .outside := by
  have guarded : (StoreSuspensionGuard.canActivate request.user).autocommit.Obeys
      (settingProtocol pooling request.storeId request.Before inside) (fun after _ => after = .outside) .outside :=
    Program.obeys_autocommit_of_only (only_canActivate request.user) fun op notTenant =>
      ⟨fun _ => notTenant, fun _ => rfl⟩
  have intercepted : (RlsContextInterceptor.intercept request.storeId request.handler).Obeys
      (settingProtocol pooling request.storeId request.Before inside) (fun _ _ => True) .outside := by
    cases isStore : request.storeId with
    | some storeId => exact obeys_intercept (only (isStore ▸ rfl))
    | none =>
      refine (request.outside isStore).more (fun phase op allowed => ?_) fun _ _ _ => rfl
      cases phase with
      | outside =>
        cases op with
        | auto op =>
          intro isStored
          rw [isStore] at isStored
          cases isStored
        | begin | query | commit | rollback => exact allowed
      | opened => cases op <;> exact allowed
      | set =>
        cases op with
        | auto op => exact allowed.elim
        | begin | query | commit | rollback => exact allowed
  refine guarded.handle fun phase result isOutside => ?_
  rw [isOutside]
  cases result with
  | error error => trivial
  | ok _ => exact intercepted

end AppRequest

/-! ## What the policies leave of a statement -/

/-- A statement that succeeds returns and writes only rows of this store, and changes no other row. -/
def ConfinesTable {Row : Type} (key store : Row → Uuid) (storeId : Uuid) (setting : Option Uuid) : Prop :=
  ∀ (table after : Table key) (statement : TableStatement key) (rows : List Row),
    (tenantIsolation store).execute setting table statement = .ok (rows, after) →
    (∀ row ∈ rows, store row = storeId) ∧ ∀ row, store row ≠ storeId → (row ∈ after.rows ↔ row ∈ table.rows)

/-- With this setting every statement on a tenant table is confined to one store, whatever it filters by. -/
structure Confines (storeId : Uuid) (setting : Option Uuid) : Prop where
  products : ConfinesTable Product.id Product.storeId storeId setting
  categories : ConfinesTable Category.id Category.storeId storeId setting
  orders : ConfinesTable Order.id Order.storeId storeId setting

theorem confinesTable_set {Row : Type} (key store : Row → Uuid) (storeId : Uuid) :
    ConfinesTable key store storeId (some storeId) := by
  intro table after statement rows ran
  obtain ⟨admitted, sameHidden⟩ := RowPolicy.execute_confined ran
  refine ⟨fun row isRow => of_decide_eq_true (admitted row isRow), fun row differs => ?_⟩
  have isHidden : (!(tenantIsolation store).admitted (some storeId) row) = true := by
    rw [Bool.not_eq_true']
    exact decide_eq_false differs
  have mem_hidden (table : Table key) :
      row ∈ ((tenantIsolation store).hidden (some storeId) table).rows ↔ row ∈ table.rows :=
    List.mem_filter.trans (and_iff_left isHidden)
  rw [← mem_hidden after, ← mem_hidden table, sameHidden]

theorem confines_set (storeId : Uuid) : Confines storeId (some storeId) :=
  ⟨confinesTable_set _ _ storeId, confinesTable_set _ _ storeId, confinesTable_set _ _ storeId⟩

/-! ## Runs of requests -/

section Runs

variable {ι κ α : Type} {requests : ι → AppRequest α}

/-- The requests before any of them has started, on a pool of connections with nothing set. -/
def AppRequest.pool (requests : ι → AppRequest α) (start : Database) :
    AppPool ι κ α :=
  .start start fun i => (requests i).program

/-- A step that runs a tenant statement of a store's request finds that store set, and one that takes a connection
    finds nothing set. -/
structure Scoped (requests : ι → AppRequest α) (source : AppPool ι κ α)
    (act : PoolAct ι κ ApiError) : Prop where
  own : ∀ i op storeId, source.system.issues act.act = some (i, op) → op.isTenant = true →
    (requests i).storeId = some storeId →
    ∃ c, source.connection i = some c ∧ source.setting c = some storeId ∧ Confines storeId (source.setting c)
  clean : ∀ i op, source.system.issues act.act = some (i, op) → op.acquires pooling = true →
    source.setting act.given = none

/-- What the requests keep of their connections. -/
abbrev AppSets (requests : ι → AppRequest α) (pool : AppPool ι κ α) :
    Prop :=
  pool.Sets pooling (fun i => (requests i).storeId) (fun i => (requests i).Before)
    (fun i op => op.isShared = true ∧ (requests i).injects = true) fun _ _ _ => True

theorem appSets_start (start : Database) : AppSets requests (AppRequest.pool requests start : AppPool ι κ α) := by
  refine Pooled.sets_start fun i => AppRequest.obeys_program fun stored => ?_
  refine ((requests i).inside stored).imp fun op inside => ⟨inside.1, ?_⟩
  rintro statement rfl
  exact ⟨inside.1, inside.2 rfl⟩

variable [Fintype ι] [DecidableEq ι] [DecidableEq κ]
  {source target : AppPool ι κ α} {act : PoolAct ι κ ApiError}

theorem appSets_step (sets : AppSets requests source) (stepped : shop.PoolSteps pooling source act target) :
    AppSets requests target :=
  sets.step stepped

theorem setting_of_tenant {op : Statement} (isTenant : op.isTenant = true) : pooling.sets op = none := by
  cases op with
  | setCurrentStore => cases isTenant
  | _ => rfl

theorem scoped_of_sets (sets : AppSets requests source) (stepped : shop.PoolSteps pooling source act target) :
    Scoped requests source act where
  clean i op issues acquires := sets.unset _ ((Engine.issues_of_poolSteps stepped issues).2.1 acquires)
  own i op storeId issues isTenant isStore := by
    obtain ⟨alive, -, resume, calls⟩ := Engine.issues_of_poolSteps stepped issues
    have obeys := sets.follows i
    rw [calls] at obeys
    have allowed := obeys.1
    cases isPhase : source.system.phase (fun i => settingProtocol pooling (requests i).storeId (requests i).Before
        fun op => op.isShared = true ∧ (requests i).injects = true) i with
    | set =>
      obtain ⟨c, isOwn, isSet⟩ : ∃ c, source.connection i = some c ∧ source.setting c = some storeId :=
        sets.connection_of_phase alive isPhase (by rw [isStore]; rfl)
      exact ⟨c, isOwn, isSet, isSet ▸ confines_set storeId⟩
    | outside =>
      rw [isPhase] at allowed
      cases op with
      | auto op =>
        have notTenant : op.isTenant = false := allowed (isStore ▸ rfl)
        exact Bool.noConfusion (notTenant.symm.trans isTenant)
      | query => exact allowed.elim
      | begin | commit | rollback => cases isTenant
    | opened =>
      rw [isPhase] at allowed
      cases op with
      | query op =>
        have isSetting : pooling.sets op = (requests i).storeId := allowed
        rw [setting_of_tenant isTenant, isStore] at isSetting
        cases isSetting
      | auto => exact allowed.elim
      | begin | commit | rollback => cases isTenant

open Transition in
theorem scoped_run {start : Database}
    {run : List (PoolAct ι κ ApiError × AppPool ι κ α)}
    (isRun : Run (shop.PoolSteps pooling) (AppRequest.pool requests start) run) :
    EachStep (fun source act _ => Scoped requests source act) (AppRequest.pool requests start) run := by
  have kept : ∀ (source : AppPool ι κ α) act target, AppSets requests source →
      shop.PoolSteps pooling source act target → AppSets requests target := fun _ _ _ => appSets_step
  refine eachStep_of_invariant ?_ kept (appSets_start start) isRun
  exact fun _ _ _ => scoped_of_sets

/-- The requests of these routes on a pool. -/
abbrev AppRoute.pool (crypto : Crypto) (routes : ι → AppRoute) (start : Database) :
    AppPool ι κ Unit :=
  AppRequest.pool (fun i => AppRequest.ofRoute crypto (routes i)) start

/-- Whatever requests share the pool, of whatever size, every tenant statement runs with its own store set. -/
theorem tenantStatements_scoped (crypto : Crypto) (routes : ι → AppRoute) (start : Database)
    (run : List (PoolAct ι κ ApiError × AppPool ι κ Unit))
    (isRun : Transition.Run (shop.PoolSteps pooling) (AppRoute.pool crypto routes start) run) :
    Transition.EachStep (fun source act _ => Scoped (fun i => AppRequest.ofRoute crypto (routes i)) source act)
      (AppRoute.pool crypto routes start) run :=
  scoped_run isRun

end Runs

/-! ## Two stores on one connection -/

namespace SmallShop

def ownerOf (storeId : Uuid) : AuthenticatedUser := ⟨9, "owner@corner.example", .storeOwner, some storeId⟩

/-- The categories of a store are listed, and then those of another one. -/
def listOfTwo (first : Bool) : AppRoute :=
  .store (ownerOf (if first then 1 else 2)) (if first then 1 else 2) rfl (.catalogue environment .findAllCategories)

def listedInTurn : List (PoolAct Bool (Fin 1) ApiError) :=
  List.replicate 5 ⟨.run true, 0⟩ ++ List.replicate 5 ⟨.run false, 0⟩

theorem runs_listedInTurn :
    (Transition.traceOf (shop.poolStep pooling) (AppRoute.pool crypto listOfTwo freeStore) listedInTurn).isSome =
      true := by
  decide +kernel

end SmallShop

theorem tenantStatements_scoped_listOfTwo :
    Transition.EachStep
      (fun source act _ => Scoped (fun i => AppRequest.ofRoute SmallShop.crypto (SmallShop.listOfTwo i)) source act)
      (AppRoute.pool SmallShop.crypto SmallShop.listOfTwo SmallShop.freeStore)
      ((Transition.traceOf (shop.poolStep pooling)
        (AppRoute.pool SmallShop.crypto SmallShop.listOfTwo SmallShop.freeStore)
        SmallShop.listedInTurn).get SmallShop.runs_listedInTurn) :=
  tenantStatements_scoped SmallShop.crypto SmallShop.listOfTwo SmallShop.freeStore _
    (Transition.run_get_traceOf SmallShop.runs_listedInTurn)

end StoreSaas
