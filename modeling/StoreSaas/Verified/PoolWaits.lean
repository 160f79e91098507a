import StoreSaas.Verified.TenantSettings

/-! # Transactions that wait for a second connection

A request of a store keeps its transaction's connection to its end, and some routes take
another one in between.  The pool comes to a deadlock exactly where the last transaction
that has a connection goes on to wait for one, and it takes as many requests under way on
such routes as there are connections.
-/

namespace StoreSaas

section Runs

variable {ι : Type} [Fintype ι] [DecidableEq ι] {size : Nat}

open Transition in
/-- When the pool comes to a deadlock, whom it takes, and that nobody gets out of it. -/
theorem deadlocked_iff_closes (crypto : Crypto) (routes : ι → AppRoute) (start : Database) (notEmpty : 0 < size)
    (run : List (PoolAct ι (Fin size) ApiError ×
      AppPool ι (Fin size) Unit))
    (isRun : Run (shop.PoolSteps pooling) (AppRoute.pool crypto routes start) run) :
    (EachState (fun pool => ¬ pool.Deadlocked pooling) (AppRoute.pool crypto routes start) run ↔
      EachStep (fun source act _ => ¬ source.Closes shop pooling act) (AppRoute.pool crypto routes start) run) ∧
    EachState (fun pool =>
      (Finset.univ.filter fun i => (routes i).takesSecond = true ∧ (pool.system.thread i).underWay = true).card < size →
        ¬ pool.Deadlocked pooling) (AppRoute.pool crypto routes start) run ∧
    EachStep (fun source act target => source.Deadlocked pooling → (∀ i, act.act ≠ .crash i) →
      target.Deadlocked pooling) (AppRoute.pool crypto routes start) run := by
  have kept : ∀ (source : AppPool ι (Fin size) Unit) act target,
      AppSets (fun i => AppRequest.ofRoute crypto (routes i)) source → shop.PoolSteps pooling source act target →
      AppSets (fun i => AppRequest.ofRoute crypto (routes i)) target := fun _ _ _ => appSets_step
  have atStart : AppSets (fun i => AppRequest.ofRoute crypto (routes i))
      (AppRoute.pool crypto routes start : AppPool ι (Fin size) Unit) := appSets_start start
  refine ⟨?_, ?_, ?_⟩
  · have preserved : ∀ (source : AppPool ι (Fin size) Unit) act target,
        AppSets (fun i => AppRequest.ofRoute crypto (routes i)) source → ¬ source.Deadlocked pooling →
        shop.PoolSteps pooling source act target →
        ¬ target.Deadlocked pooling → AppSets (fun i => AppRequest.ofRoute crypto (routes i)) target :=
      fun _ _ _ sets _ stepped _ => appSets_step sets stepped
    refine eachState_iff_eachStep ?_ preserved atStart ?_ isRun
    · exact fun source act target sets open' stepped => not_congr (sets.deadlocked_iff open' stepped)
    · exact fun deadlocked => deadlocked.exhausted ⟨0, notEmpty⟩ fun _ holds => by cases holds
  · refine (eachState_of_step kept atStart isRun).imp fun pool sets few deadlocked => ?_
    let users := Finset.univ.filter fun i => (routes i).takesSecond = true ∧ (pool.system.thread i).underWay = true
    have enough : Fintype.card (Fin size) ≤ users.card := by
      refine sets.card_le_of_deadlocked deadlocked users fun i op storeId inside isStore underWay => ?_
      have takesSecond : (routes i).takesSecond = true :=
        Bool.and_eq_true_iff.mpr ⟨inside.2, Option.isSome_iff_exists.mpr ⟨storeId, isStore⟩⟩
      exact Finset.mem_filter.mpr ⟨Finset.mem_univ i, takesSecond, underWay⟩
    rw [Fintype.card_fin] at enough
    exact Nat.not_le.mpr few enough
  · exact isRun.imp fun _ _ _ stepped deadlocked uncut => (deadlocked.step stepped uncut).1

end Runs

namespace SmallShop

def keyedOrderOf : AppRoute := .store (ownerOf 1) 1 rfl (.createOrder environment (some "key") twoLines)

/-- Two orders with a key open their transactions one after the other, on a pool of two connections. -/
def openedInTurn : List (PoolAct (Fin 2) (Fin 2) ApiError) :=
  List.replicate 3 ⟨.run 0, 0⟩ ++ List.replicate 3 ⟨.run 1, 1⟩

theorem runs_openedInTurn :
    (Transition.traceOf (shop.poolStep pooling) (AppRoute.pool crypto (fun _ => keyedOrderOf) freeStore)
      openedInTurn).isSome = true := by
  decide +kernel

end SmallShop

/-- With the second of them the pool closes. -/
theorem deadlocked_iff_closes_openedInTurn :
    ¬ Transition.EachStep (fun source act _ => ¬ source.Closes shop pooling act)
      (AppRoute.pool SmallShop.crypto (fun _ => SmallShop.keyedOrderOf) SmallShop.freeStore)
      ((Transition.traceOf (shop.poolStep pooling)
        (AppRoute.pool SmallShop.crypto (fun _ => SmallShop.keyedOrderOf) SmallShop.freeStore)
        SmallShop.openedInTurn).get SmallShop.runs_openedInTurn) := by
  intro stays
  have never := (deadlocked_iff_closes SmallShop.crypto (fun _ => SmallShop.keyedOrderOf) SmallShop.freeStore Nat.two_pos _
    (Transition.run_get_traceOf SmallShop.runs_openedInTurn)).1.mpr stays
  exact never.last ⟨by decide +kernel, by decide +kernel⟩

/-! ## As many keyed orders as connections -/

section Keyed

variable {ι κ : Type} [Fintype ι] [DecidableEq ι] [DecidableEq κ]

/-- The request has gone on until it waits inside its transaction, and nothing else has changed. -/
structure Opened (source target : AppPool ι κ Unit) (i : ι) (c : κ) :
    Prop where
  waits : (target.system.thread i).program.waits pooling = true
  connection : target.connection = Function.update source.connection i (some c)
  others : ∀ j, j ≠ i → target.system.thread j = source.system.thread j
  db : target.system.db = source.system.db

theorem intercept_keyed (storeId : Option Uuid) (path : String) {clientKey : String} (notEmpty : clientKey ≠ "")
    (statusCode : Nat) (next : Handler ResponseBody) :
    IdempotencyInterceptor.intercept storeId path (some clientKey) statusCode next =
      IdempotencyInterceptor.interceptKeyed (IdempotencyInterceptor.cacheKey storeId path clientKey) statusCode next := by
  unfold IdempotencyInterceptor.intercept
  split
  next isNone => cases isNone
  next isEmpty => exact absurd (Option.some.inj isEmpty) notEmpty
  next same => rw [Option.some.inj same]

theorem opened_of_fresh {crypto : Crypto} {source : AppPool ι κ Unit}
    {i : ι} {c : κ} {user : AuthenticatedUser} {storeId : Uuid} {isStore : user.storeId = some storeId}
    {env : Environment} {clientKey : String} {dto : CreateOrderDto}
    (fresh : source.system.thread i = ⟨.empty,
      (AppRequest.ofRoute crypto (.store user storeId isStore (.createOrder env (some clientKey) dto))).program, true⟩)
    (isFree : source.IsFree c) (notEmpty : clientKey ≠ "")
    (active : (source.system.db.stores.find storeId).map Store.isSuspended ≠ some true) :
    ∃ run, Transition.Run (shop.PoolSteps pooling) source run ∧ Opened source (Transition.final source run) i c := by
  obtain ⟨id, email, role, ownStore⟩ := user
  cases isStore
  let intercepted : Handler Unit := RlsContextInterceptor.intercept (some storeId)
    ((StoreRoute.createOrder env (some clientKey) dto).handler storeId)
  -- the guard looks at the store, the interceptor opens the transaction and sets the store
  have guarded : ∃ resume : Except ApiError (Option Store) → Handler Unit,
      source.system.thread i = ⟨.empty, .call (.auto (.outbox (.findStore storeId))) resume, true⟩ ∧
        resume (.ok (source.system.db.stores.find storeId)) = intercepted := by
    refine ⟨_, fresh, ?_⟩
    change ((if (source.system.db.stores.find storeId).map Store.isSuspended = some true then _ else _ :
      Tx Unit).autocommit >>= fun _ => intercepted) = intercepted
    rw [if_neg active]
    rfl
  obtain ⟨resume, isThread, passes⟩ := guarded
  obtain ⟨first, stepped₁, thread₁, others₁, db₁, isFirst⟩ :=
    shop.poolSteps_run (P := pooling) c isThread rfl fun _ => isFree
  have connection₁ : first.connection = source.connection := by rw [isFirst]; rfl
  have isFree₁ : first.IsFree c := by rwa [Pooled.IsFree, connection₁]
  have isThread₁ : ∃ session, ∃ resume : Except ApiError Unit → Handler Unit,
      first.system.thread i = ⟨session, .call .begin resume, true⟩ ∧
        ∃ next : Except ApiError Unit → Handler Unit, resume (.ok ()) = .call (.query (.setCurrentStore storeId)) next ∧
          (next (.ok ())).waits pooling = true := by
    refine ⟨_, _, thread₁.trans (congrArg (Thread.mk _ · true) passes), _, rfl, ?_⟩
    change ((((IdempotencyInterceptor.intercept (some storeId) "/orders" (some clientKey) 201 _ : Handler HttpAnswer)
      >>= fun _ => (return () : Handler Unit)).handle Program.endTransaction).waits pooling) = true
    rw [intercept_keyed _ _ notEmpty]
    rfl
  obtain ⟨session, begins, thread₁, sets, isSet, waits⟩ := isThread₁
  obtain ⟨second, stepped₂, thread₂, others₂, db₂, isSecond⟩ :=
    shop.poolSteps_run (P := pooling) c thread₁ rfl fun _ => isFree₁
  have connection₂ : second.connection = Function.update source.connection i (some c) := by
    rw [isSecond, ← connection₁]
    rfl
  have isThread₂ : second.system.thread i = ⟨_, .call (.query (.setCurrentStore storeId)) sets, true⟩ :=
    thread₂.trans (congrArg (Thread.mk _ · true) isSet)
  obtain ⟨third, stepped₃, thread₃, others₃, db₃, isThird⟩ :=
    shop.poolSteps_run (P := pooling) c isThread₂ rfl fun acquires => by cases acquires
  refine ⟨[(⟨.run i, c⟩, first), (⟨.run i, c⟩, second), (⟨.run i, c⟩, third)],
    ⟨stepped₁, stepped₂, stepped₃, trivial⟩, ?_, ?_, fun j differs => ?_, ?_⟩
  · change (third.system.thread i).program.waits pooling = true
    rw [thread₃]
    exact waits
  · change third.connection = _
    rw [isThird, ← connection₂]
    rfl
  · exact (others₃ j differs).trans ((others₂ j differs).trans (others₁ j differs))
  · exact db₃.trans (db₂.trans db₁)

/-- The first `count` requests wait in their transactions, each on a connection of its own, and the others are fresh. -/
structure Stalled (program : Handler Unit) (start : Database) {size : Nat} (count : Nat)
    (pool : AppPool (Fin size) (Fin size) Unit) : Prop where
  waits : ∀ i : Fin size, i.val < count → (pool.system.thread i).program.waits pooling = true
  fresh : ∀ i : Fin size, count ≤ i.val → pool.system.thread i = ⟨.empty, program, true⟩
  connection : ∀ i : Fin size, pool.connection i = if i.val < count then some i else none
  db : pool.system.db = start

/-- As many requests on one route as the pool has connections. -/
abbrev AppRoute.crowd (crypto : Crypto) (size : Nat) (route : AppRoute) (start : Database) :
    AppPool (Fin size) (Fin size) Unit :=
  AppRoute.pool crypto (fun _ => route) start

/-- On a pool of any size, as many orders with a key of a store that is not suspended come to a deadlock. -/
theorem deadlocks_keyedOrders (crypto : Crypto) (size : Nat) (start : Database) {user : AuthenticatedUser}
    {storeId : Uuid} (isStore : user.storeId = some storeId) (env : Environment) {clientKey : String}
    (dto : CreateOrderDto) (notEmpty : clientKey ≠ "")
    (active : (start.stores.find storeId).map Store.isSuspended ≠ some true) :
    ∃ run, Transition.Run (shop.PoolSteps pooling)
        (AppRoute.crowd crypto size (.store user storeId isStore (.createOrder env (some clientKey) dto)) start) run ∧
      (Transition.final (AppRoute.crowd crypto size
        (.store user storeId isStore (.createOrder env (some clientKey) dto)) start) run).Deadlocked pooling := by
  let route : AppRoute := .store user storeId isStore (.createOrder env (some clientKey) dto)
  -- each order in turn opens its transaction and stops where it asks for a second connection
  have stalls (count : Nat) (fits : count ≤ size) : ∃ run,
      Transition.Run (shop.PoolSteps pooling) (AppRoute.crowd crypto size route start) run ∧
      Stalled (AppRequest.ofRoute crypto route).program start count
        (Transition.final (AppRoute.crowd crypto size route start) run) := by
    induction count with
    | zero =>
      refine ⟨[], trivial, fun i below => absurd below (Nat.not_lt_zero _), fun i _ => rfl, fun i => rfl, rfl⟩
    | succ count ih =>
      obtain ⟨run, isRun, stalled⟩ := ih (Nat.le_of_succ_le fits)
      let next : Fin size := ⟨count, fits⟩
      -- the connections handed out so far are those below `count`
      have isFree : (Transition.final (AppRoute.crowd crypto size route start) run).IsFree next := by
        intro i holds
        rw [stalled.connection i] at holds
        split at holds
        next below => exact Nat.ne_of_lt below (congrArg Fin.val (Option.some.inj holds))
        next => cases holds
      obtain ⟨more, isMore, opened⟩ := opened_of_fresh (stalled.fresh next le_rfl) isFree notEmpty (by rwa [stalled.db])
      obtain ⟨isRun, ends⟩ := Transition.run_append isRun isMore
      refine ⟨run ++ more, isRun, ?_⟩
      rw [ends]
      refine ⟨fun i below => ?_, fun i above => ?_, fun i => ?_, opened.db.trans stalled.db⟩
      · by_cases isNext : i = next
        · rw [isNext]
          exact opened.waits
        · have differs : i.val ≠ count := fun same => isNext (Fin.ext same)
          rw [opened.others i isNext]
          exact stalled.waits i (Nat.lt_of_le_of_ne (Nat.le_of_lt_succ below) differs)
      · have isNext : i ≠ next := fun same => Nat.not_succ_le_self count (by rw [same] at above; exact above)
        rw [opened.others i isNext]
        exact stalled.fresh i (Nat.le_of_succ_le above)
      · rw [opened.connection]
        by_cases isNext : i = next
        · rw [isNext, Function.update_self, if_pos (Nat.lt_succ_self count)]
        · have differs : i.val ≠ count := fun same => isNext (Fin.ext same)
          rw [Function.update_of_ne isNext, stalled.connection i]
          simp only [Nat.lt_succ_iff_lt_or_eq, differs, or_false]
  obtain ⟨run, isRun, stalled⟩ := stalls size le_rfl
  refine ⟨run, isRun, fun c isFree => isFree c ?_, fun i _ => stalled.waits i i.isLt⟩
  rw [stalled.connection c, if_pos c.isLt]

end Keyed

/-- Ten connections are what the pool has where no option says otherwise. -/
theorem deadlocks_keyedOrders_ten :
    ∃ run, Transition.Run (shop.PoolSteps pooling)
        (AppRoute.crowd SmallShop.crypto 10 SmallShop.keyedOrderOf SmallShop.freeStore) run ∧
      (Transition.final (AppRoute.crowd SmallShop.crypto 10 SmallShop.keyedOrderOf SmallShop.freeStore)
        run).Deadlocked pooling :=
  deadlocks_keyedOrders SmallShop.crypto 10 SmallShop.freeStore rfl SmallShop.environment SmallShop.twoLines
    (by decide) (by decide)

end StoreSaas
