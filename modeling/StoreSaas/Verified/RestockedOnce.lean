import StoreSaas.Verified.CancellationRace
import StoreSaas.Verified.StockLedger

/-! # An order is restocked once, unless a cancellation commits late

`restockedOnce_iff` is about all runs of requests to the orders in which the order is
not cancelled at first and never taken out of `CANCELLED`: its items come back exactly
once if and only if no request commits what it restocked when the order is
`CANCELLED` already.
-/

namespace StoreSaas

/-! ## What was restocked -/

/-- Something was put back. -/
def restocksAny (log : Log statements ApiError) : Bool :=
  log.any fun entry => (restockOf entry).any fun restock => restock.2 ≠ 0

theorem entryRestock_nonneg (p : Uuid) (entry : Σ op : RequestOp statements, Except ApiError op.Reply) :
    0 ≤ entryRestock p entry := by
  unfold entryRestock
  split
  next => split <;> omega
  next => exact le_refl 0

theorem entryRestock_eq_zero_iff {entry : Σ op : RequestOp statements, Except ApiError op.Reply} :
    ((restockOf entry).any fun restock => restock.2 ≠ 0) = false ↔ ∀ p, entryRestock p entry = 0 := by
  unfold entryRestock
  cases restockOf entry with
  | none => exact ⟨fun _ _ => rfl, fun _ => rfl⟩
  | some restock =>
    obtain ⟨id, count⟩ := restock
    constructor
    · intro nothing p
      have none : count = 0 := by simpa using nothing
      simp [none]
    · intro nothing
      simpa using nothing id

theorem restockedIn_nonneg (p : Uuid) (log : Log statements ApiError) : 0 ≤ restockedIn p log := by
  induction log with
  | nil => exact le_refl 0
  | cons entry rest ih => exact Int.add_nonneg (entryRestock_nonneg p entry) ih

theorem restocksAny_eq_false_iff {log : Log statements ApiError} :
    restocksAny log = false ↔ ∀ p, restockedIn p log = 0 := by
  induction log with
  | nil => exact ⟨fun _ _ => rfl, fun _ => rfl⟩
  | cons entry rest ih =>
    rw [restocksAny, List.any_cons, Bool.or_eq_false_iff, entryRestock_eq_zero_iff]
    rw [restocksAny] at ih
    rw [ih, ← forall_and]
    refine forall_congr' fun p => ?_
    have first := entryRestock_nonneg p entry
    have others := restockedIn_nonneg p rest
    rw [restockedIn_cons]
    omega

/-! ## The requests -/

namespace ShopRequest

/-- The request sets the order to `CANCELLED`. -/
def cancels (o : Uuid) (request : ShopRequest) : Bool :=
  match request.call with
  | .updateStatus id dto => id = some o ∧ dto.status = .cancelled
  | _ => false

section Contract

variable {o storeId : Uuid} {items : List OrderItem} {request : ShopRequest} {session : ShopSession}
  {db before after : Database}

/-- What a commit may do to the order: only a cancellation cancels it, and has restocked nothing or all. -/
structure RaceOutcome (o storeId : Uuid) (items : List OrderItem) (request : ShopRequest) (session : ShopSession)
    (before after : Database) : Prop where
  intact : Intact o storeId items after
  stays : before.isCancelled o = true → after.isCancelled o = true
  cancelled : request.cancels o = true → after.isCancelled o = true ∧ RestockedAll o items session before
  others : request.cancels o = false → after.isCancelled o = true → before.isCancelled o = true

/-- The contract of a request in a run that never moves the order out of `CANCELLED`. -/
def raceContract (o storeId : Uuid) (items : List OrderItem) (request : ShopRequest) : ShopContract where
  assume session op db := match op with
    | .commit => db.isCancelled o = true → (shop.view db session).isCancelled o = true
    | _ => True
  rely := KeepsOrder o storeId items
  reflexive _ intact := ⟨intact, id⟩
  transitive _ _ _ first second intact :=
    ⟨(second (first intact).1).1, fun isCancelled => (second (first intact).1).2 ((first intact).2 isCancelled)⟩
  guarantee session _ before after := Intact o storeId items before → RaceOutcome o storeId items request session before after

/-- What holds of a request when its handler has returned. -/
def RaceEnded (o storeId : Uuid) (items : List OrderItem) (request : ShopRequest) (session : ShopSession)
    (db : Database) : Prop :=
  (request.cancels o = false ∧ Bystander o storeId items session db) ∨
    ∃ status amount, Ended o storeId items status amount session db ∧
      (request.cancels o = true ↔ status = .cancelled) ∧ (status = .cancelled → RestockedAll o items session db)

theorem body_raceHandler (sells : request.sells = true) (idle : Idle session) (intact : Intact o storeId items db) :
    shop.Body (raceContract o storeId items request) (fun _ => RaceEnded o storeId items request)
      (request.call.handler request.env request.storeId) session db := by
  obtain ⟨env, ofStore, call⟩ := request
  have rely (before after : Database)
      (allowed : (raceContract o storeId items ⟨env, ofStore, call⟩).rely before after) :
      KeepsOrder o storeId items before after := allowed
  cases call with
  | createOrder dto =>
    refine Engine.Body.map _ ((body_create_bystands rely env ofStore dto (idle.bystander intact)).imp ?_)
    exact fun _ _ _ bystander => .inl ⟨rfl, bystander⟩
  | updateStatus id dto =>
    by_cases onOrder : id = some o
    · subst onOrder
      refine Engine.Body.map _ ((body_updateStatus_order rely env ofStore dto idle intact).imp ?_)
      rintro _ session db ⟨⟨amount, ended⟩, restockedAll⟩
      exact .inr ⟨dto.status, amount, ended, by simp [cancels], restockedAll⟩
    · refine Engine.Body.map _ ((body_updateStatus_bystands rely env ofStore dto onOrder idle intact).imp ?_)
      exact fun _ _ _ bystander => .inl ⟨by simp [cancels, onOrder], bystander⟩
  | _ => cases sells

theorem RaceEnded.commits (ended : RaceEnded o storeId items request session db)
    (stays : db.isCancelled o = true → (shop.view db session).isCancelled o = true) :
    RaceOutcome o storeId items request session db (shop.view db session) := by
  obtain ⟨notCancels, bystander⟩ | ⟨status, amount, ended, cancels, restockedAll⟩ := ended
  · exact
      { intact := bystander.view
        stays := stays
        cancelled := fun isCancel => absurd isCancel (by simp [notCancels])
        others := fun _ isCancelled => by rwa [bystander.sameCancelled] at isCancelled }
  · obtain ⟨bystander, seen⟩ | hasSet := ended.status
    · exact
        { intact := bystander.view
          stays := stays
          cancelled := fun isCancel => ⟨stays (seen (cancels.mp isCancel)), restockedAll (cancels.mp isCancel)⟩
          others := fun _ isCancelled => by rwa [bystander.sameCancelled] at isCancelled }
    · obtain ⟨row, isRow, isSet⟩ := Option.map_eq_some_iff.mp hasSet.isSet
      have viewCancelled : (shop.view db session).isCancelled o = true ↔ status = .cancelled := by
        rw [Database.isCancelled, isRow, ← isSet]
        simp
      exact
        { intact := hasSet.intact.applyAll hasSet.harmless
          stays := stays
          cancelled := fun isCancel => ⟨viewCancelled.mpr (cancels.mp isCancel), restockedAll (cancels.mp isCancel)⟩
          others := fun notCancels isCancelled => by
            rw [viewCancelled, ← cancels, notCancels] at isCancelled
            cases isCancelled }

theorem safe_raceProgram (sells : request.sells = true) (intact : Intact o storeId items db) :
    shop.Safe (raceContract o storeId items request) (fun _ _ _ => True) request.program .empty db :=
  safe_inRequest (fun _ _ allowed intact => (allowed intact).1) intact
    (fun _ _ idle intact => body_raceHandler sells idle intact)
    fun _ _ _ ended stays _ => ended.commits stays

end Contract

/-! ## Runs -/

variable {ι : Type}

theorem raceCompatible {o storeId : Uuid} {items : List OrderItem} {requests : ι → ShopRequest} :
    Engine.Compatible fun i => (requests i).raceContract o storeId items :=
  fun _ _ _ _ _ _ _ owed intact => ⟨(owed intact).intact, (owed intact).stays⟩

variable [Fintype ι]

/-- What all cancellations of the order together have added to a product's stock. -/
def givenBackTo (o p : Uuid) (requests : ι → ShopRequest)
    (state : System ι Database RowKey DbWrite statements ApiError CallResult) : Int :=
  state.committedTotal fun i log => if (requests i).cancels o then restockedIn p log else 0

/-- The items of an order are back once it is cancelled, and not before. -/
def RestockedOnce (o : Uuid) (items : List OrderItem) (requests : ι → ShopRequest)
    (state : System ι Database RowKey DbWrite statements ApiError CallResult) : Prop :=
  ∀ p, givenBackTo o p requests state = if state.db.isCancelled o then quantityOf p items else 0

/-- The step commits a restock of an order that is cancelled already. -/
def restocksAgain (o : Uuid) (requests : ι → ShopRequest)
    (source : System ι Database RowKey DbWrite statements ApiError CallResult) : Act ι ApiError → Bool
  | .run i => (requests i).cancels o && (source.thread i).program.atCommit && source.db.isCancelled o &&
      restocksAny (source.thread i).session.log
  | .fail _ _ | .crash _ => false

structure Race (o storeId : Uuid) (items : List OrderItem) (requests : ι → ShopRequest)
    (state : System ι Database RowKey DbWrite statements ApiError CallResult) : Prop where
  conforms : shop.Conforms (fun i => (requests i).raceContract o storeId items) state
  transactional : state.Transactional
  intact : Intact o storeId items state.db

section Steps

variable {o storeId : Uuid} {items : List OrderItem} {requests : ι → ShopRequest}
  {source target : System ι Database RowKey DbWrite statements ApiError CallResult} {act : Act ι ApiError}

/-- A run that never moves the order out of `CANCELLED` meets what the contracts assume. -/
theorem raceAssumed [DecidableEq ι] (stepped : shop.Steps source act target)
    (stays : source.db.isCancelled o = true → target.db.isCancelled o = true) :
    Engine.Assumed (fun i => (requests i).raceContract o storeId items) source act := by
  cases act with
  | run i =>
    intro op resume calls
    cases op with
    | commit =>
      intro isCancelled
      rcases Engine.steps_cases shop stepped with ⟨j, op, resume', isRun, -, calls', -, rfl⟩ | ⟨_, _, _, _, isFail, _⟩ |
        ⟨_, isCrash, _⟩
      · cases isRun
        rw [calls] at calls'
        cases calls'
        exact stays isCancelled
      · cases isFail
      · cases isCrash
    | _ => trivial
  | fail | crash => trivial

theorem Race.outcome (race : Race o storeId items requests source)
    (assumed : Engine.Assumed (fun i => (requests i).raceContract o storeId items) source act) {i : ι}
    (commits : Engine.CommitOf shop source act i target) :
    RaceOutcome o storeId items (requests i) (source.thread i).session source.db target.db := by
  obtain ⟨resume, calls⟩ := commits.calls
  obtain rfl := commits.isAct
  have owed := Engine.guarantee_of_step race.conforms commits.alive calls (assumed .commit resume calls) rfl race.intact
  rwa [show (shop.perform (source.thread i).session source.db .commit).db = target.db from commits.db.symm] at owed

theorem restockedIn_commit (p : Uuid) (log : Log statements ApiError) :
    restockedIn p (⟨.commit, .ok ()⟩ :: log) = restockedIn p log := by
  simp [entryRestock, restockOf]

/-- A commit keeps the equation unless it restocks an order that is cancelled already. -/
theorem Race.commit_iff (race : Race o storeId items requests source)
    (assumed : Engine.Assumed (fun i => (requests i).raceContract o storeId items) source act) {i : ι}
    (commits : Engine.CommitOf shop source act i target) (holds : RestockedOnce o items requests source) :
    RestockedOnce o items requests target ↔ restocksAgain o requests source act = false := by
  have outcome := race.outcome assumed commits
  obtain ⟨resume, calls⟩ := commits.calls
  obtain rfl := commits.isAct
  have again : restocksAgain o requests source (.run i) = ((requests i).cancels o && source.db.isCancelled o &&
      restocksAny (source.thread i).session.log) := by
    simp only [restocksAgain, calls, Program.atCommit, Bool.and_true]
  have total (p : Uuid) : givenBackTo o p requests target = givenBackTo o p requests source +
      if (requests i).cancels o then restockedIn p (source.thread i).session.log else 0 := by
    rw [givenBackTo, commits.total, restockedIn_commit, givenBackTo]
  rw [again]
  simp only [RestockedOnce, total, holds _]
  cases cancels : (requests i).cancels o with
  | false =>
    have sameStatus : target.db.isCancelled o = source.db.isCancelled o :=
      Bool.eq_iff_iff.mpr ⟨outcome.others cancels, outcome.stays⟩
    simp [sameStatus]
  | true =>
    obtain ⟨isCancelled, ⟨wasCancelled, nothing⟩ | all⟩ := outcome.cancelled cancels
    · simp [isCancelled, wasCancelled, nothing, restocksAny_eq_false_iff]
    · cases wasCancelled : source.db.isCancelled o with
      | false => simp [isCancelled, all]
      | true => simp [isCancelled, all, restocksAny_eq_false_iff]

variable [DecidableEq ι]

/-- One step, in a run that never moves the order out of `CANCELLED`. -/
theorem Race.step_iff (race : Race o storeId items requests source) (stepped : shop.Steps source act target)
    (stays : source.db.isCancelled o = true → target.db.isCancelled o = true)
    (holds : RestockedOnce o items requests source) :
    Race o storeId items requests target ∧
      (RestockedOnce o items requests target ↔ restocksAgain o requests source act = false) := by
  have assumed : Engine.Assumed (fun i => (requests i).raceContract o storeId items) source act :=
    raceAssumed stepped stays
  have conforms := Engine.conforms_step raceCompatible race.conforms stepped assumed
  obtain ⟨transactional, silent | ⟨i, commits⟩⟩ := Engine.transactional_step_cases race.transactional stepped
  · refine ⟨⟨conforms, transactional, by rw [silent.db]; exact race.intact⟩, ?_⟩
    have notAgain : restocksAgain o requests source act = false := by
      cases act with
      | run i => simp [restocksAgain, silent.quiet i rfl]
      | fail | crash => rfl
    have same : RestockedOnce o items requests target := by
      intro p
      rw [givenBackTo, silent.total, silent.db]
      exact holds p
    exact iff_of_true same notAgain
  · exact ⟨⟨conforms, transactional, (race.outcome assumed commits).intact⟩, race.commit_iff assumed commits holds⟩

end Steps

section Runs

variable [DecidableEq ι] {start : Database} {requests : ι → ShopRequest} {order : Order}
  {acts : List (Act ι ApiError × System ι Database RowKey DbWrite statements ApiError CallResult)}

open Transition

/-- However many requests cancel an order and whatever else happens to orders meanwhile: the cancellations
    bring its items back exactly once if and only if none of them commits a restock of an order that is
    `CANCELLED` already. -/
theorem restockedOnce_iff (linked : start.Linked) (found : start.orders.find order.id = some order)
    (isOpen : order.status ≠ .cancelled) (calls : ∀ i, (requests i).sells = true)
    (isRun : Run shop.Steps (system start requests) acts)
    (neverReopened : EachStep (fun source _ target =>
      source.db.isCancelled order.id = true → target.db.isCancelled order.id = true) (system start requests) acts) :
    EachState (RestockedOnce order.id (start.itemsOf order.id) requests) (system start requests) acts ↔
      EachStep (fun source act _ => restocksAgain order.id requests source act = false)
        (system start requests) acts := by
  have intact := linked.intact found
  have atStart : Race order.id order.storeId (start.itemsOf order.id) requests (system start requests) :=
    ⟨Engine.conforms_start fun i => safe_raceProgram (calls i) intact,
      transactional_start fun i => (requests i).isTransaction, intact⟩
  have holds : RestockedOnce order.id (start.itemsOf order.id) requests (system start requests) := by
    intro p
    have notCancelled : start.isCancelled order.id = false := by
      rw [Database.isCancelled, found]
      simpa using isOpen
    change _ = if start.isCancelled order.id then _ else _
    rw [notCancelled]
    exact committedTotal_start _ _ _
  refine eachState_iff_eachStep ?_ ?_ atStart holds (isRun.and neverReopened)
  · exact fun source act target race holds stepped => (race.step_iff stepped.1 stepped.2 holds).2
  · exact fun source act target race holds stepped _ => (race.step_iff stepped.1 stepped.2 holds).1

end Runs

end ShopRequest

namespace SmallShop

/-- One cancellation after the other. -/
def cancelThenCancel : List (Act Bool ApiError) := List.replicate 7 (.run false) ++ List.replicate 5 (.run true)

/-- Both read the order before one of them commits. -/
def cancelBoth : List (Act Bool ApiError) :=
  List.replicate 3 (.run false) ++ List.replicate 3 (.run true) ++ List.replicate 4 (.run false) ++
    List.replicate 3 (.run true)

end SmallShop

namespace ShopRequest

theorem restockedOnce_smallShop :
    Transition.EachState (RestockedOnce SmallShop.order.id (SmallShop.db.itemsOf SmallShop.order.id)
        (SmallShop.both SmallShop.cancelOrder SmallShop.cancelOrder))
      (system SmallShop.db (SmallShop.both SmallShop.cancelOrder SmallShop.cancelOrder))
      ((shop.trace (system SmallShop.db (SmallShop.both SmallShop.cancelOrder SmallShop.cancelOrder))
        SmallShop.cancelThenCancel).get (by decide)) := by
  have found : SmallShop.db.orders.find SmallShop.order.id = some SmallShop.order := rfl
  exact Iff.mpr (restockedOnce_iff SmallShop.linked found (by decide) (by decide) (shop.run_get_trace _) (by decide))
    (by decide)

/-- Two cancellations that both read the order first give back four of an order of two. -/
theorem not_restockedOnce : ¬ ∀ (requests : Bool → ShopRequest)
    (acts : List (Act Bool ApiError × System Bool Database RowKey DbWrite statements ApiError CallResult)),
    (∀ i, (requests i).cancels SmallShop.order.id = true) →
    Transition.Run shop.Steps (system SmallShop.db requests) acts →
    Transition.EachStep (fun source _ target => source.db.isCancelled SmallShop.order.id = true →
      target.db.isCancelled SmallShop.order.id = true) (system SmallShop.db requests) acts →
    RestockedOnce SmallShop.order.id (SmallShop.db.itemsOf SmallShop.order.id) requests
      (Transition.final (system SmallShop.db requests) acts) := by
  intro restockedOnce
  have twice := restockedOnce (SmallShop.both SmallShop.cancelOrder SmallShop.cancelOrder)
    ((shop.trace (system SmallShop.db (SmallShop.both SmallShop.cancelOrder SmallShop.cancelOrder))
      SmallShop.cancelBoth).get (by decide)) (by decide) (shop.run_get_trace _) (by decide) 2
  revert twice
  decide

end ShopRequest

end StoreSaas
