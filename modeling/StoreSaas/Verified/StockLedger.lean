import StoreSaas.Verified.References
import StoreSaas.Verified.StockBodies

/-! # The stock ledger under concurrency

Every request that has committed has an entry for each product: what it ordered, what
it restocked, what it put on the shelf when it created the product.  The invariant
`Ledger` says that the committed stock is what there was at the start and the entries
added up; `stockLedger` is the theorem about all runs of orders, cancellations and
products that come and go.
-/

namespace StoreSaas

/-- A request to the catalogue or the orders of a store. -/
structure ShopRequest where
  env : Environment
  storeId : Uuid
  call : Call

namespace ShopRequest

def program (request : ShopRequest) : Handler CallResult :=
  inRequest request.storeId (request.call.handler request.env request.storeId)

theorem isTransaction (request : ShopRequest) : request.program.IsTransaction := by
  rw [program, inRequest_eq]
  exact Program.isTransaction_withTransaction _

/-! ## Entries -/

/-- How many of a product the request orders. -/
def ordered (request : ShopRequest) (p : Uuid) : Int :=
  match request.call with
  | .createOrder dto => orderedQuantity p dto.items
  | _ => 0

/-- How many of a product the request has restocked by cancelling an order. -/
def restocked (request : ShopRequest) (p : Uuid) (log : Log statements ApiError) : Int :=
  match request.call with
  | .updateStatus _ _ => restockedIn p log
  | _ => 0

/-- The stock with which the request creates a product. -/
def opening (request : ShopRequest) (p : Uuid) : Int :=
  match request.call with
  | .createProduct dto => if p = request.env.newId 0 then ((dto.stock.orElse 0 : Nat) : Int) else 0
  | _ => 0

def entry (request : ShopRequest) (p : Uuid) (log : Log statements ApiError) : Int :=
  request.opening p + request.restocked p log - request.ordered p

/-- The request creates the product. -/
def Creates (request : ShopRequest) (p : Uuid) : Prop :=
  match request.call with
  | .createProduct _ => p = request.env.newId 0
  | _ => False

/-- The calls that edit a product without mentioning its stock. -/
def edits (request : ShopRequest) : Bool :=
  match request.call with
  | .setImage _ _ => true
  | .updateProduct _ dto => dto.stock = .undefined
  | _ => false

/-- The calls that change the stock of a product that exists. -/
def sells (request : ShopRequest) : Bool :=
  match request.call with
  | .createOrder _ | .updateStatus _ _ => true
  | _ => false

/-- The calls by which products come and go. -/
def shelves (request : ShopRequest) : Bool :=
  match request.call with
  | .createProduct _ | .removeProduct _ => true
  | _ => false

/-! ## The contract of a request -/

/-- What a request owes the ledger: each product moves by its entry.  With `keeps`, no request
    removes products; an edit that commits is assumed not to have been stale. -/
def contract (keeps : Prop) (request : ShopRequest) : ShopContract where
  assume session op _ := match op with
    | .commit => request.edits = true → staleEdit session.log = false
    | _ => True
  rely before after := keeps → ProductsRemain before after
  reflexive _ _ _ present := present
  transitive _ _ _ first second keep p present := second keep p (first keep p present)
  guarantee session _ before after := ∀ p, StockChange request.Creates keeps p (request.entry p session.log)
    (before.products.find p) (after.products.find p)

/-- Edits only run where products stay, and products only go where nobody edits. -/
def Admitted (keeps : Prop) (request : ShopRequest) : Prop :=
  request.sells = true ∨ (¬ keeps ∧ request.shelves = true) ∨ (keeps ∧ request.edits = true)

/-- What holds of a request when its handler has returned. -/
def Settled (keeps : Prop) (request : ShopRequest) (session : ShopSession) (db : Database) : Prop :=
  (request.edits = true ∧ staleEdit session.log = true) ∨
    StockTally request.Creates keeps (fun p => request.entry p session.log) session db

section Handlers

variable {keeps : Prop} {request : ShopRequest} {session : ShopSession} {db : Database}

theorem body_settles {α : Type} {C : ShopContract} {body : Tx α} (amount : Uuid → Log statements ApiError → Int)
    (tallies : shop.Body C (fun _ session => StockTally request.Creates keeps (fun p => amount p session.log) session)
      body session db)
    (isEntry : ∀ p log, amount p log = request.entry p log) :
    shop.Body C (fun _ => request.Settled keeps) body session db :=
  tallies.imp fun _ _ _ tally => .inr (tally.congr fun p => isEntry p _)

theorem body_edits {α : Type} {C : ShopContract} {body : Tx α} (isEdit : request.edits = true)
    (tallies : shop.Body C (fun _ => EditTally request.Creates keeps) body session db)
    (isEntry : ∀ p log, 0 = request.entry p log) : shop.Body C (fun _ => request.Settled keeps) body session db :=
  tallies.imp fun _ _ _ tally => tally.imp (⟨isEdit, ·⟩) fun tally => tally.congr fun p => isEntry p _

theorem body_handler (admitted : request.Admitted keeps) (idle : Idle session) :
    shop.Body (request.contract keeps) (fun _ => request.Settled keeps)
      (request.call.handler request.env request.storeId) session db := by
  obtain ⟨env, storeId, call⟩ := request
  cases call with
  | createOrder dto =>
    exact Engine.Body.map _ (body_settles (fun p _ => -orderedQuantity p dto.items) (body_create env storeId dto idle)
      fun p log => by simp [entry, opening, restocked, ordered])
  | updateStatus id dto =>
    exact Engine.Body.map _ (body_settles restockedIn (body_updateStatus env storeId id dto idle)
      fun p log => by simp [entry, opening, restocked, ordered])
  | createProduct dto =>
    refine Engine.Body.map _ (body_settles
      (fun p _ => if p = env.newId 0 then ((dto.stock.orElse 0 : Nat) : Int) else 0)
      (body_createProduct env storeId dto idle) fun p log => by simp [entry, opening, restocked, ordered])
  | removeProduct id =>
    have notKept : keeps = False := by simpa [Admitted, sells, shelves, edits] using admitted
    subst notKept
    exact Engine.Body.map (fun _ => CallResult.nothing) (body_settles (fun _ _ => 0) (body_removeProduct storeId id idle)
      fun p log => by simp [entry, opening, restocked, ordered])
  | setImage id imageUrl =>
    obtain ⟨kept, isEdit⟩ : keeps ∧ edits ⟨env, storeId, .setImage id imageUrl⟩ = true := by
      simpa [Admitted, sells, shelves] using admitted
    exact Engine.Body.map _ (body_edits isEdit (body_setImage env storeId id imageUrl (fun _ _ allowed => allowed kept) idle)
      fun p log => by simp [entry, opening, restocked, ordered])
  | updateProduct id dto =>
    obtain ⟨kept, isEdit⟩ : keeps ∧ edits ⟨env, storeId, .updateProduct id dto⟩ = true := by
      simpa [Admitted, sells, shelves] using admitted
    exact Engine.Body.map _ (body_edits isEdit
      (body_updateProductDto env storeId id dto (fun _ _ allowed => allowed kept) idle)
      fun p log => by simp [entry, opening, restocked, ordered])
  | _ => simp [Admitted, sells, shelves, edits] at admitted

/-- Every admitted request keeps its contract. -/
theorem safe_program (admitted : request.Admitted keeps) (db : Database) :
    shop.Safe (request.contract keeps) (fun _ _ _ => True) request.program .empty db := by
  have commits (value : CallResult) (session : ShopSession) (db : Database)
      (settled : request.Settled keeps session db) (assumed : request.edits = true → staleEdit session.log = false) :
      (request.contract keeps).guarantee session .commit db (shop.view db session) := by
    rcases settled with ⟨isEdit, stale⟩ | tally
    · exact absurd (assumed isEdit) (by simp [stale])
    · exact tally.change
  have stable : ∀ before after, (request.contract keeps).rely before after → True → True := fun _ _ _ => id
  exact safe_inRequest stable trivial (fun _ _ idle _ => body_handler admitted idle) commits

end Handlers

/-! ## The ledger -/

variable {ι : Type}

theorem compatible (keeps : Prop) (requests : ι → ShopRequest) :
    Engine.Compatible fun i => (requests i).contract keeps :=
  fun _ _ _ _ _ _ _ owed keep p => (owed p).remains keep

theorem entry_commit (request : ShopRequest) (p : Uuid) (log : Log statements ApiError) :
    request.entry p (⟨.commit, .ok ()⟩ :: log) = request.entry p log := by
  unfold entry restocked
  cases request.call with
  | updateStatus => simp [entryRestock, restockOf]
  | _ => rfl

/-- The requests, none of which has started. -/
def system (start : Database) (requests : ι → ShopRequest) :
    System ι Database RowKey DbWrite statements ApiError CallResult :=
  System.start start fun i => (requests i).program

/-- The ids the database generates for new products are new, and no two are the same. -/
structure FreshIds (start : Database) (requests : ι → ShopRequest) : Prop where
  unused : ∀ i p, (requests i).Creates p → start.products.find p = none
  distinct : ∀ i j p, (requests i).Creates p → (requests j).Creates p → i = j

variable [Fintype ι]

/-- The stock of each product is what there was and the entries of the committed requests. -/
structure Ledger (keeps : Prop) (start : Database) (requests : ι → ShopRequest)
    (state : System ι Database RowKey DbWrite statements ApiError CallResult) : Prop where
  conforms : shop.Conforms (fun i => (requests i).contract keeps) state
  transactional : state.Transactional
  balanced : ∀ p row, state.db.products.find p = some row →
    row.stock = start.stockOf p + state.committedTotal fun i => (requests i).entry p
  nonneg : ∀ p row, state.db.products.find p = some row → 0 ≤ start.stockOf p → 0 ≤ row.stock
  unborn : ∀ i p, (requests i).Creates p → (state.thread i).session.committed = false →
    state.db.products.find p = none ∧ start.stockOf p = 0 ∧
      (state.committedTotal fun i => (requests i).entry p) = 0

theorem Ledger.start {keeps : Prop} {db : Database} {requests : ι → ShopRequest}
    (admitted : ∀ i, (requests i).Admitted keeps) (fresh : FreshIds db requests) :
    Ledger keeps db requests (system db requests) where
  conforms := Engine.conforms_start fun i => safe_program (admitted i) db
  transactional := transactional_start fun i => (requests i).isTransaction
  balanced p row found := by
    change db.products.find p = some row at found
    rw [system, committedTotal_start, Database.stockOf, found]
    simp
  nonneg p row found nonneg := by
    change db.products.find p = some row at found
    rwa [Database.stockOf, found] at nonneg
  unborn i p creates _ := by
    have absent := fresh.unused i p creates
    refine ⟨absent, ?_, committedTotal_start _ _ _⟩
    rw [Database.stockOf, absent]
    rfl

section Steps

variable {keeps : Prop} {start : Database} {requests : ι → ShopRequest}
  {source target : System ι Database RowKey DbWrite statements ApiError CallResult} {act : Act ι ApiError}

/-- A commit moves each product by the entry of its request. -/
theorem Ledger.change (ledger : Ledger keeps start requests source)
    (assumed : Engine.Assumed (fun i => (requests i).contract keeps) source act) {i : ι}
    (commits : Engine.CommitOf shop source act i target) (p : Uuid) :
    StockChange (requests i).Creates keeps p ((requests i).entry p (source.thread i).session.log)
      (source.db.products.find p) (target.db.products.find p) := by
  obtain ⟨resume, calls⟩ := commits.calls
  obtain rfl := commits.isAct
  have owed := Engine.guarantee_of_step ledger.conforms commits.alive calls (assumed .commit resume calls) rfl p
  rwa [show (shop.perform (source.thread i).session source.db .commit).db = target.db from commits.db.symm] at owed

/-- The stock before a commit, also of a product that the commit creates. -/
theorem Ledger.stockIn_eq (ledger : Ledger keeps start requests source) {i : ι}
    (isOpen : (source.thread i).session.committed = false) {p : Uuid}
    (creates : source.db.products.find p = none → (requests i).Creates p) :
    stockIn (source.db.products.find p) =
      start.stockOf p + source.committedTotal fun j => (requests j).entry p := by
  cases before : source.db.products.find p with
  | some old => exact ledger.balanced p old before
  | none =>
    obtain ⟨-, noStock, noEntries⟩ := ledger.unborn i p (creates before) isOpen
    rw [noStock, noEntries]
    rfl

variable [DecidableEq ι]

theorem Ledger.step (fresh : FreshIds start requests) (ledger : Ledger keeps start requests source)
    (stepped : shop.Steps source act target)
    (assumed : Engine.Assumed (fun i => (requests i).contract keeps) source act) :
    Ledger keeps start requests target := by
  have conforms := Engine.conforms_step (compatible keeps requests) ledger.conforms stepped assumed
  obtain ⟨transactional, silent | ⟨i, commits⟩⟩ := Engine.transactional_step_cases ledger.transactional stepped
  · exact
      { conforms := conforms
        transactional := transactional
        balanced := by simpa only [silent.db, silent.total] using ledger.balanced
        nonneg := by simpa only [silent.db] using ledger.nonneg
        unborn := by simpa only [silent.db, silent.total, silent.committed] using ledger.unborn }
  · have change := ledger.change assumed commits
    have creates {p : Uuid} {row : Product} (found : target.db.products.find p = some row)
        (absent : source.db.products.find p = none) : (requests i).Creates p :=
      (change p).appears absent (by rw [found]; rfl)
    refine ⟨conforms, transactional, fun p row found => ?_, fun p row found startNonneg => ?_,
      fun j p createsP uncommitted => ?_⟩
    · rw [(change p).stock row found, ledger.stockIn_eq commits.open_before (creates found), commits.total,
        entry_commit, Int.add_assoc]
    · refine (change p).nonneg row found ?_
      cases before : source.db.products.find p with
      | some old => exact ledger.nonneg p old before startNonneg
      | none => exact le_refl 0
    · -- another request commits while `j`, which will create the product, has not
      have other : j ≠ i := by
        rintro rfl
        simp [commits.committed_after] at uncommitted
      rw [commits.others j other] at uncommitted
      obtain ⟨absent, noStock, noEntries⟩ := ledger.unborn j p createsP uncommitted
      have stillAbsent : target.db.products.find p = none := by
        by_contra appeared
        obtain ⟨row, found⟩ := Option.ne_none_iff_exists'.mp appeared
        exact other (fresh.distinct j i p createsP (creates found absent))
      have nothing := (change p).absent absent stillAbsent
      exact ⟨stillAbsent, noStock, by rw [commits.total, noEntries, entry_commit, nothing]; rfl⟩

theorem Ledger.run {acts : List (Act ι ApiError × System ι Database RowKey DbWrite statements ApiError CallResult)}
    (admitted : ∀ i, (requests i).Admitted keeps) (fresh : FreshIds start requests)
    (isRun : Transition.Run shop.Steps (system start requests) acts)
    (assumed : Transition.EachStep (fun source act _ => Engine.Assumed (fun i => (requests i).contract keeps) source act)
      (system start requests) acts) :
    Transition.EachState (Ledger keeps start requests) (system start requests) acts :=
  Transition.eachState_of_invariant (fun _ _ _ ledger stepped assumed => ledger.step fresh stepped assumed)
    (.start admitted fresh) isRun assumed

end Steps

/-- Each stock is the initial one and everything that committed requests put on the shelf and restocked,
    minus everything that committed orders asked for. -/
def Balanced (start : Database) (requests : ι → ShopRequest)
    (state : System ι Database RowKey DbWrite statements ApiError CallResult) : Prop :=
  ∀ p row, state.db.products.find p = some row →
    row.stock = start.stockOf p + (state.committedTotal fun i _ => (requests i).opening p) +
      (state.committedTotal fun i => (requests i).restocked p) -
        state.committedTotal fun i _ => (requests i).ordered p

/-- No stock that was not below zero at the start is. -/
def NotOversold (start : Database)
    (state : System ι Database RowKey DbWrite statements ApiError CallResult) : Prop :=
  ∀ p row, state.db.products.find p = some row → 0 ≤ start.stockOf p → 0 ≤ row.stock

theorem Ledger.isBalanced {keeps : Prop} {start : Database} {requests : ι → ShopRequest}
    {state : System ι Database RowKey DbWrite statements ApiError CallResult}
    (ledger : Ledger keeps start requests state) : Balanced start requests state := by
  intro p row found
  have balanced := ledger.balanced p row found
  change row.stock = start.stockOf p + state.committedTotal fun i log =>
    (requests i).opening p + (requests i).restocked p log - (requests i).ordered p at balanced
  rw [committedTotal_sub, committedTotal_add] at balanced
  rw [balanced]
  omega

end ShopRequest

/-! ## Requests to the small shop -/

namespace SmallShop

/-- Ordering one of the three teas. -/
def orderTea : ShopRequest :=
  ⟨⟨5, fun n => 200 + n, fun _ => 0⟩, 1, .createOrder (orderOf (oneOf 2))⟩

/-- Cancelling the order of two. -/
def cancelOrder : ShopRequest := ⟨⟨6, fun n => 300 + n, fun _ => 0⟩, 1, .updateStatus (some 3) ⟨.cancelled⟩⟩

/-- A new picture for the tea. -/
def newImage : ShopRequest := ⟨⟨7, fun n => 400 + n, fun _ => 0⟩, 1, .setImage (some 2) "tea.png"⟩

def both (first second : ShopRequest) : Bool → ShopRequest
  | false => first
  | true => second

/-- The cancellation looks its order up while the tea is locked, and restocks when it is free again. -/
def orderThenCancel : List (Act Bool ApiError) :=
  [.run false, .run false, .run false, .run true, .run true, .run true] ++
    List.replicate 7 (.run false) ++ List.replicate 4 (.run true)

/-- The tea is sold when the edit is over. -/
def orderAfterEdit : List (Act Bool ApiError) :=
  [.run true, .run true] ++ List.replicate 6 (.run false) ++ List.replicate 8 (.run true)

/-- The tea is sold between the two reads of the edit. -/
def orderInsideEdit : List (Act Bool ApiError) :=
  List.replicate 3 (.run false) ++ List.replicate 10 (.run true) ++ List.replicate 3 (.run false)

end SmallShop

namespace ShopRequest

variable {ι : Type} [Fintype ι] [DecidableEq ι] {start : Database} {requests : ι → ShopRequest}
  {acts : List (Act ι ApiError × System ι Database RowKey DbWrite statements ApiError CallResult)}

/-! ## Orders, cancellations and products that come and go -/

/-- However the requests interleave and wherever they stop, nothing is oversold and nothing is lost. -/
theorem stockLedger (calls : ∀ i, ((requests i).sells || (requests i).shelves) = true)
    (fresh : FreshIds start requests) (isRun : Transition.Run shop.Steps (system start requests) acts) :
    Transition.EachState (fun state => Balanced start requests state ∧ NotOversold start state)
      (system start requests) acts := by
  have admitted (i : ι) : (requests i).Admitted False := by
    rcases Bool.or_eq_true_iff.mp (calls i) with sells | shelves
    · exact .inl sells
    · exact .inr (.inl ⟨not_false, shelves⟩)
  have noEdit (i : ι) : ¬ (requests i).edits = true := by
    have isCall := calls i
    revert isCall
    unfold sells shelves edits
    cases (requests i).call <;> simp
  have assumed : Transition.EachStep
      (fun source act _ => Engine.Assumed (fun i => (requests i).contract False) source act)
      (system start requests) acts := by
    refine isRun.imp fun source act _ _ => ?_
    cases act with
    | run i =>
      rintro op resume -
      cases op with
      | commit => exact fun isEdit => absurd isEdit (noEdit i)
      | _ => trivial
    | fail | crash => trivial
  exact (Ledger.run admitted fresh isRun assumed).imp fun _ ledger => ⟨ledger.isBalanced, ledger.nonneg⟩

theorem stockLedger_smallShop :
    Transition.EachState (fun state => Balanced SmallShop.db (SmallShop.both SmallShop.orderTea SmallShop.cancelOrder)
        state ∧ NotOversold SmallShop.db state)
      (system SmallShop.db (SmallShop.both SmallShop.orderTea SmallShop.cancelOrder))
      ((shop.trace (system SmallShop.db (SmallShop.both SmallShop.orderTea SmallShop.cancelOrder))
        SmallShop.orderThenCancel).get (by decide)) :=
  stockLedger (by decide) ⟨fun i _ creates => by cases i <;> exact creates.elim,
    fun i _ _ creates => by cases i <;> exact creates.elim⟩ (shop.run_get_trace _)

/-! ## Edits -/

/-- The step commits an edit whose product was sold or restocked between its two reads. -/
def commitsStaleEdit (requests : ι → ShopRequest)
    (source : System ι Database RowKey DbWrite statements ApiError CallResult) : Act ι ApiError → Bool
  | .run i => (requests i).edits && (source.thread i).program.atCommit && staleEdit (source.thread i).session.log
  | .fail _ _ | .crash _ => false

/-- As long as no stale edit is committed, every committed decrement and increment is in the stock. -/
theorem balanced_of_noStaleEdit (calls : ∀ i, ((requests i).sells || (requests i).edits) = true)
    (isRun : Transition.Run shop.Steps (system start requests) acts)
    (noStaleEdit : Transition.EachStep (fun source act _ => commitsStaleEdit requests source act = false)
      (system start requests) acts) :
    Transition.EachState (Balanced start requests) (system start requests) acts := by
  have admitted (i : ι) : (requests i).Admitted True := by
    rcases Bool.or_eq_true_iff.mp (calls i) with sells | edits
    · exact .inl sells
    · exact .inr (.inr ⟨trivial, edits⟩)
  have noCreation (i : ι) (p : Uuid) : ¬ (requests i).Creates p := by
    have isCall := calls i
    revert isCall
    unfold sells edits Creates
    cases (requests i).call <;> simp
  have fresh : FreshIds start requests :=
    ⟨fun i p creates => absurd creates (noCreation i p), fun i _ p creates => absurd creates (noCreation i p)⟩
  have assumed : Transition.EachStep
      (fun source act _ => Engine.Assumed (fun i => (requests i).contract True) source act)
      (system start requests) acts := by
    refine noStaleEdit.imp fun source act _ noStale => ?_
    cases act with
    | run i =>
      intro op resume calls
      cases op with
      | commit =>
        intro isEdit
        have atCommit : (source.thread i).program.atCommit = true := by rw [calls]; rfl
        simpa only [commitsStaleEdit, isEdit, atCommit, Bool.true_and] using noStale
      | _ => trivial
    | fail | crash => trivial
  exact (Ledger.run admitted fresh isRun assumed).imp fun _ ledger => ledger.isBalanced

theorem balanced_smallShop :
    Transition.EachState (Balanced SmallShop.db (SmallShop.both SmallShop.newImage SmallShop.orderTea))
      (system SmallShop.db (SmallShop.both SmallShop.newImage SmallShop.orderTea))
      ((shop.trace (system SmallShop.db (SmallShop.both SmallShop.newImage SmallShop.orderTea))
        SmallShop.orderAfterEdit).get (by decide)) :=
  balanced_of_noStaleEdit (by decide) (shop.run_get_trace _) (by decide)

/-- The picture of the tea is changed while one is sold: the sale is undone. -/
theorem not_balanced : ¬ ∀ (requests : Bool → ShopRequest)
    (acts : List (Act Bool ApiError × System Bool Database RowKey DbWrite statements ApiError CallResult)),
    (∀ i, ((requests i).sells || (requests i).edits) = true) →
    Transition.Run shop.Steps (system SmallShop.db requests) acts →
    (∀ i, ((Transition.final (system SmallShop.db requests) acts).thread i).session.committed = true) →
    Balanced SmallShop.db requests (Transition.final (system SmallShop.db requests) acts) := by
  intro balanced
  have stock := balanced (SmallShop.both SmallShop.newImage SmallShop.orderTea)
    ((shop.trace (system SmallShop.db (SmallShop.both SmallShop.newImage SmallShop.orderTea))
      SmallShop.orderInsideEdit).get (by decide)) (by decide) (shop.run_get_trace _) (by decide) 2
    { SmallShop.product with imageUrl := some "tea.png", updatedAt := 7 } (by decide)
  revert stock
  decide

end ShopRequest

end StoreSaas
