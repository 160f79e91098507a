import StoreSaas.Verified.IdempotencyKeys

/-! # The orders of requests with a key

An order is inserted inside the transaction of its request and gets into the table when
that transaction commits, and in no other way.  Until then no committed row has its id,
for the row is locked; afterwards nobody changes it, for on these routes orders are only
inserted.
-/

namespace StoreSaas

/-! ## Writes that only insert orders -/

section Writes

variable {writes : List DbWrite}

/-- An order after such writes is the one before or one of those inserted. -/
theorem findOrder_applyAll (db : Database)
    (inserts : ∀ write ∈ writes, write.key.table = .orders → ∃ row, write = .order (.put row))
    (id : Uuid) : (shop.applyAll db writes).orders.find id = db.orders.find id ∨
      ∃ row, .order (.put row) ∈ writes ∧ row.id = id ∧ (shop.applyAll db writes).orders.find id = some row := by
  induction writes generalizing db with
  | nil => exact .inl rfl
  | cons write rest ih =>
    obtain ⟨insertsFirst, insertsRest⟩ := List.forall_mem_cons.mp inserts
    rw [Engine.applyAll_cons]
    rcases ih (shop.apply db write) insertsRest with same | ⟨row, inRest, isId, found⟩
    · rw [same]
      by_cases isOrder : write.key.table = .orders
      · obtain ⟨row, rfl⟩ := insertsFirst isOrder
        have after : (shop.apply db (.order (.put row))).orders.find id =
            if id = row.id then some row else db.orders.find id := Table.find_put ..
        rw [after]
        split
        next isId => exact .inr ⟨row, List.mem_cons_self, isId.symm, rfl⟩
        next => exact .inl rfl
      · refine .inl (Database.row_write_ne db write (.order id) fun isKey => isOrder ?_)
        rw [← isKey]
        rfl
    · exact .inr ⟨row, List.mem_cons_of_mem _ inRest, isId, found⟩

/-- The order that is inserted is there afterwards. -/
theorem findOrder_applyAll_of_mem {db : Database} {row : Order} (inserted : .order (.put row) ∈ writes)
    (inserts : ∀ write ∈ writes, write.key.table = .orders → write = .order (.put row)) :
    (shop.applyAll db writes).orders.find row.id = some row :=
  shop.get_applyAll_of_mem inserted fun other made sameKey => inserts other made (congrArg RowKey.table sameKey)

end Writes

/-! ## One request -/

/-- A request inserts one order at most, and has it pending as long as its transaction runs. -/
structure InsertedOrders (alive : Bool) (session : Session RowKey DbWrite statements ApiError) (phase : KeyPhase) :
    Prop where
  single : ∀ row ∈ phase.inserted, ∀ other ∈ phase.inserted, row = other
  complete : alive = true → phase.fate = .running → ∀ row ∈ phase.inserted, .order (.put row) ∈ session.pending

namespace InsertedOrders

variable {alive : Bool} {session next : Session RowKey DbWrite statements ApiError} {phase after : KeyPhase}
variable {key : Option String} {isOrder : Bool} {op : RequestOp statements}

/-- Nothing is inserted, and nothing that is pending gets lost. -/
theorem congr (inserted : InsertedOrders alive session phase) (sameInserted : after.inserted = phase.inserted)
    (goesOn : after.fate = .running → phase.fate = .running ∧ ∀ write ∈ session.pending, write ∈ next.pending) :
    InsertedOrders alive next after := by
  constructor
  · rw [sameInserted]
    exact inserted.single
  · intro isAlive running row present
    obtain ⟨before, kept⟩ := goesOn running
    rw [sameInserted] at present
    exact kept _ (inserted.complete isAlive before row present)

theorem dead (inserted : InsertedOrders alive session phase) : InsertedOrders false next phase :=
  ⟨inserted.single, fun isAlive => nomatch isAlive⟩

theorem perform (db : Database) (allowed : KeyAllows key isOrder phase op)
    (inserted : InsertedOrders true session phase) :
    InsertedOrders true (shop.perform session db op).session (phase.next op (shop.perform session db op).reply) := by
  cases allowed with
  | begin => exact inserted.congr rfl fun running => ⟨running, fun _ => id⟩
  | commit | rollback => exact inserted.congr rfl fun running => nomatch running
  | @query statement orders records =>
    have same : phase.next (.query statement) (shop.perform session db (.query statement)).reply = phase :=
      KeyPhase.afterQuery_of_spares orders _
    rw [same]
    refine inserted.congr rfl fun running => ⟨running, fun write pending => ?_⟩
    cases executed : shop.execute statement (shop.view db session) with
    | ok result =>
      rw [Engine.perform_query_ok executed]
      exact List.mem_append_left _ pending
    | error error =>
      rw [Engine.perform_query_error executed]
      exact pending
  | @insertOrder row allowed working first =>
    cases executed : shop.execute (.order (.insert row)) (shop.view db session) with
    | ok result =>
      obtain ⟨reply, writes⟩ := result
      rw [Engine.perform_query_ok executed]
      obtain ⟨-, rfl⟩ := OrderStatement.execute_insert executed
      have only {one : Order} (isOne : one ∈ row :: phase.inserted) : one = row := by
        rw [first] at isOne
        exact List.mem_singleton.mp isOne
      refine ⟨fun one isOne other isOther => (only isOne).trans (only isOther).symm, fun _ _ one isOne => ?_⟩
      rw [only isOne]
      exact List.mem_append_right _ (List.mem_singleton.mpr rfl)
    | error error =>
      rw [Engine.perform_query_error executed]
      exact inserted.congr rfl fun running => ⟨running, fun _ => id⟩
  | auto | look | reserve | finish | release =>
    refine inserted.congr (inserted_next_auto _ _ _) fun running => ⟨?_, fun write pending => ?_⟩
    · exact (fate_next_auto _ _ _).symm.trans running
    · rw [(Engine.perform_auto (E := shop) session db _).2.2]
      exact pending

theorem failed (error : ApiError) (allowed : KeyAllows key isOrder phase op)
    (inserted : InsertedOrders true session phase) :
    InsertedOrders true (Engine.failed session op error) (phase.next op (.error error)) := by
  cases allowed with
  | begin | insertOrder => exact inserted.congr rfl fun running => ⟨running, fun _ => id⟩
  | commit | rollback => exact inserted.congr rfl fun running => nomatch running
  | @query statement orders records =>
    have same : phase.next (.query statement) (.error error) = phase :=
      KeyPhase.afterQuery_of_spares orders (.error error)
    rw [same]
    exact inserted.congr rfl fun running => ⟨running, fun _ => id⟩
  | auto | look | reserve | finish | release =>
    exact inserted.congr (inserted_next_auto _ _ _) fun running =>
      ⟨(fate_next_auto _ _ _).symm.trans running, fun _ => id⟩

end InsertedOrders

/-! ## All requests -/

section Systems

variable {ι : Type} (request : ι → IdempotentRequest)

/-- The request has inserted the order, and its transaction has committed. -/
def CommittedOrder (system : IdempotentSystem ι) (i : ι) (row : Order) : Prop :=
  (keyPhase request system i).fate = .committed ∧ row ∈ (keyPhase request system i).inserted

/-- The table of orders holds what was there at the start and what the requests have committed. -/
structure OrderRows (start : Database) (system : IdempotentSystem ι) : Prop where
  inserted : ∀ i, InsertedOrders (system.thread i).alive (system.thread i).session (keyPhase request system i)
  unpublished : ∀ i row, .order (.put row) ∈ (system.thread i).session.pending → system.db.orders.find row.id = none
  origin : ∀ id row, system.db.orders.find id = some row →
    start.orders.find id = some row ∨ ∃ i, CommittedOrder request system i row
  stored : ∀ i row, CommittedOrder request system i row → system.db.orders.find row.id = some row
  kept : ∀ id row, start.orders.find id = some row → system.db.orders.find id = some row

variable {request} {start : Database} {source target : IdempotentSystem ι}

variable (request start) in
theorem orderRows_start : OrderRows request start (IdempotentRequest.system request start) where
  inserted _ := ⟨fun _ present => (nomatch present), fun _ _ _ present => nomatch present⟩
  unpublished _ _ pending := nomatch pending
  origin _ _ found := .inl found
  stored _ _ committed := nomatch committed.1
  kept _ _ found := found

/-! ## One step -/

section Operations

variable {key : Option String} {isOrder : Bool} {op : RequestOp statements} {phase : KeyPhase}
variable {session : Session RowKey DbWrite statements ApiError}

theorem findOrder_perform (notCommit : op ≠ .commit) (allowed : KeyAllows key isOrder phase op)
    (session : Session RowKey DbWrite statements ApiError) (db : Database) (id : Uuid) :
    (shop.perform session db op).db.orders.find id = db.orders.find id := by
  have spared {statement : Statement} (spares : statement.writesTo .orders = false) :
      (shop.perform session db (.auto statement)).db.orders.find id = db.orders.find id := by
    rw [(Engine.perform_auto session db statement).2.1]
    exact row_executeOn_of_table (.order id) spares
  cases allowed with
  | begin | rollback => rfl
  | query | insertOrder => rw [Engine.perform_query_db]
  | auto orders records => exact spared orders
  | look | reserve | finish | release => exact spared rfl
  | commit => exact absurd rfl notCommit

theorem fate_next (notCommit : op ≠ .commit) (running : phase.fate = .running) (reply : Except ApiError op.Reply) :
    (phase.next op reply).fate ≠ .committed := by
  intro committed
  cases op with
  | begin => cases running.symm.trans committed
  | rollback => cases committed
  | commit => exact notCommit rfl
  | auto statement => cases running.symm.trans ((fate_next_auto _ _ _).symm.trans committed)
  | query statement =>
    have same : (phase.next (.query statement) reply).fate = phase.fate := (afterQuery_eq phase statement reply).2
    cases running.symm.trans (same.symm.trans committed)

theorem fate_next_error (running : phase.fate = .running) (error : ApiError) :
    (phase.next op (.error error)).fate ≠ .committed := by
  by_cases isCommit : op = .commit
  · subst isCommit
    exact Fate.noConfusion
  · exact fate_next isCommit running (.error error)

/-- An order that becomes pending is new to the table. -/
theorem unpublished_perform {db : Database} {row : Order} (allowed : KeyAllows key isOrder phase op)
    (pending : PendingWrites session phase)
    (before : .order (.put row) ∈ session.pending → db.orders.find row.id = none)
    (after : .order (.put row) ∈ (shop.perform session db op).session.pending) : db.orders.find row.id = none := by
  cases allowed with
  | begin => exact before after
  | commit | rollback => cases after
  | @query statement orders records =>
    cases executed : shop.execute statement (shop.view db session) with
    | ok result =>
      rw [Engine.perform_query_ok executed] at after
      rcases List.mem_append.mp after with earlier | now
      · exact before earlier
      · cases (Statement.execute_table executed _ now).symm.trans orders
    | error error =>
      rw [Engine.perform_query_error executed] at after
      exact before after
  | @insertOrder inserted allowed working first =>
    cases executed : shop.execute (.order (.insert inserted)) (shop.view db session) with
    | ok result =>
      rw [Engine.perform_query_ok executed] at after
      obtain ⟨absent, isWrite⟩ := OrderStatement.execute_insert executed
      rcases List.mem_append.mp after with earlier | now
      · exact before earlier
      · rw [isWrite] at now
        cases List.mem_singleton.mp now
        -- Nothing the transaction has pending is an order, so the view shows the committed one.
        have sameRow : (shop.view db session).orders.find row.id = db.orders.find row.id :=
          row_applyAll_of_table (.order row.id) fun write made isOrder => by
            obtain ⟨other, present, -⟩ := pending.orders write made isOrder
            rw [first] at present
            cases present
        exact sameRow.symm.trans absent
    | error error =>
      rw [Engine.perform_query_error executed] at after
      exact before after
  | auto | look | reserve | finish | release =>
    rw [(Engine.perform_auto (E := shop) session db _).2.2] at after
    exact before after

end Operations

variable [DecidableEq ι]

/-- The orders of a system in which one request has moved on. -/
theorem committedOrder_update {source : IdempotentSystem ι} {db : Database} {i : ι} {next : KeyPhase}
    {thread : Thread RowKey DbWrite statements ApiError HttpAnswer}
    (phase : keyPhase request ⟨db, Function.update source.thread i thread⟩ =
      Function.update (keyPhase request source) i next) (j : ι) (row : Order) :
    CommittedOrder request ⟨db, Function.update source.thread i thread⟩ j row ↔
      if j = i then next.fate = .committed ∧ row ∈ next.inserted else CommittedOrder request source j row := by
  unfold CommittedOrder
  rw [phase]
  split
  next same =>
    subst same
    rw [Function.update_self]
  next differs => rw [Function.update_of_ne differs]

/-- A step that commits nothing. -/
theorem OrderRows.quiet {source : IdempotentSystem ι} (rows : OrderRows request start source) {db : Database} {i : ι}
    {next : KeyPhase} {thread : Thread RowKey DbWrite statements ApiError HttpAnswer}
    (phase : keyPhase request ⟨db, Function.update source.thread i thread⟩ =
      Function.update (keyPhase request source) i next)
    (orders : ∀ id, db.orders.find id = source.db.orders.find id)
    (committed : ∀ row, (next.fate = .committed ∧ row ∈ next.inserted) ↔ CommittedOrder request source i row)
    (inserted : InsertedOrders thread.alive thread.session next)
    (unpublished : ∀ row, .order (.put row) ∈ thread.session.pending → source.db.orders.find row.id = none) :
    OrderRows request start ⟨db, Function.update source.thread i thread⟩ := by
  have same (j : ι) (row : Order) : CommittedOrder request ⟨db, Function.update source.thread i thread⟩ j row ↔
      CommittedOrder request source j row := by
    rw [committedOrder_update phase]
    split
    next isI => rw [committed, isI]
    next => exact Iff.rfl
  refine ⟨fun j => ?_, fun j row => ?_, fun id row found => ?_, fun j row isCommitted => ?_, fun id row found => ?_⟩
  · rw [phase]
    by_cases isI : j = i
    · subst isI
      simpa only [Function.update_self] using inserted
    · simpa only [Function.update_of_ne isI] using rows.inserted j
  · rw [orders]
    by_cases isI : j = i
    · subst isI
      simpa only [Function.update_self] using unpublished row
    · simpa only [Function.update_of_ne isI] using rows.unpublished j row
  · rw [orders] at found
    exact (rows.origin id row found).imp_right fun published => published.imp fun j before => (same j row).mpr before
  · rw [orders]
    exact rows.stored j row ((same j row).mp isCommitted)
  · rw [orders]
    exact rows.kept id row found

omit [DecidableEq ι] in
/-- A commit changes no order that is there. -/
theorem OrderRows.find_commit {source : IdempotentSystem ι} (rows : OrderRows request start source)
    (pending : ∀ i, PendingWrites (source.thread i).session (keyPhase request source i)) (i : ι) {id : Uuid}
    {row : Order} (before : source.db.orders.find id = some row) :
    (shop.view source.db (source.thread i).session).orders.find id = some row := by
  rcases findOrder_applyAll source.db (fun write made isOrder =>
    let ⟨row, _, isWrite⟩ := (pending i).orders write made isOrder
    ⟨row, isWrite⟩) id with same | ⟨other, isPending, isId, -⟩
  · exact same.trans before
  · cases before.symm.trans (isId ▸ rows.unpublished i other isPending)

/-- The step in which a request commits. -/
theorem OrderRows.commit {source : IdempotentSystem ι} (rows : OrderRows request start source)
    (exclusive : shop.Exclusive source)
    (pending : ∀ i, PendingWrites (source.thread i).session (keyPhase request source i)) {i : ι}
    {thread : Thread RowKey DbWrite statements ApiError HttpAnswer} (alive : (source.thread i).alive = true)
    (running : (keyPhase request source i).fate = .running)
    (free : ¬ source.Blocked i .commit (shop.perform (source.thread i).session source.db .commit).needs)
    (nothing : thread.session.pending = [])
    (phase : keyPhase request ⟨shop.view source.db (source.thread i).session, Function.update source.thread i thread⟩ =
      Function.update (keyPhase request source) i { keyPhase request source i with fate := .committed }) :
    OrderRows request start
      ⟨shop.view source.db (source.thread i).session, Function.update source.thread i thread⟩ := by
  have mine := rows.inserted i
  have inserts : ∀ write ∈ (source.thread i).session.pending, write.key.table = .orders →
      ∃ row ∈ (keyPhase request source i).inserted, write = .order (.put row) := (pending i).orders
  have committed (j : ι) (row : Order) := (committedOrder_update phase j row)
  -- An order is as it was, or it is the one inserted, which no committed row was in the way of.
  have found (id : Uuid) := findOrder_applyAll source.db (fun write made isOrder =>
    let ⟨row, _, isWrite⟩ := inserts write made isOrder
    ⟨row, isWrite⟩) id
  have still {id : Uuid} {row : Order} (before : source.db.orders.find id = some row) := rows.find_commit pending i before
  refine ⟨fun j => ?_, fun j row isPending => ?_, fun id row isThere => ?_, fun j row isCommitted => ?_,
    fun id row before => still (rows.kept id row before)⟩
  · rw [phase]
    by_cases isI : j = i
    · subst isI
      simp only [Function.update_self]
      exact ⟨mine.single, fun _ isRunning => nomatch isRunning⟩
    · simpa only [Function.update_of_ne isI] using rows.inserted j
  · by_cases isI : j = i
    · subst isI
      simp only [Function.update_self, nothing] at isPending
      cases isPending
    · simp only [Function.update_of_ne isI] at isPending
      exact (Engine.get_perform_of_pending exclusive isI free isPending).trans (rows.unpublished j row isPending)
  · rcases found id with same | ⟨other, isPending, isId, isOther⟩
    · refine (rows.origin id row (same.symm.trans isThere)).imp_right fun ⟨j, before⟩ => ⟨j, (committed j row).mpr ?_⟩
      split
      next isI =>
        subst isI
        exact ⟨rfl, before.2⟩
      next => exact before
    · cases isOther.symm.trans isThere
      refine .inr ⟨i, (committed i row).mpr ?_⟩
      obtain ⟨_, present, isWrite⟩ := inserts _ isPending rfl
      cases isWrite
      rw [if_pos rfl]
      exact ⟨rfl, present⟩
  · have after := (committed j row).mp isCommitted
    split at after
    next isI =>
      refine findOrder_applyAll_of_mem (mine.complete alive running row after.2) fun write made isOrder => ?_
      obtain ⟨other, present, isWrite⟩ := inserts write made isOrder
      rw [isWrite, mine.single row after.2 other present]
    next => exact still (rows.stored j row after)

variable [Fintype ι] {act : Act ι ApiError} {records : String → Option IdempotencyRecord}

/-- The step rule. -/
theorem OrderRows.step (rows : OrderRows request start source) (keyed : Keyed request records source)
    (exclusive : shop.Exclusive source) (stepped : shop.Steps source act target) : OrderRows request start target := by
  cases Engine.phaseStep_of_follows keyed.follows stepped with
  | run i op resume alive calls allowed free =>
    have mine := rows.inserted i
    rw [alive] at mine
    by_cases isCommit : op = .commit
    · subst isCommit
      exact rows.commit exclusive keyed.pending alive allowed.1 free rfl (Engine.phase_perform ..)
    · refine rows.quiet (Engine.phase_perform ..) (findOrder_perform isCommit allowed.2 _ _) (fun row => ?_)
        (mine.perform _ allowed.2) fun row => unpublished_perform allowed.2 (keyed.pending i) (rows.unpublished i row)
      exact iff_of_false (fun committed => fate_next isCommit allowed.1 _ committed.1) fun committed =>
        nomatch allowed.1.symm.trans committed.1
  | fail i error op resume alive calls allowed =>
    have mine := rows.inserted i
    rw [alive] at mine
    refine rows.quiet (Engine.phase_failed ..) (fun _ => rfl) (fun row => ?_) (mine.failed error allowed.2)
      fun row pending => rows.unpublished i row (Engine.failed_pending_subset _ op error pending)
    exact iff_of_false (fun committed => fate_next_error allowed.1 error committed.1) fun committed =>
      nomatch allowed.1.symm.trans committed.1
  | crash i alive =>
    have unchanged := (Engine.phase_crash (P := fun i => (request i).protocol) source i).trans
      (Function.update_eq_self i (keyPhase request source)).symm
    exact rows.quiet unchanged (fun _ => rfl) (fun _ => Iff.rfl) (rows.inserted i).dead
      fun _ pending => nomatch pending

/-- An order stays in the table. -/
theorem OrderRows.remains (rows : OrderRows request start source) (keyed : Keyed request records source)
    (stepped : shop.Steps source act target) {id : Uuid} {row : Order} (found : source.db.orders.find id = some row) :
    target.db.orders.find id = some row := by
  cases Engine.phaseStep_of_follows keyed.follows stepped with
  | run i op resume alive calls allowed free =>
    by_cases isCommit : op = .commit
    · subst isCommit
      exact rows.find_commit keyed.pending i found
    · exact (findOrder_perform isCommit allowed.2 _ _ id).trans found
  | fail i error op resume alive calls allowed => exact found
  | crash i alive => exact found

end Systems

end StoreSaas
