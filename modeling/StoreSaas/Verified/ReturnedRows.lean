import StoreSaas.Verified.AtomicOrders
import StoreSaas.Verified.DeletedRows
import StoreSaas.Verified.TenantReferences

/-! # Rows that come back

A product or a category that was deleted comes back when a transaction commits whose `save`
missed the row, and at no other time (`deleted_returns_iff`): the edit had looked it up before
the deletion was committed, and inserts it again.
-/

namespace StoreSaas

/-! ## Saves that miss -/

/-- A `save` of the transaction has not found the row again. -/
def Missed (k : RowKey) (log : Log statements ApiError) : Prop :=
  ∃ (op : Statement) (reply : op.Reply),
    (⟨.query op, .ok reply⟩ : Σ op : RequestOp statements, Except ApiError op.Reply) ∈ log ∧
      op.reselected = some k ∧ op.misses reply = true

/-- What the transaction has done about the row: changed it where it is, missed it, or inserted it again. -/
inductive ReturnPhase where
  | clean
  | missing
  | restored
  deriving DecidableEq

namespace ReturnPhase

/-- The phase after a statement. -/
def next (k : RowKey) (phase : ReturnPhase) (op : Statement) (reply : op.Reply) : ReturnPhase :=
  if op.reselected = some k ∧ op.misses reply = true then .missing
  else match phase with
    | .clean => .clean
    | .missing | .restored => .restored

/-- A row that is missed is inserted at once; else it is not, and what was inserted is not deleted. -/
def Allows (k : RowKey) (phase : ReturnPhase) (op : Statement) : Prop :=
  match phase with
  | .clean => op.inserted ≠ some k
  | .missing => op.inserted = some k
  | .restored => op.inserted ≠ some k ∧ op.deleted ≠ some k

end ReturnPhase

/-- The program saves the row as `save` does, and does not end where the row is missing. -/
def Restores {α : Type} (k : RowKey) : ReturnPhase → Tx α → Prop
  | phase, .done _ => phase ≠ .missing
  | _, .throw _ => True
  | phase, .call op resume => phase.Allows k op ∧ (∀ error, Restores k phase (resume (.error error))) ∧
      ∀ reply, Restores k (phase.next k op reply) (resume (.ok reply))

/-- The statements that have no part in it. -/
def Statement.Passes (k : RowKey) (op : Statement) : Prop :=
  op.reselected ≠ some k ∧ op.inserted ≠ some k ∧ op.deleted ≠ some k

section Programs

variable {α β : Type} {k : RowKey} {phase : ReturnPhase}

theorem ReturnPhase.next_of_passes {op : Statement} (passes : op.Passes k) (settled : phase ≠ .missing)
    (reply : op.Reply) : phase.next k op reply = phase := by
  unfold next
  rw [if_neg fun both => passes.1 both.1]
  cases phase with
  | clean | restored => rfl
  | missing => exact absurd rfl settled

theorem ReturnPhase.allows_of_passes {op : Statement} (passes : op.Passes k) (settled : phase ≠ .missing) :
    phase.Allows k op := by
  cases phase with
  | clean => exact passes.2.1
  | restored => exact passes.2
  | missing => exact absurd rfl settled

theorem Restores.bind {program : Tx α} {next : α → Tx β} (first : Restores k phase program)
    (rest : ∀ value phase, phase ≠ .missing → Restores k phase (next value)) : Restores k phase (program >>= next) := by
  induction program generalizing phase with
  | done value => exact rest value phase first
  | throw error => trivial
  | call op resume ih => exact ⟨first.1, fun error => ih _ (first.2.1 error), fun reply => ih _ (first.2.2 reply)⟩

/-- The phase stays as it is for as long as no statement has a part in it. -/
theorem restores_passing {program : Tx α} {next : α → Tx β} (only : program.Only (Statement.Passes k))
    (settled : phase ≠ .missing) (rest : ∀ value, Restores k phase (next value)) :
    Restores k phase (program >>= next) := by
  induction program with
  | done value => exact rest value
  | throw error => trivial
  | call op resume ih =>
    refine ⟨ReturnPhase.allows_of_passes only.1 settled, fun error => ih _ (only.2 _), fun reply => ?_⟩
    rw [ReturnPhase.next_of_passes only.1 settled]
    exact ih _ (only.2 _)

theorem restores_of_passes {program : Tx α} (only : program.Only (Statement.Passes k)) (settled : phase ≠ .missing) :
    Restores k phase program := by
  induction program with
  | done value => exact settled
  | throw error => trivial
  | call op resume ih =>
    refine ⟨ReturnPhase.allows_of_passes only.1 settled, fun error => ih _ (only.2 _), fun reply => ?_⟩
    rw [ReturnPhase.next_of_passes only.1 settled]
    exact ih _ (only.2 _)

theorem restores_perform_bind {op : Statement} {next : op.Reply → Tx β} (allows : phase.Allows k op)
    (rest : ∀ reply, Restores k (phase.next k op reply) (next reply)) :
    Restores k phase (Program.perform (S := statements) op >>= next) := by
  rw [Program.perform_bind]
  exact ⟨allows, fun _ => trivial, rest⟩

end Programs

/-! ## The services -/

section Services

variable {k : RowKey} {phase : ReturnPhase} {env : Environment} {storeId : Uuid}

theorem passes_of_none {op : Statement} (nothing : op.reselected = none ∧ op.inserted = none ∧ op.deleted = none) :
    op.Passes k :=
  ⟨nothing.1.trans_ne (Option.some_ne_none k).symm, nothing.2.1.trans_ne (Option.some_ne_none k).symm,
    nothing.2.2.trans_ne (Option.some_ne_none k).symm⟩

theorem passes_insert {op : Statement} {key : RowKey} (isInserted : op.inserted = some key) (other : key ≠ k)
    (nothing : op.reselected = none ∧ op.deleted = none) : op.Passes k :=
  ⟨nothing.1.trans_ne (Option.some_ne_none k).symm, isInserted.trans_ne fun same => other (Option.some.inj same),
    nothing.2.trans_ne (Option.some_ne_none k).symm⟩

/-- `save`: the row is selected again, and inserted if it is missing. -/
theorem restores_save {α : Type} (reselect insert : Statement) {key : RowKey} {next : reselect.Reply → Tx α}
    (settled : phase ≠ .missing) (isReselected : reselect.reselected = some key)
    (nothing : reselect.inserted = none ∧ reselect.deleted = none)
    (isInserted : insert.inserted = some key) (onlyInserted : insert.reselected = none ∧ insert.deleted = none)
    (saves : ∀ reply, (reselect.misses reply = true ∧
        ∃ value, next reply = Program.perform (S := statements) insert >>= fun _ => return value) ∨
      (reselect.misses reply = false ∧ (next reply).Only (Statement.Passes k))) :
    Restores k phase (Program.perform (S := statements) reselect >>= next) := by
  have allows : phase.Allows k reselect := by
    cases phase with
    | clean => exact nothing.1.trans_ne (Option.some_ne_none k).symm
    | restored =>
      exact ⟨nothing.1.trans_ne (Option.some_ne_none k).symm, nothing.2.trans_ne (Option.some_ne_none k).symm⟩
    | missing => exact absurd rfl settled
  refine restores_perform_bind allows fun reply => ?_
  have stays (hits : ¬ (reselect.reselected = some k ∧ reselect.misses reply = true)) :
      phase.next k reselect reply = phase := by
    unfold ReturnPhase.next
    rw [if_neg hits]
    cases phase with
    | clean | restored => rfl
    | missing => exact absurd rfl settled
  rcases saves reply with ⟨misses, value, isNext⟩ | ⟨hits, only⟩
  · rw [isNext]
    by_cases same : key = k
    · subst same
      have isMissing : phase.next key reselect reply = .missing := if_pos ⟨isReselected, misses⟩
      rw [isMissing]
      refine restores_perform_bind isInserted fun inserted => ?_
      have isRestored : ReturnPhase.missing.next key insert inserted = .restored :=
        if_neg fun both => onlyInserted.1.trans_ne (Option.some_ne_none key).symm both.1
      rw [isRestored]
      exact ReturnPhase.noConfusion
    · rw [stays fun both => same (Option.some.inj (isReselected.symm.trans both.1))]
      exact restores_of_passes (Program.only_perform_bind (passes_insert isInserted same onlyInserted)
        fun _ => trivial) settled
  · rw [stays fun both => Bool.false_ne_true (hits.symm.trans both.2)]
    exact restores_of_passes only settled

theorem restores_saveProduct (entity : ProductEntity) (settled : phase ≠ .missing) :
    Restores k phase (ProductsService.save env entity) := by
  refine restores_save (.product (.reselect entity)) (.product (.insert entity)) settled rfl ⟨rfl, rfl⟩ rfl ⟨rfl, rfl⟩ fun found => ?_
  rcases (found : Option Product) with _ | row
  · exact .inl ⟨rfl, entity, rfl⟩
  · refine .inr ⟨rfl, Program.only_ite trivial ?_⟩
    exact Program.only_perform_bind (passes_of_none ⟨rfl, rfl, rfl⟩) fun _ => trivial

theorem restores_saveCategory (entity : CategoryEntity) (settled : phase ≠ .missing) :
    Restores k phase (CategoriesService.save env entity) := by
  refine restores_save (.category (.reselect entity)) (.category (.insert entity)) settled rfl ⟨rfl, rfl⟩ rfl ⟨rfl, rfl⟩ fun found => ?_
  rcases (found : Option Category) with _ | row
  · exact .inl ⟨rfl, entity, rfl⟩
  · refine .inr ⟨rfl, Program.only_ite trivial ?_⟩
    exact Program.only_perform_bind (passes_of_none ⟨rfl, rfl, rfl⟩) fun _ => trivial

theorem passes_findOneProduct (id : RouteId) : (ProductsService.findOne storeId id).Only (Statement.Passes k) := by
  refine Program.only_perform_bind (passes_of_none ⟨rfl, rfl, rfl⟩) fun found => ?_
  cases found <;> trivial

theorem passes_findOneCategory (id : RouteId) : (CategoriesService.findOne storeId id).Only (Statement.Passes k) := by
  refine Program.only_perform_bind (passes_of_none ⟨rfl, rfl, rfl⟩) fun found => ?_
  cases found <;> trivial

theorem passes_findOneOrder (id : RouteId) : (OrdersService.findOne storeId id).Only (Statement.Passes k) := by
  refine Program.only_perform_bind (passes_of_none ⟨rfl, rfl, rfl⟩) fun found => ?_
  cases found <;> trivial

theorem passes_requireCategory (categoryId : Field Uuid) :
    (ProductsService.requireCategory storeId categoryId).Only (Statement.Passes k) := by
  cases categoryId with
  | undefined | null => trivial
  | value id => exact (passes_findOneCategory (some id)).bind fun _ => trivial

theorem restores_takeLines (lines : List CreateOrderItemDto) (total : Cents) (items : List OrdersService.NewItem)
    (settled : phase ≠ .missing) : Restores k phase (OrdersService.takeLines env storeId lines total items) := by
  induction lines generalizing total items phase with
  | nil => exact settled
  | cons line rest ih =>
    have takesLine : Restores k phase (OrdersService.takeLine env storeId line) := by
      unfold OrdersService.takeLine
      refine restores_passing (Program.only_perform (passes_of_none ⟨rfl, rfl, rfl⟩)) settled fun locked => ?_
      rcases (locked : Option Product) with _ | row
      · trivial
      · dsimp only
        split
        next => trivial
        next => exact (restores_saveProduct _ settled).bind fun _ _ settled => settled
    unfold OrdersService.takeLines
    exact takesLine.bind fun _ _ settled => ih _ _ settled

theorem restores_createOrder (dto : CreateOrderDto) :
    Restores k .clean (OrdersService.create env storeId dto) := by
  unfold OrdersService.create
  refine (restores_takeLines dto.items 0 [] ReturnPhase.noConfusion).bind fun taken phase settled => ?_
  refine restores_of_passes ?_ settled
  refine Program.only_perform_bind (passes_of_none ⟨rfl, rfl, rfl⟩) fun _ => ?_
  refine Program.only_perform_bind (passes_of_none ⟨rfl, rfl, rfl⟩) fun _ => ?_
  refine Program.Only.bind ((only_notifyOwner env storeId _).imp fun op mails => ?_) fun _ => trivial
  obtain ⟨mail, rfl⟩ := mails
  exact passes_of_none ⟨rfl, rfl, rfl⟩

theorem passes_updateStatus (id : RouteId) (dto : UpdateOrderStatusDto) :
    (OrdersService.updateStatus env storeId id dto).Only (Statement.Passes k) := by
  refine (passes_findOneOrder id).bind fun entity => ?_
  have restocks : (OrdersService.restock env storeId entity.items).Only (Statement.Passes k) := by
    refine (only_restock env storeId entity.items).imp fun op increments => ?_
    obtain ⟨id, quantity, rfl⟩ := increments
    exact passes_of_none ⟨rfl, rfl, rfl⟩
  refine Program.Only.bind (Program.only_ite restocks trivial) fun _ => ?_
  exact (only_saveOrder env _).imp fun op saves => by cases saves <;> exact passes_of_none ⟨rfl, rfl, rfl⟩

/-- A deletion, where nothing was missed. -/
theorem restores_delete (op : Statement) (nothing : op.reselected = none ∧ op.inserted = none) :
    Restores k .clean (Program.perform (S := statements) op) := by
  rw [← Program.perform_bind_done]
  refine restores_perform_bind (nothing.2.trans_ne (Option.some_ne_none k).symm) fun reply => ?_
  have stays : ReturnPhase.clean.next k op reply = .clean :=
    if_neg fun both => nothing.1.trans_ne (Option.some_ne_none k).symm both.1
  rw [stays]
  exact ReturnPhase.noConfusion

/-- Every call treats a row that it does not create so. -/
theorem restores_handler (request : ShopRequest) (notMade : ¬ request.Makes k) :
    Restores k .clean (request.call.handler request.env request.storeId) := by
  have clean : ReturnPhase.clean ≠ .missing := ReturnPhase.noConfusion
  have wraps {α : Type} {body : Tx α} {wrap : α → CallResult} (restores : Restores k .clean body) :
      Restores k .clean (body >>= fun value => (return wrap value : Tx CallResult)) :=
    restores.bind fun _ _ settled => settled
  -- calls that neither save nor delete the row
  have passes {α : Type} {body : Tx α} {wrap : α → CallResult} (only : body.Only (Statement.Passes k)) :
      Restores k .clean (body >>= fun value => (return wrap value : Tx CallResult)) :=
    wraps (restores_of_passes only clean)
  obtain ⟨env, storeId, call⟩ := request
  -- a row is deleted, or written after a reading that found it: `save` inserts only what is missing
  cases call with
  | createCategory dto =>
    have other : RowKey.category (env.newId 0) ≠ k := fun same => notMade (same ▸ rfl)
    exact passes (Program.only_perform_bind (passes_insert rfl other ⟨rfl, rfl⟩) fun _ => trivial)
  | findAllCategories => exact passes (Program.only_perform (passes_of_none ⟨rfl, rfl, rfl⟩))
  | findOneCategory id => exact passes (passes_findOneCategory id)
  | updateCategory id dto =>
    exact wraps (restores_passing (passes_findOneCategory id) clean fun _ => restores_saveCategory _ clean)
  | removeCategory id =>
    have removes : Restores k .clean (CategoriesService.remove storeId id) :=
      restores_passing (passes_findOneCategory id) clean fun category =>
        restores_delete (.category (.delete category.id)) ⟨rfl, rfl⟩
    exact removes.bind fun _ _ settled => settled
  | createProduct dto =>
    have other : RowKey.product (env.newId 0) ≠ k := fun same => notMade (same ▸ rfl)
    exact passes ((passes_requireCategory dto.categoryId).bind fun _ =>
      Program.only_perform_bind (passes_insert rfl other ⟨rfl, rfl⟩) fun _ => trivial)
  | findAllProducts query =>
    exact passes (Program.only_perform_bind (passes_of_none ⟨rfl, rfl, rfl⟩) fun _ => trivial)
  | findOneProduct id => exact passes (passes_findOneProduct id)
  | updateProduct id dto =>
    refine wraps (restores_passing (passes_findOneProduct id) clean fun _ => ?_)
    exact restores_passing (passes_requireCategory dto.categoryId) clean fun _ => restores_saveProduct _ clean
  | removeProduct id =>
    have removes : Restores k .clean (ProductsService.remove storeId id) :=
      restores_passing (passes_findOneProduct id) clean fun product =>
        restores_delete (.product (.delete product.id)) ⟨rfl, rfl⟩
    exact removes.bind fun _ _ settled => settled
  | setImage id imageUrl =>
    exact wraps (restores_passing (passes_findOneProduct id) clean fun _ => restores_saveProduct _ clean)
  | createOrder dto => exact wraps (restores_createOrder dto)
  | findAllOrders query =>
    exact passes (Program.only_perform_bind (passes_of_none ⟨rfl, rfl, rfl⟩) fun _ =>
      Program.only_perform_bind (passes_of_none ⟨rfl, rfl, rfl⟩) fun _ => trivial)
  | findOneOrder id => exact passes (passes_findOneOrder id)
  | updateStatus id dto => exact passes (passes_updateStatus id dto)

end Services

/-! ## What a transaction is about to do to the row -/

section Statements

variable {k : RowKey} {op : Statement} {db : Database} {reply : op.Reply} {writes : List DbWrite}

theorem Statement.execute_inserted (executed : op.execute db = .ok (reply, writes)) (isInserted : op.inserted = some k) :
    ∃ write, writes = [write] ∧ write.key = k ∧ write.value.isSome = true := by
  cases op with
  | product statement =>
    cases statement with
    | insert entity =>
      cases isInserted
      obtain ⟨row, isRow, -, rfl⟩ := ProductStatement.execute_insert executed
      obtain ⟨sameId, -⟩ := ProductEntity.toRow?_eq_some isRow
      exact ⟨_, rfl, congrArg RowKey.product sameId, rfl⟩
    | _ => cases isInserted
  | category statement =>
    cases statement with
    | insert entity =>
      cases isInserted
      simp only [execute, CategoryStatement.execute] at executed
      split at executed
      next => cases executed
      next row isRow =>
        obtain ⟨name, -, rfl⟩ := Option.map_eq_some_iff.mp isRow
        split at executed
        next => cases executed
        next =>
          split at executed
          next => cases executed
          next =>
            cases executed
            exact ⟨_, rfl, rfl, rfl⟩
    | _ => cases isInserted
  | user statement =>
    cases statement with
    | insert entity =>
      cases isInserted
      obtain ⟨row, isRow, -, rfl⟩ := UserStatement.execute_insert executed
      obtain ⟨passwordHash, -, rfl⟩ := Option.map_eq_some_iff.mp isRow
      exact ⟨_, rfl, rfl, rfl⟩
    | _ => cases isInserted
  | setCurrentStore | order | outbox | billing | idempotency | store | audit | enqueueMail => cases isInserted

/-- The products and the categories. -/
def RowKey.OnShelf (k : RowKey) : Prop := k.table = .products ∨ k.table = .categories

/-- What the statements of the three services write to such a row. -/
theorem Statement.execute_onShelf (onShelf : k.OnShelf)
    (known : op.isCatalogue = true ∨ ∃ storeId, op = .setCurrentStore storeId)
    (executed : op.execute db = .ok (reply, writes)) :
    ∀ write ∈ writes, write.key = k → EditWrite op db write := by
  have elsewhere (spares : op.writesTo .products = false ∧ op.writesTo .categories = false) :
      ∀ write ∈ writes, write.key = k → EditWrite op db write := by
    rintro write made rfl
    have isTable := execute_table executed write made
    rcases onShelf with isProduct | isCategory
    · rw [isProduct, spares.1] at isTable
      cases isTable
    · rw [isCategory, spares.2] at isTable
      cases isTable
  rcases known with isCatalogue | ⟨storeId, rfl⟩
  · cases op with
    | product | category => exact fun write made _ => execute_edit rfl executed write made
    | order statement => cases statement <;> exact elsewhere ⟨rfl, rfl⟩
    | outbox statement => cases statement <;> exact elsewhere ⟨rfl, rfl⟩
    | _ => cases isCatalogue
  · exact elsewhere ⟨rfl, rfl⟩

end Statements

/-- What is pending for the row: a change of the row that is there, or the row itself. -/
structure Tracked (k : RowKey) (phase : ReturnPhase) (session : Session RowKey DbWrite statements ApiError)
    (db : Database) : Prop where
  locked : ∀ write ∈ session.pending, shop.lockOf write ∈ session.held
  missed : Missed k session.log ↔ phase ≠ .clean
  changes : phase = .clean → ∀ write ∈ session.pending, write.key = k → write.value.isSome = true →
    (db.row k).isSome = true
  restored : phase = .restored → ∀ other, ((shop.applyAll other session.pending).row k).isSome = true

section Tracking

variable {k : RowKey} {phase : ReturnPhase} {session : Session RowKey DbWrite statements ApiError}
  {db after : Database}

theorem missed_cons {op : Statement} {reply : op.Reply} {log : Log statements ApiError} :
    Missed k (⟨.query op, .ok reply⟩ :: log) ↔
      (op.reselected = some k ∧ op.misses reply = true) ∨ Missed k log := by
  constructor
  · rintro ⟨other, answer, isEntry, misses⟩
    rcases List.mem_cons.mp isEntry with isFirst | inLog
    · cases isFirst
      exact .inl misses
    · exact .inr ⟨other, answer, inLog, misses⟩
  · rintro (misses | ⟨other, answer, inLog, misses⟩)
    · exact ⟨op, reply, List.mem_cons_self, misses⟩
    · exact ⟨other, answer, List.mem_cons_of_mem _ inLog, misses⟩

theorem missed_cons_error {op : RequestOp statements} {error : ApiError} {log : Log statements ApiError} :
    Missed k (⟨op, .error error⟩ :: log) ↔ Missed k log := by
  constructor
  · rintro ⟨other, answer, isEntry, misses⟩
    rcases List.mem_cons.mp isEntry with isFirst | inLog
    · cases isFirst
    · exact ⟨other, answer, inLog, misses⟩
  · rintro ⟨other, answer, inLog, misses⟩
    exact ⟨other, answer, List.mem_cons_of_mem _ inLog, misses⟩

theorem Tracked.stable {rely : Database → Database → Prop} (tracked : Tracked k phase session db)
    (interferes : shop.Interferes rely session.held db after) : Tracked k phase session after := by
  refine ⟨tracked.locked, tracked.missed, fun isClean write pending isKey isPut => ?_, tracked.restored⟩
  have present := tracked.changes isClean write pending isKey isPut
  have own : (shop.lockOf write).mode ≠ .keyShare := by
    unfold Engine.lockOf
    split <;> exact LockMode.noConfusion
  have same : shop.get after write.key = shop.get db write.key :=
    interferes.unchanged _ (tracked.locked write pending) own
  rw [isKey] at same
  exact (congrArg Option.isSome same).trans present

/-- A statement of the services keeps track of the row. -/
theorem Tracked.query {op : Statement} {reply : op.Reply} {writes : List DbWrite} (onShelf : k.OnShelf)
    (known : op.isCatalogue = true ∨ ∃ storeId, op = .setCurrentStore storeId) (tracked : Tracked k phase session db)
    (allows : phase.Allows k op) (executed : op.execute (shop.view db session) = .ok (reply, writes)) :
    Tracked k (phase.next k op reply) (shop.afterQuery session op (shop.view db session) reply writes) db := by
  have isEdit := Statement.execute_onShelf onShelf known executed
  have locked : ∀ write ∈ session.pending ++ writes,
      shop.lockOf write ∈ shop.locksOf op (shop.view db session) writes ++ session.held := by
    intro write pending
    rcases List.mem_append.mp pending with before | now
    · exact List.mem_append_right _ (tracked.locked write before)
    · exact List.mem_append_left _ (List.mem_append_right _ (List.mem_map_of_mem now))
  by_cases hit : op.reselected = some k ∧ op.misses reply = true
  · have isNext : phase.next k op reply = .missing := if_pos hit
    rw [isNext]
    refine ⟨locked, ?_, fun isClean => (by cases isClean), fun isRestored => (by cases isRestored)⟩
    exact missed_cons.trans (iff_of_true (.inl hit) ReturnPhase.noConfusion)
  · have missed : Missed k (⟨.query op, .ok reply⟩ :: session.log) ↔ phase ≠ .clean :=
      (missed_cons.trans (or_iff_right hit)).trans tracked.missed
    unfold ReturnPhase.next
    rw [if_neg hit]
    cases phase with
    | clean =>
      refine ⟨locked, missed, fun _ write pending isKey isPut => ?_, fun isRestored => (by cases isRestored)⟩
      have before := tracked.changes rfl
      rcases List.mem_append.mp pending with earlier | now
      · exact before write earlier isKey isPut
      · cases isEdit write now isKey with
        | change _ present =>
          -- The row is in the transaction's view, so it is there, or an earlier change of it is pending.
          rw [isKey] at present
          by_contra absent
          refine absurd (shop.get_applyAll_eq_none (Option.not_isSome_iff_eq_none.mp absent) ?_)
            (Option.isSome_iff_ne_none.mp present)
          intro earlier pending isKey
          exact Option.not_isSome_iff_eq_none.mp fun isPut => absent (before earlier pending isKey isPut)
        | insert isInserted => exact (allows (isKey ▸ isInserted)).elim
        | delete _ isErased =>
          rw [isErased] at isPut
          cases isPut
    | missing =>
      refine ⟨locked, missed.trans (iff_of_true ReturnPhase.noConfusion ReturnPhase.noConfusion),
        fun isClean => (by cases isClean), fun _ other => ?_⟩
      obtain ⟨write, rfl, rfl, isPut⟩ := Statement.execute_inserted executed allows
      change ((shop.applyAll other (session.pending ++ [write])).row write.key).isSome = true
      rw [Engine.applyAll_append]
      exact (congrArg Option.isSome (shop.get_apply_same _ write)).trans isPut
    | restored =>
      refine ⟨locked, missed, fun isClean => (by cases isClean), fun _ other => ?_⟩
      have before := tracked.restored rfl other
      change ((shop.applyAll other (session.pending ++ writes)).row k).isSome = true
      rw [Engine.applyAll_append]
      refine shop.isSome_get_applyAll before fun write made isKey => ?_
      cases isEdit write made isKey with
      | change isPut => exact isPut
      | insert isInserted => exact (allows.1 (isKey ▸ isInserted)).elim
      | delete isDeleted => exact (allows.2 (isKey ▸ isDeleted)).elim

theorem Tracked.failed (tracked : Tracked k phase session db) (op : Statement) (error : ApiError) :
    Tracked k phase { session with log := ⟨.query op, .error error⟩ :: session.log } db :=
  ⟨tracked.locked, missed_cons_error.trans tracked.missed, tracked.changes, tracked.restored⟩

end Tracking

/-! ## Runs -/

/-- A commit puts the row where it was missing just when a `save` missed it. -/
def returning (k : RowKey) : Contract Database RowKey DbWrite statements ApiError where
  assume _ _ _ := True
  rely _ _ := True
  reflexive _ := trivial
  transitive _ _ _ _ _ := trivial
  guarantee session _ before after := before.row k = none → ((after.row k).isSome = true ↔ Missed k session.log)

section Transactions

variable {α : Type} {k : RowKey}

theorem body_of_restores (onShelf : k.OnShelf) {body : Tx α} {phase : ReturnPhase} (restores : Restores k phase body)
    (only : body.Only fun op : Statement => op.isCatalogue = true ∨ ∃ storeId, op = .setCurrentStore storeId)
    {session : Session RowKey DbWrite statements ApiError} {db : Database} (tracked : Tracked k phase session db) :
    shop.Body (returning k) (fun _ session db => ∃ phase, phase ≠ .missing ∧ Tracked k phase session db)
      body session db := by
  induction body generalizing phase session db with
  | done value => exact Engine.body_done fun after interferes => ⟨phase, restores, tracked.stable interferes⟩
  | throw error => exact Engine.body_throw error session db
  | call op resume ih =>
    intro after interferes
    have still := tracked.stable interferes
    obtain ⟨allows, failing, replying⟩ := restores
    refine ⟨fun error => ih _ (failing error) (only.2 _) (still.failed op error),
      fun _ => ⟨(fun publishes => nomatch publishes), ?_⟩⟩
    cases executed : shop.execute op (shop.view after session) with
    | ok result =>
      rw [Engine.perform_query_ok executed]
      exact ih _ (replying result.1) (only.2 _) (still.query onShelf only.1 allows executed)
    | error error =>
      rw [Engine.perform_query_error executed]
      exact ih _ (failing error) (only.2 _) (still.failed op error)

theorem Tracked.commits {session : Session RowKey DbWrite statements ApiError} {db : Database} {phase : ReturnPhase}
    (settled : phase ≠ .missing) (tracked : Tracked k phase session db) :
    (returning k).guarantee session .commit db (shop.view db session) := by
  intro absent
  cases phase with
  | missing => exact absurd rfl settled
  | clean =>
    have isAbsent : (shop.view db session).row k = none := by
      refine shop.get_applyAll_eq_none absent fun write pending isKey => ?_
      by_contra isPut
      have present := tracked.changes rfl write pending isKey (Option.isSome_iff_ne_none.mpr isPut)
      rw [absent] at present
      cases present
    rw [isAbsent]
    exact iff_of_false Bool.false_ne_true fun missed => tracked.missed.mp missed rfl
  | restored => exact iff_of_true (tracked.restored rfl db) (tracked.missed.mpr ReturnPhase.noConfusion)

theorem tracked_begin (k : RowKey) (db : Database) : Tracked k .clean ⟨[], [], [⟨.begin, .ok ()⟩]⟩ db := by
  refine ⟨fun write pending => (by cases pending), iff_of_false ?_ (fun differs => differs rfl),
    fun _ write pending => (by cases pending), fun isRestored => (by cases isRestored)⟩
  rintro ⟨op, reply, logged, -⟩
  cases List.mem_singleton.mp logged

theorem restores_body (request : ShopRequest) (notMade : ¬ request.Makes k) : Restores k .clean request.body :=
  restores_passing (Program.only_perform (passes_of_none ⟨rfl, rfl, rfl⟩)) ReturnPhase.noConfusion
    fun _ => restores_handler request notMade

theorem safe_returning (onShelf : k.OnShelf) (request : ShopRequest) (notMade : ¬ request.Makes k) (db : Database) :
    shop.Safe (returning k) (fun _ _ _ => True) request.program .empty db := by
  have known := request.only_body.imp fun op performs => performs.1
  have body (after : Database) :=
    body_of_restores onShelf (restores_body request notMade) known (tracked_begin k after)
  rw [request.program_eq]
  refine Engine.safe_withTransaction (fun after _ => body after) fun value session db ended _ => ?_
  obtain ⟨phase, settled, tracked⟩ := ended
  exact tracked.commits settled

variable {ι : Type} [Fintype ι] [DecidableEq ι] {start : Database} {requests : ι → ShopRequest}
  {run : List (Act ι ApiError × ShopSystem ι)}

/-- A row that is gone comes back with the commit of a transaction whose `save` missed it, and not otherwise. -/
theorem deleted_returns_iff (onShelf : k.OnShelf) (notMade : ∀ i, ¬ (requests i).Makes k)
    (isRun : Transition.Run shop.Steps (ShopRequest.system start requests) run) :
    Transition.EachStep (fun source act target => source.db.row k = none →
        ((target.db.row k).isSome = true ↔ ∃ i, act = .run i ∧ (source.thread i).program.atCommit = true ∧
          Missed k (source.thread i).session.log))
      (ShopRequest.system start requests) run := by
  have compatible : Engine.Compatible fun _ : ι => returning k := fun _ _ _ _ _ _ _ _ => trivial
  have assumed (source : ShopSystem ι) (act : Act ι ApiError) : Engine.Assumed (fun _ => returning k) source act := by
    cases act with
    | run i => exact fun _ _ _ => trivial
    | fail | crash => trivial
  have conforms : shop.Conforms (fun _ => returning k) (ShopRequest.system start requests) :=
    Engine.conforms_start fun i => safe_returning onShelf (requests i) (notMade i) start
  have keeps : ∀ (source : ShopSystem ι) act target,
      shop.Conforms (fun _ => returning k) source ∧ source.Transactional → shop.Steps source act target →
      shop.Conforms (fun _ => returning k) target ∧ target.Transactional :=
    fun source act target kept stepped =>
      ⟨Engine.conforms_step compatible kept.1 stepped (assumed source act),
        (Engine.transactional_step_cases kept.2 stepped).1⟩
  refine Transition.eachStep_of_invariant ?_ keeps
    ⟨conforms, transactional_start fun i => (requests i).isTransaction⟩ isRun
  rintro source act target ⟨conforms, transactional⟩ stepped absent
  obtain ⟨-, silent | ⟨i, commits⟩⟩ := Engine.transactional_step_cases transactional stepped
  · rw [silent.db, absent]
    refine iff_of_false Bool.false_ne_true ?_
    rintro ⟨i, isAct, atCommit, -⟩
    rw [silent.quiet i isAct] at atCommit
    cases atCommit
  · obtain ⟨resume, calls⟩ := commits.calls
    have guaranteed := Engine.guarantee_of_step conforms commits.alive calls trivial rfl absent
    rw [commits.db]
    refine guaranteed.trans ⟨fun missed => ⟨i, commits.isAct, ?_, missed⟩, ?_⟩
    · rw [calls]
      rfl
    · rintro ⟨j, isAct, -, missed⟩
      cases commits.isAct.symm.trans isAct
      exact missed

end Transactions

/-! ### The tea is deleted while it gets a new picture -/

namespace SmallShop

def deleteTea : ShopRequest := ⟨⟨8, fun n => 500 + n, fun _ => 0⟩, 1, .removeProduct (some 2)⟩

/-- The deletion is committed between the lookup and the `save`. -/
def removeInsideEdit : List (Act Bool ApiError) :=
  List.replicate 3 (.run false) ++ List.replicate 5 (.run true) ++ List.replicate 3 (.run false)

end SmallShop

theorem deleted_returns_smallShop :
    let requests := SmallShop.both SmallShop.newImage SmallShop.deleteTea
    Transition.EachStep (fun source act target => source.db.row (.product 2) = none →
        ((target.db.row (.product 2)).isSome = true ↔ ∃ i, act = .run i ∧
          (source.thread i).program.atCommit = true ∧ Missed (.product 2) (source.thread i).session.log))
      (ShopRequest.system SmallShop.db requests)
      ((shop.trace (ShopRequest.system SmallShop.db requests) SmallShop.removeInsideEdit).get (by decide)) :=
  deleted_returns_iff (.inl rfl) (fun i => by cases i <;> exact id) (shop.run_get_trace _)

example :
    let system := ShopRequest.system SmallShop.db (SmallShop.both SmallShop.newImage SmallShop.deleteTea)
    (shop.trace system SmallShop.removeInsideEdit).map
        (fun run => run.map fun entry => (entry.2.db.row (.product 2)).isSome) =
      some (List.replicate 7 true ++ List.replicate 3 false ++ [true]) := by
  decide +kernel

end StoreSaas
