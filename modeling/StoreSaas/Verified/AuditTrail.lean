import StoreSaas.Verified.OwnEvents

/-! # The trail and what happened

A request commits what it changes at one point, its audit row at another: the stores and the
staff before the row, the products after it, with the request's transaction.  A request that is
cut off in between leaves a change without a row, or a row without its change; no other request
does (`trailMatches_of_uninterrupted`).

`TrailHistory` is kept beside the system for the statements: what each request has committed, and
whether it has lost changes.
-/

namespace StoreSaas

/-! ## What a request does, and in which order -/

/-- A statement that leaves every row as it is. -/
def Statement.Reads (statement : Statement) : Prop :=
  ∀ db reply writes, shop.execute statement db = .ok (reply, writes) → writes = []

/-- The statements by which the stores and the staff are changed. -/
def Statement.changesAccount : Statement → Bool
  | .user (.insert _) | .user (.saveChanges _ _) | .user (.delete _) | .store (.insert _) | .store (.update _ _) => true
  | _ => false

/-- What a request does before its audit row is inserted, or when it gives up. -/
def IsWork : RequestOp statements → Prop
  | .begin | .rollback => True
  | .query op => Statement.writesTo op .auditLogs = false
  | .auto op => Statement.writesTo op .auditLogs = false ∧ (Statement.Reads op ∨ Statement.changesAccount op = true)
  | .commit => False

/-- How far a request has come: it has changed an account, its row is inserted, or it has given up. -/
inductive AuditPhase where
  | working
  | changed
  | logged (row : AuditLog)
  | failed

/-- The rows that a request in this phase has inserted. -/
def AuditPhase.rows : AuditPhase → List AuditLog
  | .logged row => [row]
  | .working | .changed | .failed => []

namespace AuditedHttpRequest

/-- The change is followed by the row at once, and the row by nothing but the `COMMIT`. -/
def auditProtocol (request : AuditedHttpRequest) : Protocol statements ApiError AuditPhase where
  initial := .working
  allows
    | .working, op => IsWork op ∨ ∃ answer, op = .auto (.audit (.insert (request.entry answer)))
    | .changed, op => ∃ answer, op = .auto (.audit (.insert (request.entry answer)))
    | .logged _, op => op = .commit
    | .failed, op => op = .rollback
  next phase
    | .auto (.audit (.insert row)), .ok _ => .logged row
    | .auto (.audit (.insert _)), .error _ => .failed
    | .auto op, .ok _ => if Statement.changesAccount op = true then .changed else phase
    | .rollback, _ => .failed
    | _, _ => phase

/-- A request that succeeds has inserted its row; none ends between the change and the row. -/
def Over (request : AuditedHttpRequest) (phase : AuditPhase) : Except ApiError (Option Uuid) → Prop
  | .ok answer => phase = .logged (request.entry answer)
  | .error _ => phase ≠ .changed

/-- The same, before the request's transaction ends. -/
def Audited (request : AuditedHttpRequest) (phase : AuditPhase) : Except ApiError (Option Uuid) → Prop
  | .ok answer => phase = .logged (request.entry answer)
  | .error _ => phase = .working ∨ phase = .failed

/-- What a service ends with: a change is its last statement. -/
def Served {α : Type} (phase : AuditPhase) (result : Except ApiError α) : Prop :=
  phase = .working ∨ phase = .changed ∧ ∃ value, result = .ok value

section Obeys

variable {request : AuditedHttpRequest} {α : Type}

theorem obeys_read_bind {op : Statement} {next : op.Reply → Tx α} (spares : op.writesTo .auditLogs = false)
    (reads : op.Reads) (stays : ∀ reply, request.auditProtocol.next .working (.auto op) reply = .working)
    (continues : ∀ reply, (next reply).autocommit.Obeys request.auditProtocol Served .working) :
    (Program.perform (S := statements) op >>= next).autocommit.Obeys request.auditProtocol Served .working := by
  refine Program.obeys_autocommit_call (.inl ⟨spares, .inl reads⟩) (fun error => .inl (stays _)) fun reply => ?_
  rw [stays]
  exact continues reply

theorem spares_of_changesAccount {op : Statement} (changes : op.changesAccount = true) :
    op.writesTo .auditLogs = false := by
  cases op with
  | user | store => rfl
  | _ => cases changes

theorem obeys_change {op : Statement} {value : α} (changes : op.changesAccount = true)
    (fails : ∀ error, request.auditProtocol.next .working (.auto op) (.error error) = .working)
    (changed : ∀ reply, request.auditProtocol.next .working (.auto op) (.ok reply) = .changed) :
    (Program.perform (S := statements) op >>= fun _ => (return value : Tx α)).autocommit.Obeys request.auditProtocol
      Served .working :=
  Program.obeys_autocommit_call (.inl ⟨spares_of_changesAccount changes, .inr changes⟩)
    (fun error => .inl (fails error)) fun reply => .inr ⟨changed reply, value, rfl⟩

theorem obeys_find_bind {β : Type} {body : Tx β} {next : β → Tx α}
    (finds : body.autocommit.Obeys request.auditProtocol (fun phase _ => phase = .working) .working)
    (continues : ∀ value, (next value).autocommit.Obeys request.auditProtocol Served .working) :
    (body >>= next).autocommit.Obeys request.auditProtocol Served .working := by
  rw [Program.autocommit_bind]
  refine finds.handle fun phase result unchanged => ?_
  subst unchanged
  cases result with
  | ok value => exact continues value
  | error error => exact .inl rfl

theorem obeys_answer {β : Type} {body : Tx β} {answer : β → α}
    (served : body.autocommit.Obeys request.auditProtocol Served .working) :
    (body >>= fun value => (return answer value : Tx α)).autocommit.Obeys request.auditProtocol Served .working := by
  rw [Program.autocommit_bind]
  refine served.handle fun phase result ends => ?_
  cases result with
  | ok value => exact ends.imp_right fun changed => ⟨changed.1, _, rfl⟩
  | error error =>
    refine .inl (ends.resolve_right fun changed => ?_)
    obtain ⟨-, value, isOk⟩ := changed
    cases isOk

theorem obeys_saveStore (entity : StoreEntity) :
    (StoresService.saveStore entity).autocommit.Obeys request.auditProtocol Served .working := by
  refine obeys_read_bind rfl (fun _ _ _ executed => by cases executed; rfl) (fun reply => by cases reply <;> rfl)
    fun found => ?_
  cases found with
  | none => exact obeys_change rfl (fun _ => rfl) fun _ => rfl
  | some row =>
    dsimp only
    split
    next => exact .inl rfl
    next => exact obeys_change rfl (fun _ => rfl) fun _ => rfl

theorem obeys_saveStaff (entity : UserEntity) :
    (StoresService.save entity).autocommit.Obeys request.auditProtocol Served .working := by
  refine obeys_read_bind rfl (fun _ _ _ executed => by cases executed; rfl) (fun reply => by cases reply <;> rfl)
    fun found => ?_
  cases found with
  | none => exact obeys_change rfl (fun _ => rfl) fun _ => rfl
  | some row =>
    dsimp only
    split
    next => exact .inl rfl
    next => exact obeys_change rfl (fun _ => rfl) fun _ => rfl

theorem obeys_findStaff (storeId : Uuid) (staffId : RouteId) :
    (StoresService.findStaffOrThrow storeId staffId).autocommit.Obeys request.auditProtocol
      (fun phase _ => phase = .working) .working := by
  unfold StoresService.findStaffOrThrow
  refine Program.obeys_autocommit_call (.inl ⟨rfl, .inl fun db reply writes executed => ?_⟩) (fun _ => rfl)
    fun found => ?_
  · cases staffId <;> cases executed
    rfl
  · cases found <;> exact rfl

theorem obeys_inviteStaff (crypto : Crypto) (salt : Bytes) (env : Environment) (storeId : Uuid) (dto : InviteStaffDto) :
    (StoresService.inviteStaff crypto salt env storeId dto).autocommit.Obeys request.auditProtocol Served .working := by
  refine obeys_read_bind rfl (fun _ _ _ executed => by cases executed; rfl) (fun reply => by cases reply <;> rfl)
    fun existing => ?_
  cases existing with
  | some _ => exact .inl rfl
  | none =>
    refine obeys_read_bind rfl (fun _ _ _ executed => by cases executed; rfl) (fun reply => by cases reply <;> rfl)
      fun subscription => ?_
    refine obeys_read_bind rfl (fun _ _ _ executed => by cases executed; rfl) (fun reply => by cases reply <;> rfl)
      fun staffCount => ?_
    dsimp only
    split
    next => exact .inl rfl
    next => exact obeys_change rfl (fun _ => rfl) fun _ => rfl

theorem obeys_removeStaff (storeId : Uuid) (staffId : RouteId) :
    (StoresService.removeStaff storeId staffId).autocommit.Obeys request.auditProtocol Served .working := by
  refine obeys_find_bind (obeys_findStaff storeId staffId) fun staff => ?_
  have deletes : Tx.user (.delete staff.id) = (Tx.user (.delete staff.id) >>= fun _ => (return () : Tx Unit)) :=
    (Program.perform_bind_done _).symm
  rw [deletes]
  exact obeys_change rfl (fun _ => rfl) fun _ => rfl

theorem obeys_updateMine (storeId : Uuid) (dto : UpdateStoreDto) :
    (StoresService.updateMine storeId dto).autocommit.Obeys request.auditProtocol Served .working := by
  refine obeys_find_bind ?_ fun store => obeys_saveStore _
  refine Program.obeys_autocommit_call (.inl ⟨rfl, .inl fun db reply writes executed => ?_⟩) (fun _ => rfl)
    fun found => ?_
  · cases executed
    rfl
  · cases found <;> exact rfl

theorem obeys_setSuspended (id : RouteId) (suspended : Bool) :
    (AdminService.setSuspended id suspended).autocommit.Obeys request.auditProtocol Served .working := by
  refine obeys_read_bind rfl (fun db reply writes executed => ?_) (fun reply => by cases reply <;> rfl) fun found => ?_
  · cases id <;> cases executed
    rfl
  · cases found with
    | none => exact .inl rfl
    | some store => exact obeys_saveStore _

/-- The products are changed in the transaction, which the phase does not tell. -/
theorem obeys_handler (crypto : Crypto) (request : AuditedHttpRequest) :
    (request.handler crypto).Obeys request.auditProtocol Served .working := by
  unfold handler
  cases request.call with
  | error error => exact .inl rfl
  | ok call =>
    have queries : (call.body crypto request.salt request.env).inTransaction.Obeys request.auditProtocol Served
        .working := by
      refine (Program.obeys_inTransaction_of_only (call.only_body crypto request.salt request.env)
        fun op spares => ⟨Or.inl spares, fun _ => rfl⟩).imp fun phase _ unchanged => ?_
      exact .inl unchanged
    cases call with
    | createProduct | updateProduct | removeProduct => exact queries
    | updateMine storeId dto => exact obeys_answer (obeys_updateMine storeId dto)
    | inviteStaff storeId dto => exact obeys_answer (obeys_inviteStaff crypto _ _ storeId dto)
    | updateStaff storeId staffId dto =>
      exact obeys_answer (obeys_find_bind (obeys_findStaff storeId staffId) fun staff => obeys_saveStaff _)
    | removeStaff storeId staffId => exact obeys_answer (obeys_removeStaff storeId staffId)
    | setSuspended id suspended => exact obeys_answer (obeys_setSuspended id suspended)

theorem obeys_audited (crypto : Crypto) (request : AuditedHttpRequest) :
    (AuditInterceptor.intercept request.env request.audited (Option.map Uuid.text) (request.handler crypto)).Obeys
      request.auditProtocol request.Audited .working := by
  refine (obeys_handler crypto request).handle fun phase result served => ?_
  cases result with
  | error error =>
    refine .inl (served.resolve_right fun changed => ?_)
    obtain ⟨-, value, isOk⟩ := changed
    cases isOk
  | ok answer =>
    have inserts : request.auditProtocol.allows phase (.auto (.audit (.insert (request.entry answer)))) := by
      obtain rfl | ⟨rfl, -⟩ := served
      · exact .inr ⟨answer, rfl⟩
      · exact ⟨answer, rfl⟩
    refine ⟨inserts, fun reply => ?_⟩
    cases reply with
    | ok _ => exact rfl
    | error error => exact .inr rfl

theorem over_of_audited {phase : AuditPhase} {result : Except ApiError (Option Uuid)}
    (audited : request.Audited phase result) : request.Over phase result := by
  cases result with
  | ok answer => exact audited
  | error error => obtain rfl | rfl := audited <;> exact AuditPhase.noConfusion

theorem obeys_auditProtocol (crypto : Crypto) (request : AuditedHttpRequest) :
    (request.program crypto).Obeys request.auditProtocol request.Over .working := by
  have audits := obeys_audited crypto request
  unfold program
  cases request.user.storeId with
  | none => exact audits.imp fun _ _ audited => over_of_audited audited
  | some storeId =>
    refine Program.obeys_withTransaction request.Audited (.inl trivial) (fun error => AuditPhase.noConfusion) ?_ ?_ ?_
    · refine ⟨.inl rfl, fun reply => ?_⟩
      cases reply with
      | ok _ => exact audits
      | error error => exact .inl rfl
    · rintro phase answer rfl
      exact ⟨rfl, rfl, fun error => AuditPhase.noConfusion⟩
    · rintro phase error (rfl | rfl)
      · exact ⟨.inl trivial, fun _ => AuditPhase.noConfusion⟩
      · exact ⟨rfl, fun _ => AuditPhase.noConfusion⟩

end Obeys

/-! ## What is committed, and what is lost -/

/-- The writes that an operation commits. -/
def published (session : Session RowKey DbWrite statements ApiError) (db : Database) :
    RequestOp statements → List DbWrite
  | .auto op => match shop.execute op db with
    | .ok (_, writes) => writes
    | .error _ => []
  | .commit => session.pending
  | .begin | .query _ | .rollback => []

theorem published_ok {session : Session RowKey DbWrite statements ApiError} {db : Database} {op : Statement}
    {reply : op.Reply} {writes : List DbWrite} (executed : shop.execute op db = .ok (reply, writes)) :
    published session db (.auto op) = writes := by
  simp only [published, executed]

theorem published_error {session : Session RowKey DbWrite statements ApiError} {db : Database} {op : Statement}
    {error : ApiError} (executed : shop.execute op db = .error error) : published session db (.auto op) = [] := by
  simp only [published, executed]

theorem perform_published (session : Session RowKey DbWrite statements ApiError) (db : Database)
    (op : RequestOp statements) : (shop.perform session db op).db = shop.applyAll db (published session db op) := by
  cases op with
  | begin | commit | rollback => rfl
  | query op => exact Engine.perform_query_db session db op
  | auto op =>
    cases executed : shop.execute op db with
    | ok result => rw [published_ok executed]; simp only [Engine.perform, executed]
    | error error => rw [published_error executed]; simp only [Engine.perform, executed, Engine.applyAll_nil]

def auditRow : DbWrite → Option AuditLog
  | .auditLog (.put row) => some row
  | _ => none

@[ext] structure TrailHistory (ι : Type) where
  /-- The requests that have committed a change to some other table. -/
  changed : ι → Bool
  /-- The audit rows that a request has committed. -/
  logged : ι → List AuditLog
  /-- The requests whose uncommitted changes are gone. -/
  lost : ι → Bool

def TrailHistory.none {ι : Type} : TrailHistory ι := ⟨fun _ => false, fun _ => [], fun _ => false⟩

section Systems

variable {ι : Type} [DecidableEq ι]

namespace TrailHistory

/-- A request has committed some writes. -/
def commits (before : TrailHistory ι) (i : ι) (writes : List DbWrite) : TrailHistory ι :=
  { before with
    changed := Function.update before.changed i
      (before.changed i || writes.any fun write => write.key.table ≠ .auditLogs)
    logged := Function.update before.logged i (before.logged i ++ writes.filterMap auditRow) }

/-- A request has lost what it had not committed. -/
def loses (before : TrailHistory ι) (i : ι) (pending : List DbWrite) : TrailHistory ι :=
  { before with lost := Function.update before.lost i (before.lost i || !pending.isEmpty) }

/-- An operation has succeeded. -/
def ran (before : TrailHistory ι) (i : ι) (session : Session RowKey DbWrite statements ApiError) (db : Database) :
    RequestOp statements → TrailHistory ι
  | .rollback => before.loses i session.pending
  | op => before.commits i (published session db op)

end TrailHistory

def observe (source : AuditedSystem ι) (act : Act ι ApiError) (before : TrailHistory ι) : TrailHistory ι :=
  match act with
  | .run i =>
    match (source.thread i).program with
    | .call op _ => before.ran i (source.thread i).session source.db op
    | .done _ | .throw _ => before
  | .fail i _ =>
    match (source.thread i).program with
    | .call op _ => if op.endsTransaction = true then before.loses i (source.thread i).session.pending else before
    | .done _ | .throw _ => before
  | .crash i => before.loses i (source.thread i).session.pending

/-- The request that dies in this step, or one of whose operations fails. -/
def cutOff (source : AuditedSystem ι) (act : Act ι ApiError) : Option ι :=
  match act with
  | .run i =>
    match (source.thread i).program with
    | .call op _ =>
      match (shop.perform (source.thread i).session source.db op).reply with
      | .ok _ => none
      | .error _ => some i
    | .done _ | .throw _ => none
  | .fail i _ | .crash i => some i

/-- A request is cut off between its change and its row, or between its row and the `COMMIT` of its changes. -/
def interrupts (source : AuditedSystem ι) (act : Act ι ApiError) (before : TrailHistory ι) : Bool :=
  match cutOff source act with
  | none => false
  | some i =>
    if (before.logged i).isEmpty = true then before.changed i else !(source.thread i).session.pending.isEmpty

/-- The request has operations left, and is there to execute them. -/
def IsRunning (state : AuditedSystem ι) (i : ι) : Prop :=
  (state.thread i).alive = true ∧ ∃ op resume, (state.thread i).program = .call op resume

/-- A request that is over and has changed something has its row, and a row is that of one request, which has lost
    no change. -/
structure TrailMatches (start : Database) (requests : ι → AuditedHttpRequest)
    (state : AuditedSystem ι × TrailHistory ι) : Prop where
  recorded : ∀ i, ¬ IsRunning state.1 i → state.2.changed i = true → ∃ answer,
    state.2.logged i = [(requests i).entry answer] ∧ (requests i).entry answer ∈ state.1.db.auditLogs.rows
  backed : ∀ row ∈ state.1.db.auditLogs.rows, row ∈ start.auditLogs.rows ∨ ∃ i, state.2.logged i = [row] ∧
    state.2.lost i = false ∧ ∀ j, row ∈ state.2.logged j → j = i

end Systems

/-! ## Runs -/

section Runs

variable {ι : Type} {start : Database} {requests : ι → AuditedHttpRequest}

/-- The phase of every request. -/
abbrev phases (requests : ι → AuditedHttpRequest) (state : AuditedSystem ι × TrailHistory ι) : ι → AuditPhase :=
  state.1.phase fun i => (requests i).auditProtocol

/-- What is known beside the claim. -/
structure TrailInvariant (start : Database) (requests : ι → AuditedHttpRequest)
    (state : AuditedSystem ι × TrailHistory ι) : Prop where
  follows : state.1.Follows (fun i => (requests i).auditProtocol) fun i => (requests i).Over
  kept : TrailKept requests state.1
  logged : ∀ i, state.2.logged i = (phases requests state i).rows
  entered : ∀ i row, phases requests state i = .logged row →
    (∃ answer, row = (requests i).entry answer) ∧ state.1.db.auditLogs.find row.id = some row
  /-- A request that has changed something has its row, or inserts it next. -/
  changed : ∀ i, state.2.changed i = true → phases requests state i = .changed ∧ (state.1.thread i).alive = true ∨
    ∃ row, phases requests state i = .logged row
  lost : ∀ i, state.2.lost i = true → phases requests state i = .failed ∨
    (state.1.thread i).alive = false ∧ ∀ row, phases requests state i ≠ .logged row
  sound : ∀ row ∈ state.1.db.auditLogs.rows, row ∈ start.auditLogs.rows ∨ ∃ i, phases requests state i = .logged row
  apart : ∀ i j row, phases requests state i = .logged row → phases requests state j = .logged row → i = j

theorem TrailInvariant.trailMatches {state : AuditedSystem ι × TrailHistory ι}
    (invariant : TrailInvariant start requests state) : TrailMatches start requests state where
  recorded i ended changed := by
    obtain ⟨isChanged, alive⟩ | ⟨row, isLogged⟩ := invariant.changed i changed
    -- a request whose row is still to come has not ended
    · refine absurd ⟨alive, ?_⟩ ended
      have obeys := invariant.follows i
      cases program : (state.1.thread i).program with
      | done answer =>
        rw [program] at obeys
        exact AuditPhase.noConfusion (isChanged.symm.trans obeys)
      | throw error =>
        rw [program] at obeys
        exact absurd isChanged obeys
      | call op resume => exact ⟨op, resume, rfl⟩
    · obtain ⟨⟨answer, isEntry⟩, present⟩ := invariant.entered i row isLogged
      refine ⟨answer, ?_, isEntry ▸ Table.mem_of_find present⟩
      rw [invariant.logged, isLogged, isEntry]
      rfl
  backed row present := by
    refine (invariant.sound row present).imp_right fun logs => ?_
    obtain ⟨i, isLogged⟩ := logs
    refine ⟨i, ?_, ?_, fun j logsToo => ?_⟩
    · rw [invariant.logged, isLogged]
      rfl
    · cases isLost : state.2.lost i with
      | false => rfl
      | true =>
        obtain isFailed | ⟨-, notLogged⟩ := invariant.lost i isLost
        · exact AuditPhase.noConfusion (isFailed.symm.trans isLogged)
        · exact absurd isLogged (notLogged row)
    · rw [invariant.logged] at logsToo
      -- another request that logs the row would be the same
      cases inPhase : phases requests state j with
      | logged other =>
        rw [inPhase] at logsToo
        obtain rfl := List.mem_singleton.mp logsToo
        exact invariant.apart j i row inPhase isLogged
      | working | changed | failed =>
        rw [inPhase] at logsToo
        cases logsToo

theorem allowed_cases {request : AuditedHttpRequest} {phase : AuditPhase} {op : RequestOp statements}
    (allowed : request.auditProtocol.allows phase op) :
    (∃ answer, op = .auto (.audit (.insert (request.entry answer))) ∧ (phase = .working ∨ phase = .changed)) ∨
      (phase = .working ∧ IsWork op) ∨ (∃ row, phase = .logged row ∧ op = .commit) ∨
        (phase = .failed ∧ op = .rollback) := by
  cases phase with
  | working =>
    obtain work | ⟨answer, isInsert⟩ := allowed
    · exact .inr (.inl ⟨rfl, work⟩)
    · exact .inl ⟨answer, isInsert, .inl rfl⟩
  | changed =>
    obtain ⟨answer, isInsert⟩ := allowed
    exact .inl ⟨answer, isInsert, .inr rfl⟩
  | logged row => exact .inr (.inr (.inl ⟨row, rfl, allowed⟩))
  | failed => exact .inr (.inr (.inr ⟨rfl, allowed⟩))

variable [DecidableEq ι] {source target : AuditedSystem ι × TrailHistory ι} {i : ι}

/-- A step that inserts no audit row. -/
theorem TrailInvariant.unlogged (invariant : TrailInvariant start requests source) (i : ι) (phase : AuditPhase)
    (follows : target.1.Follows (fun i => (requests i).auditProtocol) fun i => (requests i).Over)
    (kept : TrailKept requests target.1) (others : ∀ j, j ≠ i → (target.1.thread j).alive = (source.1.thread j).alive)
    (phased : phases requests target = Function.update (phases requests source) i phase)
    (trail : target.1.db.auditLogs = source.1.db.auditLogs)
    (sameRow : ∀ row, phase = .logged row ↔ phases requests source i = .logged row)
    (logged : target.2.logged = source.2.logged)
    (otherChanges : ∀ j, j ≠ i → target.2.changed j = source.2.changed j)
    (otherLosses : ∀ j, j ≠ i → target.2.lost j = source.2.lost j)
    (changed : target.2.changed i = true → phase = .changed ∧ (target.1.thread i).alive = true ∨
      ∃ row, phase = .logged row)
    (lost : target.2.lost i = true → phase = .failed ∨ (target.1.thread i).alive = false ∧ ∀ row, phase ≠ .logged row) :
    TrailInvariant start requests target := by
  have atSelf : phases requests target i = phase := by rw [phased, Function.update_self]
  have atOther (j : ι) (differs : j ≠ i) : phases requests target j = phases requests source j := by
    rw [phased, Function.update_of_ne differs]
  -- so no request logs more or less than before
  have sameLogged (j : ι) (row : AuditLog) :
      phases requests target j = .logged row ↔ phases requests source j = .logged row := by
    by_cases same : j = i
    · rw [same, atSelf]
      exact sameRow row
    · rw [atOther j same]
  have sameRows (j : ι) : (phases requests target j).rows = (phases requests source j).rows := by
    cases before : phases requests source j with
    | logged row => rw [(sameLogged j row).mpr before]
    | working | changed | failed =>
      cases after : phases requests target j with
      | logged row => exact AuditPhase.noConfusion (before.symm.trans ((sameLogged j row).mp after))
      | working | changed | failed => rfl
  -- only what changed and what was lost is new, and that at `i` alone
  refine ⟨follows, kept, fun j => ?_, fun j row isLogged => ?_, fun j => ?_, fun j => ?_, ?_, ?_⟩
  · rw [logged, sameRows]
    exact invariant.logged j
  · rw [trail]
    exact invariant.entered j row ((sameLogged j row).mp isLogged)
  · by_cases same : j = i
    · rw [same, atSelf]
      exact changed
    · rw [atOther j same, otherChanges j same, others j same]
      exact invariant.changed j
  · by_cases same : j = i
    · rw [same, atSelf]
      exact lost
    · rw [atOther j same, otherLosses j same, others j same]
      exact invariant.lost j
  · rw [trail]
    intro row present
    exact (invariant.sound row present).imp_right fun logs => logs.imp fun j => (sameLogged j row).mpr
  · intro j k row first second
    exact invariant.apart j k row ((sameLogged j row).mp first) ((sameLogged k row).mp second)

/-- The insert of the audit row. -/
theorem TrailInvariant.inserted (invariant : TrailInvariant start requests source)
    (follows : target.1.Follows (fun i => (requests i).auditProtocol) fun i => (requests i).Over)
    (kept : TrailKept requests target.1) (alive : ∀ j, (target.1.thread j).alive = (source.1.thread j).alive)
    {answer : Option Uuid} (before : phases requests source i = .working ∨ phases requests source i = .changed)
    (running : (source.1.thread i).alive = true)
    (phased : phases requests target =
      Function.update (phases requests source) i (.logged ((requests i).entry answer)))
    (absent : source.1.db.auditLogs.find ((requests i).entry answer).id = none)
    (trail : target.1.db.auditLogs = source.1.db.auditLogs.put ((requests i).entry answer))
    (history : target.2 = { source.2 with
      logged := Function.update source.2.logged i [(requests i).entry answer] }) :
    TrailInvariant start requests target := by
  have atSelf : phases requests target i = .logged ((requests i).entry answer) := by rw [phased, Function.update_self]
  have atOther (j : ι) (differs : j ≠ i) : phases requests target j = phases requests source j := by
    rw [phased, Function.update_of_ne differs]
  -- the rows already logged are in the table, and the id of the new one is free there
  have isNew (j : ι) (row : AuditLog) (isLogged : phases requests source j = .logged row) :
      row.id ≠ ((requests i).entry answer).id := by
    intro sameId
    have present := (invariant.entered j row isLogged).2
    rw [sameId, absent] at present
    cases present
  have wasUnlogged (row : AuditLog) : phases requests source i ≠ .logged row := by
    obtain isWorking | isChanged := before
    · rw [isWorking]
      exact AuditPhase.noConfusion
    · rw [isChanged]
      exact AuditPhase.noConfusion
  have notFailed : phases requests source i ≠ .failed := by
    obtain isWorking | isChanged := before
    · rw [isWorking]
      exact AuditPhase.noConfusion
    · rw [isChanged]
      exact AuditPhase.noConfusion
  -- field by field: what is logged, that it is stored, what changed and what was lost,
  -- what stands behind a row, and that no two requests log one row
  refine ⟨follows, kept, fun j => ?_, fun j row isLogged => ?_, fun j => ?_, fun j => ?_, ?_, ?_⟩
  · rw [history]
    by_cases same : j = i
    · rw [same, atSelf]
      exact Function.update_self ..
    · rw [atOther j same]
      exact (Function.update_of_ne same ..).trans (invariant.logged j)
  · by_cases same : j = i
    · subst same
      cases atSelf.symm.trans isLogged
      exact ⟨⟨answer, rfl⟩, trail ▸ Table.find_put_same ..⟩
    · rw [atOther j same] at isLogged
      obtain ⟨isEntry, present⟩ := invariant.entered j row isLogged
      refine ⟨isEntry, ?_⟩
      rw [trail, Table.find_put_ne _ (isNew j row isLogged)]
      exact present
  · rw [history]
    by_cases same : j = i
    · rw [same, atSelf]
      exact fun _ => .inr ⟨_, rfl⟩
    · rw [atOther j same, alive j]
      exact invariant.changed j
  · rw [history]
    by_cases same : j = i
    -- a lost change belongs to a request that is over
    · intro isLost
      rw [same] at isLost
      obtain isFailed | ⟨isDead, -⟩ := invariant.lost i isLost
      · exact absurd isFailed notFailed
      · rw [running] at isDead
        cases isDead
    · rw [atOther j same, alive j]
      exact invariant.lost j
  · intro row present
    rw [trail, Table.rows_put_of_absent absent] at present
    -- a row of the table is an old one or the new one
    obtain earlier | isRow := List.mem_append.mp present
    · refine (invariant.sound row earlier).imp_right fun logs => ?_
      obtain ⟨j, isLogged⟩ := logs
      refine ⟨j, ?_⟩
      rw [atOther j fun same => wasUnlogged row (same ▸ isLogged)]
      exact isLogged
    · obtain rfl := List.mem_singleton.mp isRow
      exact .inr ⟨i, atSelf⟩
  · intro j k row first second
    by_cases isFirst : j = i
    · by_cases isSecond : k = i
      · exact isFirst.trans isSecond.symm
      · subst isFirst
        cases atSelf.symm.trans first
        rw [atOther k isSecond] at second
        exact absurd rfl (isNew k _ second)
    · rw [atOther j isFirst] at first
      by_cases isSecond : k = i
      · subst isSecond
        cases atSelf.symm.trans second
        exact absurd rfl (isNew j _ first)
      · rw [atOther k isSecond] at second
        exact invariant.apart j k row first second

/-! ### What a step does to the history -/

theorem published_spares {session : Session RowKey DbWrite statements ApiError} (quiet : Quiet session) (db : Database)
    {op : RequestOp statements} (spares : SparesAudit op) :
    ∀ write ∈ published session db op, write.key.table ≠ .auditLogs := by
  cases op with
  | begin | query | rollback => exact List.forall_mem_nil _
  | commit => exact quiet
  | auto op =>
    cases executed : shop.execute op db with
    | ok result =>
      rw [published_ok executed]
      exact table_ne_of_spares spares executed
    | error error =>
      rw [published_error executed]
      exact List.forall_mem_nil _

theorem commits_of_spares (before : TrailHistory ι) {writes : List DbWrite}
    (spares : ∀ write ∈ writes, write.key.table ≠ .auditLogs) : (before.commits i writes).logged = before.logged := by
  have noRows : writes.filterMap auditRow = [] := by
    refine List.filterMap_eq_nil_iff.mpr fun write made => ?_
    cases write with
    | auditLog change => exact absurd rfl (spares _ made)
    | _ => rfl
  unfold TrailHistory.commits
  rw [noRows, List.append_nil, Function.update_eq_self]

theorem ran_of_open (before : TrailHistory ι) (session : Session RowKey DbWrite statements ApiError) (db : Database)
    {op : RequestOp statements} (isOpen : op.endsTransaction = false) :
    before.ran i session db op = before.commits i (published session db op) := by
  cases op with
  | rollback => cases isOpen
  | _ => rfl

omit [DecidableEq ι] in
theorem spares_of_work {op : RequestOp statements} (work : IsWork op) : SparesAudit op := by
  cases op with
  | begin | rollback => trivial
  | commit => exact work.elim
  | query op => exact work
  | auto op => exact work.1

omit [DecidableEq ι] in
/-- The phase after a piece of work, and whether it has changed anything. -/
theorem next_of_work (request : AuditedHttpRequest) {op : RequestOp statements} (work : IsWork op)
    (session : Session RowKey DbWrite statements ApiError) (db : Database) :
    (op = .rollback ∧ ∀ reply, request.auditProtocol.next .working op reply = .failed) ∨
      (op.endsTransaction = false ∧ (∀ error, request.auditProtocol.next .working op (.error error) = .working) ∧
        (request.auditProtocol.next .working op (shop.perform session db op).reply = .changed ∨
          request.auditProtocol.next .working op (shop.perform session db op).reply = .working ∧
            published session db op = [])) := by
  cases op with
  | begin => exact .inr ⟨rfl, fun _ => rfl, .inr ⟨rfl, rfl⟩⟩
  | rollback => exact .inl ⟨rfl, fun _ => rfl⟩
  | commit => exact work.elim
  | query op => exact .inr ⟨rfl, fun _ => rfl, .inr ⟨rfl, rfl⟩⟩
  | auto op =>
    obtain ⟨spares, reads⟩ := work
    have fails (error : ApiError) : request.auditProtocol.next .working (.auto op) (.error error) = .working := by
      cases op with
      | audit => cases spares
      | _ => rfl
    have succeeds (reply : op.Reply) : request.auditProtocol.next .working (.auto op) (.ok reply) =
        if op.changesAccount = true then .changed else .working := by
      cases op with
      | audit => cases spares
      | _ => rfl
    refine .inr ⟨rfl, fails, ?_⟩
    cases executed : shop.execute op db with
    | ok result =>
      have isReply : (shop.perform session db (.auto op)).reply = .ok result.1 := by
        simp only [Engine.perform, executed]
      rw [isReply, succeeds, published_ok executed]
      split
      next => exact .inl rfl
      next noChange => exact .inr ⟨rfl, (reads.resolve_right noChange) db _ _ executed⟩
    | error error =>
      have isReply : (shop.perform session db (.auto op)).reply = .error error := by
        simp only [Engine.perform, executed]
      rw [isReply, fails, published_error executed]
      exact .inr ⟨rfl, rfl⟩

omit [DecidableEq ι] in
theorem TrailInvariant.unchanged (invariant : TrailInvariant start requests source)
    (notChanged : phases requests source i ≠ .changed) (notLogged : ∀ row, phases requests source i ≠ .logged row) :
    source.2.changed i = false := by
  cases changed : source.2.changed i with
  | false => rfl
  | true =>
    obtain ⟨isChanged, -⟩ | ⟨row, isLogged⟩ := invariant.changed i changed
    · exact absurd isChanged notChanged
    · exact absurd isLogged (notLogged row)

omit [DecidableEq ι] in
theorem TrailInvariant.kept_so_far (invariant : TrailInvariant start requests source)
    (alive : (source.1.thread i).alive = true) (notFailed : phases requests source i ≠ .failed) :
    source.2.lost i = false := by
  cases lost : source.2.lost i with
  | false => rfl
  | true =>
    obtain isFailed | ⟨isDead, -⟩ := invariant.lost i lost
    · exact absurd isFailed notFailed
    · rw [alive] at isDead
      cases isDead

omit [DecidableEq ι] in
/-- A request that is cut off without interruption has its row and nothing pending, or has changed nothing. -/
theorem TrailInvariant.uncut (invariant : TrailInvariant start requests source)
    (uninterrupted : (if (source.2.logged i).isEmpty = true then source.2.changed i
      else !(source.1.thread i).session.pending.isEmpty) = false) :
    (∃ row, phases requests source i = .logged row) ∧ (source.1.thread i).session.pending = [] ∨
      (∀ row, phases requests source i ≠ .logged row) ∧ source.2.changed i = false := by
  rw [invariant.logged] at uninterrupted
  cases inPhase : phases requests source i with
  | logged row =>
    rw [inPhase] at uninterrupted
    change (!(source.1.thread i).session.pending.isEmpty) = false at uninterrupted
    exact .inl ⟨⟨row, rfl⟩, List.isEmpty_iff.mp (by simpa only [Bool.not_eq_false'] using uninterrupted)⟩
  | working | changed | failed =>
    rw [inPhase] at uninterrupted
    exact .inr ⟨fun row => AuditPhase.noConfusion, uninterrupted⟩

theorem loses_nothing (before : TrailHistory ι) {pending : List DbWrite} (nothing : pending = []) :
    (before.loses i pending).lost i = before.lost i := by
  rw [nothing]
  exact (Function.update_self ..).trans (Bool.or_false _)

variable [Fintype ι]

theorem TrailInvariant.crashes (invariant : TrailInvariant start requests source)
    (stepped : shop.Steps source.1 (.crash i) target.1) (observed : target.2 = observe source.1 (.crash i) source.2)
    (uninterrupted : interrupts source.1 (.crash i) source.2 = false) : TrailInvariant start requests target := by
  have follows := Engine.follows_step invariant.follows stepped
  have kept := invariant.kept.step stepped
  have uncut := invariant.uncut uninterrupted
  obtain ⟨after, history⟩ := target
  subst observed
  cases Engine.phaseStep_of_follows invariant.follows stepped with
  | crash _ alive =>
    refine invariant.unlogged i (phases requests source i) follows kept (fun j differs => ?_) ?_ rfl (fun _ => Iff.rfl)
      rfl (fun _ _ => rfl) (fun j differs => Function.update_of_ne differs ..) (fun changed => ?_) fun lost => ?_
    · exact congrArg Thread.alive (Function.update_of_ne differs ..)
    · exact (Engine.phase_crash ..).trans (Function.update_eq_self ..).symm
    · obtain ⟨isLogged, -⟩ | ⟨-, unchanged⟩ := uncut
      · exact .inr isLogged
      · exact Bool.noConfusion (changed.symm.trans unchanged)
    · obtain ⟨⟨row, isLogged⟩, nothing⟩ | ⟨notLogged, -⟩ := uncut
      · have notLost := invariant.kept_so_far alive (isLogged ▸ AuditPhase.noConfusion)
        exact Bool.noConfusion (lost.symm.trans ((loses_nothing source.2 nothing).trans notLost))
      · exact .inr ⟨congrArg Thread.alive (Function.update_self i _ source.1.thread), notLogged⟩

theorem TrailInvariant.fails (invariant : TrailInvariant start requests source) {error : ApiError}
    (stepped : shop.Steps source.1 (.fail i error) target.1)
    (observed : target.2 = observe source.1 (.fail i error) source.2)
    (uninterrupted : interrupts source.1 (.fail i error) source.2 = false) : TrailInvariant start requests target := by
  have follows := Engine.follows_step invariant.follows stepped
  have kept := invariant.kept.step stepped
  have uncut := invariant.uncut uninterrupted
  obtain ⟨after, history⟩ := target
  subst observed
  cases Engine.phaseStep_of_follows invariant.follows stepped with
  | fail _ _ op resume alive calls allowed =>
    change (requests i).auditProtocol.allows (phases requests source i) op at allowed
    have others (j : ι) (differs : j ≠ i) : (Function.update source.1.thread i
        ⟨Engine.failed (source.1.thread i).session op error, resume (.error error), true⟩ j).alive =
          (source.1.thread j).alive := congrArg Thread.alive (Function.update_of_ne differs ..)
    have phased := Engine.phase_failed (P := fun i => (requests i).auditProtocol) source.1 i op error
      (resume (.error error))
    have history : observe source.1 (.fail i error) source.2 =
        if op.endsTransaction = true then source.2.loses i (source.1.thread i).session.pending else source.2 := by
      simp only [observe, calls]
    have unchanged (notLogged : ∀ row, phases requests source i ≠ .logged row) : source.2.changed i = false := by
      obtain ⟨⟨row, isLogged⟩, -⟩ | ⟨-, unchanged⟩ := uncut
      · exact absurd isLogged (notLogged row)
      · exact unchanged
    rw [history]
    obtain ⟨answer, rfl, before⟩ | ⟨before, work⟩ | ⟨row, before, rfl⟩ | ⟨before, rfl⟩ := allowed_cases allowed
    · -- the audit row is not inserted, and there is nothing that it would be about
      have notLogged (row : AuditLog) : phases requests source i ≠ .logged row := by
        obtain isWorking | isChanged := before
        · exact isWorking ▸ AuditPhase.noConfusion
        · exact isChanged ▸ AuditPhase.noConfusion
      refine invariant.unlogged i .failed follows kept others phased rfl
        (fun row => iff_of_false AuditPhase.noConfusion (notLogged row)) rfl (fun _ _ => rfl) (fun _ _ => rfl)
        (fun changed => ?_) fun _ => .inl rfl
      exact Bool.noConfusion (changed.symm.trans (unchanged notLogged))
    -- a statement of the service fails: before the transaction ends, or in ending it
    · have notLogged (row : AuditLog) : phases requests source i ≠ .logged row := before ▸ AuditPhase.noConfusion
      obtain ⟨rfl, gives⟩ | ⟨isOpen, stays, -⟩ :=
        next_of_work (requests i) work (source.1.thread i).session source.1.db
      · refine invariant.unlogged i .failed follows kept others ?_ rfl
          (fun row => iff_of_false AuditPhase.noConfusion (notLogged row)) rfl (fun _ _ => rfl)
          (fun j differs => Function.update_of_ne differs ..) (fun changed => ?_) fun _ => .inl rfl
        · exact phased
        · exact Bool.noConfusion (changed.symm.trans (unchanged notLogged))
      · rw [isOpen]
        refine invariant.unlogged i .working follows kept others ?_ rfl
          (fun row => iff_of_false AuditPhase.noConfusion (notLogged row)) rfl (fun _ _ => rfl) (fun _ _ => rfl)
          (fun changed => ?_) fun lost => ?_
        · rw [← stays error, ← before]
          exact phased
        · exact Bool.noConfusion (changed.symm.trans (unchanged notLogged))
        · refine Bool.noConfusion (lost.symm.trans (invariant.kept_so_far alive ?_))
          exact before ▸ AuditPhase.noConfusion
    · -- the `COMMIT` fails, but there was nothing to commit
      have nothing : (source.1.thread i).session.pending = [] := by
        obtain ⟨-, nothing⟩ | ⟨notLogged, -⟩ := uncut
        · exact nothing
        · exact absurd before (notLogged row)
      refine invariant.unlogged i (.logged row) follows kept others ?_ rfl (fun other => before ▸ Iff.rfl) rfl
        (fun _ _ => rfl) (fun j differs => Function.update_of_ne differs ..) (fun _ => .inr ⟨row, rfl⟩) fun lost => ?_
      · rw [← before]
        exact phased
      · have notLost := invariant.kept_so_far alive (before ▸ AuditPhase.noConfusion)
        exact Bool.noConfusion (lost.symm.trans ((loses_nothing source.2 nothing).trans notLost))
    -- the `ROLLBACK` of a failed call fails
    · have notLogged (row : AuditLog) : phases requests source i ≠ .logged row := before ▸ AuditPhase.noConfusion
      refine invariant.unlogged i .failed follows kept others phased rfl
        (fun row => iff_of_false AuditPhase.noConfusion (notLogged row)) rfl (fun _ _ => rfl)
        (fun j differs => Function.update_of_ne differs ..) (fun changed => ?_) fun _ => .inl rfl
      exact Bool.noConfusion (changed.symm.trans (unchanged notLogged))

theorem TrailInvariant.runs (invariant : TrailInvariant start requests source)
    (stepped : shop.Steps source.1 (.run i) target.1) (observed : target.2 = observe source.1 (.run i) source.2)
    (uninterrupted : interrupts source.1 (.run i) source.2 = false) : TrailInvariant start requests target := by
  have follows := Engine.follows_step invariant.follows stepped
  have kept := invariant.kept.step stepped
  obtain ⟨after, history⟩ := target
  subst observed
  cases Engine.phaseStep_of_follows invariant.follows stepped with
  | run _ op resume alive calls allowed free =>
    change (requests i).auditProtocol.allows (phases requests source i) op at allowed
    let session := (source.1.thread i).session
    have others (j : ι) (differs : j ≠ i) : (Function.update source.1.thread i
        ⟨(shop.perform session source.1.db op).session, resume (shop.perform session source.1.db op).reply,
          true⟩ j).alive = (source.1.thread j).alive := congrArg Thread.alive (Function.update_of_ne differs ..)
    have phased := Engine.phase_perform (E := shop) (P := fun i => (requests i).auditProtocol) source.1 i op
      (resume (shop.perform session source.1.db op).reply)
    have history : observe source.1 (.run i) source.2 = source.2.ran i session source.1.db op := by
      simp only [observe, calls]
      rfl
    have trail (spares : SparesAudit op) :
        (shop.perform session source.1.db op).db.auditLogs = source.1.db.auditLogs := by
      rw [perform_published]
      exact auditLogs_applyAll (published_spares (invariant.kept.quiet i) source.1.db spares)
    rw [history]
    obtain ⟨answer, rfl, before⟩ | ⟨before, work⟩ | ⟨row, before, rfl⟩ | ⟨before, rfl⟩ := allowed_cases allowed
    · have notLogged (row : AuditLog) : phases requests source i ≠ .logged row := by
        obtain isWorking | isChanged := before
        · exact isWorking ▸ AuditPhase.noConfusion
        · exact isChanged ▸ AuditPhase.noConfusion
      have noRows : source.2.logged i = [] := by
        rw [invariant.logged]
        obtain isWorking | isChanged := before
        · rw [isWorking]; rfl
        · rw [isChanged]; rfl
      rw [ran_of_open _ _ _ rfl]
      cases executed : shop.execute (.audit (.insert ((requests i).entry answer))) source.1.db with
      | ok result =>
        obtain ⟨absent, isWrites⟩ := AuditStatement.execute_insert executed
        have isReply : (shop.perform session source.1.db (.auto (.audit (.insert ((requests i).entry answer))))).reply =
            .ok result.1 := by simp only [Engine.perform, executed]
        refine invariant.inserted follows kept (fun j => ?_) before alive ?_ absent ?_ ?_
        · by_cases same : j = i
          · rw [same, alive]
            exact congrArg Thread.alive (Function.update_self i _ source.1.thread)
          · exact others j same
        · refine phased.trans (congrArg (Function.update (phases requests source) i) ?_)
          rw [isReply]
          rfl
        · have after := perform_published session source.1.db (.auto (.audit (.insert ((requests i).entry answer))))
          rw [published_ok executed, isWrites] at after
          exact congrArg Database.auditLogs after
        · rw [published_ok executed, isWrites]
          refine TrailHistory.ext ?_ (congrArg (Function.update source.2.logged i) ?_) rfl
          · exact (congrArg (Function.update source.2.changed i) (Bool.or_false _)).trans (Function.update_eq_self ..)
          · rw [noRows]
            rfl
      | error error =>
        -- the audit row is not inserted, and there is nothing that it would be about
        have isReply : (shop.perform session source.1.db (.auto (.audit (.insert ((requests i).entry answer))))).reply =
            .error error := by simp only [Engine.perform, executed]
        have isCut : cutOff source.1 (.run i) = some i := by
          simp only [cutOff, calls]
          rw [isReply]
        have notChanged : source.2.changed i = false := by
          simp only [interrupts, isCut, noRows] at uninterrupted
          exact uninterrupted
        have notLost : source.2.lost i = false := by
          refine invariant.kept_so_far alive ?_
          obtain isWorking | isChanged := before
          · exact isWorking ▸ AuditPhase.noConfusion
          · exact isChanged ▸ AuditPhase.noConfusion
        rw [published_error executed]
        refine invariant.unlogged i .failed follows kept others ?_ ?_
          (fun row => iff_of_false AuditPhase.noConfusion (notLogged row)) ?_
          (fun j differs => Function.update_of_ne differs ..) (fun _ _ => rfl) (fun changed => ?_) fun _ => .inl rfl
        · refine phased.trans (congrArg (Function.update (phases requests source) i) ?_)
          rw [isReply]
          rfl
        · have after := perform_published session source.1.db (.auto (.audit (.insert ((requests i).entry answer))))
          rw [published_error executed] at after
          exact congrArg Database.auditLogs after
        · exact commits_of_spares source.2 (List.forall_mem_nil _)
        · have same : (source.2.changed i || false) = true := (Function.update_self ..).symm.trans changed
          rw [notChanged] at same
          cases same
    · have notLogged (row : AuditLog) : phases requests source i ≠ .logged row := before ▸ AuditPhase.noConfusion
      have spares := spares_of_work work
      obtain ⟨rfl, gives⟩ | ⟨isOpen, -, moves⟩ := next_of_work (requests i) work session source.1.db
      · refine invariant.unlogged i .failed follows kept others phased rfl
          (fun row => iff_of_false AuditPhase.noConfusion (notLogged row)) rfl (fun _ _ => rfl)
          (fun j differs => Function.update_of_ne differs ..) (fun changed => ?_) fun _ => .inl rfl
        exact Bool.noConfusion (changed.symm.trans (invariant.unchanged (before ▸ AuditPhase.noConfusion) notLogged))
      · have unlogged := commits_of_spares (i := i) source.2
          (published_spares (invariant.kept.quiet i) source.1.db spares)
        have notLost := invariant.kept_so_far alive (before ▸ AuditPhase.noConfusion)
        have notChanged := invariant.unchanged (before ▸ AuditPhase.noConfusion) notLogged
        rw [← before] at moves
        rw [ran_of_open _ _ _ isOpen]
        obtain changes | ⟨stays, nothing⟩ := moves
        · refine invariant.unlogged i .changed follows kept others ?_ (trail spares)
            (fun row => iff_of_false AuditPhase.noConfusion (notLogged row)) unlogged
            (fun j differs => Function.update_of_ne differs ..) (fun _ _ => rfl) (fun _ => .inl ⟨rfl, ?_⟩)
            fun lost => ?_
          · exact changes ▸ phased
          · exact congrArg Thread.alive (Function.update_self i _ source.1.thread)
          · exact Bool.noConfusion (lost.symm.trans notLost)
        · refine invariant.unlogged i .working follows kept others ?_ (trail spares)
            (fun row => iff_of_false AuditPhase.noConfusion (notLogged row)) unlogged
            (fun j differs => Function.update_of_ne differs ..) (fun _ _ => rfl) (fun changed => ?_) fun lost => ?_
          · rw [← before, ← stays]
            exact phased
          · rw [nothing] at changed
            have same : (source.2.changed i || false) = true := (Function.update_self ..).symm.trans changed
            rw [notChanged] at same
            cases same
          · exact Bool.noConfusion (lost.symm.trans notLost)
    · have isCommit : source.2.ran i session source.1.db .commit = source.2.commits i session.pending := rfl
      rw [isCommit]
      refine invariant.unlogged i (.logged row) follows kept others ?_ (trail trivial) (fun other => before ▸ Iff.rfl)
        (commits_of_spares source.2 (invariant.kept.quiet i)) (fun j differs => Function.update_of_ne differs ..)
        (fun _ _ => rfl) (fun _ => .inr ⟨row, rfl⟩) fun lost => ?_
      · rw [← before]
        exact phased
      · have notLost := invariant.kept_so_far alive (before ▸ AuditPhase.noConfusion)
        exact Bool.noConfusion (lost.symm.trans notLost)
    · have notLogged (row : AuditLog) : phases requests source i ≠ .logged row := before ▸ AuditPhase.noConfusion
      refine invariant.unlogged i .failed follows kept others phased rfl
        (fun row => iff_of_false AuditPhase.noConfusion (notLogged row)) rfl (fun _ _ => rfl)
        (fun j differs => Function.update_of_ne differs ..) (fun changed => ?_) fun _ => .inl rfl
      exact Bool.noConfusion (changed.symm.trans (invariant.unchanged (before ▸ AuditPhase.noConfusion) notLogged))

theorem TrailInvariant.step {act : Act ι ApiError} (invariant : TrailInvariant start requests source)
    (stepped : shop.Steps source.1 act target.1) (observed : target.2 = observe source.1 act source.2)
    (uninterrupted : interrupts source.1 act source.2 = false) : TrailInvariant start requests target := by
  cases act with
  | run i => exact invariant.runs stepped observed uninterrupted
  | fail i error => exact invariant.fails stepped observed uninterrupted
  | crash i => exact invariant.crashes stepped observed uninterrupted

open Transition in
/-- In every run in which no request is cut off between its change and its audit row, the trail matches what
    happened. -/
theorem trailMatches_of_uninterrupted (crypto : Crypto) {run : List (Act ι ApiError × AuditedSystem ι)}
    (isRun : Run shop.Steps (system crypto start requests) run)
    (uninterrupted : EachStep (fun source act _ => interrupts source.1 act source.2 = false)
      (system crypto start requests, .none) (withHistory observe (system crypto start requests) .none run)) :
    EachState (TrailMatches start requests) (system crypto start requests, .none)
      (withHistory observe (system crypto start requests) .none run) := by
  have atStart : TrailInvariant start requests (system crypto start requests, .none) :=
    { follows := Engine.follows_start fun i => obeys_auditProtocol crypto (requests i)
      kept := trailKept_start crypto start
      logged := fun _ => rfl
      entered := fun i row isLogged => AuditPhase.noConfusion isLogged
      changed := fun i changed => Bool.noConfusion changed
      lost := fun i lost => Bool.noConfusion lost
      sound := fun row present => .inl present
      apart := fun i j row isLogged => AuditPhase.noConfusion isLogged }
  exact (eachState_of_invariant (fun source act target invariant stepped => invariant.step stepped.1 stepped.2)
    atStart (run_withHistory observe _ isRun) uninterrupted).imp fun _ invariant => invariant.trailMatches

end Runs

end AuditedHttpRequest

/-! ## A store is suspended, and the audit row is refused -/

namespace SmallShop

/-- The store is suspended, and then the insert of the audit row fails. -/
def suspendUnrecorded : List (Act Unit ApiError) :=
  [.run (), .run (), .run (), .fail () (.queryFailed "ECONNREFUSED")]

end SmallShop

namespace AuditedHttpRequest

theorem trailMatches_suspend :
    Transition.EachState (TrailMatches SmallShop.freeStore fun _ : Unit => SmallShop.suspend (Uuid.text 1))
      (system SmallShop.crypto SmallShop.freeStore fun _ : Unit => SmallShop.suspend (Uuid.text 1), .none)
      (Transition.withHistory observe
        (system SmallShop.crypto SmallShop.freeStore fun _ : Unit => SmallShop.suspend (Uuid.text 1)) .none
        ((shop.trace (system SmallShop.crypto SmallShop.freeStore fun _ : Unit => SmallShop.suspend (Uuid.text 1))
          SmallShop.suspendAlone).get SmallShop.runs_suspendAlone)) :=
  trailMatches_of_uninterrupted SmallShop.crypto (shop.run_get_trace _) (by decide +kernel)

/-- The store is suspended, and the trail does not say so. -/
theorem not_trailMatches :
    ¬ ∀ (crypto : Crypto) (start : Database) (requests : Unit → AuditedHttpRequest)
      (run : List (Act Unit ApiError × AuditedSystem Unit)),
      Transition.Run shop.Steps (system crypto start requests) run →
      TrailMatches start requests (Transition.final (system crypto start requests, .none)
        (Transition.withHistory observe (system crypto start requests) .none run)) := by
  intro trailMatches
  have enabled : (shop.trace (system SmallShop.crypto SmallShop.freeStore fun _ : Unit =>
      SmallShop.suspend (Uuid.text 1)) SmallShop.suspendUnrecorded).isSome = true := by decide +kernel
  have holds := trailMatches SmallShop.crypto SmallShop.freeStore (fun _ => SmallShop.suspend (Uuid.text 1)) _
    (shop.run_get_trace enabled)
  have ended : ¬ IsRunning (Transition.final (system SmallShop.crypto SmallShop.freeStore fun _ : Unit =>
      SmallShop.suspend (Uuid.text 1)) ((shop.trace _ SmallShop.suspendUnrecorded).get enabled)) () := by
    rintro ⟨-, op, resume, calls⟩
    cases calls
  obtain ⟨answer, logged, -⟩ := holds.recorded () ended rfl
  cases logged

end AuditedHttpRequest

end StoreSaas
