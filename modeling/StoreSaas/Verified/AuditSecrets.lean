import StoreSaas.Library.RelyGuarantee
import StoreSaas.Library.Sequential
import StoreSaas.Services.AuditedRoutes
import StoreSaas.Verified.AuthMethods
import StoreSaas.Verified.ListPages
import StoreSaas.Verified.References
import StoreSaas.Verified.ServiceStatements
import StoreSaas.Verified.WrittenTables

/-! # Passwords in the audit trail

Two requests to an audited route that differ in nothing but the passwords of their bodies,
each with the database to itself.  The interceptor copies the body into its row, so the
rows differ as soon as both requests are accepted and the passwords are not the same.
-/

namespace StoreSaas

/-! ## Bodies -/

namespace Json

def isPassword (field : String × Json) : Bool := field.1 = "password"

def blankPassword (field : String × Json) : String × Json := if isPassword field then (field.1, .null) else field

/-- The body with the values of its password fields blanked. -/
def withoutPassword : Json → Json
  | .object fields => .object (fields.map blankPassword)
  | json => json

/-- The values of the password fields. -/
def passwords : Json → List Json
  | .object fields => (fields.filter isPassword).map Prod.snd
  | _ => []

theorem isPassword_of_blank {left right : String × Json} (alike : blankPassword left = blankPassword right) :
    isPassword left = isPassword right := by
  have names : left.1 = right.1 := by
    have names := congrArg Prod.fst alike
    simp only [blankPassword, apply_ite Prod.fst, ite_self] at names
    exact names
  rw [isPassword, isPassword, names]

theorem fields_eq_of_passwords {left right : List (String × Json)}
    (alike : left.map blankPassword = right.map blankPassword)
    (same : (left.filter isPassword).map Prod.snd = (right.filter isPassword).map Prod.snd) : left = right := by
  induction left generalizing right with
  | nil => exact (List.map_eq_nil_iff.mp alike.symm).symm
  | cons field rest ih =>
    cases right with
    | nil => cases alike
    | cons other others =>
      obtain ⟨heads, tails⟩ := List.cons.inj alike
      have both := isPassword_of_blank heads
      rw [List.filter_cons, List.filter_cons, both] at same
      rw [blankPassword, blankPassword, both] at heads
      cases isPass : isPassword other with
      | true =>
        rw [isPass] at same heads
        obtain ⟨sameValue, sameRest⟩ := List.cons.inj same
        obtain ⟨sameName, -⟩ := Prod.mk.inj heads
        have sameField : field = other := Prod.ext sameName sameValue
        rw [ih tails sameRest, sameField]
      | false =>
        rw [isPass] at same heads
        rw [ih tails same, show field = other from heads]

/-- Bodies that differ in their passwords at most are the same if the passwords are. -/
theorem eq_of_passwords {left right : Json} (alike : left.withoutPassword = right.withoutPassword)
    (same : left.passwords = right.passwords) : left = right := by
  cases left with
  | object fields =>
    cases right with
    | object others => exact congrArg Json.object (fields_eq_of_passwords (Json.object.inj alike) same)
    | _ => cases alike
  | _ =>
    cases right with
    | object others => cases alike
    | _ => exact alike

theorem orNull_inj {left right : Option Json} (alike : left.map withoutPassword = right.map withoutPassword)
    (same : orNull left = orNull right) : left = right := by
  cases left with
  | none =>
    cases right with
    | none => rfl
    | some _ => cases alike
  | some left =>
    cases right with
    | none => cases alike
    | some right =>
      have alike := Option.some.inj alike
      cases left with
      | null => cases right <;> first | rfl | cases alike
      | _ => cases right <;> first | exact same | cases alike

end Json

/-! ## Requests -/

def AuditedCall.withoutPassword : AuditedCall → AuditedCall
  | .inviteStaff storeId dto => .inviteStaff storeId { dto with password := [] }
  | .updateStaff storeId staffId dto => .updateStaff storeId staffId { dto with password := .undefined }
  | call => call

namespace AuditedHttpRequest

/-- The requests differ in the passwords of their bodies at most, and in what the pipe makes of them;
    it may reject one and accept the other. -/
structure EqualButPassword (left right : AuditedHttpRequest) : Prop where
  env : left.env = right.env
  salt : left.salt = right.salt
  user : left.user = right.user
  action : left.action = right.action
  paramId : left.paramId = right.paramId
  body : left.body.map Json.withoutPassword = right.body.map Json.withoutPassword
  call : ∀ accepted also, left.call = .ok accepted → right.call = .ok also →
    accepted.withoutPassword = also.withoutPassword

variable (crypto : Crypto) (request : AuditedHttpRequest)

/-- What the handler comes to, down to the `id` in its answer. -/
def outcome (db : Database) : Except ApiError (Option Uuid) :=
  match request.call with
  | .ok call => ((call.body crypto request.salt request.env).runWith shop.executeOn db).1
  | .error error => .error error

/-- Neither the pipe nor the service rejects the request. -/
def accepted (db : Database) : Bool := (request.outcome crypto db).isOk

/-- The audit trail after the request. -/
def auditLogs (db : Database) : Table AuditLog.id := (shop.alone (request.program crypto) db).2.auditLogs

/-- `GET /audit-logs` after the request. -/
def auditPage (db : Database) (rank : Uuid → Nat) (storeId : Uuid) (page limit : Option Nat) :
    Except ApiError (Paginated AuditLog) :=
  ((AuditLogService.findForStore rank storeId page limit).runWith shop.executeOn
    (shop.alone (request.program crypto) db).2).1

/-- The row of the request, if its handler answers with this `id`. -/
def entry (answerId : Option Uuid) : AuditLog :=
  AuditInterceptor.entry request.env request.audited request.action request.user (answerId.map Uuid.text)

end AuditedHttpRequest

/-! ## What a request adds to the trail -/

/-- The operation writes no audit row. -/
def SparesAudit : RequestOp statements → Prop
  | .query op | .auto op => Statement.writesTo op .auditLogs = false
  | .begin | .commit | .rollback => True

theorem auditLogs_applyAll {db : Database} {writes : List DbWrite}
    (spared : ∀ write ∈ writes, write.key.table ≠ .auditLogs) : (shop.applyAll db writes).auditLogs = db.auditLogs := by
  induction writes generalizing db with
  | nil => rfl
  | cons write rest ih =>
    rw [Engine.applyAll_cons, ih fun other inRest => spared other (List.mem_cons_of_mem _ inRest)]
    have elsewhere := spared write List.mem_cons_self
    cases write with
    | auditLog change => exact absurd rfl elsewhere
    | _ => rfl

theorem table_ne_of_spares {op : Statement} {db : Database} {reply : op.Reply} {writes : List DbWrite}
    (spares : op.writesTo .auditLogs = false) (executed : op.execute db = .ok (reply, writes)) :
    ∀ write ∈ writes, write.key.table ≠ .auditLogs := by
  intro write made isAudit
  have table := Statement.execute_table executed write made
  rw [isAudit, spares] at table
  cases table

/-- The trail is as given, and the open transaction is not going to change it. -/
def TrailIs (trail : Table AuditLog.id) (state : Session RowKey DbWrite statements ApiError × Database) : Prop :=
  state.2.auditLogs = trail ∧ ∀ write ∈ state.1.pending, write.key.table ≠ .auditLogs

theorem trailIs_performOn {trail : Table AuditLog.id} (op : RequestOp statements)
    (state : Session RowKey DbWrite statements ApiError × Database) (spares : SparesAudit op)
    (now : TrailIs trail state) : TrailIs trail (shop.performOn op state).2 := by
  obtain ⟨session, db⟩ := state
  obtain ⟨isTrail, quiet⟩ := now
  cases op with
  | begin => exact ⟨isTrail, quiet⟩
  | rollback => exact ⟨isTrail, fun _ made => nomatch made⟩
  | commit => exact ⟨(auditLogs_applyAll quiet).trans isTrail, fun _ made => nomatch made⟩
  | query op =>
    refine ⟨(congrArg Database.auditLogs (Engine.perform_query_db session db op)).trans isTrail, fun write made => ?_⟩
    simp only [Engine.performOn, Engine.perform] at made
    split at made
    next reply writes executed =>
      rcases List.mem_append.mp made with earlier | now
      · exact quiet write earlier
      · exact table_ne_of_spares spares executed write now
    next => exact quiet write made
  | auto op =>
    simp only [Engine.performOn, Engine.perform]
    split
    next reply writes executed => exact ⟨(auditLogs_applyAll (table_ne_of_spares spares executed)).trans isTrail, quiet⟩
    next => exact ⟨isTrail, quiet⟩

theorem trailIs_runWith {α : Type} {trail : Table AuditLog.id} {handler : Handler α} (only : handler.Only SparesAudit)
    {state : Session RowKey DbWrite statements ApiError × Database} (now : TrailIs trail state) :
    TrailIs trail (handler.runWith (S := requestSignature statements) shop.performOn state).2 :=
  Program.runWith_of_only shop.performOn only trailIs_performOn now

/-! ### The services write no audit rows -/

theorem spares_of_isRead {op : Statement} (reads : op.isRead = true) : op.writesTo .auditLogs = false := by
  cases op with
  | audit statement => cases reads
  | product statement => cases statement <;> rfl
  | category statement => cases statement <;> rfl
  | order statement => cases statement <;> rfl
  | outbox statement => cases statement <;> rfl
  | setCurrentStore | enqueueMail | user | billing | idempotency | store => rfl

theorem spares_findProduct (storeId : Uuid) (id : RouteId) :
    (ProductsService.findOne storeId id).Only fun op : Statement => op.writesTo .auditLogs = false :=
  (only_findOneProduct storeId id).imp fun _ reads => spares_of_isRead reads

theorem spares_requireCategory (storeId : Uuid) (categoryId : Field Uuid) :
    (ProductsService.requireCategory storeId categoryId).Only fun op : Statement => op.writesTo .auditLogs = false :=
  (only_requireCategory storeId categoryId).imp fun _ reads => spares_of_isRead reads

theorem spares_findStaff (storeId : Uuid) (staffId : RouteId) :
    (StoresService.findStaffOrThrow storeId staffId).Only fun op : Statement => op.writesTo .auditLogs = false := by
  refine Program.only_perform_bind (by rfl) fun staff => ?_
  cases staff <;> trivial

theorem spares_saveStore (entity : StoreEntity) :
    (StoresService.saveStore entity).Only fun op : Statement => op.writesTo .auditLogs = false := by
  refine Program.only_perform_bind (by rfl) fun found => ?_
  cases found with
  | none => exact Program.only_perform_bind (by rfl) fun _ => trivial
  | some row =>
    dsimp only
    split
    next => trivial
    next => exact Program.only_perform_bind (by rfl) fun _ => trivial

theorem spares_saveStaff (entity : UserEntity) :
    (StoresService.save entity).Only fun op : Statement => op.writesTo .auditLogs = false := by
  refine Program.only_perform_bind (by rfl) fun found => ?_
  cases found with
  | none => exact Program.only_perform_bind (by rfl) fun _ => trivial
  | some row =>
    dsimp only
    split
    next => trivial
    next => exact Program.only_perform_bind (by rfl) fun _ => trivial

theorem spares_inviteStaff (crypto : Crypto) (salt : Bytes) (env : Environment) (storeId : Uuid) (dto : InviteStaffDto) :
    (StoresService.inviteStaff crypto salt env storeId dto).Only fun op : Statement => op.writesTo .auditLogs = false := by
  refine Program.only_perform_bind (by rfl) fun existing => ?_
  cases existing with
  | some _ => trivial
  | none =>
    refine Program.only_perform_bind (by rfl) fun _ => Program.only_perform_bind (by rfl) fun _ => ?_
    dsimp only
    split
    next => trivial
    next => exact Program.only_perform_bind (by rfl) fun _ => trivial

theorem AuditedCall.only_body (crypto : Crypto) (salt : Bytes) (env : Environment) (call : AuditedCall) :
    (call.body crypto salt env).Only fun op : Statement => op.writesTo .auditLogs = false := by
  cases call with
  | createProduct storeId dto =>
    have creates : (ProductsService.create env storeId dto).Only fun op : Statement => op.writesTo .auditLogs = false :=
      (spares_requireCategory storeId dto.categoryId).bind fun _ => Program.only_perform_bind (by rfl) fun _ => trivial
    exact creates.bind fun _ => trivial
  | updateProduct storeId id body =>
    have saves (entity : ProductEntity) :
        (ProductsService.save env entity).Only fun op : Statement => op.writesTo .auditLogs = false :=
      (only_saveProduct_saves env entity).imp fun op saves => by cases saves <;> rfl
    exact ((spares_findProduct storeId id).bind fun _ =>
      (spares_requireCategory storeId _).bind fun _ => saves _).bind fun _ => trivial
  | removeProduct storeId id =>
    have removes : (ProductsService.remove storeId id).Only fun op : Statement => op.writesTo .auditLogs = false :=
      (spares_findProduct storeId id).bind fun _ => Program.only_perform (by rfl)
    exact removes.bind fun _ => trivial
  | updateMine storeId dto =>
    have finds : (StoresService.findMine storeId).Only fun op : Statement => op.writesTo .auditLogs = false := by
      refine Program.only_perform_bind (by rfl) fun store => ?_
      cases store <;> trivial
    exact (finds.bind fun _ => spares_saveStore _).bind fun _ => trivial
  | inviteStaff storeId dto => exact (spares_inviteStaff crypto salt env storeId dto).bind fun _ => trivial
  | updateStaff storeId staffId dto =>
    exact ((spares_findStaff storeId staffId).bind fun _ => spares_saveStaff _).bind fun _ => trivial
  | removeStaff storeId staffId =>
    have removes : (StoresService.removeStaff storeId staffId).Only fun op : Statement => op.writesTo .auditLogs = false :=
      (spares_findStaff storeId staffId).bind fun _ => Program.only_perform (by rfl)
    exact removes.bind fun _ => trivial
  | setSuspended id suspended =>
    refine (Program.only_perform_bind (by rfl) fun store => ?_).bind fun _ => trivial
    cases store with
    | none => trivial
    | some store => exact spares_saveStore _

/-! ### The trail after a request -/

namespace AuditedHttpRequest

variable {crypto : Crypto} {request : AuditedHttpRequest} {db : Database}

theorem only_handler : (request.handler crypto).Only SparesAudit := by
  unfold handler
  cases request.call with
  | error error => trivial
  | ok call =>
    dsimp only
    unfold AuditedCall.handler
    split
    next => exact (call.only_body crypto request.salt request.env).inTransaction fun _ spares => spares
    next => exact (call.only_body crypto request.salt request.env).autocommit fun _ spares => spares

/-- The handler, in a transaction that has written nothing or in none. -/
theorem runWith_handler (session : Session RowKey DbWrite statements ApiError) (nothing : session.pending = []) :
    ((request.handler crypto).runWith (S := requestSignature statements) shop.performOn (session, db)).1 =
      request.outcome crypto db := by
  unfold handler outcome
  cases request.call with
  | error error => rfl
  | ok call =>
    dsimp only
    unfold AuditedCall.handler
    split
    next =>
      obtain ⟨after, ran, -⟩ := shop.runWith_inTransaction (call.body crypto request.salt request.env) session db
      rw [ran, Engine.view, nothing]
      rfl
    next =>
      obtain ⟨after, -, ran⟩ := shop.runWith_autocommit (call.body crypto request.salt request.env) session db
      rw [ran]

/-- The trail with the row of an accepted request. -/
def trail (request : AuditedHttpRequest) (before : Table AuditLog.id) : Except ApiError (Option Uuid) → Table AuditLog.id
  | .ok answerId => before.put (request.entry answerId)
  | .error _ => before

theorem performOn_insert {session : Session RowKey DbWrite statements ApiError} {row : AuditLog}
    (absent : db.auditLogs.find row.id = none) :
    shop.performOn (.auto (.audit (.insert row))) (session, db) =
      (.ok (), { session with log := ⟨.auto (.audit (.insert row)), .ok ()⟩ :: session.log },
        { db with auditLogs := db.auditLogs.put row }) := by
  have executed : shop.execute (.audit (.insert row)) db = .ok ((), [.auditLog (.put row)]) := by
    simp only [shop, Statement.execute, AuditStatement.execute, absent, Option.isSome_none, Bool.false_eq_true,
      if_false]
    rfl
  simp only [Engine.performOn, Engine.perform, executed]
  rfl

/-- The interceptor's row comes after the handler, and only if the handler answers. -/
theorem trailIs_intercept {session : Session RowKey DbWrite statements ApiError} (nothing : session.pending = [])
    (fresh : db.auditLogs.find (request.env.newId 0) = none) :
    TrailIs (request.trail db.auditLogs (request.outcome crypto db))
      ((AuditInterceptor.intercept request.env request.audited (Option.map Uuid.text) (request.handler crypto)).runWith
        (S := requestSignature statements) shop.performOn (session, db)).2 := by
  change TrailIs _ ((request.handler crypto >>= fun body =>
    (Tx.audit (.insert (request.entry body))).autocommit >>= fun _ => return body).runWith
      (S := requestSignature statements) shop.performOn (session, db)).2
  have quiet : TrailIs db.auditLogs (session, db) := ⟨rfl, fun _ made => by rw [nothing] at made; cases made⟩
  have only : (request.handler crypto).Only SparesAudit := request.only_handler
  have handled := trailIs_runWith only quiet
  have answered :
      ((request.handler crypto).runWith (S := requestSignature statements) shop.performOn (session, db)).1 =
        request.outcome crypto db :=
    runWith_handler session nothing
  rw [Program.runWith_bind]
  generalize (request.handler crypto).runWith (S := requestSignature statements) shop.performOn (session, db) = ran
    at handled answered
  obtain ⟨result, after, later⟩ := ran
  obtain ⟨isTrail, spares⟩ := handled
  rw [← answered]
  cases result with
  | error error => exact ⟨isTrail, spares⟩
  | ok answerId =>
    have absent : later.auditLogs.find (request.entry answerId).id = none := by
      rw [isTrail]
      exact fresh
    change TrailIs _ ((Program.call (RequestOp.auto (Statement.audit (.insert (request.entry answerId)))) _).runWith
      (S := requestSignature statements) shop.performOn (after, later)).2
    rw [Program.runWith_call, performOn_insert absent]
    exact ⟨congrArg (Table.put · (request.entry answerId)) isTrail, spares⟩

/-- The interceptor that opens the transaction lets the others run in a session that has written nothing. -/
theorem runWith_opened {α : Type} (storeId : Uuid) (next : Handler α) (db : Database) :
    ∃ session : Session RowKey DbWrite statements ApiError, session.pending = [] ∧
      (RlsContextInterceptor.intercept (some storeId) next).runWith (S := requestSignature statements) shop.performOn
          (Session.empty, db) =
        (next.handle Program.endTransaction).runWith (S := requestSignature statements) shop.performOn (session, db) :=
  ⟨_, rfl, rfl⟩

theorem only_endTransaction {α : Type} (result : Except ApiError α) :
    (Program.endTransaction result : Handler α).Only SparesAudit := by
  cases result with
  | ok value => exact ⟨trivial, fun reply => by cases reply <;> trivial⟩
  | error error => exact ⟨trivial, fun _ => trivial⟩

/-- A request that is accepted adds its row, another one nothing. -/
theorem auditLogs_eq (fresh : db.auditLogs.find (request.env.newId 0) = none) :
    request.auditLogs crypto db = request.trail db.auditLogs (request.outcome crypto db) := by
  unfold auditLogs Engine.alone program
  cases request.user.storeId with
  | none => exact (trailIs_intercept rfl fresh).1
  | some storeId =>
    obtain ⟨session, nothing, ran⟩ := runWith_opened storeId
      (AuditInterceptor.intercept request.env request.audited (Option.map Uuid.text) (request.handler crypto)) db
    simp only [ran, Program.runWith_handle]
    exact (trailIs_runWith (only_endTransaction _) (trailIs_intercept nothing fresh)).1

/-! ### Two requests -/

variable {left right : AuditedHttpRequest}

theorem auditPage_eq (same : left.auditLogs crypto db = right.auditLogs crypto db) (rank : Uuid → Nat) (storeId : Uuid)
    (page limit : Option Nat) :
    left.auditPage crypto db rank storeId page limit = right.auditPage crypto db rank storeId page limit := by
  have logs : (shop.alone (left.program crypto) db).2.auditLogs = (shop.alone (right.program crypto) db).2.auditLogs := same
  rw [auditPage, auditPage, runWith_findForStore, runWith_findForStore, logs]

theorem ensures_invited (crypto : Crypto) (salt : Bytes) (env : Environment) (storeId : Uuid) (dto : InviteStaffDto)
    (db : Database) :
    Program.Ensures shop.executeOn ((AuditedCall.inviteStaff storeId dto).body crypto salt env) db
      fun answerId _ => answerId = some (env.newId 0) := by
  have invites : Program.Ensures shop.executeOn (StoresService.inviteStaff crypto salt env storeId dto) db
      fun staff _ => staff.id = env.newId 0 := by
    refine Program.ensures_perform_bind fun existing _ _ => ?_
    cases existing with
    | some _ => exact Program.ensures_throw
    | none =>
      refine Program.ensures_perform_bind fun _ _ _ => Program.ensures_perform_bind fun _ _ _ => ?_
      dsimp only
      split
      next => exact Program.ensures_throw
      next => exact Program.ensures_perform_bind fun _ _ _ => Program.ensures_done rfl
  exact invites.bind fun staff _ isNew => Program.ensures_done (congrArg some isNew)

theorem ensures_updated (crypto : Crypto) (salt : Bytes) (env : Environment) (storeId : Uuid) (staffId : RouteId)
    (dto : UpdateStaffDto) (db : Database) :
    Program.Ensures shop.executeOn ((AuditedCall.updateStaff storeId staffId dto).body crypto salt env) db
      fun answerId _ => answerId = staffId := by
  have finds : Program.Ensures shop.executeOn (StoresService.findStaffOrThrow storeId staffId) db
      fun staff _ => some staff.id = staffId := by
    refine Program.ensures_perform_bind fun staff after executed => ?_
    cases staffId with
    | none => cases executed
    | some id =>
      cases executed
      cases isFound : db.findStaff id storeId with
      | none => exact Program.ensures_throw
      | some row =>
        have isId : row.id = id := Table.key_of_find (Option.filter_eq_some_iff.mp isFound).1
        exact Program.ensures_done (congrArg some isId)
  have saves (entity : UserEntity) (db : Database) : Program.Ensures shop.executeOn (StoresService.save entity) db
      fun saved _ => saved.id = entity.id := by
    refine Program.ensures_perform_bind fun found after _ => ?_
    cases found with
    | none => exact Program.ensures_perform_bind fun _ _ _ => Program.ensures_done rfl
    | some row =>
      dsimp only
      split
      next => exact Program.ensures_done rfl
      next => exact Program.ensures_perform_bind fun _ _ _ => Program.ensures_done rfl
  have updates : Program.Ensures shop.executeOn (StoresService.updateStaff crypto salt storeId staffId dto) db
      fun saved _ => some saved.id = staffId :=
    finds.bind fun staff after isStaff => (saves _ after).imp fun _ _ sameId => (congrArg some sameId).trans isStaff
  exact updates.bind fun _ _ isStaff => Program.ensures_done isStaff

/-- Two requests that are both accepted answer with the same `id`. -/
theorem answer_eq (alike : EqualButPassword left right) {answer other : Option Uuid}
    (isLeft : left.outcome crypto db = .ok answer) (isRight : right.outcome crypto db = .ok other) : answer = other := by
  unfold outcome at isLeft isRight
  cases leftCall : left.call with
  | error error => rw [leftCall] at isLeft; cases isLeft
  | ok call =>
    cases rightCall : right.call with
    | error error => rw [rightCall] at isRight; cases isRight
    | ok also =>
      rw [leftCall, alike.env, alike.salt] at isLeft
      rw [rightCall] at isRight
      have calls := alike.call call also leftCall rightCall
      have same : call = also → answer = other := by
        rintro rfl
        exact Except.ok.inj (isLeft.symm.trans isRight)
      cases call with
      | inviteStaff storeId dto =>
        cases also with
        | inviteStaff inStore dto' =>
          rw [ensures_invited crypto _ _ storeId dto db _ _ (Prod.ext isLeft rfl),
            ensures_invited crypto _ _ inStore dto' db _ _ (Prod.ext isRight rfl)]
        | _ => cases calls
      | updateStaff storeId staffId dto =>
        cases also with
        | updateStaff inStore otherId dto' =>
          rw [ensures_updated crypto _ _ storeId staffId dto db _ _ (Prod.ext isLeft rfl),
            ensures_updated crypto _ _ inStore otherId dto' db _ _ (Prod.ext isRight rfl)]
          exact (AuditedCall.updateStaff.inj calls).2.1
        | _ => cases calls
      | _ => cases also <;> first | exact same calls | cases calls

/-- Rows of one answer are the same if the passwords of the bodies are. -/
theorem entry_eq_iff (alike : EqualButPassword left right) (answerId : Option Uuid) :
    left.entry answerId = right.entry answerId ↔ left.body.map Json.passwords = right.body.map Json.passwords := by
  constructor
  · intro same
    rw [Json.orNull_inj alike.body (congrArg AuditLog.metadata same)]
  · intro same
    have sameBody : left.body = right.body := by
      have bodies := alike.body
      cases isLeft : left.body with
      | none => cases isRight : right.body with
        | none => rfl
        | some other => rw [isLeft, isRight] at same; cases same
      | some body => cases isRight : right.body with
        | none => rw [isLeft, isRight] at same; cases same
        | some other =>
          rw [isLeft, isRight] at same bodies
          exact congrArg some (Json.eq_of_passwords (Option.some.inj bodies) (Option.some.inj same))
    unfold entry AuditInterceptor.entry audited
    dsimp only
    rw [alike.env, alike.user, alike.action, alike.paramId, sameBody]

theorem trail_ok_eq_iff (sameEnv : left.env = right.env) (before : Table AuditLog.id) (answerId : Option Uuid) :
    left.trail before (.ok answerId) = right.trail before (.ok answerId) ↔
      left.entry answerId = right.entry answerId := by
  refine ⟨fun same => ?_, fun same => congrArg before.put same⟩
  have sameId : AuditLog.id (left.entry answerId) = AuditLog.id (right.entry answerId) := congrArg (·.newId 0) sameEnv
  have stored := Table.find_put_same before (left.entry answerId)
  rw [show before.put (left.entry answerId) = before.put (right.entry answerId) from same, sameId,
    Table.find_put_same] at stored
  exact (Option.some.inj stored).symm

/-- The trail, and every page of it, tells two passwords apart exactly when it has rows of two bodies
    with different passwords, or of one of the requests alone. -/
theorem trailWithoutPasswords_iff (alike : EqualButPassword left right)
    (fresh : db.auditLogs.find (left.env.newId 0) = none) :
    (left.auditLogs crypto db = right.auditLogs crypto db ∧ ∀ rank storeId page limit,
        left.auditPage crypto db rank storeId page limit = right.auditPage crypto db rank storeId page limit) ↔
      left.accepted crypto db = right.accepted crypto db ∧
        (left.accepted crypto db = true → left.body.map Json.passwords = right.body.map Json.passwords) := by
  have alsoFresh : db.auditLogs.find (right.env.newId 0) = none := alike.env ▸ fresh
  have pages : (left.auditLogs crypto db = right.auditLogs crypto db ∧ ∀ rank storeId page limit,
      left.auditPage crypto db rank storeId page limit = right.auditPage crypto db rank storeId page limit) ↔
      left.auditLogs crypto db = right.auditLogs crypto db :=
    and_iff_left_of_imp fun same rank storeId page limit => auditPage_eq same rank storeId page limit
  rw [pages, auditLogs_eq fresh, auditLogs_eq alsoFresh]
  unfold accepted
  have added {request : AuditedHttpRequest} (absent : db.auditLogs.find (request.env.newId 0) = none)
      (answerId : Option Uuid) : request.trail db.auditLogs (.ok answerId) ≠ db.auditLogs := by
    intro same
    have found := Table.find_put_same db.auditLogs (request.entry answerId)
    rw [show db.auditLogs.put (request.entry answerId) = db.auditLogs from same] at found
    cases absent.symm.trans found
  cases isLeft : left.outcome crypto db with
  | error error =>
    cases isRight : right.outcome crypto db with
    | error other => exact ⟨fun _ => ⟨rfl, fun accepted => nomatch accepted⟩, fun _ => rfl⟩
    | ok other => exact ⟨fun same => absurd same.symm (added alsoFresh other), fun both => nomatch both.1⟩
  | ok answer =>
    cases isRight : right.outcome crypto db with
    | error other => exact ⟨fun same => absurd same (added fresh answer), fun both => nomatch both.1⟩
    | ok other =>
      obtain rfl := answer_eq alike isLeft isRight
      rw [trail_ok_eq_iff alike.env, entry_eq_iff alike]
      exact ⟨fun same => ⟨rfl, fun _ => same⟩, fun both => both.2 rfl⟩

end AuditedHttpRequest

/-! ## An invitation with two passwords -/

namespace SmallShop

/-- The body names the password that is set. -/
def inviteWith (password : String) : AuditedHttpRequest where
  env := ⟨1, fun _ => 20, fun _ => 0⟩
  salt := []
  user := ⟨9, "owner@corner.example", .storeOwner, some 1⟩
  action := "STAFF_INVITED"
  paramId := none
  body := some (.object [("email", .string "ann@corner.example"), ("password", .string password)])
  call := .ok (.inviteStaff 1 ⟨"ann@corner.example", utf8 password⟩)

theorem equalButPassword (left right : String) : (inviteWith left).EqualButPassword (inviteWith right) where
  env := rfl
  salt := rfl
  user := rfl
  action := rfl
  paramId := rfl
  body := rfl
  call _ _ isLeft isRight := by
    cases isLeft
    cases isRight
    rfl

end SmallShop

namespace AuditedHttpRequest

theorem trailWithoutPasswords_inviteWith :
    ((SmallShop.inviteWith "first-secret").auditLogs SmallShop.crypto SmallShop.freeStore =
          (SmallShop.inviteWith "other-secret").auditLogs SmallShop.crypto SmallShop.freeStore ∧
        ∀ rank storeId page limit,
          (SmallShop.inviteWith "first-secret").auditPage SmallShop.crypto SmallShop.freeStore rank storeId page limit =
            (SmallShop.inviteWith "other-secret").auditPage SmallShop.crypto SmallShop.freeStore rank storeId page limit) ↔
      (SmallShop.inviteWith "first-secret").accepted SmallShop.crypto SmallShop.freeStore =
          (SmallShop.inviteWith "other-secret").accepted SmallShop.crypto SmallShop.freeStore ∧
        ((SmallShop.inviteWith "first-secret").accepted SmallShop.crypto SmallShop.freeStore = true →
          (SmallShop.inviteWith "first-secret").body.map Json.passwords =
            (SmallShop.inviteWith "other-secret").body.map Json.passwords) :=
  trailWithoutPasswords_iff (SmallShop.equalButPassword "first-secret" "other-secret") rfl

/-- The plaintext of the password is in the row. -/
theorem not_trailWithoutPasswords :
    ¬ ∀ (crypto : Crypto) (left right : AuditedHttpRequest) (db : Database), left.EqualButPassword right →
      left.auditLogs crypto db = right.auditLogs crypto db := by
  intro withoutPasswords
  have same := withoutPasswords SmallShop.crypto _ _ SmallShop.freeStore
    (SmallShop.equalButPassword "first-secret" "other-secret")
  have invited (password : String) :
      (SmallShop.inviteWith password).outcome SmallShop.crypto SmallShop.freeStore = .ok (some 20) := rfl
  rw [auditLogs_eq rfl, auditLogs_eq rfl, invited, invited,
    trail_ok_eq_iff (SmallShop.equalButPassword _ _).env, entry_eq_iff (SmallShop.equalButPassword _ _)] at same
  obtain ⟨values, -⟩ := List.cons.inj (Option.some.inj same)
  exact absurd (Json.string.inj values) (by decide)

end AuditedHttpRequest

end StoreSaas
