import StoreSaas.Library.Sequential

/-! # Requests that run alone while some operations fail

`outages` says which operations fail, and with what error.  A failing operation does
nothing, except that a failing `COMMIT` ends its transaction.  `aloneDuring` is the
meaning of a request then; it is put together from `executeDuring`, the meaning of the
statements that commit by themselves, and `transactDuring`, that of a transaction.
-/

namespace StoreSaas

namespace Engine

variable {Db Key Write : Type} {Val : Key → Type} {S : Signature} {ε α β : Type}
variable (E : Engine Db Key Write Val S ε)

def executeDuring (outages : S.Op → Option ε) (op : S.Op) (db : Db) : Except ε (S.Reply op) × Db :=
  match outages op with
  | some error => (.error error, db)
  | none => E.executeOn op db

def performDuring (outages : RequestOp S → Option ε) (op : RequestOp S) (state : Session Key Write S ε × Db) :
    Except ε op.Reply × Session Key Write S ε × Db :=
  match outages op with
  | some error => (.error error, failed state.1 op error, state.2)
  | none => E.performOn op state

def aloneDuring (outages : RequestOp S → Option ε) (request : Request S ε α) (db : Db) : Except ε α × Db :=
  let ended := request.runWith (S := requestSignature S) (E.performDuring outages) (Session.empty, db)
  (ended.1, ended.2.2)

/-- A transaction: it keeps nothing if it cannot begin, if its body throws, or if it cannot commit. -/
def transactDuring (outages : RequestOp S → Option ε) (body : Program S ε α) (db : Db) : Except ε α × Db :=
  match outages .begin with
  | some error => (.error error, db)
  | none =>
    match body.runWith (E.executeDuring fun op => outages (.query op)) db with
    | (.error error, _) => (.error error, db)
    | (.ok value, after) =>
      match outages .commit with
      | some error => (.error error, db)
      | none => (.ok value, after)

theorem executeDuring_of_none {outages : S.Op → Option ε} {op : S.Op} (works : outages op = none) (db : Db) :
    E.executeDuring outages op db = E.executeOn op db := by
  rw [executeDuring, works]

theorem executeDuring_of_some {outages : S.Op → Option ε} {op : S.Op} {error : ε} (fails : outages op = some error)
    (db : Db) : E.executeDuring outages op db = (.error error, db) := by
  rw [executeDuring, fails]

theorem runWith_statement_ok {outages : S.Op → Option ε} {op : S.Op} {next : S.Reply op → Program S ε β} {db after : Db}
    {reply : S.Reply op} (works : outages op = none) (ran : E.executeOn op db = (.ok reply, after)) :
    (Program.perform op >>= next).runWith (E.executeDuring outages) db =
      (next reply).runWith (E.executeDuring outages) after :=
  Program.runWith_perform_ok _ ((executeDuring_of_none E works db).trans ran)

theorem runWith_statement_error {outages : S.Op → Option ε} {op : S.Op} {next : S.Reply op → Program S ε β} {error : ε}
    (fails : outages op = some error) (db : Db) :
    (Program.perform op >>= next).runWith (E.executeDuring outages) db = (.error error, db) := by
  rw [Program.runWith_perform_bind, executeDuring_of_some E fails]
  rfl

theorem performDuring_of_none {outages : RequestOp S → Option ε} {op : RequestOp S} (works : outages op = none)
    (state : Session Key Write S ε × Db) : E.performDuring outages op state = E.performOn op state := by
  rw [performDuring, works]

theorem performDuring_of_some {outages : RequestOp S → Option ε} {op : RequestOp S} {error : ε}
    (fails : outages op = some error) (state : Session Key Write S ε × Db) :
    E.performDuring outages op state = (.error error, failed state.1 op error, state.2) := by
  rw [performDuring, fails]

theorem transactDuring_of_ok {outages : RequestOp S → Option ε} {body : Program S ε α} {db after : Db} {value : α}
    (begins : outages .begin = none) (commits : outages .commit = none)
    (ran : body.runWith (E.executeDuring fun op => outages (.query op)) db = (.ok value, after)) :
    E.transactDuring outages body db = (.ok value, after) := by
  rw [transactDuring, begins, ran]
  dsimp only
  rw [commits]

theorem transactDuring_eq_ok {E : Engine Db Key Write Val S ε} {outages : RequestOp S → Option ε}
    {body : Program S ε α} {db after : Db} {value : α} (ran : E.transactDuring outages body db = (.ok value, after)) :
    outages .begin = none ∧ outages .commit = none ∧
      body.runWith (E.executeDuring fun op => outages (.query op)) db = (.ok value, after) := by
  unfold transactDuring at ran
  split at ran
  next => cases ran
  next begins =>
    split at ran
    next => cases ran
    next ended =>
      split at ran
      next => cases ran
      next commits => exact ⟨begins, commits, ended.trans ran⟩

theorem transactDuring_eq_error {E : Engine Db Key Write Val S ε} {outages : RequestOp S → Option ε}
    {body : Program S ε α} {db after : Db} {error : ε} (ran : E.transactDuring outages body db = (.error error, after)) :
    after = db := by
  unfold transactDuring at ran
  split at ran
  next => cases ran; rfl
  next =>
    split at ran
    next => cases ran; rfl
    next =>
      split at ran
      next => cases ran; rfl
      next => cases ran

/-- The body of a transaction sees its own view and leaves the database as it was. -/
theorem runWith_inTransaction_during (outages : RequestOp S → Option ε) (body : Program S ε α)
    (session : Session Key Write S ε) (db : Db) :
    ∃ after : Session Key Write S ε,
      body.inTransaction.runWith (S := requestSignature S) (E.performDuring outages) (session, db) =
        ((body.runWith (E.executeDuring fun op => outages (.query op)) (E.view db session)).1, after, db) ∧
      E.view db after = (body.runWith (E.executeDuring fun op => outages (.query op)) (E.view db session)).2 := by
  induction body generalizing session with
  | done value => exact ⟨session, rfl, rfl⟩
  | throw error => exact ⟨session, rfl, rfl⟩
  | call op resume ih =>
    simp only [Program.inTransaction, Program.runWith_call]
    cases fails : outages (.query op) with
    | some error =>
      rw [performDuring_of_some E fails, executeDuring_of_some E fails]
      exact ih (.error error) (failed session (.query op) error)
    | none =>
      rw [performDuring_of_none E fails, executeDuring_of_none E fails]
      simp only [performOn, perform, executeOn]
      cases executed : E.execute op (E.view db session) with
      | error error => exact ih (.error error) _
      | ok result =>
        have viewed : E.view db
            { session with
              held := E.locksOf op (E.view db session) result.2 ++ session.held
              pending := session.pending ++ result.2
              log := ⟨.query op, .ok result.1⟩ :: session.log } =
            E.applyAll (E.view db session) result.2 := E.applyAll_append db session.pending result.2
        obtain ⟨after, ran, views⟩ := ih (.ok result.1) _
        rw [viewed] at ran views
        exact ⟨after, ran, views⟩

theorem runWith_autocommit_during (outages : RequestOp S → Option ε) (program : Program S ε α)
    (session : Session Key Write S ε) (db : Db) :
    ∃ after : Session Key Write S ε, after.pending = session.pending ∧
      program.autocommit.runWith (S := requestSignature S) (E.performDuring outages) (session, db) =
        ((program.runWith (E.executeDuring fun op => outages (.auto op)) db).1, after,
          (program.runWith (E.executeDuring fun op => outages (.auto op)) db).2) := by
  induction program generalizing session db with
  | done value => exact ⟨session, rfl, rfl⟩
  | throw error => exact ⟨session, rfl, rfl⟩
  | call op resume ih =>
    simp only [Program.autocommit, Program.runWith_call]
    cases fails : outages (.auto op) with
    | some error =>
      rw [performDuring_of_some E fails, executeDuring_of_some E fails]
      exact ih (.error error) (failed session (.auto op) error) db
    | none =>
      rw [performDuring_of_none E fails, executeDuring_of_none E fails]
      simp only [performOn, perform, executeOn]
      cases executed : E.execute op db with
      | error error => exact ih (.error error) { session with log := ⟨.auto op, .error error⟩ :: session.log } db
      | ok result => exact ih (.ok result.1) { session with log := ⟨.auto op, .ok result.1⟩ :: session.log } _

/-! ### Requests in pieces -/

/-- From a session with nothing pending the request ends with `result` and `after`, and leaves nothing pending. -/
def EndsDuring (outages : RequestOp S → Option ε) (request : Request S ε α) (db : Db) (result : Except ε α)
    (after : Db) : Prop :=
  ∀ session : Session Key Write S ε, session.pending = [] →
    ∃ later : Session Key Write S ε, later.pending = [] ∧
      request.runWith (S := requestSignature S) (E.performDuring outages) (session, db) = (result, later, after)

variable {E} {outages : RequestOp S → Option ε} {db after : Db}

theorem endsDuring_done (value : α) : E.EndsDuring outages (.done value) db (.ok value) db :=
  fun session nothing => ⟨session, nothing, rfl⟩

theorem endsDuring_throw (error : ε) :
    E.EndsDuring outages (.throw error : Request S ε α) db (.error error) db :=
  fun session nothing => ⟨session, nothing, rfl⟩

theorem endsDuring_autocommit {program : Program S ε α} {result : Except ε α}
    (ran : program.runWith (E.executeDuring fun op => outages (.auto op)) db = (result, after)) :
    E.EndsDuring outages program.autocommit db result after := by
  intro session nothing
  obtain ⟨later, same, autocommits⟩ := E.runWith_autocommit_during outages program session db
  rw [ran] at autocommits
  exact ⟨later, same.trans nothing, autocommits⟩

theorem endsDuring_statement_error {op : S.Op} {error : ε} (fails : outages (.auto op) = some error) :
    E.EndsDuring outages (Program.perform op).autocommit db (.error error) db :=
  endsDuring_autocommit <| (Program.runWith_perform _ _ _).trans (executeDuring_of_some E fails db)

theorem endsDuring_statement_ok {op : S.Op} {reply : S.Reply op} (works : outages (.auto op) = none)
    (ran : E.executeOn op db = (.ok reply, after)) :
    E.EndsDuring outages (Program.perform op).autocommit db (.ok reply) after :=
  endsDuring_autocommit <| (Program.runWith_perform _ _ _).trans ((executeDuring_of_none E works db).trans ran)

theorem endsDuring_withTransaction {body : Program S ε α} {result : Except ε α}
    (ran : E.transactDuring outages body db = (result, after)) :
    E.EndsDuring outages (Program.withTransaction body.inTransaction) db result after := by
  intro session nothing
  unfold Program.withTransaction
  rw [Program.runWith_call]
  unfold transactDuring at ran
  cases begins : outages .begin with
  | some error =>
    rw [begins] at ran
    cases ran
    rw [performDuring_of_some E begins]
    exact ⟨failed session .begin error, nothing, rfl⟩
  | none =>
    rw [begins] at ran
    rw [performDuring_of_none E begins]
    let begun : Session Key Write S ε := { session with log := ⟨.begin, .ok ()⟩ :: session.log }
    obtain ⟨inBody, inside, views⟩ := E.runWith_inTransaction_during outages body begun db
    have opened : E.view db begun = db := by
      rw [view, show begun.pending = [] from nothing, applyAll_nil]
    rw [opened] at inside views
    change ∃ later : Session Key Write S ε, later.pending = [] ∧
      (body.inTransaction.handle Program.endTransaction).runWith (S := requestSignature S) (E.performDuring outages)
        (begun, db) = _
    rw [Program.runWith_handle, inside]
    cases ended : body.runWith (E.executeDuring fun op => outages (.query op)) db with
    | mk bodyResult final =>
      rw [ended] at views ran
      cases bodyResult with
      | error error =>
        cases ran
        -- a `ROLLBACK` that fails ends the transaction as well
        cases rolls : outages .rollback with
        | some second =>
          exact ⟨failed inBody .rollback second, rfl, by simp [Program.endTransaction, performDuring_of_some E rolls]⟩
        | none =>
          refine ⟨{ inBody.closed with log := ⟨.rollback, .ok ()⟩ :: inBody.log }, rfl, ?_⟩
          simp only [Program.endTransaction, Program.runWith_call, performDuring_of_none E rolls]
          rfl
      | ok value =>
        dsimp only at ran
        cases commits : outages .commit with
        | some error =>
          rw [commits] at ran
          cases ran
          exact ⟨failed inBody .commit error, rfl, by simp [Program.endTransaction, performDuring_of_some E commits]⟩
        | none =>
          rw [commits] at ran
          cases ran
          refine ⟨{ inBody.closed with log := ⟨.commit, .ok ()⟩ :: inBody.log }, rfl, ?_⟩
          simp only [Program.endTransaction, Program.runWith_call, performDuring_of_none E commits]
          exact congrArg (fun db => (Except.ok value, _, db)) views

theorem EndsDuring.bind {request : Request S ε α} {next : α → Request S ε β} {value : α} {middle : Db}
    {result : Except ε β} (first : E.EndsDuring outages request db (.ok value) middle)
    (continues : E.EndsDuring outages (next value) middle result after) :
    E.EndsDuring outages (request >>= next) db result after := by
  intro session nothing
  obtain ⟨between, still, ran⟩ := first session nothing
  rw [Program.runWith_bind, ran]
  exact continues between still

theorem EndsDuring.bind_error {request : Request S ε α} {next : α → Request S ε β} {error : ε}
    (first : E.EndsDuring outages request db (.error error) after) :
    E.EndsDuring outages (request >>= next) db (.error error) after := by
  intro session nothing
  obtain ⟨between, still, ran⟩ := first session nothing
  rw [Program.runWith_bind, ran]
  exact ⟨between, still, rfl⟩

theorem EndsDuring.aloneDuring {request : Request S ε α} {result : Except ε α}
    (ends : E.EndsDuring outages request db result after) : E.aloneDuring outages request db = (result, after) := by
  obtain ⟨later, -, ran⟩ := ends Session.empty rfl
  rw [Engine.aloneDuring, ran]

end Engine

end StoreSaas
