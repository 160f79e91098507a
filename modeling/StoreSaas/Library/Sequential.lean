import StoreSaas.Library.ReadCommitted

/-! # Requests that run alone

`Engine.alone` is the meaning of a request with the database to itself.  For a
request that is one transaction it is `transact`: run the body against the database
and keep the result, or keep nothing if the body throws (`alone_withTransaction`).

`Ensures` is the sequential program logic: what holds of the value and the state
whenever a program does not throw.
-/

namespace StoreSaas

namespace Engine

variable {Db Key Write : Type} {Val : Key → Type} {S : Signature} {ε α β : Type}
variable (E : Engine Db Key Write Val S ε)

/-- One statement on a database that nobody else uses. -/
def executeOn (op : S.Op) (db : Db) : Except ε (S.Reply op) × Db :=
  match E.execute op db with
  | .ok (reply, writes) => (.ok reply, E.applyAll db writes)
  | .error error => (.error error, db)

theorem executeOn_eq_ok {E : Engine Db Key Write Val S ε} {op : S.Op} {db after : Db} {reply : S.Reply op}
    (ran : E.executeOn op db = (.ok reply, after)) :
    ∃ writes, E.execute op db = .ok (reply, writes) ∧ after = E.applyAll db writes := by
  unfold executeOn at ran
  cases executed : E.execute op db with
  | ok result =>
    rw [executed] at ran
    cases ran
    exact ⟨result.2, rfl, rfl⟩
  | error error =>
    rw [executed] at ran
    cases ran

theorem executeOn_eq_error {E : Engine Db Key Write Val S ε} {op : S.Op} {db after : Db} {error : ε}
    (ran : E.executeOn op db = (.error error, after)) : after = db := by
  unfold executeOn at ran
  split at ran
  next => cases ran
  next => cases ran; rfl

/-- A transaction's body run alone: an error leaves no trace. -/
def transact (body : Program S ε α) (db : Db) : Except ε α × Db :=
  match body.runWith E.executeOn db with
  | (.ok value, after) => (.ok value, after)
  | (.error error, _) => (.error error, db)

/-- One operation of a request, with the session it belongs to. -/
def performOn (op : RequestOp S) (state : Session Key Write S ε × Db) :
    Except ε op.Reply × Session Key Write S ε × Db :=
  let outcome := E.perform state.1 state.2 op
  (outcome.reply, outcome.session, outcome.db)

def alone (request : Request S ε α) (db : Db) : Except ε α × Db :=
  let ended := request.runWith (S := requestSignature S) E.performOn (Session.empty, db)
  (ended.1, ended.2.2)

theorem transact_eq_ok {E : Engine Db Key Write Val S ε} {body : Program S ε α} {db after : Db} {value : α}
    (ran : E.transact body db = (.ok value, after)) : body.runWith E.executeOn db = (.ok value, after) := by
  unfold transact at ran
  split at ran
  next ended => rw [ended]; exact ran
  next => cases ran

theorem transact_eq_error {E : Engine Db Key Write Val S ε} {body : Program S ε α} {db after : Db} {error : ε}
    (ran : E.transact body db = (.error error, after)) : after = db := by
  unfold transact at ran
  split at ran
  next => cases ran
  next => cases ran; rfl

/-- The body of a transaction sees its own view and leaves the database as it was. -/
theorem runWith_inTransaction (body : Program S ε α) (session : Session Key Write S ε) (db : Db) :
    ∃ after : Session Key Write S ε,
      body.inTransaction.runWith (S := requestSignature S) E.performOn (session, db) =
        ((body.runWith E.executeOn (E.view db session)).1, after, db) ∧
      E.view db after = (body.runWith E.executeOn (E.view db session)).2 := by
  induction body generalizing session with
  | done value => exact ⟨session, rfl, rfl⟩
  | throw error => exact ⟨session, rfl, rfl⟩
  | call op resume ih =>
    simp only [Program.inTransaction, Program.runWith_call, performOn, perform, executeOn]
    cases executed : E.execute op (E.view db session) with
    | error error => exact ih (.error error) _
    | ok result =>
      have viewed : E.view db
          { session with
            held := E.locksOf op (E.view db session) result.2 ++ session.held
            pending := session.pending ++ result.2
            log := ⟨.query op, .ok result.1⟩ :: session.log } =
          E.applyAll (E.view db session) result.2 := E.applyAll_append db session.pending result.2
      obtain ⟨after, ran, views⟩ := ih (.ok result.1) _
      rw [viewed] at ran views
      exact ⟨after, ran, views⟩

/-- Statements that commit by themselves see the database, and leave the session's transaction as it is. -/
theorem runWith_autocommit (program : Program S ε α) (session : Session Key Write S ε) (db : Db) :
    ∃ after : Session Key Write S ε, after.pending = session.pending ∧
      program.autocommit.runWith (S := requestSignature S) E.performOn (session, db) =
        ((program.runWith E.executeOn db).1, after, (program.runWith E.executeOn db).2) := by
  induction program generalizing session db with
  | done value => exact ⟨session, rfl, rfl⟩
  | throw error => exact ⟨session, rfl, rfl⟩
  | call op resume ih =>
    simp only [Program.autocommit, Program.runWith_call, performOn, perform, executeOn]
    cases executed : E.execute op db with
    | error error => exact ih (.error error) { session with log := ⟨.auto op, .error error⟩ :: session.log } db
    | ok result => exact ih (.ok result.1) { session with log := ⟨.auto op, .ok result.1⟩ :: session.log } _

/-! ### Requests in pieces -/

/-- From a session with nothing pending the request does what `meaning` says, and leaves nothing pending. -/
def RunsAs (request : Request S ε α) (meaning : Db → Except ε α × Db) : Prop :=
  ∀ (session : Session Key Write S ε) (db : Db), session.pending = [] →
    ∃ after : Session Key Write S ε, after.pending = [] ∧
      request.runWith (S := requestSignature S) E.performOn (session, db) = ((meaning db).1, after, (meaning db).2)

/-- What follows a value; an error ends it. -/
def andThen (next : α → Db → Except ε β × Db) : Except ε α × Db → Except ε β × Db
  | (.ok value, db) => next value db
  | (.error error, db) => (.error error, db)

variable {E}

theorem runsAs_throw (error : ε) : E.RunsAs (.throw error : Request S ε α) fun db => (.error error, db) :=
  fun session _ nothing => ⟨session, nothing, rfl⟩

theorem runsAs_autocommit (program : Program S ε α) : E.RunsAs program.autocommit (program.runWith E.executeOn) := by
  intro session db nothing
  obtain ⟨after, same, ran⟩ := E.runWith_autocommit program session db
  exact ⟨after, same.trans nothing, ran⟩

theorem runsAs_withTransaction (body : Program S ε α) :
    E.RunsAs (Program.withTransaction body.inTransaction) (E.transact body) := by
  intro session db nothing
  let begun : Session Key Write S ε := { session with log := ⟨.begin, .ok ()⟩ :: session.log }
  obtain ⟨after, ran, views⟩ := E.runWith_inTransaction body begun db
  have opened : E.view db begun = db := by
    rw [view, show begun.pending = [] from nothing, applyAll_nil]
  rw [opened] at ran views
  have starts : (Program.withTransaction body.inTransaction).runWith (S := requestSignature S) E.performOn (session, db) =
      (body.inTransaction.handle Program.endTransaction).runWith (S := requestSignature S) E.performOn (begun, db) := rfl
  rw [starts, Program.runWith_handle, ran]
  let ends : Request S ε α := Program.endTransaction (body.runWith E.executeOn db).1
  change ∃ later : Session Key Write S ε, later.pending = [] ∧
    ends.runWith (S := requestSignature S) E.performOn (after, db) = _
  simp only [ends, transact]
  cases ended : body.runWith E.executeOn db with
  | mk result final =>
    rw [ended] at views
    cases result with
    | ok value => exact ⟨_, rfl, congrArg (fun db => (Except.ok value, _, db)) views⟩
    | error error => exact ⟨_, rfl, rfl⟩

theorem RunsAs.bind {request : Request S ε α} {meaning : Db → Except ε α × Db} {next : α → Request S ε β}
    {nexts : α → Db → Except ε β × Db} (runs : E.RunsAs request meaning)
    (continues : ∀ value, E.RunsAs (next value) (nexts value)) :
    E.RunsAs (request >>= next) fun db => andThen nexts (meaning db) := by
  intro session db nothing
  obtain ⟨after, still, ran⟩ := runs session db nothing
  rw [Program.runWith_bind, ran]
  dsimp only
  generalize meaning db = meant
  obtain ⟨result, final⟩ := meant
  cases result with
  | ok value => exact continues value after final still
  | error error => exact ⟨after, still, rfl⟩

theorem RunsAs.alone {request : Request S ε α} {meaning : Db → Except ε α × Db} (runs : E.RunsAs request meaning)
    (db : Db) : E.alone request db = meaning db := by
  obtain ⟨after, -, ran⟩ := runs Session.empty db rfl
  rw [Engine.alone, ran]

variable (E)

theorem alone_withTransaction (body : Program S ε α) (db : Db) :
    E.alone (Program.withTransaction body.inTransaction) db = E.transact body db :=
  (runsAs_withTransaction body).alone db

theorem alone_autocommit (program : Program S ε α) (db : Db) :
    E.alone program.autocommit db = program.runWith E.executeOn db :=
  (runsAs_autocommit program).alone db

end Engine

/-! ## Sequential program logic -/

namespace Program

variable {S : Signature} {ε α β State : Type}
variable (execute : (op : S.Op) → State → Except ε (S.Reply op) × State)

/-- If the program does not throw, `post` holds of its value and of the state it leaves. -/
def Ensures (program : Program S ε α) (state : State) (post : α → State → Prop) : Prop :=
  ∀ value final, program.runWith execute state = (.ok value, final) → post value final

variable {execute} {state : State}

theorem ensures_done {value : α} {post : α → State → Prop} (holds : post value state) :
    Ensures execute (.done value) state post := by
  rintro other final ran
  cases ran
  exact holds

theorem ensures_throw {error : ε} {post : α → State → Prop} :
    Ensures execute (.throw error) state post := by
  rintro other final ran
  cases ran

theorem Ensures.bind {program : Program S ε α} {next : α → Program S ε β} {middle : α → State → Prop}
    {post : β → State → Prop} (first : Ensures execute program state middle)
    (continues : ∀ value after, middle value after → Ensures execute (next value) after post) :
    Ensures execute (program >>= next) state post := by
  intro value final ran
  rw [runWith_bind] at ran
  cases ended : program.runWith execute state with
  | mk result after =>
    rw [ended] at ran
    cases result with
    | ok intermediate => exact continues intermediate after (first _ _ ended) value final ran
    | error error => cases ran

theorem Ensures.imp {program : Program S ε α} {weak strong : α → State → Prop}
    (holds : Ensures execute program state strong)
    (implies : ∀ value final, strong value final → weak value final) :
    Ensures execute program state weak :=
  fun value final ran => implies value final (holds value final ran)

theorem ensures_perform {op : S.Op} {post : S.Reply op → State → Prop}
    (holds : ∀ reply after, execute op state = (.ok reply, after) → post reply after) :
    Ensures execute (perform op) state post := by
  intro value final ran
  rw [perform, runWith_call] at ran
  cases ended : execute op state with
  | mk result after =>
    rw [ended] at ran
    cases result with
    | ok reply => cases ran; exact holds _ _ ended
    | error error => cases ran

/-- A statement: its failure is thrown, so only its reply goes on. -/
theorem ensures_perform_bind {op : S.Op} {next : S.Reply op → Program S ε β} {post : β → State → Prop}
    (continues : ∀ reply after, execute op state = (.ok reply, after) →
      Ensures execute (next reply) after post) :
    Ensures execute (perform op >>= next) state post := by
  rw [perform_bind]
  intro value final ran
  rw [runWith_call] at ran
  cases ended : execute op state with
  | mk result after =>
    rw [ended] at ran
    cases result with
    | ok reply => exact continues reply after ended value final ran
    | error error => cases ran

theorem ensures_ite {condition : Prop} [Decidable condition] {program other : Program S ε α} {post : α → State → Prop}
    (holds : Ensures execute program state post) (fails : Ensures execute other state post) :
    Ensures execute (if condition then program else other) state post := by
  split
  next => exact holds
  next => exact fails

variable (execute) in
/-- However the program ends, `post` holds of its result and of the state it leaves. -/
def Ends (program : Program S ε α) (state : State) (post : Except ε α → State → Prop) : Prop :=
  post (program.runWith execute state).1 (program.runWith execute state).2

theorem Ends.bind {program : Program S ε α} {next : α → Program S ε β} {middle : Except ε α → State → Prop}
    {post : Except ε β → State → Prop} (first : Ends execute program state middle)
    (fails : ∀ error after, middle (.error error) after → post (.error error) after)
    (continues : ∀ value after, middle (.ok value) after → Ends execute (next value) after post) :
    Ends execute (program >>= next) state post := by
  unfold Ends at first ⊢
  rw [runWith_bind]
  cases ended : program.runWith execute state with
  | mk result after =>
    rw [ended] at first
    cases result with
    | ok value => exact continues value after first
    | error error => exact fails error after first

theorem ends_perform {op : S.Op} {post : Except ε (S.Reply op) → State → Prop}
    (holds : ∀ result after, execute op state = (result, after) → post result after) :
    Ends execute (perform op) state post := by
  unfold Ends
  rw [runWith_perform]
  exact holds _ _ rfl

theorem ends_perform_bind {op : S.Op} {next : S.Reply op → Program S ε β} {post : Except ε β → State → Prop}
    (fails : ∀ error after, execute op state = (.error error, after) → post (.error error) after)
    (continues : ∀ reply after, execute op state = (.ok reply, after) → Ends execute (next reply) after post) :
    Ends execute (perform op >>= next) state post :=
  (ends_perform fun _ _ executed => executed).bind fails continues

end Program

end StoreSaas
