import StoreSaas.Library.PendingWrites
import StoreSaas.Library.Sequential
import StoreSaas.Library.Transactions

/-! # Transactions that commit as if they ran alone

A statement of a transaction is repeatable if the locks that are held once it replied keep
its reply and its writes as they are, whatever others publish.  A body of such statements
can be replayed on the committed database at any time and comes to the same point; so its
commit publishes what the body does when it runs alone at that moment (`Underway.commits`).
A reply upon which the body throws need not be repeatable: that transaction is rolled back.
-/

namespace StoreSaas

/-- An operation of a transaction: nothing is autocommitted, and its statements are allowed. -/
def RequestOp.Transacts {S : Signature} (allowed : S.Op → Prop) : RequestOp S → Prop
  | .query op => allowed op
  | .begin | .commit | .rollback => True
  | .auto _ => False

namespace Program

variable {S : Signature} {ε α : Type}

theorem Only.withTransaction {allowed : S.Op → Prop} {body : Program S ε α} (only : body.Only allowed) :
    (withTransaction body.inTransaction).Only (S := requestSignature S) (RequestOp.Transacts allowed) := by
  have statements : body.inTransaction.Only (S := requestSignature S) (RequestOp.Transacts allowed) :=
    only.inTransaction fun _ isAllowed => isAllowed
  have ends (result : Except ε α) :
      (endTransaction result).Only (S := requestSignature S) (RequestOp.Transacts allowed) := by
    cases result with
    | ok value => exact ⟨trivial, fun reply => by cases reply <;> trivial⟩
    | error error => exact ⟨trivial, fun _ => trivial⟩
  refine ⟨trivial, fun reply => ?_⟩
  cases reply with
  | ok _ => exact statements.handle ends
  | error _ => trivial

def Throws : Program S ε α → Prop
  | .throw _ => True
  | .done _ | .call _ _ => False

/-- What a program that is over has come to. -/
def outcome : Program S ε α → Option (Except ε α)
  | .done value => some (.ok value)
  | .throw error => some (.error error)
  | .call _ _ => none

end Program

namespace Engine

variable {ι Db Key Write : Type} {Val : Key → Type} {S : Signature} {ε α β : Type}
variable (E : Engine Db Key Write Val S ε) (C : Contract Db Key Write S ε)

/-! ## Bodies -/

/-- The statement replies and writes the same as long as the locks are held. -/
def Keeps (session : Session Key Write S ε) (db : Db) (op : S.Op) (reply : S.Reply op) (writes : List Write) : Prop :=
  ∀ later, E.Interferes C.rely (E.afterQuery session op (E.view db session) reply writes).held db later →
    E.execute op (E.view later session) = .ok (reply, writes)

/-- Every failure is thrown, and every reply is kept or thrown upon. -/
def Repeatable : Program S ε α → Session Key Write S ε → Prop
  | .done _, _ | .throw _, _ => True
  | .call op resume, session => (∀ error, (resume (.error error)).Throws) ∧
      ∀ db reply writes, E.execute op (E.view db session) = .ok (reply, writes) →
        (resume (.ok reply)).Throws ∨ E.Keeps C session db op reply writes ∧
          Repeatable (resume (.ok reply)) (E.afterQuery session op (E.view db session) reply writes)

variable {E C}

theorem Repeatable.bind {program : Program S ε α} {next : α → Program S ε β} {session : Session Key Write S ε}
    (first : E.Repeatable C program session) (rest : ∀ value session, E.Repeatable C (next value) session) :
    E.Repeatable C (program >>= next) session := by
  induction program generalizing session with
  | done value => exact rest value session
  | throw error => trivial
  | call op resume ih =>
    have throws {reply : Except ε (S.Reply op)} (thrown : (resume reply).Throws) : (resume reply >>= next).Throws := by
      revert thrown
      cases resume reply with
      | throw error => exact id
      | done | call => exact False.elim
    refine ⟨fun error => throws (first.1 error), fun db reply writes executed => ?_⟩
    exact (first.2 db reply writes executed).imp throws fun ⟨keeps, continues⟩ => ⟨keeps, ih _ continues⟩

theorem repeatable_perform_bind {op : S.Op} {next : S.Reply op → Program S ε β} {session : Session Key Write S ε}
    (continues : ∀ db reply writes, E.execute op (E.view db session) = .ok (reply, writes) →
      (next reply).Throws ∨ E.Keeps C session db op reply writes ∧
        E.Repeatable C (next reply) (E.afterQuery session op (E.view db session) reply writes)) :
    E.Repeatable C (Program.perform op >>= next) session := by
  rw [Program.perform_bind]
  exact ⟨fun _ => trivial, continues⟩

theorem repeatable_perform {op : S.Op} {session : Session Key Write S ε}
    (keeps : ∀ db reply writes, E.execute op (E.view db session) = .ok (reply, writes) →
      E.Keeps C session db op reply writes) :
    E.Repeatable C (Program.perform op) session := by
  rw [← Program.perform_bind_done]
  exact repeatable_perform_bind fun db reply writes executed => .inr ⟨keeps db reply writes executed, trivial⟩

theorem repeatable_ite {condition : Prop} [Decidable condition] {program other : Program S ε α}
    {session : Session Key Write S ε} (holds : E.Repeatable C program session)
    (fails : E.Repeatable C other session) : E.Repeatable C (if condition then program else other) session := by
  split
  next => exact holds
  next => exact fails

/-! ### Rows that stay -/

section Keeping

variable {session : Session Key Write S ε} {db later : Db}

theorem get_view_of_lock {held : List (RowLock Key)} (interferes : E.Interferes C.rely held db later)
    {lock : RowLock Key} (isHeld : lock ∈ held) (own : lock.mode ≠ .keyShare) :
    E.get (E.view later session) lock.key = E.get (E.view db session) lock.key :=
  E.get_applyAll_congr session.pending (interferes.unchanged lock isHeld own)

theorem isSome_view_of_lock {held : List (RowLock Key)} (interferes : E.Interferes C.rely held db later)
    {lock : RowLock Key} (isHeld : lock ∈ held) (present : (E.get (E.view db session) lock.key).isSome = true) :
    (E.get (E.view later session) lock.key).isSome = true := by
  by_cases touched : E.Touches session.pending lock.key
  · have same : E.get (E.view later session) lock.key = E.get (E.view db session) lock.key :=
      get_applyAll_of_touches touched
    rwa [same]
  · rw [view, get_applyAll_of_not_touches touched] at present ⊢
    exact interferes.remains lock isHeld present

variable {op : S.Op} {reply : S.Reply op} {writes : List Write}

/-- The row of a write of the statement. -/
theorem get_view_of_write
    (interferes : E.Interferes C.rely (E.afterQuery session op (E.view db session) reply writes).held db later)
    {write : Write} (made : write ∈ writes) :
    E.get (E.view later session) (E.keyOf write) = E.get (E.view db session) (E.keyOf write) := by
  have isHeld : E.lockOf write ∈ (E.afterQuery session op (E.view db session) reply writes).held :=
    List.mem_append_left _ (List.mem_append_right _ (List.mem_map_of_mem made))
  refine get_view_of_lock interferes isHeld ?_
  unfold lockOf
  split <;> exact LockMode.noConfusion

/-- A row that the statement refers to. -/
theorem isSome_view_of_reference
    (interferes : E.Interferes C.rely (E.afterQuery session op (E.view db session) reply writes).held db later)
    {lock : RowLock Key} (isLock : lock ∈ E.locks op (E.view db session))
    (present : (E.get (E.view db session) lock.key).isSome = true) :
    (E.get (E.view later session) lock.key).isSome = true :=
  isSome_view_of_lock interferes (List.mem_append_left _ (List.mem_append_left _ isLock)) present

end Keeping

/-! ## A transaction underway -/

/-- The body leads from the committed database to where the transaction is. -/
structure Replays (E : Engine Db Key Write Val S ε) (C : Contract Db Key Write S ε) (body rest : Program S ε α)
    (session : Session Key Write S ε) (db : Db) : Prop where
  repeatable : E.Repeatable C rest session
  replays : ∀ after, E.Interferes C.rely session.held db after →
    body.runWith E.executeOn after = rest.runWith E.executeOn (E.view after session)

theorem Replays.stable {body rest : Program S ε α} {session : Session Key Write S ε} {db after : Db}
    (now : E.Replays C body rest session db) (interferes : E.Interferes C.rely session.held db after) :
    E.Replays C body rest session after :=
  ⟨now.repeatable, fun later more => now.replays later (interferes.trans more)⟩

/-- A statement replies, and the transaction goes on. -/
theorem Replays.query {body : Program S ε α} {op : S.Op} {resume : Except ε (S.Reply op) → Program S ε α}
    {session : Session Key Write S ε} {db : Db} (now : E.Replays C body (.call op resume) session db)
    {reply : S.Reply op} {writes : List Write} (executed : E.execute op (E.view db session) = .ok (reply, writes)) :
    (resume (.ok reply)).Throws ∨
      E.Replays C body (resume (.ok reply)) (E.afterQuery session op (E.view db session) reply writes) db := by
  refine (now.repeatable.2 db reply writes executed).imp_right fun ⟨keeps, continues⟩ => ⟨continues, fun after more => ?_⟩
  have before : E.Interferes C.rely session.held db after :=
    ⟨more.allowed, fun lock held => more.unchanged lock (List.mem_append_right _ held),
      fun lock held => more.remains lock (List.mem_append_right _ held)⟩
  rw [now.replays after before, Program.runWith_call, executeOn, keeps after more, view_afterQuery]

/-- A request that runs the body in a transaction: not begun, underway, or over. -/
def Underway (E : Engine Db Key Write Val S ε) (C : Contract Db Key Write S ε) (body : Program S ε α)
    (thread : Thread Key Write S ε α) (db : Db) : Prop :=
  (thread.program = Program.withTransaction body.inTransaction ∧ thread.session.pending = []) ∨
  (∃ rest : Program S ε α, thread.program = rest.inTransaction.handle Program.endTransaction ∧
    (rest.Throws ∨ E.Replays C body rest thread.session db)) ∨
  thread.program.ended = true

theorem underway_start {body : Program S ε α} (db : Db) :
    E.Underway C body ⟨.empty, Program.withTransaction body.inTransaction, true⟩ db :=
  .inl ⟨rfl, rfl⟩

theorem Underway.stable {body : Program S ε α} {thread : Thread Key Write S ε α} {db after : Db}
    (underway : E.Underway C body thread db) (interferes : E.Interferes C.rely thread.session.held db after) :
    E.Underway C body thread after :=
  underway.imp_right fun begun => begun.imp_left fun ⟨rest, isRest, replays⟩ =>
    ⟨rest, isRest, replays.imp_right fun now => now.stable interferes⟩

/-- The commit publishes what the body does alone. -/
theorem Underway.commits {body : Program S ε α} {thread : Thread Key Write S ε α} {db : Db}
    (underway : E.Underway C body thread db) {resume : Except ε Unit → Request S ε α}
    (calls : thread.program = .call .commit resume) :
    ∃ value, resume (.ok ()) = .done value ∧ E.transact body db = (.ok value, E.view db thread.session) := by
  rcases underway with ⟨isStart, -⟩ | ⟨rest, isRest, replays⟩ | isOver
  · cases calls.symm.trans isStart
  · cases rest with
    | done value =>
      cases calls.symm.trans isRest
      refine ⟨value, rfl, ?_⟩
      rcases replays with throws | now
      · exact throws.elim
      · rw [transact, now.replays db (.refl C _ db)]
        rfl
    | throw error => cases calls.symm.trans isRest
    | call op resume => cases calls.symm.trans isRest
  · rw [calls] at isOver
    cases isOver

theorem handle_endTransaction_ne_done (rest : Program S ε α) (value : α) :
    rest.inTransaction.handle Program.endTransaction ≠ .done value := by
  cases rest <;> intro isDone <;> cases isDone

/-- Only the commit ends a request with a value. -/
theorem Underway.commits_of_done {body : Program S ε α} {thread : Thread Key Write S ε α} {db : Db}
    (underway : E.Underway C body thread db) {op : RequestOp S} {resume : Except ε op.Reply → Request S ε α}
    (calls : thread.program = .call op resume) {reply : Except ε op.Reply} {value : α}
    (isDone : resume reply = .done value) : op = .commit := by
  rcases underway with ⟨isStart, -⟩ | ⟨rest, isRest, -⟩ | isOver
  · cases calls.symm.trans isStart
    cases reply with
    | ok _ => exact (handle_endTransaction_ne_done body value isDone).elim
    | error error => cases isDone
  · cases rest with
    | done result => cases calls.symm.trans isRest; rfl
    | throw error => cases calls.symm.trans isRest; cases isDone
    | call op continues =>
      cases calls.symm.trans isRest
      exact (handle_endTransaction_ne_done (continues reply) value isDone).elim
  · rw [calls] at isOver
    cases isOver

/-- One operation of the request. -/
theorem Underway.perform {body : Program S ε α} (repeatable : ∀ session, E.Repeatable C body session)
    {thread : Thread Key Write S ε α} {db : Db} (underway : E.Underway C body thread db) {op : RequestOp S}
    {resume : Except ε op.Reply → Request S ε α} (calls : thread.program = .call op resume) :
    E.Underway C body
      ⟨(E.perform thread.session db op).session, resume (E.perform thread.session db op).reply, true⟩
      (E.perform thread.session db op).db := by
  rcases underway with ⟨isStart, nothing⟩ | ⟨rest, isRest, replays⟩ | isOver
  · cases calls.symm.trans isStart
    refine .inr (.inl ⟨body, rfl, .inr ⟨repeatable _, fun after _ => ?_⟩⟩)
    change _ = body.runWith E.executeOn (E.applyAll after thread.session.pending)
    rw [nothing, applyAll_nil]
  · cases rest with
    | done value => cases calls.symm.trans isRest; exact .inr (.inr rfl)
    | throw error => cases calls.symm.trans isRest; exact .inr (.inr rfl)
    | call op continues =>
      cases calls.symm.trans isRest
      obtain now : E.Replays C body (.call op continues) thread.session db := replays.resolve_left id
      refine .inr (.inl ?_)
      cases executed : E.execute op (E.view db thread.session) with
      | ok result =>
        obtain ⟨reply, writes⟩ := result
        rw [perform_query_ok executed]
        exact ⟨continues (.ok reply), rfl, now.query executed⟩
      | error error =>
        rw [perform_query_error executed]
        exact ⟨continues (.error error), rfl, .inl (now.repeatable.1 error)⟩
  · rw [calls] at isOver
    cases isOver

theorem Underway.failed {body : Program S ε α} {thread : Thread Key Write S ε α} {db : Db}
    (underway : E.Underway C body thread db) {op : RequestOp S} {resume : Except ε op.Reply → Request S ε α}
    (calls : thread.program = .call op resume) (error : ε) :
    E.Underway C body ⟨Engine.failed thread.session op error, resume (.error error), true⟩ db := by
  rcases underway with ⟨isStart, -⟩ | ⟨rest, isRest, replays⟩ | isOver
  · cases calls.symm.trans isStart
    exact .inr (.inr rfl)
  · cases rest with
    | done value => cases calls.symm.trans isRest; exact .inr (.inr rfl)
    | throw error => cases calls.symm.trans isRest; exact .inr (.inr rfl)
    | call op continues =>
      cases calls.symm.trans isRest
      have now : E.Replays C body (.call op continues) thread.session db := replays.resolve_left id
      exact .inr (.inl ⟨continues (.error error), rfl, .inl (now.repeatable.1 error)⟩)
  · rw [calls] at isOver
    cases isOver

/-! ## What the requests publish -/

/-- Each request keeps to its operations, and has its quiet writes pending only. -/
structure PublishesOnly (allowed : ι → RequestOp S → Prop) (quiet : ι → Write → Prop)
    (system : System ι Db Key Write S ε α) : Prop where
  only : ∀ i, (system.thread i).program.Only (S := requestSignature S) (allowed i)
  pending : ∀ i, ∀ write ∈ (system.thread i).session.pending, quiet i write

section Publishes

variable {allowed : ι → RequestOp S → Prop} {quiet : ι → Write → Prop}

theorem publishesOnly_start {db : Db} {program : ι → Request S ε α}
    (only : ∀ i, (program i).Only (S := requestSignature S) (allowed i)) :
    PublishesOnly allowed quiet (System.start db program : System ι Db Key Write S ε α) :=
  ⟨only, fun _ _ none => by cases none⟩

variable [DecidableEq ι]

theorem PublishesOnly.update {system : System ι Db Key Write S ε α} (publishes : PublishesOnly allowed quiet system)
    (db : Db) {i : ι} {thread : Thread Key Write S ε α}
    (only : thread.program.Only (S := requestSignature S) (allowed i))
    (pending : ∀ write ∈ thread.session.pending, quiet i write) :
    PublishesOnly allowed quiet (⟨db, Function.update system.thread i thread⟩ : System ι Db Key Write S ε α) := by
  constructor
  · intro j
    by_cases same : j = i
    · subst same; simpa only [Function.update_self] using only
    · simpa only [Function.update_of_ne same] using publishes.only j
  · intro j
    by_cases same : j = i
    · subst same; simpa only [Function.update_self] using pending
    · simpa only [Function.update_of_ne same] using publishes.pending j

variable [Fintype ι] [DecidableEq Key]

/-- A step publishes quiet writes of its request, if allowed statements make no others. -/
theorem PublishesOnly.step {source target : System ι Db Key Write S ε α} {act : Act ι ε}
    (publishes : PublishesOnly allowed quiet source)
    (makes : ∀ i op view reply writes, allowed i (.query op) ∨ allowed i (.auto op) →
      E.execute op view = .ok (reply, writes) → ∀ write ∈ writes, quiet i write)
    (stepped : E.Steps source act target) :
    PublishesOnly allowed quiet target ∧
      ∃ writes, target.db = E.applyAll source.db writes ∧ ∀ write ∈ writes, ∃ i, act = .run i ∧ quiet i write := by
  have nothing : ∃ writes, source.db = E.applyAll source.db writes ∧
      ∀ write ∈ writes, ∃ i, act = .run i ∧ quiet i write :=
    ⟨[], rfl, fun _ none => by cases none⟩
  rcases E.steps_cases stepped with ⟨i, op, resume, rfl, -, calls, -, rfl⟩ | ⟨i, error, op, resume, rfl, -, calls, rfl⟩ |
    ⟨i, rfl, -, rfl⟩
  · have only := publishes.only i
    rw [calls] at only
    have own := publishes.pending i
    cases op with
    | begin => exact ⟨publishes.update _ (only.2 _) own, nothing⟩
    | rollback => exact ⟨publishes.update _ (only.2 _) fun _ none => (by cases none), nothing⟩
    -- what is published are the writes that have been pending
    | commit =>
      exact ⟨publishes.update _ (only.2 _) fun _ none => (by cases none), _, rfl,
        fun write made => ⟨i, rfl, own write made⟩⟩
    | query op =>
      cases executed : E.execute op (E.view source.db (source.thread i).session) with
      | ok result =>
        obtain ⟨reply, writes⟩ := result
        simp only [perform_query_ok executed]
        refine ⟨publishes.update _ (only.2 _) fun write isPending => ?_, nothing⟩
        rcases List.mem_append.mp isPending with before | now
        · exact own write before
        · exact makes i op _ _ _ (.inl only.1) executed write now
      | error error =>
        simp only [perform_query_error executed]
        exact ⟨publishes.update _ (only.2 _) own, nothing⟩
    | auto op =>
      simp only [perform]
      cases executed : E.execute op source.db with
      | ok result =>
        obtain ⟨reply, writes⟩ := result
        exact ⟨publishes.update _ (only.2 _) own, writes, rfl, fun write made =>
          ⟨i, rfl, makes i op _ _ _ (.inr only.1) executed write made⟩⟩
      | error error => exact ⟨publishes.update _ (only.2 _) own, nothing⟩
  · have only := publishes.only i
    rw [calls] at only
    exact ⟨publishes.update _ (only.2 _) fun write isPending =>
      publishes.pending i write (failed_pending_subset _ op error isPending), nothing⟩
  · exact ⟨publishes.update _ (publishes.only i) fun _ none => (by cases none), nothing⟩

end Publishes

/-! ## Runs -/

section Steps

variable [Fintype ι] [DecidableEq ι] [DecidableEq Key]

/-- What another request publishes leaves the locked rows as they are. -/
theorem interferes_of_step {source target : System ι Db Key Write S ε α} {j : ι} (exclusive : E.Exclusive source)
    (stepped : E.Steps source (.run j) target) (relies : C.rely source.db target.db) {i : ι} (other : i ≠ j) :
    E.Interferes C.rely (source.thread i).session.held source.db target.db := by
  rcases E.steps_cases stepped with ⟨k, op, resume, isAct, -, -, free, rfl⟩ | ⟨k, error, op, resume, isAct, -⟩ |
    ⟨k, isAct, -⟩
  · cases isAct
    obtain ⟨writes, published, compatible⟩ := perform_db_writes exclusive free
    refine ⟨relies, fun lock held own => ?_, fun lock held present => ?_⟩
    · change E.get (E.perform _ _ _).db _ = _
      rw [published]
      exact E.get_applyAll_of_untouched fun write made sameKey =>
        compatible write made i other lock held (conflicts_lockOf own sameKey)
    · change (E.get (E.perform _ _ _).db _).isSome = true
      rw [published]
      refine E.isSome_get_applyAll present fun write made sameKey => ?_
      by_contra erases
      exact compatible write made i other lock held
        (conflicts_lockOf_of_erases (Bool.eq_false_of_not_eq_true erases) sameKey)
  · cases isAct
  · cases isAct

theorem Underway.step {body : Program S ε α} (repeatable : ∀ session, E.Repeatable C body session)
    {source target : System ι Db Key Write S ε α} {act : Act ι ε} (exclusive : E.Exclusive source)
    (stepped : E.Steps source act target) (relies : ∀ j, act = .run j → C.rely source.db target.db) {i : ι}
    (underway : (source.thread i).alive = true → E.Underway C body (source.thread i) source.db)
    (alive : (target.thread i).alive = true) : E.Underway C body (target.thread i) target.db := by
  rcases E.steps_cases stepped with ⟨j, op, resume, rfl, isAlive, calls, -, rfl⟩ |
    ⟨j, error, op, resume, rfl, isAlive, calls, rfl⟩ | ⟨j, rfl, -, rfl⟩
  · by_cases same : i = j
    · subst same
      simpa only [Function.update_self] using (underway isAlive).perform repeatable calls
    · simp only [Function.update_of_ne same] at alive ⊢
      exact (underway alive).stable (interferes_of_step exclusive stepped (relies j rfl) same)
  · by_cases same : i = j
    · subst same
      simpa only [Function.update_self] using (underway isAlive).failed calls error
    · simp only [Function.update_of_ne same] at alive ⊢
      exact underway alive
  · by_cases same : i = j
    · subst same
      simp only [Function.update_self] at alive
      cases alive
    · simp only [Function.update_of_ne same] at alive ⊢
      exact underway alive

/-- The request succeeds with its commit, which does what serving it alone does. -/
structure CommitsAlone (serve : Db → Except ε α × Db) (i : ι) (source : System ι Db Key Write S ε α) (act : Act ι ε)
    (target : System ι Db Key Write S ε α) : Prop where
  alone : act = .run i → (source.thread i).program.atCommit = true →
    ∃ value, (target.thread i).program = .done value ∧ serve source.db = (.ok value, target.db)
  only : ∀ value, (target.thread i).program = .done value →
    (source.thread i).program = .done value ∨ act = .run i ∧ (source.thread i).program.atCommit = true

theorem Underway.commitsAlone {body : Program S ε α} {source target : System ι Db Key Write S ε α} {act : Act ι ε}
    {i : ι} (underway : (source.thread i).alive = true → E.Underway C body (source.thread i) source.db)
    (stepped : E.Steps source act target) : CommitsAlone (E.transact body) i source act target := by
  rcases E.steps_cases stepped with ⟨j, op, resume, rfl, isAlive, calls, -, rfl⟩ |
    ⟨j, error, op, resume, rfl, isAlive, calls, rfl⟩ | ⟨j, rfl, -, rfl⟩
  · refine ⟨fun isAct atCommit => ?_, fun value isDone => ?_⟩
    · cases isAct
      cases op with
      | commit =>
        -- at its `COMMIT` the body has done, on what was committed then, what it does alone
        obtain ⟨value, isDone, alone⟩ := (underway isAlive).commits calls
        refine ⟨value, ?_, alone⟩
        simp only [Function.update_self]
        exact isDone
      | begin | query | rollback | auto =>
        rw [calls] at atCommit
        cases atCommit
    · by_cases same : i = j
      · subst same
        simp only [Function.update_self] at isDone
        obtain rfl := (underway isAlive).commits_of_done calls isDone
        refine .inr ⟨rfl, ?_⟩
        rw [calls]
        rfl
      · simp only [Function.update_of_ne same] at isDone
        exact .inl isDone
  · refine ⟨fun isAct => (by cases isAct), fun value isDone => .inl ?_⟩
    by_cases same : i = j
    · subst same
      simp only [Function.update_self] at isDone
      obtain rfl := (underway isAlive).commits_of_done calls isDone
      -- no failed operation is followed by `done`: it rolls back or throws
      rcases underway isAlive with ⟨isStart, -⟩ | ⟨rest, isRest, -⟩ | isOver
      · cases calls.symm.trans isStart
      · cases rest with
        | done result => cases calls.symm.trans isRest; cases isDone
        | throw error => cases calls.symm.trans isRest
        | call op continues => cases calls.symm.trans isRest
      · rw [calls] at isOver
        cases isOver
    · simpa only [Function.update_of_ne same] using isDone
  · refine ⟨fun isAct => (by cases isAct), fun value isDone => .inl ?_⟩
    by_cases same : i = j
    · subst same
      simpa only [Function.update_self] using isDone
    · simpa only [Function.update_of_ne same] using isDone

/-- The run rule, beside an invariant from which the others keep to what the body relies on. -/
theorem commitsAlone_of_run {invariant : System ι Db Key Write S ε α → Prop}
    (keeps : ∀ source act target, invariant source → E.Steps source act target → invariant target)
    (relies : ∀ source j target, invariant source → E.Steps source (.run j) target → C.rely source.db target.db)
    {body : ι → Program S ε α} {atomic : ι → Prop}
    (repeatable : ∀ i, atomic i → ∀ session, E.Repeatable C (body i) session)
    {db : Db} {program : ι → Request S ε α}
    (isBody : ∀ i, atomic i → program i = Program.withTransaction (body i).inTransaction)
    (start : invariant (System.start db program)) {run : List (Act ι ε × System ι Db Key Write S ε α)}
    (isRun : Transition.Run E.Steps (System.start db program) run) :
    Transition.EachStep (fun source act target => ∀ i, atomic i → CommitsAlone (E.transact (body i)) i source act target)
      (System.start db program) run := by
  let kept (system : System ι Db Key Write S ε α) : Prop := invariant system ∧ E.Exclusive system ∧
    ∀ i, atomic i → (system.thread i).alive = true → E.Underway C (body i) (system.thread i) system.db
  have step : ∀ (source : System ι Db Key Write S ε α) act target, kept source → E.Steps source act target →
      kept target := by
    rintro source act target ⟨holds, exclusive, underway⟩ stepped
    refine ⟨keeps source act target holds stepped, exclusive_step exclusive stepped, fun i isAtomic => ?_⟩
    refine Underway.step (repeatable i isAtomic) exclusive stepped (fun j isRun => ?_) (underway i isAtomic)
    subst isRun
    exact relies source j target holds stepped
  have started : kept (System.start db program) := by
    refine ⟨start, E.exclusive_start db program, fun i isAtomic _ => ?_⟩
    change E.Underway C (body i) ⟨.empty, program i, true⟩ db
    rw [isBody i isAtomic]
    exact underway_start db
  refine Transition.eachStep_of_invariant ?_ step started isRun
  rintro source act target ⟨-, -, underway⟩ stepped i isAtomic
  exact Underway.commitsAlone (underway i isAtomic) stepped

end Steps

/-! ## The serial order -/

/-- The counted requests that committed, in the order of their commits. -/
def commitOrder (counted : ι → Bool) :
    System ι Db Key Write S ε α → List (Act ι ε × System ι Db Key Write S ε α) → List ι
  | _, [] => []
  | source, (.run i, target) :: rest =>
    if counted i && (source.thread i).program.atCommit then i :: commitOrder counted target rest
    else commitOrder counted target rest
  | _, (_, target) :: rest => commitOrder counted target rest

/-- Requests that are served one after the other: what they come to, and the database after. -/
def inTurn (serve : ι → Db → Except ε α × Db) : List ι → Db → List (Except ε α) × Db
  | [], db => ([], db)
  | i :: rest, db =>
    let served := serve i db
    let later := inTurn serve rest served.2
    (served.1 :: later.1, later.2)

/-- A step that no counted request commits with. -/
def Uncounted (counted : ι → Bool) (source : System ι Db Key Write S ε α) (act : Act ι ε) : Prop :=
  ∀ i, act = .run i → (counted i && (source.thread i).program.atCommit) = false

/-- The first step of a run counts, or it does not. -/
theorem commitOrder_cases (counted : ι → Bool) (source target : System ι Db Key Write S ε α) (act : Act ι ε)
    (rest : List (Act ι ε × System ι Db Key Write S ε α)) :
    (∃ i, act = .run i ∧ counted i = true ∧ (source.thread i).program.atCommit = true ∧
      commitOrder counted source ((act, target) :: rest) = i :: commitOrder counted target rest) ∨
    (Uncounted counted source act ∧
      commitOrder counted source ((act, target) :: rest) = commitOrder counted target rest) := by
  cases act with
  | fail i error => exact .inr ⟨fun j isAct => (by cases isAct), rfl⟩
  | crash i => exact .inr ⟨fun j isAct => (by cases isAct), rfl⟩
  | run i =>
    cases counts : counted i && (source.thread i).program.atCommit with
    | false =>
      refine .inr ⟨fun j isAct => ?_, ?_⟩
      · cases isAct
        exact counts
      · simp only [commitOrder, counts, Bool.false_eq_true, if_false]
    | true =>
      obtain ⟨isCounted, atCommit⟩ := (Bool.and_eq_true _ _).mp counts
      refine .inl ⟨i, rfl, isCounted, atCommit, ?_⟩
      simp only [commitOrder, counts, if_true]

section Serial

variable [Fintype ι] [DecidableEq ι] [DecidableEq Key]

theorem outcome_step {source target : System ι Db Key Write S ε α} {act : Act ι ε} (stepped : E.Steps source act target)
    {i : ι} {result : Except ε α} (isOver : (source.thread i).program.outcome = some result) :
    (target.thread i).program.outcome = some result := by
  have notCalls {op : RequestOp S} {resume : Except ε op.Reply → Request S ε α} :
      (source.thread i).program ≠ .call op resume := fun calls => by
    rw [calls] at isOver
    cases isOver
  rcases E.steps_cases stepped with ⟨j, op, resume, rfl, -, calls, -, rfl⟩ | ⟨j, error, op, resume, rfl, -, calls, rfl⟩ |
    ⟨j, rfl, -, rfl⟩
  · have other : i ≠ j := fun same => notCalls (same ▸ calls)
    simpa only [Function.update_of_ne other] using isOver
  · have other : i ≠ j := fun same => notCalls (same ▸ calls)
    simpa only [Function.update_of_ne other] using isOver
  · by_cases same : i = j
    · subst same
      simpa only [Function.update_self] using isOver
    · simpa only [Function.update_of_ne same] using isOver

theorem outcome_run {source : System ι Db Key Write S ε α} {run : List (Act ι ε × System ι Db Key Write S ε α)}
    (isRun : Transition.Run E.Steps source run) {i : ι} {result : Except ε α}
    (isOver : (source.thread i).program.outcome = some result) :
    ((Transition.final source run).thread i).program.outcome = some result := by
  induction run generalizing source with
  | nil => exact isOver
  | cons entry rest ih => exact ih isRun.2 (outcome_step isRun.1 isOver)

variable {serve : ι → Db → Except ε α × Db} {counted : ι → Bool} {source : System ι Db Key Write S ε α}
  {run : List (Act ι ε × System ι Db Key Write S ε α)}

/-- Where the counted requests commit as if alone and nothing else changes the database, the run comes to what
    they come to in turn. -/
theorem inTurn_commitOrder (isRun : Transition.Run E.Steps source run)
    (alone : Transition.EachStep
      (fun source act target => ∀ i, counted i = true → CommitsAlone (serve i) i source act target) source run)
    (silent : Transition.EachStep (fun source act target => Uncounted counted source act → target.db = source.db)
      source run) :
    (inTurn serve (commitOrder counted source run) source.db).1.map some =
        (commitOrder counted source run).map (fun i => ((Transition.final source run).thread i).program.outcome) ∧
      (inTurn serve (commitOrder counted source run) source.db).2 = (Transition.final source run).db := by
  induction run generalizing source with
  | nil => exact ⟨rfl, rfl⟩
  | cons entry rest ih =>
    obtain ⟨act, target⟩ := entry
    obtain ⟨sameAnswers, sameDb⟩ := ih isRun.2 alone.2 silent.2
    rcases commitOrder_cases counted source target act rest with ⟨i, isAct, isCounted, atCommit, isFirst⟩ |
      ⟨uncounted, isRest⟩
    · obtain ⟨value, isDone, served⟩ := (alone.1 i isCounted).alone isAct atCommit
      have isOver : (target.thread i).program.outcome = some (.ok value) := by
        rw [isDone]
        rfl
      simp only [isFirst, inTurn, served, List.map_cons, sameAnswers]
      exact ⟨congrArg (· :: _) (outcome_run isRun.2 isOver).symm, sameDb⟩
    · rw [isRest, ← silent.1 uncounted]
      exact ⟨sameAnswers, sameDb⟩

/-- A request that is over does not commit. -/
theorem not_mem_commitOrder (isRun : Transition.Run E.Steps source run) {i : ι} {result : Except ε α}
    (isOver : (source.thread i).program.outcome = some result) : i ∉ commitOrder counted source run := by
  induction run generalizing source with
  | nil => exact List.not_mem_nil
  | cons entry rest ih =>
    obtain ⟨act, target⟩ := entry
    have later := ih isRun.2 (outcome_step isRun.1 isOver)
    rcases commitOrder_cases counted source target act rest with ⟨j, -, -, atCommit, isFirst⟩ | ⟨-, isRest⟩
    · rw [isFirst, List.mem_cons, not_or]
      refine ⟨?_, later⟩
      rintro rfl
      cases program : (source.thread i).program with
      | call op resume => rw [program] at isOver; cases isOver
      | done | throw => rw [program] at atCommit; cases atCommit
    · rwa [isRest]

theorem nodup_commitOrder (isRun : Transition.Run E.Steps source run)
    (alone : Transition.EachStep
      (fun source act target => ∀ i, counted i = true → CommitsAlone (serve i) i source act target) source run) :
    (commitOrder counted source run).Nodup := by
  induction run generalizing source with
  | nil => exact List.nodup_nil
  | cons entry rest ih =>
    obtain ⟨act, target⟩ := entry
    have later := ih isRun.2 alone.2
    rcases commitOrder_cases counted source target act rest with ⟨i, isAct, isCounted, atCommit, isFirst⟩ |
      ⟨-, isRest⟩
    · obtain ⟨value, isDone, -⟩ := (alone.1 i isCounted).alone isAct atCommit
      rw [isFirst]
      have isOver : (target.thread i).program.outcome = some (.ok value) := by
        rw [isDone]
        rfl
      exact List.nodup_cons.mpr ⟨not_mem_commitOrder isRun.2 isOver, later⟩
    · rwa [isRest]

/-- The order lists the counted requests that succeeded. -/
theorem mem_commitOrder_iff (isRun : Transition.Run E.Steps source run)
    (alone : Transition.EachStep
      (fun source act target => ∀ i, counted i = true → CommitsAlone (serve i) i source act target) source run)
    {i : ι} (isCounted : counted i = true) (notYet : ∀ value, (source.thread i).program ≠ .done value) :
    i ∈ commitOrder counted source run ↔
      ∃ value, ((Transition.final source run).thread i).program = .done value := by
  induction run generalizing source with
  | nil => exact ⟨fun none => (by cases none), fun ⟨value, isDone⟩ => (notYet value isDone).elim⟩
  | cons entry rest ih =>
    obtain ⟨act, target⟩ := entry
    have done_of_outcome {program : Request S ε α} {value : α} (isOver : program.outcome = some (.ok value)) :
        program = .done value := by
      cases program <;> cases isOver
      rfl
    by_cases isNow : ∃ value, (target.thread i).program = .done value
    · obtain ⟨value, isDone⟩ := isNow
      have isOver : (target.thread i).program.outcome = some (.ok value) := by
        rw [isDone]
        rfl
      refine iff_of_true ?_ ⟨value, done_of_outcome (outcome_run isRun.2 isOver)⟩
      obtain ⟨rfl, atCommit⟩ := ((alone.1 i isCounted).only value isDone).resolve_left (notYet value)
      simp only [commitOrder, isCounted, atCommit, Bool.and_self, if_true]
      exact List.mem_cons_self
    · have later := ih isRun.2 alone.2 fun value isDone => isNow ⟨value, isDone⟩
      rcases commitOrder_cases counted source target act rest with ⟨j, isAct, countedJ, atCommit, isFirst⟩ | ⟨-, isRest⟩
      · have other : i ≠ j := by
          rintro rfl
          obtain ⟨value, isDone, -⟩ := (alone.1 i isCounted).alone isAct atCommit
          exact isNow ⟨value, isDone⟩
        rw [isFirst, List.mem_cons]
        exact (or_iff_right other).trans later
      · rw [isRest]
        exact later

end Serial

end Engine

end StoreSaas
