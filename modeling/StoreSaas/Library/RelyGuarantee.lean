import StoreSaas.Library.ReadCommitted

/-! # Rely-guarantee reasoning for requests

`Safe` follows one request through everything the others may do: before each of
its operations the committed database may change as the contract's `rely` allows,
but never in a row the request has locked.  The request owes its `guarantee` for
every change it publishes, and may use `assume` of each operation it executes;
`assume` is how a theorem about the runs that meet a condition is stated.

* `Exclusive`: the lock discipline, an invariant of every run.
* `conforms_step`: if the contracts fit together, every step of the system keeps
  every request safe, and `guarantee_of_step` reads off what a step publishes.
* `safe_withTransaction` and `body_perform_bind` reduce a transaction to its body
  and a body to its statements.
-/

namespace StoreSaas

structure Contract (Db Key Write : Type) (S : Signature) (ε : Type) where
  /-- Known of every operation that is executed in the runs considered. -/
  assume : Session Key Write S ε → RequestOp S → Db → Prop
  /-- How the others may change the committed database. -/
  rely : Db → Db → Prop
  reflexive : ∀ db, rely db db
  transitive : ∀ first second third, rely first second → rely second third → rely first third
  /-- Owed for every operation that publishes. -/
  guarantee : Session Key Write S ε → RequestOp S → Db → Db → Prop

namespace Engine

variable {Db Key Write : Type} {Val : Key → Type} {S : Signature} {ε α β ι : Type}
variable (E : Engine Db Key Write Val S ε)

/-- The committed database may go from `before` to `after` while the locks `held` are kept. -/
structure Interferes (rely : Db → Db → Prop) (held : List (RowLock Key)) (before after : Db) : Prop where
  allowed : rely before after
  unchanged : ∀ lock ∈ held, lock.mode ≠ .keyShare → E.get after lock.key = E.get before lock.key
  remains : ∀ lock ∈ held, (E.get before lock.key).isSome = true → (E.get after lock.key).isSome = true

variable {E} {C : Contract Db Key Write S ε}

theorem Interferes.refl (C : Contract Db Key Write S ε) (held : List (RowLock Key)) (db : Db) :
    E.Interferes C.rely held db db :=
  ⟨C.reflexive db, fun _ _ _ => rfl, fun _ _ present => present⟩

theorem Interferes.trans {held : List (RowLock Key)} {first second third : Db}
    (left : E.Interferes C.rely held first second) (right : E.Interferes C.rely held second third) :
    E.Interferes C.rely held first third :=
  ⟨C.transitive _ _ _ left.allowed right.allowed,
    fun lock locked own => (right.unchanged lock locked own).trans (left.unchanged lock locked own),
    fun lock locked present => right.remains lock locked (left.remains lock locked present)⟩

variable (E)

/-- The request keeps its contract from here on, and ends in `post`. -/
def Safe (C : Contract Db Key Write S ε) (post : Except ε α → Session Key Write S ε → Db → Prop) :
    Request S ε α → Session Key Write S ε → Db → Prop
  | .done value, session, db =>
    ∀ after, E.Interferes C.rely session.held db after → post (.ok value) session after
  | .throw error, session, db =>
    ∀ after, E.Interferes C.rely session.held db after → post (.error error) session after
  | .call op resume, session, db =>
    ∀ after, E.Interferes C.rely session.held db after →
      (∀ error, Safe C post (resume (.error error)) (failed session op error) after) ∧
      (C.assume session op after →
        (RequestOp.publishes op = true → C.guarantee session op after (E.perform session after op).db) ∧
        Safe C post (resume (E.perform session after op).reply) (E.perform session after op).session
          (E.perform session after op).db)

variable {E}

theorem Safe.stable {post : Except ε α → Session Key Write S ε → Db → Prop} {program : Request S ε α}
    {session : Session Key Write S ε} {db after : Db} (safe : E.Safe C post program session db)
    (interferes : E.Interferes C.rely session.held db after) : E.Safe C post program session after := by
  cases program with
  | done value => exact fun later more => safe later (interferes.trans more)
  | throw error => exact fun later more => safe later (interferes.trans more)
  | call op resume => exact fun later more => safe later (interferes.trans more)

theorem Safe.handle {middle : Except ε α → Session Key Write S ε → Db → Prop}
    {post : Except ε β → Session Key Write S ε → Db → Prop} {program : Request S ε α}
    {next : Except ε α → Request S ε β} {session : Session Key Write S ε} {db : Db}
    (safe : E.Safe C middle program session db)
    (continues : ∀ result session db,
      (∀ after, E.Interferes C.rely session.held db after → middle result session after) →
      E.Safe C post (next result) session db) :
    E.Safe C post (program.handle next) session db := by
  induction program generalizing session db with
  | done value => exact continues _ _ _ safe
  | throw error => exact continues _ _ _ safe
  | call op resume ih =>
    intro after interferes
    obtain ⟨fails, runs⟩ := safe after interferes
    refine ⟨fun error => ih _ (fails error), fun assumed => ?_⟩
    obtain ⟨owed, rest⟩ := runs assumed
    exact ⟨owed, ih _ rest⟩

/-! ## Transactions -/

/-- The session after a statement of the transaction replied. -/
def afterQuery (E : Engine Db Key Write Val S ε) (session : Session Key Write S ε) (op : S.Op) (view : Db)
    (reply : S.Reply op) (writes : List Write) : Session Key Write S ε where
  held := E.locksOf op view writes ++ session.held
  pending := session.pending ++ writes
  log := ⟨.query op, .ok reply⟩ :: session.log

theorem perform_query_ok {session : Session Key Write S ε} {db : Db} {op : S.Op} {reply : S.Reply op}
    {writes : List Write} (executed : E.execute op (E.view db session) = .ok (reply, writes)) :
    E.perform session db (.query op) =
      ⟨.ok reply, E.afterQuery session op (E.view db session) reply writes, db,
        E.locksOf op (E.view db session) writes⟩ := by
  simp only [perform, executed, afterQuery]

theorem perform_query_error {session : Session Key Write S ε} {db : Db} {op : S.Op} {error : ε}
    (executed : E.execute op (E.view db session) = .error error) :
    E.perform session db (.query op) =
      ⟨.error error, { session with log := ⟨.query op, .error error⟩ :: session.log }, db, []⟩ := by
  simp only [perform, executed]

theorem perform_query_db (session : Session Key Write S ε) (db : Db) (op : S.Op) :
    (E.perform session db (.query op)).db = db := by
  cases executed : E.execute op (E.view db session) with
  | ok result => rw [perform_query_ok executed]
  | error error => rw [perform_query_error executed]

theorem view_afterQuery (session : Session Key Write S ε) (op : S.Op) (view db : Db) (reply : S.Reply op)
    (writes : List Write) :
    E.view db (E.afterQuery session op view reply writes) = E.applyAll (E.view db session) writes :=
  E.applyAll_append db session.pending writes

variable (E C) in
/-- A transaction's body keeps the contract and, unless it throws, ends in `post`. -/
def Body (post : α → Session Key Write S ε → Db → Prop) (body : Program S ε α)
    (session : Session Key Write S ε) (db : Db) : Prop :=
  E.Safe C (fun result session db => match result with
    | .ok value => post value session db
    | .error _ => True) body.inTransaction session db

theorem body_throw {post : α → Session Key Write S ε → Db → Prop} (error : ε)
    (session : Session Key Write S ε) (db : Db) : E.Body C post (.throw error) session db :=
  fun _ _ => trivial

theorem body_done {post : α → Session Key Write S ε → Db → Prop} {value : α}
    {session : Session Key Write S ε} {db : Db}
    (holds : ∀ after, E.Interferes C.rely session.held db after → post value session after) :
    E.Body C post (.done value) session db :=
  holds

/-- A statement in a body: it runs on the view as it is by then, and its failure is thrown. -/
theorem body_perform_bind {post : β → Session Key Write S ε → Db → Prop} {op : S.Op}
    {next : S.Reply op → Program S ε β} {session : Session Key Write S ε} {db : Db}
    (continues : ∀ after reply writes, E.Interferes C.rely session.held db after →
      C.assume session (.query op) after →
      E.execute op (E.view after session) = .ok (reply, writes) →
      E.Body C post (next reply) (E.afterQuery session op (E.view after session) reply writes) after) :
    E.Body C post (Program.perform op >>= next) session db := by
  rw [Program.perform_bind]
  intro after interferes
  refine ⟨fun error => body_throw error _ after, fun assumed => ⟨(fun publishes => nomatch publishes), ?_⟩⟩
  cases executed : E.execute op (E.view after session) with
  | ok result =>
    rw [perform_query_ok executed]
    exact continues after result.1 result.2 interferes assumed executed
  | error error =>
    rw [perform_query_error executed]
    exact body_throw error _ after

/-- A statement at the end of a body. -/
theorem body_perform {op : S.Op} {post : S.Reply op → Session Key Write S ε → Db → Prop}
    {session : Session Key Write S ε} {db : Db}
    (continues : ∀ after reply writes, E.Interferes C.rely session.held db after →
      C.assume session (.query op) after →
      E.execute op (E.view after session) = .ok (reply, writes) →
      E.Body C post (.done reply) (E.afterQuery session op (E.view after session) reply writes) after) :
    E.Body C post (Program.perform op) session db := by
  rw [← Program.perform_bind_done]
  exact body_perform_bind continues

/-- The rule for a statement under an invariant that interference keeps. -/
theorem body_perform_bind_of {invariant : Session Key Write S ε → Db → Prop}
    {post : β → Session Key Write S ε → Db → Prop} {op : S.Op} {next : S.Reply op → Program S ε β}
    {session : Session Key Write S ε} {db : Db}
    (stable : ∀ session db after, invariant session db → E.Interferes C.rely session.held db after →
      invariant session after)
    (now : invariant session db)
    (continues : ∀ db reply writes, invariant session db → C.assume session (.query op) db →
      E.execute op (E.view db session) = .ok (reply, writes) →
      E.Body C post (next reply) (E.afterQuery session op (E.view db session) reply writes) db) :
    E.Body C post (Program.perform op >>= next) session db :=
  body_perform_bind fun after reply writes interferes assumed executed =>
    continues after reply writes (stable session db after now interferes) assumed executed

theorem Body.bind {middle : α → Session Key Write S ε → Db → Prop}
    {post : β → Session Key Write S ε → Db → Prop} {body : Program S ε α} {next : α → Program S ε β}
    {session : Session Key Write S ε} {db : Db} (safe : E.Body C middle body session db)
    (continues : ∀ value session db, middle value session db → E.Body C post (next value) session db) :
    E.Body C post (body >>= next) session db := by
  induction body generalizing session db with
  | done value => exact continues value session db (safe db (.refl C _ db))
  | throw error => exact body_throw error session db
  | call op resume ih =>
    intro after interferes
    obtain ⟨fails, runs⟩ := safe after interferes
    exact ⟨fun error => ih _ (fails error), fun assumed => ⟨(runs assumed).1, ih _ (runs assumed).2⟩⟩

/-- A body whose value is wrapped. -/
theorem Body.map {post : β → Session Key Write S ε → Db → Prop} {body : Program S ε α} (wrap : α → β)
    {session : Session Key Write S ε} {db : Db} (safe : E.Body C (fun value => post (wrap value)) body session db) :
    E.Body C post (body >>= fun value => return wrap value) session db := by
  induction body generalizing session db with
  | done value => exact safe
  | throw error => exact body_throw error session db
  | call op resume ih =>
    intro after interferes
    obtain ⟨fails, runs⟩ := safe after interferes
    exact ⟨fun error => ih _ (fails error), fun assumed => ⟨(runs assumed).1, ih _ (runs assumed).2⟩⟩

theorem Body.imp {weak strong : α → Session Key Write S ε → Db → Prop} {body : Program S ε α}
    {session : Session Key Write S ε} {db : Db} (safe : E.Body C strong body session db)
    (implies : ∀ value session db, strong value session db → weak value session db) :
    E.Body C weak body session db := by
  induction body generalizing session db with
  | done value => exact fun after interferes => implies value session after (safe after interferes)
  | throw error => exact body_throw error session db
  | call op resume ih =>
    intro after interferes
    obtain ⟨fails, runs⟩ := safe after interferes
    exact ⟨fun error => ih _ (fails error), fun assumed => ⟨(runs assumed).1, ih _ (runs assumed).2⟩⟩

/-- The frame rule: what the others leave alone in the committed database, a body leaves alone as well. -/
theorem Body.frame {post : α → Session Key Write S ε → Db → Prop} {fact : Db → Prop} {body : Program S ε α}
    {session : Session Key Write S ε} {db : Db} (safe : E.Body C post body session db)
    (stable : ∀ before after, C.rely before after → fact before → fact after) (now : fact db) :
    E.Body C (fun value session db => post value session db ∧ fact db) body session db := by
  induction body generalizing session db with
  | done value => exact fun after interferes => ⟨safe after interferes, stable _ _ interferes.allowed now⟩
  | throw error => exact body_throw error session db
  | call op resume ih =>
    intro after interferes
    have still := stable _ _ interferes.allowed now
    obtain ⟨fails, runs⟩ := safe after interferes
    refine ⟨fun error => ih _ (fails error) still, fun assumed => ⟨(runs assumed).1, ih _ (runs assumed).2 ?_⟩⟩
    rw [perform_query_db]
    exact still

/-- The invariant rule: a body all of whose statements keep a stable invariant ends in it. -/
theorem body_of_only {invariant : Session Key Write S ε → Db → Prop} {allowed : S.Op → Prop}
    (stable : ∀ session db after, invariant session db → E.Interferes C.rely session.held db after →
      invariant session after)
    (keeps : ∀ session db op reply writes, allowed op → invariant session db →
      E.execute op (E.view db session) = .ok (reply, writes) →
      invariant (E.afterQuery session op (E.view db session) reply writes) db)
    (fails : ∀ session db op error, allowed op → invariant session db →
      invariant { session with log := ⟨.query op, .error error⟩ :: session.log } db)
    {body : Program S ε α} (only : body.Only allowed) {session : Session Key Write S ε} {db : Db}
    (now : invariant session db) : E.Body C (fun _ => invariant) body session db := by
  induction body generalizing session db with
  | done value => exact body_done fun after interferes => stable _ _ _ now interferes
  | throw error => exact body_throw error session db
  | call op resume ih =>
    intro after interferes
    have stillHolds := stable session db after now interferes
    refine ⟨fun error => ih _ (only.2 _) (fails _ _ op error only.1 stillHolds),
      fun _ => ⟨(fun publishes => nomatch publishes), ?_⟩⟩
    cases executed : E.execute op (E.view after session) with
    | ok result =>
      rw [perform_query_ok executed]
      exact ih _ (only.2 _) (keeps _ _ op _ _ only.1 stillHolds executed)
    | error error =>
      rw [perform_query_error executed]
      exact ih _ (only.2 _) (fails _ _ op error only.1 stillHolds)

/-- A transaction is safe when its body is, and its end justifies the commit. -/
theorem safe_withTransaction {post : α → Session Key Write S ε → Db → Prop} {body : Program S ε α}
    {session : Session Key Write S ε} {db : Db}
    (safe : ∀ after, E.Interferes C.rely session.held db after →
      E.Body C post body { session with log := ⟨.begin, .ok ()⟩ :: session.log } after)
    (commits : ∀ value session db, post value session db → C.assume session .commit db →
      C.guarantee session .commit db (E.view db session)) :
    E.Safe C (fun _ _ _ => True) (Program.withTransaction body.inTransaction) session db := by
  intro after interferes
  refine ⟨fun error _ _ => trivial, fun _ => ⟨(fun publishes => nomatch publishes), ?_⟩⟩
  refine Safe.handle (safe after interferes) fun result session db ended => ?_
  cases result with
  | ok value =>
    intro later more
    refine ⟨fun error _ _ => trivial, fun assumed => ⟨fun _ => ?_, fun _ _ => trivial⟩⟩
    exact commits value session later (ended later more) assumed
  | error error =>
    exact fun later more => ⟨fun _ _ _ => trivial, fun _ => ⟨(fun publishes => nomatch publishes), fun _ _ => trivial⟩⟩

/-! ## The whole system -/

variable (E)

/-- No two transactions hold locks in conflict, and each has locked every row it is about to change. -/
structure Exclusive (system : System ι Db Key Write S ε α) : Prop where
  disjoint : ∀ i j, i ≠ j → ∀ left ∈ (system.thread i).session.held,
    ∀ right ∈ (system.thread j).session.held, ¬ left.Conflicts right
  locked : ∀ i, ∀ write ∈ (system.thread i).session.pending, E.lockOf write ∈ (system.thread i).session.held

theorem exclusive_start (db : Db) (program : ι → Request S ε α) : E.Exclusive (System.start db program) where
  disjoint _ _ _ _ locked := nomatch locked
  locked _ _ pending := nomatch pending

variable {E}

theorem failed_held_subset (session : Session Key Write S ε) (op : RequestOp S) (error : ε)
    {lock : RowLock Key} (locked : lock ∈ (failed session op error).held) : lock ∈ session.held := by
  unfold failed at locked
  split at locked
  · cases locked
  · exact locked

theorem failed_pending_subset (session : Session Key Write S ε) (op : RequestOp S) (error : ε)
    {write : Write} (pending : write ∈ (failed session op error).pending) : write ∈ session.pending := by
  unfold failed at pending
  split at pending
  · cases pending
  · exact pending

/-- An operation holds what was held and what it needed, or nothing any more. -/
theorem perform_held_subset (session : Session Key Write S ε) (db : Db) (op : RequestOp S)
    {lock : RowLock Key} (locked : lock ∈ (E.perform session db op).session.held) :
    lock ∈ session.held ∨ (op.isAuto = false ∧ lock ∈ (E.perform session db op).needs) := by
  cases op with
  | begin => exact .inl locked
  | commit => cases locked
  | rollback => cases locked
  | query op =>
    simp only [perform] at locked ⊢
    split at locked
    · rcases List.mem_append.mp locked with needed | kept
      · exact .inr ⟨rfl, needed⟩
      · exact .inl kept
    · exact .inl locked
  | auto op =>
    simp only [perform] at locked
    split at locked <;> exact .inl locked

theorem perform_locked {session : Session Key Write S ε} {db : Db} (op : RequestOp S)
    (locked : ∀ write ∈ session.pending, E.lockOf write ∈ session.held) :
    ∀ write ∈ (E.perform session db op).session.pending,
      E.lockOf write ∈ (E.perform session db op).session.held := by
  cases op with
  | begin => exact locked
  | commit => exact fun _ pending => nomatch pending
  | rollback => exact fun _ pending => nomatch pending
  | query op =>
    simp only [perform]
    split
    next reply writes executed =>
      intro write pending
      rcases List.mem_append.mp pending with earlier | now
      · exact List.mem_append_right _ (locked write earlier)
      · exact List.mem_append_left _ (List.mem_append_right _ (List.mem_map_of_mem now))
    next => exact locked
  | auto op =>
    simp only [perform]
    split <;> exact locked

theorem failed_locked {session : Session Key Write S ε} (op : RequestOp S) (error : ε)
    (locked : ∀ write ∈ session.pending, E.lockOf write ∈ session.held) :
    ∀ write ∈ (failed session op error).pending, E.lockOf write ∈ (failed session op error).held := by
  unfold failed
  split
  · exact fun _ pending => nomatch pending
  · exact locked

/-- What a step publishes are writes that were compatible with the locks of all others. -/
theorem perform_db_writes {source : System ι Db Key Write S ε α} {i : ι} {op : RequestOp S}
    (exclusive : E.Exclusive source)
    (free : ¬ source.Blocked i op (E.perform (source.thread i).session source.db op).needs) :
    ∃ writes, (E.perform (source.thread i).session source.db op).db = E.applyAll source.db writes ∧
      ∀ write ∈ writes, ∀ j, j ≠ i → ∀ lock ∈ (source.thread j).session.held,
        ¬ (E.lockOf write).Conflicts lock := by
  cases op with
  | begin => exact ⟨[], rfl, fun _ made => nomatch made⟩
  | rollback => exact ⟨[], rfl, fun _ made => nomatch made⟩
  | query op => exact ⟨[], perform_query_db _ _ op, fun _ made => nomatch made⟩
  | commit =>
    exact ⟨_, rfl, fun write pending j other lock held conflict =>
      exclusive.disjoint j i other lock held _ (exclusive.locked i write pending) conflict.symm⟩
  | auto op =>
    simp only [perform] at free ⊢
    split at free
    next reply writes executed =>
      exact ⟨writes, rfl, fun write made j _ lock held conflict =>
        free ⟨j, fun _ => rfl, _, List.mem_append_right _ (List.mem_map_of_mem made), lock, held, conflict⟩⟩
    next => exact ⟨[], rfl, fun _ made => nomatch made⟩

theorem conflicts_lockOf {write : Write} {lock : RowLock Key} (own : lock.mode ≠ .keyShare)
    (sameKey : E.keyOf write = lock.key) : (E.lockOf write).Conflicts lock := by
  refine ⟨sameKey, ?_⟩
  obtain ⟨key, mode⟩ := lock
  cases mode with
  | keyShare => exact absurd rfl own
  | noKeyUpdate => cases erased : (E.valueOf write).isSome <;> simp [lockOf, erased, LockMode.conflicts]
  | update => cases erased : (E.valueOf write).isSome <;> simp [lockOf, erased, LockMode.conflicts]

/-- A row that another request is about to write stays as it is until that request commits. -/
theorem get_perform_of_pending {source : System ι Db Key Write S ε α} {i j : ι} {op : RequestOp S} {write : Write}
    (exclusive : E.Exclusive source) (other : j ≠ i)
    (free : ¬ source.Blocked i op (E.perform (source.thread i).session source.db op).needs)
    (pending : write ∈ (source.thread j).session.pending) :
    E.get (E.perform (source.thread i).session source.db op).db (E.keyOf write) = E.get source.db (E.keyOf write) := by
  obtain ⟨writes, published, compatible⟩ := perform_db_writes exclusive free
  rw [published]
  refine E.get_applyAll_of_untouched fun made isMade sameKey => ?_
  refine compatible made isMade j other _ (exclusive.locked j write pending) (conflicts_lockOf ?_ sameKey)
  unfold lockOf
  split <;> exact LockMode.noConfusion

/-- A write that takes a row away is in conflict with every lock on it. -/
theorem conflicts_lockOf_of_erases {write : Write} {lock : RowLock Key}
    (erases : (E.valueOf write).isSome = false) (sameKey : E.keyOf write = lock.key) :
    (E.lockOf write).Conflicts lock := by
  refine ⟨sameKey, ?_⟩
  obtain ⟨key, mode⟩ := lock
  cases mode <;> simp [lockOf, erases, LockMode.conflicts]

theorem perform_db_of_not_publishes (session : Session Key Write S ε) (db : Db) {op : RequestOp S}
    (quiet : op.publishes = false) : (E.perform session db op).db = db := by
  cases op with
  | query op => exact perform_query_db session db op
  | begin | rollback => rfl
  | commit | auto _ => cases quiet

variable (E) in
/-- Every live request keeps its contract from here on. -/
structure Conforms (contract : ι → Contract Db Key Write S ε)
    (system : System ι Db Key Write S ε α) : Prop where
  exclusive : E.Exclusive system
  safe : ∀ i, (system.thread i).alive = true →
    E.Safe (contract i) (fun _ _ _ => True) (system.thread i).program (system.thread i).session system.db

/-- What each request guarantees, all others may rely on. -/
def Compatible (contract : ι → Contract Db Key Write S ε) : Prop :=
  ∀ i j, i ≠ j → ∀ session op before after, (contract j).guarantee session op before after →
    (contract i).rely before after

/-- The step executes an operation only where the contract of its request assumes it. -/
def Assumed (contract : ι → Contract Db Key Write S ε) (source : System ι Db Key Write S ε α) :
    Act ι ε → Prop
  | .run i => ∀ op resume, (source.thread i).program = .call op resume →
      (contract i).assume (source.thread i).session op source.db
  | .fail _ _ | .crash _ => True

theorem conforms_start {contract : ι → Contract Db Key Write S ε} {db : Db} {program : ι → Request S ε α}
    (safe : ∀ i, E.Safe (contract i) (fun _ _ _ => True) (program i) .empty db) :
    E.Conforms contract (System.start db program) :=
  ⟨E.exclusive_start db program, fun i _ => safe i⟩

/-- What a publishing step of a safe request has guaranteed. -/
theorem guarantee_of_step {contract : ι → Contract Db Key Write S ε} {source : System ι Db Key Write S ε α}
    {i : ι} {op : RequestOp S} {resume : Except ε op.Reply → Request S ε α} (conforms : E.Conforms contract source)
    (alive : (source.thread i).alive = true) (calls : (source.thread i).program = .call op resume)
    (assumed : (contract i).assume (source.thread i).session op source.db) (publishes : op.publishes = true) :
    (contract i).guarantee (source.thread i).session op source.db
      (E.perform (source.thread i).session source.db op).db := by
  have safe := conforms.safe i alive
  rw [calls] at safe
  exact ((safe source.db (.refl (contract i) _ _)).2 assumed).1 publishes

theorem Conforms.interferes {contract : ι → Contract Db Key Write S ε} (compatible : Compatible contract)
    {source : System ι Db Key Write S ε α} {i j : ι} {op : RequestOp S}
    {resume : Except ε op.Reply → Request S ε α} (conforms : E.Conforms contract source) (other : j ≠ i)
    (alive : (source.thread i).alive = true) (calls : (source.thread i).program = .call op resume)
    (free : ¬ source.Blocked i op (E.perform (source.thread i).session source.db op).needs)
    (assumed : (contract i).assume (source.thread i).session op source.db) :
    E.Interferes (contract j).rely (source.thread j).session.held source.db
      (E.perform (source.thread i).session source.db op).db := by
  obtain ⟨writes, published, compatibleWrites⟩ := perform_db_writes conforms.exclusive free
  refine ⟨?_, fun lock held own => ?_, fun lock held present => ?_⟩
  · cases publishes : op.publishes with
    | false =>
      rw [perform_db_of_not_publishes _ _ publishes]
      exact (contract j).reflexive _
    | true =>
      exact compatible j i other _ _ _ _
        (guarantee_of_step conforms alive calls assumed publishes)
  · rw [published]
    exact E.get_applyAll_of_untouched fun write made sameKey =>
      compatibleWrites write made j other lock held (conflicts_lockOf own sameKey)
  · rw [published]
    refine E.isSome_get_applyAll present fun write made sameKey => ?_
    by_contra erases
    exact compatibleWrites write made j other lock held
      (conflicts_lockOf_of_erases (Bool.eq_false_of_not_eq_true erases) sameKey)

section Steps

variable [DecidableEq ι]

/-- Replacing one thread keeps the discipline if its locks were its own or free. -/
theorem Exclusive.update {system : System ι Db Key Write S ε α} (exclusive : E.Exclusive system) (db : Db)
    {i : ι} {thread : Thread Key Write S ε α}
    (fresh : ∀ lock ∈ thread.session.held, lock ∈ (system.thread i).session.held ∨
      ∀ j, j ≠ i → ∀ other ∈ (system.thread j).session.held, ¬ lock.Conflicts other)
    (locked : ∀ write ∈ thread.session.pending, E.lockOf write ∈ thread.session.held) :
    E.Exclusive (⟨db, Function.update system.thread i thread⟩ : System ι Db Key Write S ε α) := by
  have own : ∀ lock ∈ thread.session.held, ∀ j, j ≠ i → ∀ other ∈ (system.thread j).session.held,
      ¬ lock.Conflicts other := by
    intro lock held j differ
    rcases fresh lock held with before | free
    · exact exclusive.disjoint i j differ.symm lock before
    · exact free j differ
  constructor
  · intro left right differ lock held
    by_cases isLeft : left = i
    · subst isLeft
      simp only [Function.update_self] at held
      simp only [Function.update_of_ne differ.symm]
      exact own lock held right differ.symm
    · simp only [Function.update_of_ne isLeft] at held
      by_cases isRight : right = i
      · subst isRight
        simp only [Function.update_self]
        exact fun other also conflict => own other also left isLeft lock held conflict.symm
      · simp only [Function.update_of_ne isRight]
        exact exclusive.disjoint left right differ lock held
  · intro j write pending
    by_cases same : j = i
    · subst same
      simp only [Function.update_self] at pending ⊢
      exact locked write pending
    · simp only [Function.update_of_ne same] at pending ⊢
      exact exclusive.locked j write pending

variable [Fintype ι] [DecidableEq Key]

theorem exclusive_step {source target : System ι Db Key Write S ε α} {act : Act ι ε}
    (exclusive : E.Exclusive source) (stepped : E.Steps source act target) : E.Exclusive target := by
  rcases E.steps_cases stepped with ⟨i, op, resume, -, -, -, free, rfl⟩ | ⟨i, error, op, resume, -, -, -, rfl⟩ |
    ⟨i, -, -, rfl⟩
  · refine exclusive.update _ (fun lock held => ?_) (perform_locked op (exclusive.locked i))
    rcases perform_held_subset _ _ op held with before | ⟨_, needed⟩
    · exact .inl before
    · exact .inr fun j differ other also conflict =>
        free ⟨j, fun same => absurd same differ, lock, needed, other, also, conflict⟩
  · exact exclusive.update _ (fun lock held => .inl (failed_held_subset _ op error held))
      (failed_locked op error (exclusive.locked i))
  · exact exclusive.update _ (fun lock held => nomatch held) fun _ pending => nomatch pending

/-- The step rule: requests whose contracts fit together stay safe. -/
theorem conforms_step {contract : ι → Contract Db Key Write S ε} (compatible : Compatible contract)
    {source target : System ι Db Key Write S ε α} {act : Act ι ε} (conforms : E.Conforms contract source)
    (stepped : E.Steps source act target) (assumed : Assumed contract source act) :
    E.Conforms contract target := by
  refine ⟨exclusive_step conforms.exclusive stepped, ?_⟩
  rcases E.steps_cases stepped with ⟨i, op, resume, rfl, alive, calls, free, rfl⟩ |
    ⟨i, error, op, resume, rfl, alive, calls, rfl⟩ | ⟨i, rfl, alive, rfl⟩
  · intro j aliveAfter
    by_cases same : j = i
    · subst same
      have safe := conforms.safe j alive
      rw [calls] at safe
      simp only [Function.update_self]
      exact ((safe source.db (.refl (contract j) _ _)).2 (assumed op resume calls)).2
    · simp only [Function.update_of_ne same] at aliveAfter ⊢
      exact (conforms.safe j aliveAfter).stable
        (conforms.interferes compatible same alive calls free (assumed op resume calls))
  · intro j aliveAfter
    by_cases same : j = i
    · subst same
      have safe := conforms.safe j alive
      rw [calls] at safe
      simp only [Function.update_self]
      exact (safe source.db (.refl (contract j) _ _)).1 error
    · simp only [Function.update_of_ne same] at aliveAfter ⊢
      exact conforms.safe j aliveAfter
  · intro j aliveAfter
    by_cases same : j = i
    · subst same
      simp only [Function.update_self] at aliveAfter
      cases aliveAfter
    · simp only [Function.update_of_ne same] at aliveAfter ⊢
      exact conforms.safe j aliveAfter

/-- The run rule for contracts that assume of the committed database what every guarantee keeps. -/
theorem conforms_of_run {contract : ι → Contract Db Key Write S ε} {sound : Db → Prop} (compatible : Compatible contract)
    (assumes : ∀ i session op db, sound db → (contract i).assume session op db)
    (keeps : ∀ i session op before after, (contract i).guarantee session op before after → sound after)
    {start : System ι Db Key Write S ε α} (conforms : E.Conforms contract start) (isSound : sound start.db)
    {run : List (Act ι ε × System ι Db Key Write S ε α)} (isRun : Transition.Run E.Steps start run) :
    Transition.EachState (fun system => E.Conforms contract system ∧ sound system.db) start run := by
  refine Transition.eachState_of_step ?_ ⟨conforms, isSound⟩ isRun
  rintro source act target ⟨conforms, isSound⟩ stepped
  have assumed : Assumed contract source act := by
    cases act with
    | run i => exact fun op _ _ => assumes i _ op _ isSound
    | fail | crash => trivial
  refine ⟨conforms_step compatible conforms stepped assumed, ?_⟩
  rcases E.steps_cases stepped with ⟨i, op, resume, -, alive, calls, -, rfl⟩ | ⟨i, error, op, resume, -, -, -, rfl⟩ |
    ⟨i, -, -, rfl⟩
  · cases publishes : op.publishes with
    | true =>
      exact keeps i _ op _ _ (guarantee_of_step conforms alive calls (assumes i _ op _ isSound) publishes)
    | false =>
      rw [perform_db_of_not_publishes _ _ publishes]
      exact isSound
  · exact isSound
  · exact isSound

end Steps

end Engine

end StoreSaas
