import Mathlib.Data.Fintype.Basic
import StoreSaas.Library.Program
import StoreSaas.Library.Transition

/-! # Requests on a read-committed database with row locks

An `Engine` is a database seen through its rows: what a statement replies and
writes when it is executed on a given view, and which rows it locks, how.  A request
runs statements either inside its own transaction (`query`, between `begin` and
`commit` or `rollback`) or on another connection that commits by itself (`auto`).

* A transaction's view is the committed database under its own pending writes, so
  every statement sees what was committed last (READ COMMITTED).
* A statement that writes or locks a row waits until no other transaction holds a
  conflicting lock on it, and then sees the row as committed by then; locks are
  kept until the transaction ends.
* Any operation may fail, and a request may die at any point; its pending writes
  and its locks are gone then.

`Engine.step` is the scheduler: it picks a request and executes its next
operation, lets it fail, or kills the request.
-/

namespace StoreSaas

/-! ## The operations of a request -/

inductive RequestOp (S : Signature) where
  | begin
  | query (op : S.Op)
  | commit
  | rollback
  | auto (op : S.Op)

namespace RequestOp

variable {S : Signature}

def Reply : RequestOp S → Type
  | .query op => S.Reply op
  | .auto op => S.Reply op
  | .begin | .commit | .rollback => Unit

/-- The operations after which other requests may see a change. -/
def publishes : RequestOp S → Bool
  | .commit | .auto _ => true
  | .begin | .query _ | .rollback => false

def isAuto : RequestOp S → Bool
  | .auto _ => true
  | .begin | .query _ | .commit | .rollback => false

def endsTransaction : RequestOp S → Bool
  | .commit | .rollback => true
  | .begin | .query _ | .auto _ => false

end RequestOp

abbrev requestSignature (S : Signature) : Signature := ⟨RequestOp S, RequestOp.Reply⟩

abbrev Request (S : Signature) (ε α : Type) := Program (requestSignature S) ε α

namespace Program

variable {S : Signature} {ε α : Type}

/-- Statements on the connection of the request's own transaction. -/
def inTransaction : Program S ε α → Request S ε α
  | .done value => .done value
  | .throw error => .throw error
  | .call op resume => .call (.query op) fun reply => (resume reply).inTransaction

theorem inTransaction_bind {β : Type} (program : Program S ε α) (next : α → Program S ε β) :
    (program >>= next).inTransaction = program.inTransaction >>= fun value => (next value).inTransaction := by
  induction program with
  | done value => rfl
  | throw error => rfl
  | call op resume ih => exact congrArg (Program.call _) (funext fun reply => ih reply)

/-- Statements that each commit by themselves, on any connection of the pool. -/
def autocommit : Program S ε α → Request S ε α
  | .done value => .done value
  | .throw error => .throw error
  | .call op resume => .call (.auto op) fun reply => (resume reply).autocommit

theorem autocommit_bind {β : Type} (program : Program S ε α) (next : α → Program S ε β) :
    (program >>= next).autocommit = program.autocommit >>= fun value => (next value).autocommit := by
  induction program with
  | done value => rfl
  | throw error => rfl
  | call op resume ih => exact congrArg (Program.call _) (funext fun reply => ih reply)

theorem Only.inTransaction {allowed : S.Op → Prop} {more : RequestOp S → Prop} {program : Program S ε α}
    (only : program.Only allowed) (lifts : ∀ op, allowed op → more (.query op)) :
    program.inTransaction.Only (S := requestSignature S) more := by
  induction program with
  | done | throw => trivial
  | call op resume ih => exact ⟨lifts op only.1, fun reply => ih reply (only.2 reply)⟩

theorem Only.autocommit {allowed : S.Op → Prop} {more : RequestOp S → Prop} {program : Program S ε α}
    (only : program.Only allowed) (lifts : ∀ op, allowed op → more (.auto op)) :
    program.autocommit.Only (S := requestSignature S) more := by
  induction program with
  | done | throw => trivial
  | call op resume ih => exact ⟨lifts op only.1, fun reply => ih reply (only.2 reply)⟩

/-- How the body of a transaction ends: commit a value, roll back on an error. -/
def endTransaction : Except ε α → Request S ε α
  | .ok value => .call .commit (onOk fun _ => .done value)
  | .error error => .call .rollback fun _ => .throw error

def withTransaction (body : Request S ε α) : Request S ε α :=
  .call .begin (onOk fun _ => body.handle endTransaction)

end Program

/-! ## Row locks -/

/-- `FOR KEY SHARE`, taken on a referenced row; `FOR NO KEY UPDATE`, taken by an `UPDATE`;
    `FOR UPDATE`, taken by a `DELETE` as well. -/
inductive LockMode where
  | keyShare
  | noKeyUpdate
  | update
  deriving DecidableEq

def LockMode.conflicts : LockMode → LockMode → Bool
  | .keyShare, .update | .update, .keyShare => true
  | .keyShare, _ | _, .keyShare => false
  | _, _ => true

structure RowLock (Key : Type) where
  key : Key
  mode : LockMode
  deriving DecidableEq

def RowLock.Conflicts {Key : Type} (left right : RowLock Key) : Prop :=
  left.key = right.key ∧ left.mode.conflicts right.mode = true

instance {Key : Type} [DecidableEq Key] (left right : RowLock Key) : Decidable (left.Conflicts right) :=
  inferInstanceAs (Decidable (_ ∧ _))

theorem RowLock.Conflicts.symm {Key : Type} {left right : RowLock Key} (conflict : left.Conflicts right) :
    right.Conflicts left := by
  obtain ⟨sameKey, modes⟩ := conflict
  refine ⟨sameKey.symm, ?_⟩
  revert modes
  cases left.mode <;> cases right.mode <;> exact id

/-! ## The database -/

structure Engine (Db Key Write : Type) (Val : Key → Type) (S : Signature) (ε : Type) where
  get : Db → (key : Key) → Option (Val key)
  apply : Db → Write → Db
  keyOf : Write → Key
  valueOf : (write : Write) → Option (Val (keyOf write))
  /-- The reply of a statement on a view and the writes it makes, or its error. -/
  execute : (op : S.Op) → Db → Except ε (S.Reply op × List Write)
  /-- The locks a statement takes besides those of its writes. -/
  locks : S.Op → Db → List (RowLock Key)
  get_apply_same : ∀ db write, get (apply db write) (keyOf write) = valueOf write
  get_apply_ne : ∀ db write key, key ≠ keyOf write → get (apply db write) key = get db key

structure Session (Key Write : Type) (S : Signature) (ε : Type) where
  held : List (RowLock Key)
  pending : List Write
  /-- What the request has executed, the latest first. -/
  log : List (Σ op : RequestOp S, Except ε op.Reply)

def Session.empty {Key Write : Type} {S : Signature} {ε : Type} : Session Key Write S ε := ⟨[], [], []⟩

/-- The session after its transaction ended. -/
def Session.closed {Key Write : Type} {S : Signature} {ε : Type} (session : Session Key Write S ε) :
    Session Key Write S ε :=
  { session with held := [], pending := [] }

structure Outcome (Db Key Write : Type) (S : Signature) (ε : Type) (op : RequestOp S) where
  reply : Except ε op.Reply
  session : Session Key Write S ε
  db : Db
  /-- The locks that no other transaction could be in conflict with for the operation to run. -/
  needs : List (RowLock Key)

structure Thread (Key Write : Type) (S : Signature) (ε α : Type) where
  session : Session Key Write S ε
  program : Request S ε α
  alive : Bool

/-- The request has not ended yet. -/
def Thread.underWay {Key Write : Type} {S : Signature} {ε α : Type} (thread : Thread Key Write S ε α) : Bool :=
  thread.alive && !thread.program.ended

structure System (ι Db Key Write : Type) (S : Signature) (ε α : Type) where
  db : Db
  thread : ι → Thread Key Write S ε α

/-- The system in which no request has started. -/
def System.start {ι Db Key Write : Type} {S : Signature} {ε α : Type} (db : Db)
    (program : ι → Request S ε α) : System ι Db Key Write S ε α :=
  ⟨db, fun i => ⟨.empty, program i, true⟩⟩

/-- Another transaction holds a lock in conflict with one the operation needs; an autocommitted
    statement waits for the request's own transaction as well. -/
def System.Blocked {ι Db Key Write : Type} {S : Signature} {ε α : Type}
    (system : System ι Db Key Write S ε α) (i : ι) (op : RequestOp S) (needs : List (RowLock Key)) :
    Prop :=
  ∃ j, (j = i → op.isAuto = true) ∧ ∃ need ∈ needs, ∃ lock ∈ (system.thread j).session.held, need.Conflicts lock

instance {ι Db Key Write : Type} {S : Signature} {ε α : Type} [Fintype ι] [DecidableEq ι] [DecidableEq Key]
    (system : System ι Db Key Write S ε α) (i : ι) (op : RequestOp S)
    (needs : List (RowLock Key)) : Decidable (system.Blocked i op needs) :=
  inferInstanceAs (Decidable (∃ j, (j = i → op.isAuto = true) ∧
    ∃ need ∈ needs, ∃ lock ∈ (system.thread j).session.held, need.Conflicts lock))

inductive Act (ι ε : Type) where
  | run (i : ι)
  | fail (i : ι) (error : ε)
  | crash (i : ι)

namespace Engine

variable {Db Key Write : Type} {Val : Key → Type} {S : Signature} {ε α ι : Type}
variable (E : Engine Db Key Write Val S ε)

def applyAll (db : Db) (writes : List Write) : Db := writes.foldl E.apply db

@[simp] theorem applyAll_nil (db : Db) : E.applyAll db [] = db := rfl
@[simp] theorem applyAll_cons (db : Db) (write : Write) (writes : List Write) :
    E.applyAll db (write :: writes) = E.applyAll (E.apply db write) writes := rfl

theorem applyAll_append (db : Db) (first second : List Write) :
    E.applyAll db (first ++ second) = E.applyAll (E.applyAll db first) second :=
  List.foldl_append

theorem get_applyAll_of_untouched {db : Db} {writes : List Write} {key : Key}
    (untouched : ∀ write ∈ writes, E.keyOf write ≠ key) :
    E.get (E.applyAll db writes) key = E.get db key := by
  induction writes generalizing db with
  | nil => rfl
  | cons write rest ih =>
    rw [applyAll_cons, ih fun other present => untouched other (List.mem_cons_of_mem _ present)]
    exact E.get_apply_ne db write key (untouched write List.mem_cons_self).symm

/-- A row is as its write says, if there is no other write of it. -/
theorem get_applyAll_of_mem {db : Db} {writes : List Write} {write : Write} (made : write ∈ writes)
    (only : ∀ other ∈ writes, E.keyOf other = E.keyOf write → other = write) :
    E.get (E.applyAll db writes) (E.keyOf write) = E.valueOf write := by
  induction writes generalizing db with
  | nil => cases made
  | cons first rest ih =>
    rw [applyAll_cons]
    by_cases again : write ∈ rest
    · exact ih again fun other inRest => only other (List.mem_cons_of_mem _ inRest)
    · obtain rfl := (List.mem_cons.mp made).resolve_right again
      rw [E.get_applyAll_of_untouched, E.get_apply_same]
      intro other inRest sameKey
      exact again (only other (List.mem_cons_of_mem _ inRest) sameKey ▸ inRest)

/-- A row of the view depends on the same row below and on the writes alone. -/
theorem get_applyAll_congr {db other : Db} (writes : List Write) {key : Key}
    (same : E.get db key = E.get other key) :
    E.get (E.applyAll db writes) key = E.get (E.applyAll other writes) key := by
  induction writes generalizing db other with
  | nil => exact same
  | cons write rest ih =>
    apply ih
    by_cases touched : key = E.keyOf write
    · subst touched
      rw [E.get_apply_same, E.get_apply_same]
    · rw [E.get_apply_ne db write key touched, E.get_apply_ne other write key touched, same]

theorem isSome_get_applyAll {db : Db} {writes : List Write} {key : Key}
    (present : (E.get db key).isSome = true)
    (kept : ∀ write ∈ writes, E.keyOf write = key → (E.valueOf write).isSome = true) :
    (E.get (E.applyAll db writes) key).isSome = true := by
  induction writes generalizing db with
  | nil => exact present
  | cons write rest ih =>
    refine ih ?_ fun other inRest => kept other (List.mem_cons_of_mem _ inRest)
    by_cases touched : key = E.keyOf write
    · subst touched
      rw [E.get_apply_same]
      exact kept write List.mem_cons_self rfl
    · rw [E.get_apply_ne db write key touched]
      exact present

theorem get_applyAll_eq_none {db : Db} {writes : List Write} {key : Key} (absent : E.get db key = none)
    (erases : ∀ write ∈ writes, E.keyOf write = key → E.valueOf write = none) :
    E.get (E.applyAll db writes) key = none := by
  induction writes generalizing db with
  | nil => exact absent
  | cons write rest ih =>
    refine ih ?_ fun other inRest => erases other (List.mem_cons_of_mem _ inRest)
    by_cases touched : key = E.keyOf write
    · subst touched
      rw [E.get_apply_same]
      exact erases write List.mem_cons_self rfl
    · rw [E.get_apply_ne db write key touched]
      exact absent

/-- The lock of a write: a row that goes is locked against references to it too. -/
def lockOf (write : Write) : RowLock Key :=
  ⟨E.keyOf write, if (E.valueOf write).isSome then .noKeyUpdate else .update⟩

/-- All the locks of a statement that made these writes. -/
def locksOf (op : S.Op) (view : Db) (writes : List Write) : List (RowLock Key) :=
  E.locks op view ++ writes.map E.lockOf

/-- The database as a transaction sees it. -/
def view (db : Db) (session : Session Key Write S ε) : Db := E.applyAll db session.pending

/-! ## One operation -/

/-- What an operation does when nothing stands in its way. -/
def perform (session : Session Key Write S ε) (db : Db) : (op : RequestOp S) → Outcome Db Key Write S ε op
  | .begin => ⟨.ok (), { session with log := ⟨.begin, .ok ()⟩ :: session.log }, db, []⟩
  | .query op =>
    match E.execute op (E.view db session) with
    | .ok (reply, writes) =>
      let needs := E.locksOf op (E.view db session) writes
      ⟨.ok reply,
        { held := needs ++ session.held
          pending := session.pending ++ writes
          log := ⟨.query op, .ok reply⟩ :: session.log },
        db, needs⟩
    | .error error => ⟨.error error, { session with log := ⟨.query op, .error error⟩ :: session.log }, db, []⟩
  | .commit =>
    ⟨.ok (), { session.closed with log := ⟨.commit, .ok ()⟩ :: session.log },
      E.applyAll db session.pending, []⟩
  | .rollback => ⟨.ok (), { session.closed with log := ⟨.rollback, .ok ()⟩ :: session.log }, db, []⟩
  | .auto op =>
    match E.execute op db with
    | .ok (reply, writes) =>
      ⟨.ok reply, { session with log := ⟨.auto op, .ok reply⟩ :: session.log },
        E.applyAll db writes, E.locksOf op db writes⟩
    | .error error => ⟨.error error, { session with log := ⟨.auto op, .error error⟩ :: session.log }, db, []⟩

/-- The session after an operation failed: a failed `COMMIT` ends the transaction. -/
def failed (session : Session Key Write S ε) (op : RequestOp S) (error : ε) : Session Key Write S ε :=
  { (if op.endsTransaction then session.closed else session) with log := ⟨op, .error error⟩ :: session.log }

/-! ## The scheduler -/

variable [Fintype ι] [DecidableEq ι] [DecidableEq Key]

def step (system : System ι Db Key Write S ε α) : Act ι ε → Option (System ι Db Key Write S ε α)
  | .run i =>
    match (system.thread i).program with
    | .call op resume =>
      let outcome := E.perform (system.thread i).session system.db op
      if (system.thread i).alive = true ∧ ¬ system.Blocked i op outcome.needs then
        some ⟨outcome.db, Function.update system.thread i ⟨outcome.session, resume outcome.reply, true⟩⟩
      else none
    | .done _ | .throw _ => none
  | .fail i error =>
    match (system.thread i).program with
    | .call op resume =>
      if (system.thread i).alive = true then
        some ⟨system.db, Function.update system.thread i
          ⟨failed (system.thread i).session op error, resume (.error error), true⟩⟩
      else none
    | .done _ | .throw _ => none
  | .crash i =>
    if (system.thread i).alive = true then
      some ⟨system.db, Function.update system.thread i
        ⟨(system.thread i).session.closed, (system.thread i).program, false⟩⟩
    else none

/-- The transition relation of the scheduler. -/
def Steps (source : System ι Db Key Write S ε α) (act : Act ι ε) (target : System ι Db Key Write S ε α) :
    Prop :=
  E.step source act = some target

/-- The states reached by a list of acts, in the form of a run; `none` if one is not enabled. -/
def trace (system : System ι Db Key Write S ε α) :
    List (Act ι ε) → Option (List (Act ι ε × System ι Db Key Write S ε α))
  | [] => some []
  | act :: rest =>
    match E.step system act with
    | some next => (trace next rest).map ((act, next) :: ·)
    | none => none

theorem run_of_trace {system : System ι Db Key Write S ε α} {acts : List (Act ι ε)}
    {run : List (Act ι ε × System ι Db Key Write S ε α)} (traced : E.trace system acts = some run) :
    Transition.Run E.Steps system run := by
  induction acts generalizing system run with
  | nil => simp only [trace, Option.some.injEq] at traced; subst traced; trivial
  | cons act rest ih =>
    simp only [trace] at traced
    cases stepped : E.step system act with
    | none => simp [stepped] at traced
    | some next =>
      simp only [stepped, Option.map_eq_some_iff] at traced
      obtain ⟨tail, tailTraced, rfl⟩ := traced
      exact ⟨stepped, ih tailTraced⟩

theorem run_get_trace {system : System ι Db Key Write S ε α} {acts : List (Act ι ε)}
    (enabled : (E.trace system acts).isSome = true) :
    Transition.Run E.Steps system ((E.trace system acts).get enabled) :=
  E.run_of_trace (Option.some_get enabled).symm

/-- Everything one step of the scheduler can be. -/
theorem steps_cases {source target : System ι Db Key Write S ε α} {act : Act ι ε}
    (stepped : E.Steps source act target) :
    (∃ i op resume, act = .run i ∧ (source.thread i).alive = true ∧
      (source.thread i).program = .call op resume ∧
      ¬ source.Blocked i op (E.perform (source.thread i).session source.db op).needs ∧
      target = ⟨(E.perform (source.thread i).session source.db op).db,
        Function.update source.thread i
          ⟨(E.perform (source.thread i).session source.db op).session,
            resume (E.perform (source.thread i).session source.db op).reply, true⟩⟩) ∨
    (∃ i error op resume, act = .fail i error ∧ (source.thread i).alive = true ∧
      (source.thread i).program = .call op resume ∧
      target = ⟨source.db, Function.update source.thread i
        ⟨failed (source.thread i).session op error, resume (.error error), true⟩⟩) ∨
    (∃ i, act = .crash i ∧ (source.thread i).alive = true ∧
      target = ⟨source.db, Function.update source.thread i
        ⟨(source.thread i).session.closed, (source.thread i).program, false⟩⟩) := by
  cases act with
  | run i =>
    simp only [Steps, step] at stepped
    split at stepped
    next op resume calls =>
      split at stepped
      next enabled =>
        exact .inl ⟨i, op, resume, rfl, enabled.1, calls, enabled.2, (Option.some.inj stepped).symm⟩
      next => cases stepped
    next => cases stepped
    next => cases stepped
  | fail i error =>
    simp only [Steps, step] at stepped
    split at stepped
    next op resume calls =>
      split at stepped
      next alive =>
        exact .inr (.inl ⟨i, error, op, resume, rfl, alive, calls, (Option.some.inj stepped).symm⟩)
      next => cases stepped
    next => cases stepped
    next => cases stepped
  | crash i =>
    simp only [Steps, step] at stepped
    split at stepped
    next alive => exact .inr (.inr ⟨i, rfl, alive, (Option.some.inj stepped).symm⟩)
    next => cases stepped

/-- Only requests that have not ended take steps. -/
theorem underWay_of_run {source target : System ι Db Key Write S ε α} {i : ι}
    (stepped : E.Steps source (.run i) target) : (source.thread i).underWay = true := by
  rcases E.steps_cases stepped with ⟨j, op, resume, isRun, alive, calls, -⟩ | ⟨j, _, _, _, isFail, -⟩ |
    ⟨j, isCrash, -⟩
  · cases isRun
    simp only [Thread.underWay, alive, calls, Program.ended, Bool.not_false, Bool.and_self]
  · cases isFail
  · cases isCrash

/-- A request that has ended stays so. -/
theorem underWay_of_steps {source target : System ι Db Key Write S ε α} {act : Act ι ε}
    (stepped : E.Steps source act target) {i : ι} (underWay : (target.thread i).underWay = true) :
    (source.thread i).underWay = true := by
  rcases E.steps_cases stepped with ⟨j, op, resume, -, alive, calls, -, rfl⟩ |
    ⟨j, error, op, resume, -, alive, calls, rfl⟩ | ⟨j, -, -, rfl⟩
  · by_cases isJ : i = j
    · subst isJ
      simp only [Thread.underWay, alive, calls, Program.ended, Bool.not_false, Bool.and_self]
    · simpa only [Function.update_of_ne isJ] using underWay
  · by_cases isJ : i = j
    · subst isJ
      simp only [Thread.underWay, alive, calls, Program.ended, Bool.not_false, Bool.and_self]
    · simpa only [Function.update_of_ne isJ] using underWay
  · by_cases isJ : i = j
    · subst isJ
      simp only [Thread.underWay, Function.update_self, Bool.false_and, Bool.false_eq_true] at underWay
    · simpa only [Function.update_of_ne isJ] using underWay

end Engine

end StoreSaas
