import Mathlib.Algebra.BigOperators.Group.Finset.Basic
import Mathlib.Data.Fintype.BigOperators
import StoreSaas.Library.RelyGuarantee

/-! # Requests that are one transaction

Such a request publishes by its commit alone and does nothing afterwards, so a run
is a sequence of silent steps and of commits.  `committedTotal` adds up a quantity
over the requests that have committed; `transactional_step_cases` says what a step
does to it and to the database.
-/

namespace StoreSaas

namespace Program

variable {S : Signature} {ε α : Type}

/-- The next operation is the `COMMIT`. -/
def atCommit : Request S ε α → Bool
  | .call .commit _ => true
  | _ => false

/-- Nothing is autocommitted, and nothing follows the commit. -/
def IsTransaction : Request S ε α → Prop
  | .done _ | .throw _ => True
  | .call op resume =>
    RequestOp.isAuto op = false ∧ (RequestOp.publishes op = true → ∀ reply, (resume reply).ended = true) ∧
      ∀ reply, IsTransaction (resume reply)

theorem isTransaction_endTransaction (result : Except ε α) : (endTransaction (S := S) result).IsTransaction := by
  cases result with
  | ok value =>
    refine ⟨rfl, fun _ reply => ?_, fun reply => ?_⟩ <;> cases reply
    · rfl
    · rfl
    · trivial
    · trivial
  | error error => exact ⟨rfl, fun publishes => (nomatch publishes), fun _ => trivial⟩

theorem isTransaction_handle (body : Program S ε α) :
    (body.inTransaction.handle endTransaction).IsTransaction := by
  induction body with
  | done value => exact isTransaction_endTransaction (.ok value)
  | throw error => exact isTransaction_endTransaction (.error error)
  | call op resume ih => exact ⟨rfl, fun publishes => (nomatch publishes), ih⟩

theorem isTransaction_withTransaction (body : Program S ε α) :
    (withTransaction body.inTransaction).IsTransaction := by
  refine ⟨rfl, fun publishes => (nomatch publishes), fun reply => ?_⟩
  cases reply with
  | ok _ => exact isTransaction_handle body
  | error _ => trivial

end Program

section Committed

variable {ι Db Key Write : Type} {S : Signature} {ε α : Type}

/-- The operations of a request with their replies, the latest first. -/
abbrev Log (S : Signature) (ε : Type) : Type := List (Σ op : RequestOp S, Except ε op.Reply)

def Session.committed (session : Session Key Write S ε) : Bool :=
  session.log.any fun entry => match entry with
    | ⟨.commit, .ok _⟩ => true
    | _ => false

@[simp] theorem committed_closed (session : Session Key Write S ε) :
    session.closed.committed = session.committed := rfl

/-- What the requests that have committed amount to. -/
def System.committedTotal [Fintype ι] (system : System ι Db Key Write S ε α) (amount : ι → Log S ε → Int) : Int :=
  ∑ i, if (system.thread i).session.committed then amount i (system.thread i).session.log else 0

theorem committedTotal_add [Fintype ι] (system : System ι Db Key Write S ε α) (first second : ι → Log S ε → Int) :
    (system.committedTotal fun i log => first i log + second i log) =
      system.committedTotal first + system.committedTotal second := by
  simp only [System.committedTotal, ← Finset.sum_add_distrib]
  refine Finset.sum_congr rfl fun i _ => ?_
  split <;> rfl

theorem committedTotal_sub [Fintype ι] (system : System ι Db Key Write S ε α) (first second : ι → Log S ε → Int) :
    (system.committedTotal fun i log => first i log - second i log) =
      system.committedTotal first - system.committedTotal second := by
  simp only [System.committedTotal, ← Finset.sum_sub_distrib]
  refine Finset.sum_congr rfl fun i _ => ?_
  split <;> rfl

structure System.Transactional (system : System ι Db Key Write S ε α) : Prop where
  shape : ∀ i, (system.thread i).program.IsTransaction
  last : ∀ i, (system.thread i).session.committed = true → (system.thread i).program.ended = true

theorem System.Transactional.uncommitted {system : System ι Db Key Write S ε α}
    (transactional : system.Transactional) {i : ι} {op : RequestOp S}
    {resume : Except ε op.Reply → Request S ε α} (calls : (system.thread i).program = .call op resume) :
    (system.thread i).session.committed = false := by
  by_contra committed
  have isOver := transactional.last i (Bool.eq_true_of_not_eq_false committed)
  rw [calls] at isOver
  cases isOver

theorem transactional_start {db : Db} {program : ι → Request S ε α} (shape : ∀ i, (program i).IsTransaction) :
    (System.start db program : System ι Db Key Write S ε α).Transactional :=
  ⟨shape, fun _ committed => nomatch committed⟩

theorem committedTotal_start [Fintype ι] (db : Db) (program : ι → Request S ε α) (amount : ι → Log S ε → Int) :
    (System.start db program : System ι Db Key Write S ε α).committedTotal amount = 0 :=
  Finset.sum_eq_zero fun _ _ => rfl

variable [DecidableEq ι]

theorem transactional_update {system : System ι Db Key Write S ε α} (transactional : system.Transactional)
    (db : Db) {i : ι} {thread : Thread Key Write S ε α} (shape : thread.program.IsTransaction)
    (last : thread.session.committed = true → thread.program.ended = true) :
    (⟨db, Function.update system.thread i thread⟩ : System ι Db Key Write S ε α).Transactional := by
  constructor
  · intro j
    by_cases same : j = i
    · subst same; simpa only [Function.update_self] using shape
    · simpa only [Function.update_of_ne same] using transactional.shape j
  · intro j
    by_cases same : j = i
    · subst same; simpa only [Function.update_self] using last
    · simpa only [Function.update_of_ne same] using transactional.last j

theorem committedTotal_update [Fintype ι] (system : System ι Db Key Write S ε α) (db : Db) (i : ι)
    (thread : Thread Key Write S ε α) (amount : ι → Log S ε → Int) :
    (⟨db, Function.update system.thread i thread⟩ : System ι Db Key Write S ε α).committedTotal amount =
      system.committedTotal amount +
        ((if thread.session.committed then amount i thread.session.log else 0) -
          if (system.thread i).session.committed then amount i (system.thread i).session.log else 0) := by
  let contribution (j : ι) (thread : Thread Key Write S ε α) : Int :=
    if thread.session.committed then amount j thread.session.log else 0
  have split (threads : ι → Thread Key Write S ε α) : ∑ j, contribution j (threads j) =
      contribution i (threads i) + ∑ j ∈ Finset.univ.erase i, contribution j (threads j) :=
    (Finset.add_sum_erase _ _ (Finset.mem_univ i)).symm
  have others : ∑ j ∈ Finset.univ.erase i, contribution j (Function.update system.thread i thread j) =
      ∑ j ∈ Finset.univ.erase i, contribution j (system.thread j) :=
    Finset.sum_congr rfl fun j present => by rw [Function.update_of_ne (Finset.ne_of_mem_erase present)]
  have after := split (Function.update system.thread i thread)
  have before := split system.thread
  rw [others, Function.update_self] at after
  change ∑ j, contribution j (Function.update system.thread i thread j) =
    ∑ j, contribution j (system.thread j) + (contribution i thread - contribution i (system.thread i))
  omega

end Committed

namespace Engine

variable {Db Key Write : Type} {Val : Key → Type} {S : Signature} {ε α ι : Type}
variable {E : Engine Db Key Write Val S ε}

theorem committed_perform {session : Session Key Write S ε} {db : Db} {op : RequestOp S}
    (silent : op.publishes = false) : (E.perform session db op).session.committed = session.committed := by
  cases op with
  | begin | rollback => rfl
  | query op => simp only [perform]; split <;> rfl
  | commit | auto _ => cases silent

theorem committed_failed (session : Session Key Write S ε) (op : RequestOp S) (error : ε) :
    (failed session op error).committed = session.committed := by
  cases op <;> rfl

/-- A step that publishes nothing. -/
structure Silent [Fintype ι] (source : System ι Db Key Write S ε α) (act : Act ι ε)
    (target : System ι Db Key Write S ε α) : Prop where
  quiet : ∀ i, act = .run i → (source.thread i).program.atCommit = false
  db : target.db = source.db
  committed : ∀ k, (target.thread k).session.committed = (source.thread k).session.committed
  total : ∀ amount, target.committedTotal amount = source.committedTotal amount

/-- The step in which request `i` commits. -/
structure CommitOf [Fintype ι] (E : Engine Db Key Write Val S ε) (source : System ι Db Key Write S ε α)
    (act : Act ι ε) (i : ι) (target : System ι Db Key Write S ε α) : Prop where
  isAct : act = .run i
  alive : (source.thread i).alive = true
  calls : ∃ resume, (source.thread i).program = .call .commit resume
  db : target.db = E.view source.db (source.thread i).session
  open_before : (source.thread i).session.committed = false
  committed_after : (target.thread i).session.committed = true
  others : ∀ k, k ≠ i → (target.thread k).session.committed = (source.thread k).session.committed
  total : ∀ amount, target.committedTotal amount =
    source.committedTotal amount + amount i (⟨.commit, .ok ()⟩ :: (source.thread i).session.log)

variable [Fintype ι] [DecidableEq ι]

/-- A thread that steps without committing. -/
theorem silent_update {source : System ι Db Key Write S ε α} {act : Act ι ε} {db : Db}
    (quiet : ∀ i, act = .run i → (source.thread i).program.atCommit = false) (sameDb : db = source.db) {i : ι}
    {thread : Thread Key Write S ε α}
    (committed : thread.session.committed = (source.thread i).session.committed)
    (logged : thread.session.committed = true → thread.session.log = (source.thread i).session.log) :
    Silent source act (⟨db, Function.update source.thread i thread⟩ : System ι Db Key Write S ε α) := by
  refine ⟨quiet, sameDb, fun k => ?_, fun amount => ?_⟩
  · by_cases same : k = i
    · subst same
      simpa only [Function.update_self] using committed
    · simp only [Function.update_of_ne same]
  · have nothing : (if thread.session.committed then amount i thread.session.log else 0) =
        if (source.thread i).session.committed then amount i (source.thread i).session.log else 0 := by
      rw [← committed]
      split
      next isCommitted => rw [logged isCommitted]
      next => rfl
    rw [committedTotal_update, nothing, Int.sub_self, Int.add_zero]

variable [DecidableEq Key]

/-- A step of requests that are transactions is silent or a commit. -/
theorem transactional_step_cases {source target : System ι Db Key Write S ε α} {act : Act ι ε}
    (transactional : source.Transactional) (stepped : E.Steps source act target) :
    target.Transactional ∧ (Silent source act target ∨ ∃ i, CommitOf E source act i target) := by
  rcases E.steps_cases stepped with ⟨i, op, resume, rfl, alive, calls, -, rfl⟩ |
    ⟨i, error, op, resume, rfl, -, calls, rfl⟩ | ⟨i, rfl, -, rfl⟩
  · obtain ⟨notAuto, last, shape⟩ : Program.IsTransaction (.call op resume) := calls ▸ transactional.shape i
    have uncommitted := transactional.uncommitted calls
    cases publishes : op.publishes with
    | false =>
      have stays : (E.perform (source.thread i).session source.db op).session.committed = false :=
        (committed_perform publishes).trans uncommitted
      have neverCommitted : (E.perform (source.thread i).session source.db op).session.committed ≠ true := by
        simp [stays]
      have quiet : ∀ j, Act.run i = (.run j : Act ι ε) → (source.thread j).program.atCommit = false := by
        rintro j same
        cases same
        rw [calls]
        cases op with
        | begin | query | rollback => rfl
        | commit | auto => cases publishes
      refine ⟨transactional_update transactional _ (shape _) fun committed => absurd committed neverCommitted,
        .inl (silent_update quiet (perform_db_of_not_publishes _ _ publishes) (stays.trans uncommitted.symm)
          fun committed => absurd committed neverCommitted)⟩
    | true =>
      cases op with
      -- the commit is the last operation, and publishes all that the transaction did
      | commit =>
        refine ⟨transactional_update transactional _ (shape _) fun _ => last rfl _, .inr ⟨i, ?_⟩⟩
        exact
          { isAct := rfl
            alive := alive
            calls := ⟨resume, calls⟩
            db := rfl
            open_before := uncommitted
            committed_after := by simp [perform, Session.committed]
            others := fun k differs => by simp only [Function.update_of_ne differs]
            total := fun amount => by
              rw [committedTotal_update, uncommitted]
              simp [perform, Session.committed] }
      | begin | query _ | rollback => cases publishes
      -- a transaction has no statement on its own
      | auto _ => cases notAuto
  · obtain ⟨-, -, shape⟩ : Program.IsTransaction (.call op resume) := calls ▸ transactional.shape i
    have uncommitted := transactional.uncommitted calls
    have stays := (committed_failed (source.thread i).session op error).trans uncommitted
    have neverCommitted : (failed (source.thread i).session op error).committed ≠ true := by simp [stays]
    have quiet : ∀ j, Act.fail i error = (.run j : Act ι ε) → (source.thread j).program.atCommit = false := by
      rintro _ ⟨⟩
    exact ⟨transactional_update transactional _ (shape _) fun committed => absurd committed neverCommitted,
      .inl (silent_update quiet rfl (stays.trans uncommitted.symm) fun committed => absurd committed neverCommitted)⟩
  · have quiet : ∀ j, Act.crash i = (.run j : Act ι ε) → (source.thread j).program.atCommit = false := by
      rintro _ ⟨⟩
    exact ⟨transactional_update transactional _ (transactional.shape i) (transactional.last i),
      .inl (silent_update quiet rfl rfl fun _ => rfl)⟩

end Engine

end StoreSaas
