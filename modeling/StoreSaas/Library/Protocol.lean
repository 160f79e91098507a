import StoreSaas.Library.ReadCommitted
import StoreSaas.Library.Sequential

/-! # Requests that follow a protocol

A `Protocol` is an automaton over the operations of a request and their replies: which
operations a phase allows, and which phase a reply leads to.  `Program.Obeys` says that
a program only does what its phase allows, whatever the replies are.  The log of a
session holds all operations with their replies, so the phase of a request is read off
its log, and `follows_step` carries the discipline along any run: a step is then known
by the phase of the request that takes it, and no program has to be looked at again.
-/

namespace StoreSaas

/-- What becomes of a request's transaction. -/
inductive Fate where
  | running
  | committed
  | aborted
  deriving DecidableEq

structure Protocol (S : Signature) (ε Phase : Type) where
  initial : Phase
  allows : Phase → RequestOp S → Prop
  next : Phase → (op : RequestOp S) → Except ε op.Reply → Phase

namespace Program

variable {S : Signature} {ε α β Phase : Type} {P : Protocol S ε Phase}

/-- The request does what the protocol allows from this phase on, and ends as `post` says. -/
def Obeys (P : Protocol S ε Phase) (post : Phase → Except ε α → Prop) : Request S ε α → Phase → Prop
  | .done value, phase => post phase (.ok value)
  | .throw error, phase => post phase (.error error)
  | .call op resume, phase =>
    P.allows phase op ∧ ∀ reply, Obeys P post (resume reply) (P.next phase op reply)

variable {phase : Phase}

theorem Obeys.handle {middle : Phase → Except ε α → Prop} {post : Phase → Except ε β → Prop}
    {program : Request S ε α} {next : Except ε α → Request S ε β} (first : program.Obeys P middle phase)
    (continues : ∀ phase result, middle phase result → (next result).Obeys P post phase) :
    (program.handle next).Obeys P post phase := by
  induction program generalizing phase with
  | done value => exact continues phase _ first
  | throw error => exact continues phase _ first
  | call op resume ih => exact ⟨first.1, fun reply => ih reply (first.2 reply)⟩

theorem Obeys.imp {weak strong : Phase → Except ε α → Prop} {program : Request S ε α}
    (obeys : program.Obeys P strong phase) (implies : ∀ phase result, strong phase result → weak phase result) :
    program.Obeys P weak phase := by
  induction program generalizing phase with
  | done value => exact implies _ _ obeys
  | throw error => exact implies _ _ obeys
  | call op resume ih => exact ⟨obeys.1, fun reply => ih reply (obeys.2 reply)⟩

/-- The same phases, with more that is allowed in them. -/
theorem Obeys.more {Q : Protocol S ε Phase} {post : Phase → Except ε α → Prop} {program : Request S ε α}
    (obeys : program.Obeys P post phase) (implies : ∀ phase op, P.allows phase op → Q.allows phase op)
    (same : ∀ phase op reply, Q.next phase op reply = P.next phase op reply) : program.Obeys Q post phase := by
  induction program generalizing phase with
  | done value => exact obeys
  | throw error => exact obeys
  | call op resume ih =>
    refine ⟨implies phase op obeys.1, fun reply => ?_⟩
    rw [same]
    exact ih reply (obeys.2 reply)

/-- One autocommitted statement, and what follows each of its replies. -/
theorem obeys_autocommit_call {post : Phase → Except ε α → Prop} {op : S.Op}
    {next : S.Reply op → Program S ε α} (allowed : P.allows phase (.auto op))
    (fails : ∀ error, post (P.next phase (.auto op) (.error error)) (.error error))
    (continues : ∀ reply, (next reply).autocommit.Obeys P post (P.next phase (.auto op) (.ok reply))) :
    (perform op >>= next).autocommit.Obeys P post phase := by
  rw [perform_bind]
  refine ⟨allowed, fun reply => ?_⟩
  cases reply with
  | ok reply => exact continues reply
  | error error => exact fails error

/-- A statement inside a transaction, and what follows each of its replies. -/
theorem obeys_inTransaction_call {post : Phase → Except ε α → Prop} {op : S.Op}
    {next : S.Reply op → Program S ε α} (allowed : P.allows phase (.query op))
    (fails : ∀ error, post (P.next phase (.query op) (.error error)) (.error error))
    (continues : ∀ reply, (next reply).inTransaction.Obeys P post (P.next phase (.query op) (.ok reply))) :
    (perform op >>= next).inTransaction.Obeys P post phase := by
  rw [perform_bind]
  refine ⟨allowed, fun reply => ?_⟩
  cases reply with
  | ok reply => exact continues reply
  | error error => exact fails error

/-- Statements that leave the phase as it is. -/
theorem obeys_inTransaction_of_only {allowed : S.Op → Prop} {body : Program S ε α} (only : body.Only allowed)
    (stays : ∀ op, allowed op → P.allows phase (.query op) ∧ ∀ reply, P.next phase (.query op) reply = phase) :
    body.inTransaction.Obeys P (fun after _ => after = phase) phase := by
  induction body with
  | done value => rfl
  | throw error => rfl
  | call op resume ih =>
    refine ⟨(stays op only.1).1, fun reply => ?_⟩
    rw [(stays op only.1).2 reply]
    exact ih reply (only.2 reply)

theorem obeys_autocommit_of_only {allowed : S.Op → Prop} {body : Program S ε α} (only : body.Only allowed)
    (stays : ∀ op, allowed op → P.allows phase (.auto op) ∧ ∀ reply, P.next phase (.auto op) reply = phase) :
    body.autocommit.Obeys P (fun after _ => after = phase) phase := by
  induction body with
  | done value => rfl
  | throw error => rfl
  | call op resume ih =>
    refine ⟨(stays op only.1).1, fun reply => ?_⟩
    rw [(stays op only.1).2 reply]
    exact ih reply (only.2 reply)

theorem obeys_of_only {allowed : RequestOp S → Prop} {request : Request S ε α} (only : request.Only allowed)
    (stays : ∀ op, allowed op → P.allows phase op ∧ ∀ reply, P.next phase op reply = phase) :
    request.Obeys P (fun after _ => after = phase) phase := by
  induction request with
  | done value => rfl
  | throw error => rfl
  | call op resume ih =>
    refine ⟨(stays op only.1).1, fun reply => ?_⟩
    rw [(stays op only.1).2 reply]
    exact ih reply (only.2 reply)

/-- A transaction, by the protocol its body follows. -/
theorem obeys_withTransaction (middle : Phase → Except ε α → Prop) {post : Phase → Except ε α → Prop}
    {body : Request S ε α} (begins : P.allows phase .begin)
    (fails : ∀ error, post (P.next phase .begin (.error error)) (.error error))
    (obeys : body.Obeys P middle (P.next phase .begin (.ok ())))
    (commits : ∀ phase value, middle phase (.ok value) → P.allows phase .commit ∧
      post (P.next phase .commit (.ok ())) (.ok value) ∧
      ∀ error, post (P.next phase .commit (.error error)) (.error error))
    (rollsBack : ∀ phase error, middle phase (.error error) → P.allows phase .rollback ∧
      ∀ reply, post (P.next phase .rollback reply) (.error error)) :
    (withTransaction body).Obeys P post phase := by
  refine ⟨begins, fun reply => ?_⟩
  cases reply with
  | error error => exact fails error
  | ok _ =>
    refine Obeys.handle obeys fun phase result ended => ?_
    cases result with
    | ok value =>
      obtain ⟨allowed, committed, refused⟩ := commits phase value ended
      refine ⟨allowed, fun reply => ?_⟩
      cases reply with
      | ok _ => exact committed
      | error error => exact refused error
    | error error =>
      obtain ⟨allowed, aborted⟩ := rollsBack phase error ended
      exact ⟨allowed, aborted⟩

end Program

/-! ## Systems of such requests -/

variable {ι Db Key Write : Type} {Val : Key → Type} {S : Signature} {ε α Phase : Type}

/-- The phase after what a session has logged. -/
def Protocol.phaseOf (P : Protocol S ε Phase) (log : List (Σ op : RequestOp S, Except ε op.Reply)) : Phase :=
  log.foldr (fun entry phase => P.next phase entry.1 entry.2) P.initial

@[simp] theorem Protocol.phaseOf_nil (P : Protocol S ε Phase) : P.phaseOf [] = P.initial := rfl

@[simp] theorem Protocol.phaseOf_cons (P : Protocol S ε Phase) (entry : Σ op : RequestOp S, Except ε op.Reply)
    (log : List (Σ op : RequestOp S, Except ε op.Reply)) :
    P.phaseOf (entry :: log) = P.next (P.phaseOf log) entry.1 entry.2 := rfl

/-- The phase of every request. -/
def System.phase (P : ι → Protocol S ε Phase) (system : System ι Db Key Write S ε α) (i : ι) : Phase :=
  (P i).phaseOf (system.thread i).session.log

/-- The operation that an act carries out. -/
def System.executes (system : System ι Db Key Write S ε α) : Act ι ε → Option (ι × RequestOp S)
  | .run i =>
    match (system.thread i).program with
    | .call op _ => some (i, op)
    | .done _ | .throw _ => none
  | .fail _ _ | .crash _ => none

theorem System.executes_run {system : System ι Db Key Write S ε α} {i : ι} {op : RequestOp S}
    {resume : Except ε op.Reply → Request S ε α} (calls : (system.thread i).program = .call op resume) :
    system.executes (.run i) = some (i, op) := by
  simp only [executes, calls]

/-- Every request obeys its protocol from here on. -/
def System.Follows (P : ι → Protocol S ε Phase) (post : ι → Phase → Except ε α → Prop)
    (system : System ι Db Key Write S ε α) : Prop :=
  ∀ i, (system.thread i).program.Obeys (P i) (post i) (system.phase P i)

namespace Engine

variable {E : Engine Db Key Write Val S ε} {P : ι → Protocol S ε Phase} {post : ι → Phase → Except ε α → Prop}

theorem log_perform (session : Session Key Write S ε) (db : Db) (op : RequestOp S) :
    (E.perform session db op).session.log = ⟨op, (E.perform session db op).reply⟩ :: session.log := by
  cases op with
  | begin | commit | rollback => rfl
  | query op => cases executed : E.execute op (E.view db session) <;> simp only [perform, executed]
  | auto op => cases executed : E.execute op db <;> simp only [perform, executed]

theorem log_failed (session : Session Key Write S ε) (op : RequestOp S) (error : ε) :
    (failed session op error).log = ⟨op, .error error⟩ :: session.log := by
  cases op <;> rfl

/-- An autocommitted statement acts on the database as it does alone. -/
theorem perform_auto (session : Session Key Write S ε) (db : Db) (op : S.Op) :
    (E.perform session db (.auto op)).reply = (E.executeOn op db).1 ∧
      (E.perform session db (.auto op)).db = (E.executeOn op db).2 ∧
      (E.perform session db (.auto op)).session.pending = session.pending := by
  cases executed : E.execute op db with
  | ok result => simp only [perform, executeOn, executed]; exact ⟨rfl, trivial, trivial⟩
  | error error => simp only [perform, executeOn, executed]; exact ⟨rfl, trivial, trivial⟩

theorem follows_start {db : Db} {program : ι → Request S ε α}
    (obeys : ∀ i, (program i).Obeys (P i) (post i) (P i).initial) :
    (System.start db program : System ι Db Key Write S ε α).Follows P post := obeys

variable [Fintype ι] [DecidableEq ι] [DecidableEq Key]

/-- What a step does, told by the phase of the request that takes it. -/
inductive PhaseStep (E : Engine Db Key Write Val S ε) (P : ι → Protocol S ε Phase)
    (source : System ι Db Key Write S ε α) : Act ι ε → System ι Db Key Write S ε α → Prop where
  | run (i : ι) (op : RequestOp S) (resume : Except ε op.Reply → Request S ε α)
    (alive : (source.thread i).alive = true) (calls : (source.thread i).program = .call op resume)
    (allowed : (P i).allows (source.phase P i) op)
    (free : ¬ source.Blocked i op (E.perform (source.thread i).session source.db op).needs) :
    PhaseStep E P source (.run i) ⟨(E.perform (source.thread i).session source.db op).db,
      Function.update source.thread i ⟨(E.perform (source.thread i).session source.db op).session,
        resume (E.perform (source.thread i).session source.db op).reply, true⟩⟩
  | fail (i : ι) (error : ε) (op : RequestOp S) (resume : Except ε op.Reply → Request S ε α)
    (alive : (source.thread i).alive = true) (calls : (source.thread i).program = .call op resume)
    (allowed : (P i).allows (source.phase P i) op) :
    PhaseStep E P source (.fail i error) ⟨source.db,
      Function.update source.thread i ⟨failed (source.thread i).session op error, resume (.error error), true⟩⟩
  | crash (i : ι) (alive : (source.thread i).alive = true) :
    PhaseStep E P source (.crash i) ⟨source.db,
      Function.update source.thread i ⟨(source.thread i).session.closed, (source.thread i).program, false⟩⟩

theorem phaseStep_of_follows {source target : System ι Db Key Write S ε α} {act : Act ι ε}
    (follows : source.Follows P post) (stepped : E.Steps source act target) : PhaseStep E P source act target := by
  rcases E.steps_cases stepped with ⟨i, op, resume, rfl, alive, calls, free, rfl⟩ |
    ⟨i, error, op, resume, rfl, alive, calls, rfl⟩ | ⟨i, rfl, alive, rfl⟩
  · have obeys := follows i
    rw [calls] at obeys
    exact .run i op resume alive calls obeys.1 free
  · have obeys := follows i
    rw [calls] at obeys
    exact .fail i error op resume alive calls obeys.1
  · exact .crash i alive

omit [Fintype ι] [DecidableEq Key] in
theorem phase_update (source : System ι Db Key Write S ε α) (db : Db) (i : ι) (thread : Thread Key Write S ε α) :
    (⟨db, Function.update source.thread i thread⟩ : System ι Db Key Write S ε α).phase P =
      Function.update (source.phase P) i ((P i).phaseOf thread.session.log) := by
  funext j
  by_cases same : j = i
  · subst same
    simp only [System.phase, Function.update_self]
  · simp only [System.phase, Function.update_of_ne same]

omit [Fintype ι] [DecidableEq Key] in
theorem phase_perform (source : System ι Db Key Write S ε α) (i : ι) (op : RequestOp S) (program : Request S ε α) :
    (⟨(E.perform (source.thread i).session source.db op).db, Function.update source.thread i
        ⟨(E.perform (source.thread i).session source.db op).session, program, true⟩⟩ :
      System ι Db Key Write S ε α).phase P =
      Function.update (source.phase P) i
        ((P i).next (source.phase P i) op (E.perform (source.thread i).session source.db op).reply) := by
  rw [phase_update, log_perform]
  rfl

omit [Fintype ι] [DecidableEq Key] in
theorem phase_failed (source : System ι Db Key Write S ε α) (i : ι) (op : RequestOp S) (error : ε)
    (program : Request S ε α) :
    (⟨source.db, Function.update source.thread i ⟨failed (source.thread i).session op error, program, true⟩⟩ :
      System ι Db Key Write S ε α).phase P =
      Function.update (source.phase P) i ((P i).next (source.phase P i) op (.error error)) := by
  rw [phase_update, log_failed]
  rfl

omit [Fintype ι] [DecidableEq Key] in
theorem phase_crash (source : System ι Db Key Write S ε α) (i : ι) :
    (⟨source.db, Function.update source.thread i
        ⟨(source.thread i).session.closed, (source.thread i).program, false⟩⟩ : System ι Db Key Write S ε α).phase P =
      source.phase P := by
  rw [phase_update]
  exact Function.update_eq_self i _

omit [Fintype ι] [DecidableEq Key] in
theorem follows_update {source : System ι Db Key Write S ε α} (follows : source.Follows P post) (db : Db) {i : ι}
    {thread : Thread Key Write S ε α}
    (obeys : thread.program.Obeys (P i) (post i) ((P i).phaseOf thread.session.log)) :
    (⟨db, Function.update source.thread i thread⟩ : System ι Db Key Write S ε α).Follows P post := by
  intro j
  rw [phase_update]
  by_cases same : j = i
  · subst same
    simpa only [Function.update_self] using obeys
  · simpa only [Function.update_of_ne same] using follows j

/-- The step rule. -/
theorem follows_step {source target : System ι Db Key Write S ε α} {act : Act ι ε}
    (follows : source.Follows P post) (stepped : E.Steps source act target) : target.Follows P post := by
  rcases E.steps_cases stepped with ⟨i, op, resume, rfl, alive, calls, free, rfl⟩ |
    ⟨i, error, op, resume, rfl, alive, calls, rfl⟩ | ⟨i, rfl, alive, rfl⟩
  · have obeys := follows i
    rw [calls] at obeys
    refine follows_update follows _ ?_
    rw [log_perform]
    exact obeys.2 _
  · have obeys := follows i
    rw [calls] at obeys
    refine follows_update follows _ ?_
    rw [log_failed]
    exact obeys.2 _
  · exact follows_update follows _ (follows i)

/-- What a request has logged stays logged. -/
theorem log_step {source target : System ι Db Key Write S ε α} {act : Act ι ε} (stepped : E.Steps source act target)
    (i : ι) : ∀ entry ∈ (source.thread i).session.log, entry ∈ (target.thread i).session.log := by
  intro entry logged
  rcases E.steps_cases stepped with ⟨j, op, resume, -, -, -, -, rfl⟩ | ⟨j, error, op, resume, -, -, -, rfl⟩ |
    ⟨j, -, -, rfl⟩
  all_goals
    by_cases same : i = j
    · subst same
      simp only [Function.update_self, log_perform, log_failed]
      first
        | exact List.mem_cons_of_mem _ logged
        | exact logged
    · simpa only [Function.update_of_ne same] using logged

/-- A request's phase stays as it is, or goes where an operation that it allows leads. -/
theorem phase_step {source target : System ι Db Key Write S ε α} {act : Act ι ε} (follows : source.Follows P post)
    (stepped : E.Steps source act target) (i : ι) :
    target.phase P i = source.phase P i ∨
      ∃ op resume, (source.thread i).program = .call op resume ∧ (P i).allows (source.phase P i) op ∧
        ((act = .run i ∧ target.phase P i =
            (P i).next (source.phase P i) op (E.perform (source.thread i).session source.db op).reply) ∨
          ∃ error, act = .fail i error ∧ target.phase P i = (P i).next (source.phase P i) op (.error error)) := by
  cases phaseStep_of_follows follows stepped with
  | run j op resume alive calls allowed free =>
    rw [phase_perform]
    by_cases same : i = j
    · subst same
      rw [Function.update_self]
      exact .inr ⟨op, resume, calls, allowed, .inl ⟨rfl, rfl⟩⟩
    · exact .inl (Function.update_of_ne same ..)
  | fail j error op resume alive calls allowed =>
    rw [phase_failed]
    by_cases same : i = j
    · subst same
      rw [Function.update_self]
      exact .inr ⟨op, resume, calls, allowed, .inr ⟨error, rfl, rfl⟩⟩
    · exact .inl (Function.update_of_ne same ..)
  | crash j alive => exact .inl (congrFun (phase_crash ..) i)

/-- The invariant rule for what a request's own session and phase say, whatever is in the database. -/
theorem thread_step (invariant : ι → Bool → Session Key Write S ε → Phase → Prop)
    (runs : ∀ i session db op phase, (P i).allows phase op → invariant i true session phase →
      invariant i true (E.perform session db op).session ((P i).next phase op (E.perform session db op).reply))
    (fails : ∀ i session op error phase, (P i).allows phase op → invariant i true session phase →
      invariant i true (failed session op error) ((P i).next phase op (.error error)))
    (crashes : ∀ i session phase, invariant i true session phase → invariant i false session.closed phase)
    {source target : System ι Db Key Write S ε α} {act : Act ι ε} (follows : source.Follows P post)
    (holds : ∀ i, invariant i (source.thread i).alive (source.thread i).session (source.phase P i))
    (stepped : E.Steps source act target) :
    ∀ i, invariant i (target.thread i).alive (target.thread i).session (target.phase P i) := by
  have updated {db : Db} {i : ι} {thread : Thread Key Write S ε α}
      (own : invariant i thread.alive thread.session ((P i).phaseOf thread.session.log)) (j : ι) :
      invariant j (Function.update source.thread i thread j).alive (Function.update source.thread i thread j).session
        ((⟨db, Function.update source.thread i thread⟩ : System ι Db Key Write S ε α).phase P j) := by
    rw [phase_update]
    by_cases same : j = i
    · subst same
      simpa only [Function.update_self] using own
    · simpa only [Function.update_of_ne same] using holds j
  cases phaseStep_of_follows follows stepped with
  | run i op resume alive calls allowed free =>
    have before := holds i
    rw [alive] at before
    refine updated ?_
    rw [log_perform]
    exact runs i _ _ op _ allowed before
  | fail i error op resume alive calls allowed =>
    have before := holds i
    rw [alive] at before
    refine updated ?_
    rw [log_failed]
    exact fails i _ op error _ allowed before
  | crash i alive =>
    have before := holds i
    rw [alive] at before
    exact updated (crashes i _ _ before)

end Engine

/-! ## Systems of two kinds of requests -/

namespace Protocol

variable {Other : Type}

/-- The protocol, in a system where other requests have phases of another kind. -/
def onLeft (P : Protocol S ε Phase) (idle : Other) : Protocol S ε (Phase × Other) where
  initial := (P.initial, idle)
  allows phase op := P.allows phase.1 op
  next phase op reply := (P.next phase.1 op reply, phase.2)

def onRight (P : Protocol S ε Phase) (idle : Other) : Protocol S ε (Other × Phase) where
  initial := (idle, P.initial)
  allows phase op := P.allows phase.2 op
  next phase op reply := (phase.1, P.next phase.2 op reply)

end Protocol

theorem Program.Obeys.onLeft {Other : Type} {P : Protocol S ε Phase} {post : Phase → Except ε α → Prop}
    {program : Request S ε α} {phase : Phase} (obeys : program.Obeys P post phase) (idle other : Other) :
    program.Obeys (P.onLeft idle) (fun phase result => post phase.1 result) (phase, other) := by
  induction program generalizing phase with
  | done value => exact obeys
  | throw error => exact obeys
  | call op resume ih => exact ⟨obeys.1, fun reply => ih reply (obeys.2 reply)⟩

theorem Program.Obeys.onRight {Other : Type} {P : Protocol S ε Phase} {post : Phase → Except ε α → Prop}
    {program : Request S ε α} {phase : Phase} (obeys : program.Obeys P post phase) (idle other : Other) :
    program.Obeys (P.onRight idle) (fun phase result => post phase.2 result) (other, phase) := by
  induction program generalizing phase with
  | done value => exact obeys
  | throw error => exact obeys
  | call op resume ih => exact ⟨obeys.1, fun reply => ih reply (obeys.2 reply)⟩

/-! ## Requests whose statements all commit by themselves -/

structure AutoProtocol (S : Signature) (ε Phase : Type) where
  initial : Phase
  allows : Phase → S.Op → Prop
  next : Phase → (op : S.Op) → Except ε (S.Reply op) → Phase

namespace AutoProtocol

/-- The same protocol, for requests. -/
def lift (P : AutoProtocol S ε Phase) : Protocol S ε Phase where
  initial := P.initial
  allows phase
    | .auto op => P.allows phase op
    | .begin | .query _ | .commit | .rollback => False
  next phase
    | .auto op, reply => P.next phase op reply
    | .begin, _ | .query _, _ | .commit, _ | .rollback, _ => phase

end AutoProtocol

namespace Program

variable {P : AutoProtocol S ε Phase} {post : Phase → Except ε α → Prop} {phase : Phase}

/-- `Obeys`, for a program whose statements commit by themselves. -/
def Keeps (P : AutoProtocol S ε Phase) (post : Phase → Except ε α → Prop) : Program S ε α → Phase → Prop
  | .done value, phase => post phase (.ok value)
  | .throw error, phase => post phase (.error error)
  | .call op resume, phase =>
    P.allows phase op ∧ ∀ reply, Keeps P post (resume reply) (P.next phase op reply)

theorem Keeps.autocommit {program : Program S ε α} (keeps : program.Keeps P post phase) :
    program.autocommit.Obeys P.lift post phase := by
  induction program generalizing phase with
  | done value => exact keeps
  | throw error => exact keeps
  | call op resume ih => exact ⟨keeps.1, fun reply => ih reply (keeps.2 reply)⟩

theorem Keeps.handle {β : Type} {middle : Phase → Except ε β → Prop} {program : Program S ε β}
    {next : Except ε β → Program S ε α} (first : program.Keeps P middle phase)
    (continues : ∀ phase result, middle phase result → (next result).Keeps P post phase) :
    (program.handle next).Keeps P post phase := by
  induction program generalizing phase with
  | done value => exact continues phase _ first
  | throw error => exact continues phase _ first
  | call op resume ih => exact ⟨first.1, fun reply => ih reply (first.2 reply)⟩

theorem Keeps.imp {weak : Phase → Except ε α → Prop} {program : Program S ε α} (keeps : program.Keeps P post phase)
    (implies : ∀ phase result, post phase result → weak phase result) : program.Keeps P weak phase := by
  induction program generalizing phase with
  | done value => exact implies _ _ keeps
  | throw error => exact implies _ _ keeps
  | call op resume ih => exact ⟨keeps.1, fun reply => ih reply (keeps.2 reply)⟩

/-- A statement, and what follows its replies: its failure is thrown. -/
theorem keeps_perform_bind {op : S.Op} {next : S.Reply op → Program S ε α} (allowed : P.allows phase op)
    (fails : ∀ error, post (P.next phase op (.error error)) (.error error))
    (continues : ∀ reply, (next reply).Keeps P post (P.next phase op (.ok reply))) :
    (perform op >>= next).Keeps P post phase := by
  rw [perform_bind]
  refine ⟨allowed, fun reply => ?_⟩
  cases reply with
  | ok reply => exact continues reply
  | error error => exact fails error

/-- A statement at the end of a program. -/
theorem keeps_ite {condition : Prop} [Decidable condition] {program other : Program S ε α}
    (holds : condition → program.Keeps P post phase) (fails : ¬ condition → other.Keeps P post phase) :
    (if condition then program else other).Keeps P post phase := by
  split
  next isSo => exact holds isSo
  next isNot => exact fails isNot

theorem keeps_perform {op : S.Op} {post : Phase → Except ε (S.Reply op) → Prop} (allowed : P.allows phase op)
    (ends : ∀ reply, post (P.next phase op reply) reply) : (perform op).Keeps P post phase := by
  rw [← perform_bind_done]
  exact keeps_perform_bind allowed (fun error => ends (.error error)) fun reply => ends (.ok reply)

end Program

namespace Engine

variable {E : Engine Db Key Write Val S ε} {P : ι → AutoProtocol S ε Phase} {post : ι → Phase → Except ε α → Prop}

variable [Fintype ι] [DecidableEq ι] [DecidableEq Key]

/-- What a step of such requests does to the database and to the phases. -/
theorem autoStep_cases {source target : System ι Db Key Write S ε α} {act : Act ι ε}
    (follows : source.Follows (fun i => (P i).lift) post) (stepped : E.Steps source act target) :
    target.Follows (fun i => (P i).lift) post ∧
    ((∃ i op resume, act = .run i ∧ (source.thread i).program = .call (.auto op) resume ∧
        (P i).allows (source.phase (fun i => (P i).lift) i) op ∧
        target.db = (E.executeOn op source.db).2 ∧
        target.phase (fun i => (P i).lift) = Function.update (source.phase fun i => (P i).lift) i
          ((P i).next (source.phase (fun i => (P i).lift) i) op (E.executeOn op source.db).1)) ∨
    (∃ i op error, act = .fail i error ∧ (P i).allows (source.phase (fun i => (P i).lift) i) op ∧
        target.db = source.db ∧
        target.phase (fun i => (P i).lift) = Function.update (source.phase fun i => (P i).lift) i
          ((P i).next (source.phase (fun i => (P i).lift) i) op (.error error))) ∨
    (∃ i, act = .crash i ∧ target.db = source.db ∧
        target.phase (fun i => (P i).lift) = source.phase fun i => (P i).lift)) := by
  refine ⟨follows_step follows stepped, ?_⟩
  cases phaseStep_of_follows follows stepped with
  | run i op resume alive calls allowed free =>
    cases op with
    | auto op =>
      obtain ⟨sameReply, sameDb, -⟩ := perform_auto (E := E) (source.thread i).session source.db op
      refine .inl ⟨i, op, resume, rfl, calls, allowed, sameDb, ?_⟩
      rw [phase_perform, sameReply]
      rfl
    | begin | query | commit | rollback => exact allowed.elim
  | fail i error op resume alive calls allowed =>
    cases op with
    | auto op =>
      exact .inr (.inl ⟨i, op, error, rfl, allowed, rfl, phase_failed ..⟩)
    | begin | query | commit | rollback => exact allowed.elim
  | crash i alive =>
    exact .inr (.inr ⟨i, rfl, rfl, phase_crash ..⟩)

end Engine

end StoreSaas
