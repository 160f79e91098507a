import Mathlib.Data.Fintype.Card
import StoreSaas.Library.Protocol

/-! # Requests on a pool of connections

A transaction has a connection of its own until it ends, and a statement that commits by
itself needs one for as long as it runs; where none is free, the request waits.  A value that
is set on a connection is local to the transaction and gone with it.

`settingProtocol` is followed by requests that set their value first in each transaction.
`setting_of_follows` says what is set then whenever such a request runs a statement.
-/

namespace StoreSaas

/-- Which statements need a connection, and which set a value on theirs. -/
structure Pooling (S : Signature) (Value : Type) where
  connects : S.Op → Bool
  sets : S.Op → Option Value

/-- A system and its connections: which one each open transaction has, and what is set on each. -/
structure Pooled (ι κ Value Db Key Write : Type) (S : Signature) (ε α : Type) where
  system : System ι Db Key Write S ε α
  connection : ι → Option κ
  setting : κ → Option Value

/-- An act, and the connection that is handed out if it needs one. -/
structure PoolAct (ι κ ε : Type) where
  act : Act ι ε
  given : κ

variable {ι κ Value Db Key Write : Type} {Val : Key → Type} {S : Signature} {ε α : Type}

/-- The operation starts by taking a connection from the pool. -/
def RequestOp.acquires (P : Pooling S Value) : RequestOp S → Bool
  | .begin => true
  | .auto op => P.connects op
  | .query _ | .commit | .rollback => false

namespace Pooled

section

variable (pool : Pooled ι κ Value Db Key Write S ε α)

def start (db : Db) (program : ι → Request S ε α) : Pooled ι κ Value Db Key Write S ε α :=
  ⟨System.start db program, fun _ => none, fun _ => none⟩

def IsFree (c : κ) : Prop := ∀ i, pool.connection i ≠ some c

instance [Fintype ι] [DecidableEq κ] (c : κ) : Decidable (pool.IsFree c) :=
  inferInstanceAs (Decidable (∀ i, pool.connection i ≠ some c))

variable [DecidableEq ι] [DecidableEq κ] (i : ι)

/-- What is set on the connections after a request has set a value on its own. -/
def settingAfter : Option Value → κ → Option Value
  | none => pool.setting
  | some value =>
    match pool.connection i with
    | none => pool.setting
    | some c => Function.update pool.setting c (some value)

/-- A transaction that ends gives its connection back, with nothing set on it. -/
def closed (system : System ι Db Key Write S ε α) : Pooled ι κ Value Db Key Write S ε α where
  system := system
  connection := Function.update pool.connection i none
  setting :=
    match pool.connection i with
    | none => pool.setting
    | some c => Function.update pool.setting c none

@[simp] theorem connection_closed (system : System ι Db Key Write S ε α) :
    (pool.closed i system).connection = Function.update pool.connection i none := rfl

/-- The connections after an operation and its reply. -/
def goesOn (P : Pooling S Value) (given : κ) (system : System ι Db Key Write S ε α) :
    (op : RequestOp S) → Except ε op.Reply → Pooled ι κ Value Db Key Write S ε α
  | .begin, .ok _ => ⟨system, Function.update pool.connection i (some given), pool.setting⟩
  | .query op, .ok _ => ⟨system, pool.connection, pool.settingAfter i (P.sets op)⟩
  | .commit, _ | .rollback, _ => pool.closed i system
  | .begin, .error _ | .query _, .error _ | .auto _, _ => ⟨system, pool.connection, pool.setting⟩

@[simp] theorem system_goesOn (P : Pooling S Value) (given : κ) (system : System ι Db Key Write S ε α)
    (op : RequestOp S) (reply : Except ε op.Reply) : (pool.goesOn i P given system op reply).system = system := by
  cases op with
  | begin | query => cases reply <;> rfl
  | commit | rollback | auto => rfl

end

end Pooled

/-- The operation that an act runs, or lets fail. -/
def System.issues (system : System ι Db Key Write S ε α) : Act ι ε → Option (ι × RequestOp S)
  | .run i | .fail i _ =>
    match (system.thread i).program with
    | .call op _ => some (i, op)
    | .done _ | .throw _ => none
  | .crash _ => none

namespace Engine

variable (E : Engine Db Key Write Val S ε) (P : Pooling S Value) [Fintype ι] [DecidableEq ι] [DecidableEq Key]
  [DecidableEq κ]

/-- A step of the scheduler, as far as the pool has a connection for it. -/
def poolStep (source : Pooled ι κ Value Db Key Write S ε α) (act : PoolAct ι κ ε) :
    Option (Pooled ι κ Value Db Key Write S ε α) :=
  (E.step source.system act.act).bind fun system =>
    match act.act with
    | .crash i => some (source.closed i system)
    | .run i =>
      match (source.system.thread i).program with
      | .call op _ =>
        if op.acquires P = true ∧ ¬ source.IsFree act.given then none
        else
          let outcome := E.perform (source.system.thread i).session source.system.db op
          some (source.goesOn i P act.given system op outcome.reply)
      | .done _ | .throw _ => none
    | .fail i error =>
      match (source.system.thread i).program with
      | .call op _ =>
        if op.acquires P = true ∧ ¬ source.IsFree act.given then none
        else some (source.goesOn i P act.given system op (.error error))
      | .done _ | .throw _ => none

/-- The transition relation of the pool. -/
def PoolSteps (source : Pooled ι κ Value Db Key Write S ε α) (act : PoolAct ι κ ε)
    (target : Pooled ι κ Value Db Key Write S ε α) : Prop :=
  E.poolStep P source act = some target

variable {E P} {source target : Pooled ι κ Value Db Key Write S ε α} {act : PoolAct ι κ ε}

/-- What a step of the pool can be: an operation with its reply, or the end of a request. -/
theorem poolSteps_cases (stepped : E.PoolSteps P source act target) :
    E.Steps source.system act.act target.system ∧
    ((∃ i op resume reply, (act.act = .run i ∧
          reply = (E.perform (source.system.thread i).session source.system.db op).reply ∨
          ∃ error, act.act = .fail i error ∧ reply = .error error) ∧
        (source.system.thread i).program = .call op resume ∧ (op.acquires P = true → source.IsFree act.given) ∧
        target = source.goesOn i P act.given target.system op reply) ∨
      ∃ i, act.act = .crash i ∧ target = source.closed i target.system) := by
  unfold PoolSteps poolStep at stepped
  obtain ⟨system, ran, stepped⟩ := Option.bind_eq_some_iff.mp stepped
  obtain ⟨act, given⟩ := act
  cases act with
  | crash i =>
    cases stepped
    exact ⟨ran, .inr ⟨i, rfl, rfl⟩⟩
  | run i =>
    dsimp only at stepped
    cases calls : (source.system.thread i).program with
    | done | throw => rw [calls] at stepped; cases stepped
    | call op resume =>
      rw [calls] at stepped
      dsimp only at stepped
      split at stepped
      next => cases stepped
      next available =>
        cases stepped
        rw [Pooled.system_goesOn]
        exact ⟨ran, .inl ⟨i, op, resume, _, .inl ⟨rfl, rfl⟩, calls,
          fun acquires => not_not.mp fun taken => available ⟨acquires, taken⟩, rfl⟩⟩
  | fail i error =>
    dsimp only at stepped
    cases calls : (source.system.thread i).program with
    | done | throw => rw [calls] at stepped; cases stepped
    | call op resume =>
      rw [calls] at stepped
      dsimp only at stepped
      split at stepped
      next => cases stepped
      next available =>
        cases stepped
        rw [Pooled.system_goesOn]
        exact ⟨ran, .inl ⟨i, op, resume, _, .inr ⟨error, rfl, rfl⟩, calls,
          fun acquires => not_not.mp fun taken => available ⟨acquires, taken⟩, rfl⟩⟩

/-- A step of one request leaves the others where they are. -/
theorem threads_of_acted {before after : System ι Db Key Write S ε α} {act : Act ι ε} {i : ι} {op : RequestOp S}
    {resume : Except ε op.Reply → Request S ε α} {reply : Except ε op.Reply} (ran : E.Steps before act after)
    (acted : (act = .run i ∧ reply = (E.perform (before.thread i).session before.db op).reply) ∨
      ∃ error, act = .fail i error ∧ reply = .error error)
    (calls : (before.thread i).program = .call op resume) :
    (after.thread i).program = resume reply ∧ ∀ j, j ≠ i → after.thread j = before.thread j := by
  obtain ⟨isRun, isReply⟩ | ⟨error, isFail, isReply⟩ := acted
  · subst isRun isReply
    obtain ⟨j, other, next, isAct, -, callsOther, -, rfl⟩ | ⟨j, error, other, next, isAct, -⟩ | ⟨j, isAct, -⟩ :=
      E.steps_cases ran
    · cases isAct
      cases calls.symm.trans callsOther
      simp +contextual only [Function.update_self, Function.update_of_ne, ne_eq, not_false_eq_true, implies_true,
        and_self]
    · cases isAct
    · cases isAct
  · subst isFail isReply
    obtain ⟨j, other, next, isAct, -⟩ | ⟨j, error, other, next, isAct, -, callsOther, rfl⟩ | ⟨j, isAct, -⟩ :=
      E.steps_cases ran
    · cases isAct
    · cases isAct
      cases calls.symm.trans callsOther
      simp +contextual only [Function.update_self, Function.update_of_ne, ne_eq, not_false_eq_true, implies_true,
        and_self]
    · cases isAct

/-- An operation that nothing stands in the way of runs. -/
theorem poolSteps_run {i : ι} (c : κ) {session : Session Key Write S ε} {op : RequestOp S}
    {resume : Except ε op.Reply → Request S ε α} (isThread : source.system.thread i = ⟨session, .call op resume, true⟩)
    (needsNothing : (E.perform session source.system.db op).needs = [])
    (available : op.acquires P = true → source.IsFree c) :
    ∃ target, E.PoolSteps P source ⟨.run i, c⟩ target ∧
      target.system.thread i = ⟨(E.perform session source.system.db op).session,
        resume (E.perform session source.system.db op).reply, true⟩ ∧
      (∀ j, j ≠ i → target.system.thread j = source.system.thread j) ∧
      target.system.db = (E.perform session source.system.db op).db ∧
      target = source.goesOn i P c target.system op (E.perform session source.system.db op).reply := by
  let outcome := E.perform session source.system.db op
  let system : System ι Db Key Write S ε α :=
    ⟨outcome.db, Function.update source.system.thread i ⟨outcome.session, resume outcome.reply, true⟩⟩
  have unblocked : ¬ source.system.Blocked i op outcome.needs := by
    rintro ⟨j, -, need, isNeed, -⟩
    rw [show outcome.needs = [] from needsNothing] at isNeed
    cases isNeed
  have taken : ¬ (op.acquires P = true ∧ ¬ source.IsFree c) := fun ⟨acquires, notFree⟩ => notFree (available acquires)
  refine ⟨source.goesOn i P c system op outcome.reply, ?_, ?_, fun j differs => ?_, ?_, ?_⟩
  · unfold PoolSteps poolStep step
    simp only [isThread, unblocked, taken, not_false_eq_true, and_self, if_true, if_false, Option.bind_some, system,
      outcome]
  · rw [Pooled.system_goesOn]
    exact Function.update_self ..
  · rw [Pooled.system_goesOn]
    exact Function.update_of_ne differs ..
  · rw [Pooled.system_goesOn]
  · rw [Pooled.system_goesOn]

theorem issues_of_poolSteps (stepped : E.PoolSteps P source act target) {i : ι} {op : RequestOp S}
    (issues : source.system.issues act.act = some (i, op)) :
    (source.system.thread i).alive = true ∧ (op.acquires P = true → source.IsFree act.given) ∧
      ∃ resume, (source.system.thread i).program = .call op resume := by
  have called {j : ι} {other : RequestOp S} {resume : Except ε other.Reply → Request S ε α}
      (acted : act.act = .run j ∨ ∃ error, act.act = .fail j error)
      (calls : (source.system.thread j).program = .call other resume) : j = i ∧ other = op := by
    obtain isRun | ⟨error, isFail⟩ := acted
    · rw [isRun] at issues
      simp only [System.issues, calls, Option.some.injEq, Prod.mk.injEq] at issues
      exact issues
    · rw [isFail] at issues
      simp only [System.issues, calls, Option.some.injEq, Prod.mk.injEq] at issues
      exact issues
  obtain ⟨ran, ⟨j, other, resume, reply, acted, calls, available, -⟩ | ⟨j, isCrash, -⟩⟩ := poolSteps_cases stepped
  · obtain ⟨rfl, rfl⟩ := called (acted.imp And.left fun failed => failed.imp fun error isFail => isFail.1) calls
    refine ⟨?_, available, resume, calls⟩
    obtain ⟨k, -, -, isAct, alive, -⟩ | ⟨k, error, -, -, isAct, alive, -⟩ | ⟨k, isAct, -⟩ := E.steps_cases ran
    · obtain ⟨isRun, -⟩ | ⟨_, isFail, -⟩ := acted
      · cases isAct.symm.trans isRun
        exact alive
      · cases isAct.symm.trans isFail
    · obtain ⟨isRun, -⟩ | ⟨_, isFail, -⟩ := acted
      · cases isAct.symm.trans isRun
      · cases isAct.symm.trans isFail
        exact alive
    · obtain ⟨isRun, -⟩ | ⟨_, isFail, -⟩ := acted
      · cases isAct.symm.trans isRun
      · cases isAct.symm.trans isFail
  · rw [isCrash] at issues
    cases issues

/-- The same, told by the phases of requests that follow a protocol. -/
theorem poolPhase_cases {Phase : Type} {R : ι → Protocol S ε Phase} {post : ι → Phase → Except ε α → Prop}
    (follows : source.system.Follows R post) (stepped : E.PoolSteps P source act target) :
    target.system.Follows R post ∧
    ((∃ i op reply, (source.system.thread i).alive = true ∧ (R i).allows (source.system.phase R i) op ∧
        (op.acquires P = true → source.IsFree act.given) ∧
        target.system.phase R = Function.update (source.system.phase R) i
          ((R i).next (source.system.phase R i) op reply) ∧
        (∀ j, (target.system.thread j).alive = (source.system.thread j).alive) ∧
        target = source.goesOn i P act.given target.system op reply) ∨
      ∃ i, target.system.phase R = source.system.phase R ∧ (target.system.thread i).alive = false ∧
        (∀ j, j ≠ i → (target.system.thread j).alive = (source.system.thread j).alive) ∧
        target = source.closed i target.system) := by
  obtain ⟨ran, pooled⟩ := poolSteps_cases stepped
  refine ⟨follows_step follows ran, ?_⟩
  have alive_update {i : ι} {thread : Thread Key Write S ε α} (same : thread.alive = (source.system.thread i).alive)
      (j : ι) : (Function.update source.system.thread i thread j).alive = (source.system.thread j).alive := by
    by_cases isSelf : j = i
    · subst isSelf
      rw [Function.update_self, same]
    · rw [Function.update_of_ne isSelf]
  obtain ⟨act, given⟩ := act
  obtain ⟨i, op, resume, reply, acted, calls, available, isTarget⟩ | ⟨i, isCrash, isTarget⟩ := pooled
  · refine .inl ⟨i, op, reply, ?_⟩
    obtain ⟨isRun, isReply⟩ | ⟨error, isFail, isReply⟩ := acted
    · dsimp only at isRun ran
      subst isRun isReply
      generalize target.system = after at ran isTarget ⊢
      cases phaseStep_of_follows follows ran with
      | run _ other next alive callsOther allowed free =>
        cases calls.symm.trans callsOther
        exact ⟨alive, allowed, available, phase_perform .., alive_update alive.symm, isTarget⟩
    · dsimp only at isFail ran
      subst isFail isReply
      generalize target.system = after at ran isTarget ⊢
      cases phaseStep_of_follows follows ran with
      | fail _ _ other next alive callsOther allowed =>
        cases calls.symm.trans callsOther
        exact ⟨alive, allowed, available, phase_failed .., alive_update alive.symm, isTarget⟩
  · dsimp only at isCrash ran
    subst isCrash
    refine .inr ⟨i, ?_⟩
    generalize target.system = after at ran isTarget ⊢
    cases phaseStep_of_follows follows ran with
    | crash _ alive =>
      refine ⟨phase_crash .., ?_, fun j differs => ?_, isTarget⟩
      · simp only [Function.update_self]
      · simp only [Function.update_of_ne differs]

end Engine

/-! ## Requests that set their value first -/

/-- Where a request stands: in no transaction, in one that has set nothing so far, or in one that has. -/
inductive SettingPhase where
  | outside
  | opened
  | set
  deriving DecidableEq

/-- A request with a value sets it first in each of its transactions; one without sets none.  `before` and `inside`
    are the statements that it may run on other connections. -/
def settingProtocol (P : Pooling S Value) (value : Option Value) (before inside : S.Op → Prop) :
    Protocol S ε SettingPhase where
  initial := .outside
  allows
    | .outside, .auto op => before op
    | .outside, .begin | .opened, .rollback | .set, .commit | .set, .rollback => True
    | .opened, .query op => P.sets op = value
    | .opened, .commit => value = none
    | .set, .query op => P.sets op = none
    | .set, .auto op => inside op
    | .outside, .query _ | .outside, .commit | .outside, .rollback | .opened, .begin | .opened, .auto _
    | .set, .begin => False
  next
    | .outside, .begin, .ok _ => .opened
    | .opened, .query _, .ok _ => if value.isSome = true then .set else .opened
    | _, .commit, _ | _, .rollback, _ => .outside
    | phase, _, _ => phase

/-- What is set on the connection of a request, if it has one. -/
def SettingPhase.expects (value : Option Value) : SettingPhase → Option (Option Value)
  | .outside => none
  | .opened => some none
  | .set => value.map some

/-- No two requests have one connection, nothing is set on a free one, and on the others what their request
    has set. -/
structure Pooled.Sets (P : Pooling S Value) (value : ι → Option Value) (before inside : ι → S.Op → Prop)
    (post : ι → SettingPhase → Except ε α → Prop) (pool : Pooled ι κ Value Db Key Write S ε α) : Prop where
  follows : pool.system.Follows (fun i => settingProtocol P (value i) (before i) (inside i)) post
  single : ∀ i j c, pool.connection i = some c → pool.connection j = some c → i = j
  unset : ∀ c, pool.IsFree c → pool.setting c = none
  expected : ∀ i, (pool.connection i).map pool.setting =
    if (pool.system.thread i).alive = true then
      (pool.system.phase (fun i => settingProtocol P (value i) (before i) (inside i)) i).expects (value i)
    else none

namespace Pooled

variable {P : Pooling S Value} {value : ι → Option Value} {before inside : ι → S.Op → Prop}
  {post : ι → SettingPhase → Except ε α → Prop} {pool source target : Pooled ι κ Value Db Key Write S ε α}

theorem sets_start {db : Db} {program : ι → Request S ε α}
    (obeys : ∀ i, (program i).Obeys (settingProtocol P (value i) (before i) (inside i)) (post i) .outside) :
    (start db program : Pooled ι κ Value Db Key Write S ε α).Sets P value before inside post where
  follows := Engine.follows_start obeys
  single _ _ _ holds := nomatch holds
  unset _ _ := rfl
  expected _ := rfl

/-- A request that has started a transaction is known to have a connection by its phase. -/
theorem Sets.connection_of_phase (sets : pool.Sets P value before inside post) {i : ι}
    (alive : (pool.system.thread i).alive = true) {phase : SettingPhase} {shown : Option Value}
    (isPhase : pool.system.phase (fun i => settingProtocol P (value i) (before i) (inside i)) i = phase)
    (expects : phase.expects (value i) = some shown) :
    ∃ c, pool.connection i = some c ∧ pool.setting c = shown := by
  have expected := sets.expected i
  rw [if_pos alive, isPhase, expects] at expected
  exact Option.map_eq_some_iff.mp expected

theorem Sets.connection_of_outside (sets : pool.Sets P value before inside post) {i : ι}
    (isOutside : pool.system.phase (fun i => settingProtocol P (value i) (before i) (inside i)) i = .outside) :
    pool.connection i = none := by
  have expected := sets.expected i
  rw [isOutside] at expected
  refine Option.map_eq_none_iff.mp (expected.trans ?_)
  split <;> rfl

variable [DecidableEq ι] [DecidableEq κ]

omit [DecidableEq ι] in
/-- A change to one connection shows on no other request's. -/
theorem Sets.map_update (sets : pool.Sets P value before inside post) {i j : ι} (differs : j ≠ i) {c : κ}
    (isOwn : pool.connection i = some c) (shown : Option Value) :
    (pool.connection j).map (Function.update pool.setting c shown) = (pool.connection j).map pool.setting := by
  cases isOther : pool.connection j with
  | none => rfl
  | some other =>
    have apart : other ≠ c := fun same => differs (sets.single j i c (same ▸ isOther) isOwn)
    exact congrArg some (Function.update_of_ne apart ..)

/-- The end of a transaction, as the other requests see it. -/
theorem Sets.map_closed (sets : source.Sets P value before inside post) {i j : ι} (differs : j ≠ i)
    (system : System ι Db Key Write S ε α) :
    ((source.closed i system).connection j).map (source.closed i system).setting =
      (source.connection j).map source.setting := by
  have same : (source.closed i system).connection j = source.connection j := Function.update_of_ne differs ..
  rw [same, closed]
  dsimp only
  cases isOwn : source.connection i with
  | none => rfl
  | some c => exact sets.map_update differs isOwn none

theorem Sets.unset_closed (sets : source.Sets P value before inside post) {i : ι}
    {system : System ι Db Key Write S ε α} {c : κ} (isFree : (source.closed i system).IsFree c) :
    (source.closed i system).setting c = none := by
  have others (j : ι) (differs : j ≠ i) : source.connection j ≠ some c := by
    have free := isFree j
    rwa [connection_closed, Function.update_of_ne differs] at free
  rw [closed]
  dsimp only
  cases isOwn : source.connection i with
  | none =>
    refine sets.unset c fun j => ?_
    by_cases same : j = i
    · rw [same, isOwn]
      exact (Option.some_ne_none c).symm
    · exact others j same
  | some own =>
    dsimp only
    by_cases isC : c = own
    · rw [isC, Function.update_self]
    · rw [Function.update_of_ne isC]
      refine sets.unset c fun j => ?_
      by_cases same : j = i
      · rw [same, isOwn]
        exact fun holds => isC (Option.some.inj holds).symm
      · exact others j same

theorem Sets.single_closed (sets : source.Sets P value before inside post) {i : ι}
    {system : System ι Db Key Write S ε α} {j k : ι} {c : κ} (first : (source.closed i system).connection j = some c)
    (second : (source.closed i system).connection k = some c) : j = k := by
  have holds {j : ι} (isHeld : (source.closed i system).connection j = some c) : source.connection j = some c := by
    by_cases same : j = i
    · rw [connection_closed, same, Function.update_self] at isHeld
      cases isHeld
    · rwa [connection_closed, Function.update_of_ne same] at isHeld
  exact sets.single j k c (holds first) (holds second)

/-- What a phase expects after an operation is what the request's connection shows then. -/
theorem Sets.map_goesOn (sets : source.Sets P value before inside post) {i : ι} {given : κ}
    {system : System ι Db Key Write S ε α} {op : RequestOp S} {reply : Except ε op.Reply}
    (alive : (source.system.thread i).alive = true)
    (allowed : (settingProtocol P (value i) (before i) (inside i) : Protocol S ε SettingPhase).allows
      (source.system.phase (fun i => settingProtocol P (value i) (before i) (inside i)) i) op)
    (available : op.acquires P = true → source.IsFree given) :
    ((source.goesOn i P given system op reply).connection i).map (source.goesOn i P given system op reply).setting =
      (((settingProtocol P (value i) (before i) (inside i)).next
        (source.system.phase (fun i => settingProtocol P (value i) (before i) (inside i)) i) op reply).expects
          (value i)) := by
  have expected := sets.expected i
  rw [if_pos alive] at expected
  generalize source.system.phase (fun i => settingProtocol P (value i) (before i) (inside i)) i = phase
    at allowed expected ⊢
  -- each operation against each phase: the phase allows or excludes it
  cases op with
  | begin =>
    cases phase with
    | outside =>
      cases reply with
      | ok _ =>
        change (Function.update source.connection i (some given) i).map source.setting = some none
        rw [Function.update_self, Option.map_some, sets.unset given (available rfl)]
      | error _ => exact expected
    | opened | set => exact allowed.elim
  | query op =>
    cases reply with
    | error _ => cases phase <;> exact expected
    | ok _ =>
      cases phase with
      | outside => exact allowed.elim
      | set =>
        have setsNone : P.sets op = none := allowed
        change (source.connection i).map (source.settingAfter i (P.sets op)) = (value i).map some
        rw [setsNone]
        exact expected
      | opened =>
        -- the setting is that of the request from its first statement on
        have setsValue : P.sets op = value i := allowed
        change (source.connection i).map (source.settingAfter i (P.sets op)) =
          (if (value i).isSome = true then SettingPhase.set else .opened).expects (value i)
        rw [setsValue]
        obtain ⟨c, isOwn, -⟩ := Option.map_eq_some_iff.mp expected
        cases value i with
        | none => exact expected
        | some value =>
          rw [settingAfter, isOwn]
          exact congrArg some (Function.update_self ..)
  | auto op => cases phase <;> exact expected
  | commit | rollback =>
    have isClosed : ((source.closed i system).connection i).map (source.closed i system).setting = none := by
      rw [connection_closed, Function.update_self]
      rfl
    cases phase <;> exact isClosed

/-- The other requests see nothing of an operation. -/
theorem Sets.map_goesOn_ne (sets : source.Sets P value before inside post) {i j : ι} (differs : j ≠ i) {given : κ}
    {system : System ι Db Key Write S ε α} (op : RequestOp S) (reply : Except ε op.Reply) :
    ((source.goesOn i P given system op reply).connection j).map (source.goesOn i P given system op reply).setting =
      (source.connection j).map source.setting := by
  cases op with
  | begin =>
    cases reply with
    | ok _ => exact congrArg (Option.map source.setting) (Function.update_of_ne differs ..)
    | error _ => rfl
  | query op =>
    cases reply with
    | error _ => rfl
    | ok _ =>
      change (source.connection j).map (source.settingAfter i (P.sets op)) = _
      cases P.sets op with
      | none => rfl
      | some value =>
        rw [settingAfter]
        cases isOwn : source.connection i with
        | none => rfl
        | some c => exact sets.map_update differs isOwn _
  | auto op => rfl
  | commit | rollback => exact sets.map_closed differs system

theorem Sets.unset_goesOn (sets : source.Sets P value before inside post) {i : ι} {given : κ}
    {system : System ι Db Key Write S ε α} {op : RequestOp S} {reply : Except ε op.Reply}
    (isOutside : op = .begin → source.connection i = none) {c : κ}
    (isFree : (source.goesOn i P given system op reply).IsFree c) :
    (source.goesOn i P given system op reply).setting c = none := by
  cases op with
  | begin =>
    cases reply with
    | error _ => exact sets.unset c isFree
    | ok _ =>
      refine sets.unset c fun j => ?_
      by_cases same : j = i
      · rw [same, isOutside rfl]
        exact (Option.some_ne_none c).symm
      · have free : Function.update source.connection i (some given) j ≠ some c := isFree j
        rwa [Function.update_of_ne same] at free
  | query op =>
    cases reply with
    | error _ => exact sets.unset c isFree
    | ok _ =>
      have unset := sets.unset c isFree
      change source.settingAfter i (P.sets op) c = none
      cases P.sets op with
      | none => exact unset
      | some value =>
        rw [settingAfter]
        cases isOwn : source.connection i with
        | none => exact unset
        | some own =>
          have apart : c ≠ own := fun same => isFree i (same ▸ isOwn)
          exact (Function.update_of_ne apart ..).trans unset
  | auto op => exact sets.unset c isFree
  | commit | rollback => exact sets.unset_closed isFree

theorem Sets.single_goesOn (sets : source.Sets P value before inside post) {i : ι} {given : κ}
    {system : System ι Db Key Write S ε α} {op : RequestOp S} {reply : Except ε op.Reply}
    (available : op.acquires P = true → source.IsFree given) {j k : ι} {c : κ}
    (first : (source.goesOn i P given system op reply).connection j = some c)
    (second : (source.goesOn i P given system op reply).connection k = some c) : j = k := by
  cases op with
  | begin =>
    cases reply with
    | error _ => exact sets.single j k c first second
    | ok _ =>
      have isFree := available rfl
      -- the connection that is handed out is nobody's, so its new holder is the only one
      have cases_holder {j : ι} (holds : Function.update source.connection i (some given) j = some c) :
          j = i ∧ c = given ∨ source.connection j = some c := by
        by_cases same : j = i
        · rw [same, Function.update_self] at holds
          exact .inl ⟨same, (Option.some.inj holds).symm⟩
        · rw [Function.update_of_ne same] at holds
          exact .inr holds
      obtain ⟨isI, isGiven⟩ | held := cases_holder first
      · obtain ⟨isI', -⟩ | held := cases_holder second
        · exact isI.trans isI'.symm
        · exact absurd (isGiven ▸ held) (isFree k)
      · obtain ⟨-, isGiven⟩ | held' := cases_holder second
        · exact absurd (isGiven ▸ held) (isFree j)
        · exact sets.single j k c held held'
  | query op =>
    cases reply with
    | error _ => exact sets.single j k c first second
    | ok _ => exact sets.single j k c first second
  | auto op => exact sets.single j k c first second
  | commit | rollback => exact sets.single_closed first second

variable {E : Engine Db Key Write Val S ε} [Fintype ι] [DecidableEq Key] {act : PoolAct ι κ ε}

/-- The step rule. -/
theorem Sets.step (sets : source.Sets P value before inside post) (stepped : E.PoolSteps P source act target) :
    target.Sets P value before inside post := by
  obtain ⟨follows, ⟨i, op, reply, alive, allowed, available, phases, alives, isTarget⟩ |
    ⟨i, phases, dead, alives, isTarget⟩⟩ := Engine.poolPhase_cases sets.follows stepped
  · have isOutside (begins : op = .begin) : source.connection i = none := by
      subst begins
      refine sets.connection_of_outside ?_
      generalize source.system.phase (fun i => settingProtocol P (value i) (before i) (inside i)) i = phase
        at allowed ⊢
      cases phase with
      | outside => rfl
      | opened | set => exact allowed.elim
    refine ⟨follows, ?_, ?_, fun j => ?_⟩
    · rw [isTarget]
      exact fun j k c => sets.single_goesOn available
    · rw [isTarget]
      exact fun c => sets.unset_goesOn isOutside
    · rw [alives, phases, isTarget]
      by_cases same : j = i
      · rw [same, if_pos alive, Function.update_self]
        exact sets.map_goesOn alive allowed available
      · rw [Function.update_of_ne same, sets.map_goesOn_ne same]
        exact sets.expected j
  · refine ⟨follows, ?_, ?_, fun j => ?_⟩
    · rw [isTarget]
      exact fun j k c => sets.single_closed
    · rw [isTarget]
      exact fun c => sets.unset_closed
    · by_cases same : j = i
      · rw [same, dead, isTarget, connection_closed, Function.update_self]
        rfl
      · rw [alives j same, phases, isTarget, sets.map_closed same]
        exact sets.expected j

end Pooled

/-! ## Transactions that wait for a second connection -/

/-- The next operation needs a connection beside the transaction's. -/
def Program.waits (P : Pooling S Value) : Request S ε α → Bool
  | .call (.auto op) _ => P.connects op
  | .call .begin _ | .call (.query _) _ | .call .commit _ | .call .rollback _ | .done _ | .throw _ => false

/-- What a request goes on with after an operation that does not end its transaction. -/
def System.continuation (E : Engine Db Key Write Val S ε) (system : System ι Db Key Write S ε α) :
    Act ι ε → Option (ι × Request S ε α)
  | .run i =>
    match (system.thread i).program with
    | .call op resume =>
      if op.endsTransaction = true then none
      else some (i, resume (E.perform (system.thread i).session system.db op).reply)
    | .done _ | .throw _ => none
  | .fail i error =>
    match (system.thread i).program with
    | .call op resume => if op.endsTransaction = true then none else some (i, resume (.error error))
    | .done _ | .throw _ => none
  | .crash _ => none

namespace Pooled

/-- All connections are held by transactions, and each of these waits for another one. -/
structure Deadlocked (P : Pooling S Value) (pool : Pooled ι κ Value Db Key Write S ε α) : Prop where
  exhausted : ∀ c, ¬ pool.IsFree c
  waiting : ∀ i, (pool.connection i).isSome = true → (pool.system.thread i).program.waits P = true

/-- While no connection is free and all other transactions wait, one goes on to wait as well. -/
def Closes (E : Engine Db Key Write Val S ε) (P : Pooling S Value) (pool : Pooled ι κ Value Db Key Write S ε α)
    (act : PoolAct ι κ ε) : Prop :=
  ∃ i next, pool.system.continuation E act.act = some (i, next) ∧ (pool.connection i).isSome = true ∧
    next.waits P = true ∧ (∀ c, ¬ pool.IsFree c) ∧
    ∀ j, j ≠ i → (pool.connection j).isSome = true → (pool.system.thread j).program.waits P = true

variable {P : Pooling S Value} {value : ι → Option Value} {before inside : ι → S.Op → Prop}
  {post : ι → SettingPhase → Except ε α → Prop} {pool source target : Pooled ι κ Value Db Key Write S ε α}

/-- Whoever waits inside a transaction is under way and has set its value, and waits for a statement that it may run
    there. -/
theorem Sets.inside_of_waits (sets : pool.Sets P value before inside post) {i : ι} {c : κ}
    (isOwn : pool.connection i = some c) (waits : (pool.system.thread i).program.waits P = true) :
    (∃ op, inside i op ∧ P.connects op = true) ∧ (pool.system.thread i).underWay = true ∧
      ∃ own, value i = some own ∧ pool.setting c = some own := by
  have expected := sets.expected i
  have obeys := sets.follows i
  generalize pool.system.phase (fun i => settingProtocol P (value i) (before i) (inside i)) i = phase
    at expected obeys
  rw [isOwn, Option.map_some] at expected
  cases calls : (pool.system.thread i).program with
  | done | throw => rw [calls] at waits; cases waits
  | call op resume =>
    rw [calls] at waits obeys
    cases op with
    | begin | query | commit | rollback => cases waits
    | auto op =>
      cases phase with
      | outside => split at expected <;> cases expected
      | opened => exact obeys.1.elim
      | set =>
        split at expected
        next alive =>
          obtain ⟨own, isValue, isSet⟩ := Option.map_eq_some_iff.mp expected.symm
          exact ⟨⟨op, obeys.1, waits⟩, by rw [Thread.underWay, alive, calls]; rfl, own, isValue, isSet.symm⟩
        next => cases expected

/-- A deadlock takes as many requests under way, with a value and with statements on other connections, as there are
    connections. -/
theorem Sets.card_le_of_deadlocked [Fintype κ] (sets : pool.Sets P value before inside post)
    (deadlocked : pool.Deadlocked P) (users : Finset ι)
    (all : ∀ i op own, inside i op → value i = some own → (pool.system.thread i).underWay = true → i ∈ users) :
    Fintype.card κ ≤ users.card := by
  have holder (c : κ) : ∃ i, i ∈ users ∧ pool.connection i = some c := by
    obtain ⟨i, isOwn⟩ := not_forall_not.mp (deadlocked.exhausted c)
    have holds : (pool.connection i).isSome = true := isOwn ▸ rfl
    obtain ⟨⟨op, allowed, -⟩, underWay, own, isValue, -⟩ := sets.inside_of_waits isOwn (deadlocked.waiting i holds)
    exact ⟨i, all i op own allowed isValue underWay, isOwn⟩
  choose holderOf isUser isOwn using holder
  refine Finset.card_le_card_of_injOn holderOf (fun c _ => isUser c) fun c _ d _ same => ?_
  exact Option.some.inj ((isOwn c).symm.trans ((congrArg pool.connection same).trans (isOwn d)))

variable [Fintype ι] [DecidableEq ι] [DecidableEq κ] [DecidableEq Key] {E : Engine Db Key Write Val S ε}
  {act : PoolAct ι κ ε}

/-- What a step does to the connections: it keeps them, hands one out, or takes one back. -/
theorem connections_cases (stepped : E.PoolSteps P source act target) :
    (∃ i next, source.system.continuation E act.act = some (i, next) ∧
      (target.system.thread i).program = next ∧ (∀ j, j ≠ i → target.system.thread j = source.system.thread j) ∧
      (target.connection = source.connection ∨ source.IsFree act.given ∧ target.setting = source.setting ∧
        target.connection = Function.update source.connection i (some act.given))) ∨
    source.system.continuation E act.act = none ∧ ∃ i, target.connection = Function.update source.connection i none ∧
      ∀ j, j ≠ i → target.system.thread j = source.system.thread j := by
  obtain ⟨ran, pooled⟩ := Engine.poolSteps_cases stepped
  obtain ⟨act, given⟩ := act
  obtain ⟨i, op, resume, reply, acted, calls, available, isTarget⟩ | ⟨i, isCrash, isTarget⟩ := pooled
  · have threads := E.threads_of_acted ran acted calls
    -- the reply decides how the request goes on, be it a result or a failure
    have continues : source.system.continuation E act =
        if op.endsTransaction = true then none else some (i, resume reply) := by
      obtain ⟨isRun, isReply⟩ | ⟨error, isFail, isReply⟩ := acted
      · dsimp only at isRun
        rw [isRun, isReply]
        simp only [System.continuation, calls]
      · dsimp only at isFail
        rw [isFail, isReply]
        simp only [System.continuation, calls]
    -- only `BEGIN` hands a connection out, and only where it succeeds; the end of a transaction returns it
    cases op with
    | begin =>
      refine .inl ⟨i, _, continues, threads.1, threads.2, ?_⟩
      rw [isTarget]
      cases reply with
      | ok _ => exact .inr ⟨available rfl, rfl, rfl⟩
      | error _ => exact .inl rfl
    | query op =>
      refine .inl ⟨i, _, continues, threads.1, threads.2, .inl ?_⟩
      rw [isTarget]
      cases reply <;> rfl
    | auto op =>
      refine .inl ⟨i, _, continues, threads.1, threads.2, .inl ?_⟩
      rw [isTarget]
      rfl
    | commit | rollback =>
      refine .inr ⟨continues, i, ?_, threads.2⟩
      rw [isTarget]
      rfl
  · dsimp only at isCrash
    subst isCrash
    refine .inr ⟨rfl, i, ?_, ?_⟩
    · rw [isTarget]
      rfl
    · generalize target.system = after at ran
      obtain ⟨j, other, next, isAct, -⟩ | ⟨j, error, other, next, isAct, -⟩ | ⟨j, isAct, -, rfl⟩ :=
        E.steps_cases ran
      · cases isAct
      · cases isAct
      · cases isAct
        exact fun j differs => Function.update_of_ne differs ..

/-- Nobody in a deadlock gets on, until a request is cut off. -/
theorem Deadlocked.step (deadlocked : source.Deadlocked P) (stepped : E.PoolSteps P source act target)
    (uncut : ∀ i, act.act ≠ .crash i) : target.Deadlocked P ∧ target.connection = source.connection := by
  obtain ⟨ran, ⟨i, op, resume, reply, acted, calls, available, isTarget⟩ | ⟨i, isCrash, -⟩⟩ :=
    Engine.poolSteps_cases stepped
  · have others := (E.threads_of_acted ran acted calls).2
    have notAcquires : op.acquires P = false :=
      Bool.eq_false_iff.mpr fun acquires => deadlocked.exhausted act.given (available acquires)
    have holdsNone : source.connection i = none := by
      refine Option.not_isSome_iff_eq_none.mp fun holds => ?_
      have waits := deadlocked.waiting i holds
      rw [calls] at waits
      cases op with
      | auto op => exact Bool.noConfusion (notAcquires.symm.trans waits)
      | begin | query | commit | rollback => cases waits
    have same : target.connection = source.connection := by
      rw [isTarget]
      cases op with
      | begin => cases notAcquires
      | query op => cases reply <;> rfl
      | auto op => rfl
      | commit | rollback =>
        change Function.update source.connection i none = source.connection
        rw [← holdsNone, Function.update_eq_self]
    refine ⟨⟨fun c => ?_, fun j holds => ?_⟩, same⟩
    · have taken := deadlocked.exhausted c
      rwa [IsFree, ← same] at taken
    · rw [same] at holds
      have differs : j ≠ i := by
        rintro rfl
        rw [holdsNone] at holds
        cases holds
      rw [others j differs]
      exact deadlocked.waiting j holds
  · exact absurd isCrash (uncut i)

/-- A pool comes to a deadlock exactly when the last transaction goes on to wait. -/
theorem Sets.deadlocked_iff (sets : source.Sets P value before inside post) (open' : ¬ source.Deadlocked P)
    (stepped : E.PoolSteps P source act target) : target.Deadlocked P ↔ source.Closes E P act := by
  have setsAfter := sets.step stepped
  obtain ⟨i, next, continues, isNext, others, sameConnections | ⟨isFree, sameSetting, given⟩⟩ |
    ⟨ended, i, closes, others⟩ := connections_cases stepped
  -- no connection changes hands: only the next operation of `i` is new
  · have sameFree (c : κ) : target.IsFree c ↔ source.IsFree c := by rw [IsFree, IsFree, sameConnections]
    constructor
    · rintro ⟨exhausted, waiting⟩
      rw [sameConnections] at waiting
      have exhaustedBefore (c : κ) := (sameFree c).not.mp (exhausted c)
      have waitingBefore (j : ι) (differs : j ≠ i) (holds : (source.connection j).isSome = true) :
          (source.system.thread j).program.waits P = true := others j differs ▸ waiting j holds
      by_cases holds : (source.connection i).isSome = true
      · exact ⟨i, next, continues, holds, isNext ▸ waiting i holds, exhaustedBefore, waitingBefore⟩
      · refine absurd ⟨exhaustedBefore, fun j holdsJ => ?_⟩ open'
        exact waitingBefore j (fun same => holds (same ▸ holdsJ)) holdsJ
    · rintro ⟨j, other, continuesJ, -, waits, exhausted, waiting⟩
      cases continues.symm.trans continuesJ
      refine ⟨fun c => (sameFree c).not.mpr (exhausted c), fun k holds => ?_⟩
      rw [sameConnections] at holds
      by_cases same : k = i
      · rw [same, isNext]
        exact waits
      · rw [others k same]
        exact waiting k same holds
  · -- a transaction that has just begun sets its value before it waits
    refine iff_of_false (fun deadlocked => ?_) ?_
    · have isOwn : target.connection i = some act.given := by rw [given, Function.update_self]
      obtain ⟨-, -, own, -, isSet⟩ := setsAfter.inside_of_waits isOwn (deadlocked.waiting i (isOwn ▸ rfl))
      rw [sameSetting, sets.unset act.given isFree] at isSet
      cases isSet
    · rintro ⟨-, -, -, -, -, exhausted, -⟩
      exact exhausted act.given isFree
  · refine iff_of_false (fun deadlocked => ?_) ?_
    -- one who ends has a connection, which is free now, or had none and changes nothing
    · cases isOwn : source.connection i with
      | some c =>
        refine deadlocked.exhausted c fun j holds => ?_
        rw [closes] at holds
        by_cases same : j = i
        · rw [same, Function.update_self] at holds
          cases holds
        · rw [Function.update_of_ne same] at holds
          exact same (sets.single j i c holds isOwn)
      | none =>
        have same : target.connection = source.connection := by
          rw [closes, ← isOwn]
          exact Function.update_eq_self i _
        obtain ⟨exhausted, waiting⟩ := deadlocked
        refine open' ⟨fun c => ?_, fun j holds => ?_⟩
        · have taken := exhausted c
          rwa [IsFree, same] at taken
        · have differs : j ≠ i := by
            rintro rfl
            rw [isOwn] at holds
            cases holds
          rw [← others j differs]
          exact waiting j (same ▸ holds)
    · rintro ⟨j, other, continues, -⟩
      cases ended.symm.trans continues

end Pooled

end StoreSaas
