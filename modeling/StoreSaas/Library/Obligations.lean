import StoreSaas.Library.RelyGuarantee

/-! # What a request owes at each of its operations

`Safe` asks something of a request only where it publishes.  `Meets` also asks `owes` of
every operation it may come to call, whether the operation can go on or has to wait:
what the locks a request holds say about the lock it asks for next is of this kind.
The rules are those of `Safe` and `Body`.
-/

namespace StoreSaas.Engine

variable {Db Key Write : Type} {Val : Key → Type} {S : Signature} {ε α β ι : Type}
variable (E : Engine Db Key Write Val S ε)

/-- The request keeps its contract from here on, meets `owes` at each operation, and ends in `post`. -/
def Meets (C : Contract Db Key Write S ε) (owes : Session Key Write S ε → RequestOp S → Db → Prop)
    (post : Except ε α → Session Key Write S ε → Db → Prop) : Request S ε α → Session Key Write S ε → Db → Prop
  | .done value, session, db => ∀ after, E.Interferes C.rely session.held db after → post (.ok value) session after
  | .throw error, session, db => ∀ after, E.Interferes C.rely session.held db after → post (.error error) session after
  | .call op resume, session, db =>
    ∀ after, E.Interferes C.rely session.held db after →
      owes session op after ∧
      (∀ error, Meets C owes post (resume (.error error)) (failed session op error) after) ∧
      (C.assume session op after →
        (RequestOp.publishes op = true → C.guarantee session op after (E.perform session after op).db) ∧
        Meets C owes post (resume (E.perform session after op).reply) (E.perform session after op).session
          (E.perform session after op).db)

variable {E} {C : Contract Db Key Write S ε} {owes : Session Key Write S ε → RequestOp S → Db → Prop}

theorem Meets.safe {post : Except ε α → Session Key Write S ε → Db → Prop} {program : Request S ε α}
    {session : Session Key Write S ε} {db : Db} (meets : E.Meets C owes post program session db) :
    E.Safe C post program session db := by
  induction program generalizing session db with
  | done value => exact meets
  | throw error => exact meets
  | call op resume ih =>
    intro after interferes
    obtain ⟨-, fails, runs⟩ := meets after interferes
    exact ⟨fun error => ih _ (fails error), fun assumed => ⟨(runs assumed).1, ih _ (runs assumed).2⟩⟩

theorem Meets.stable {post : Except ε α → Session Key Write S ε → Db → Prop} {program : Request S ε α}
    {session : Session Key Write S ε} {db after : Db} (meets : E.Meets C owes post program session db)
    (interferes : E.Interferes C.rely session.held db after) : E.Meets C owes post program session after := by
  cases program with
  | done value => exact fun later more => meets later (interferes.trans more)
  | throw error => exact fun later more => meets later (interferes.trans more)
  | call op resume => exact fun later more => meets later (interferes.trans more)

theorem Meets.handle {middle : Except ε α → Session Key Write S ε → Db → Prop}
    {post : Except ε β → Session Key Write S ε → Db → Prop} {program : Request S ε α}
    {next : Except ε α → Request S ε β} {session : Session Key Write S ε} {db : Db}
    (meets : E.Meets C owes middle program session db)
    (continues : ∀ result session db,
      (∀ after, E.Interferes C.rely session.held db after → middle result session after) →
      E.Meets C owes post (next result) session db) :
    E.Meets C owes post (program.handle next) session db := by
  induction program generalizing session db with
  | done value => exact continues _ _ _ meets
  | throw error => exact continues _ _ _ meets
  | call op resume ih =>
    intro after interferes
    obtain ⟨owed, fails, runs⟩ := meets after interferes
    exact ⟨owed, fun error => ih _ (fails error), fun assumed => ⟨(runs assumed).1, ih _ (runs assumed).2⟩⟩

/-! ## Transactions -/

variable (E C owes) in
/-- A transaction's body meets its obligations and, unless it throws, ends in `post`. -/
def MeetsBody (post : α → Session Key Write S ε → Db → Prop) (body : Program S ε α)
    (session : Session Key Write S ε) (db : Db) : Prop :=
  E.Meets C owes (fun result session db => match result with
    | .ok value => post value session db
    | .error _ => True) body.inTransaction session db

theorem meetsBody_throw {post : α → Session Key Write S ε → Db → Prop} (error : ε)
    (session : Session Key Write S ε) (db : Db) : E.MeetsBody C owes post (.throw error) session db :=
  fun _ _ => trivial

/-- A statement in a body, under an invariant that interference keeps. -/
theorem meetsBody_perform_bind {invariant : Session Key Write S ε → Db → Prop}
    {post : β → Session Key Write S ε → Db → Prop} {op : S.Op} {next : S.Reply op → Program S ε β}
    {session : Session Key Write S ε} {db : Db}
    (stable : ∀ session db after, invariant session db → E.Interferes C.rely session.held db after →
      invariant session after)
    (now : invariant session db)
    (owed : ∀ db, invariant session db → owes session (.query op) db)
    (continues : ∀ db reply writes, invariant session db → C.assume session (.query op) db →
      E.execute op (E.view db session) = .ok (reply, writes) →
      E.MeetsBody C owes post (next reply) (E.afterQuery session op (E.view db session) reply writes) db) :
    E.MeetsBody C owes post (Program.perform op >>= next) session db := by
  rw [Program.perform_bind]
  intro after interferes
  have still := stable session db after now interferes
  refine ⟨owed after still, fun error => meetsBody_throw error _ after, fun assumed =>
    ⟨(fun publishes => nomatch publishes), ?_⟩⟩
  cases executed : E.execute op (E.view after session) with
  | ok result =>
    rw [perform_query_ok executed]
    exact continues after result.1 result.2 still assumed executed
  | error error =>
    rw [perform_query_error executed]
    exact meetsBody_throw error _ after

theorem MeetsBody.bind {middle : α → Session Key Write S ε → Db → Prop}
    {post : β → Session Key Write S ε → Db → Prop} {body : Program S ε α} {next : α → Program S ε β}
    {session : Session Key Write S ε} {db : Db} (meets : E.MeetsBody C owes middle body session db)
    (continues : ∀ value session db, middle value session db → E.MeetsBody C owes post (next value) session db) :
    E.MeetsBody C owes post (body >>= next) session db := by
  induction body generalizing session db with
  | done value => exact continues value session db (meets db (.refl C _ db))
  | throw error => exact meetsBody_throw error session db
  | call op resume ih =>
    intro after interferes
    obtain ⟨owed, fails, runs⟩ := meets after interferes
    exact ⟨owed, fun error => ih _ (fails error), fun assumed => ⟨(runs assumed).1, ih _ (runs assumed).2⟩⟩

/-- The invariant rule: a body all of whose statements keep a stable invariant and owe nothing it does not imply. -/
theorem meetsBody_of_only {invariant : Session Key Write S ε → Db → Prop} {allowed : S.Op → Prop}
    (stable : ∀ session db after, invariant session db → E.Interferes C.rely session.held db after →
      invariant session after)
    (owed : ∀ session db op, allowed op → invariant session db → owes session (.query op) db)
    (keeps : ∀ session db op reply writes, allowed op → invariant session db →
      E.execute op (E.view db session) = .ok (reply, writes) →
      invariant (E.afterQuery session op (E.view db session) reply writes) db)
    (fails : ∀ session db op error, allowed op → invariant session db →
      invariant { session with log := ⟨.query op, .error error⟩ :: session.log } db)
    {body : Program S ε α} (only : body.Only allowed) {session : Session Key Write S ε} {db : Db}
    (now : invariant session db) : E.MeetsBody C owes (fun _ => invariant) body session db := by
  induction body generalizing session db with
  | done value => exact fun after interferes => stable _ _ _ now interferes
  | throw error => exact meetsBody_throw error session db
  | call op resume ih =>
    intro after interferes
    have still := stable session db after now interferes
    refine ⟨owed _ _ op only.1 still, fun error => ih _ (only.2 _) (fails _ _ op error only.1 still), fun _ =>
      ⟨(fun publishes => nomatch publishes), ?_⟩⟩
    cases executed : E.execute op (E.view after session) with
    | ok result =>
      rw [perform_query_ok executed]
      exact ih _ (only.2 _) (keeps _ _ op _ _ only.1 still executed)
    | error error =>
      rw [perform_query_error executed]
      exact ih _ (only.2 _) (fails _ _ op error only.1 still)

/-- A transaction meets its obligations when its body does, and its end justifies the commit. -/
theorem meets_withTransaction {post : α → Session Key Write S ε → Db → Prop} {body : Program S ε α}
    {session : Session Key Write S ε} {db : Db}
    (ends : ∀ session db op, op = .begin ∨ op = .commit ∨ op = .rollback → owes session op db)
    (meets : ∀ after, E.Interferes C.rely session.held db after →
      E.MeetsBody C owes post body { session with log := ⟨.begin, .ok ()⟩ :: session.log } after)
    (commits : ∀ value session db, post value session db → C.assume session .commit db →
      C.guarantee session .commit db (E.view db session)) :
    E.Meets C owes (fun _ _ _ => True) (Program.withTransaction body.inTransaction) session db := by
  intro after interferes
  refine ⟨ends _ _ _ (.inl rfl), fun error _ _ => trivial, fun _ => ⟨(fun publishes => nomatch publishes), ?_⟩⟩
  refine Meets.handle (meets after interferes) fun result session db ended => ?_
  cases result with
  | ok value =>
    intro later more
    refine ⟨ends _ _ _ (.inr (.inl rfl)), fun error _ _ => trivial, fun assumed => ⟨fun _ => ?_, fun _ _ => trivial⟩⟩
    exact commits value session later (ended later more) assumed
  | error error =>
    exact fun later more => ⟨ends _ _ _ (.inr (.inr rfl)), fun _ _ _ => trivial, fun _ =>
      ⟨(fun publishes => nomatch publishes), fun _ _ => trivial⟩⟩

/-! ## The whole system -/

variable (E) in
/-- Every live request meets its obligations from here on. -/
structure Meeting (contract : ι → Contract Db Key Write S ε)
    (owes : ι → Session Key Write S ε → RequestOp S → Db → Prop) (system : System ι Db Key Write S ε α) : Prop where
  exclusive : E.Exclusive system
  meets : ∀ i, (system.thread i).alive = true →
    E.Meets (contract i) (owes i) (fun _ _ _ => True) (system.thread i).program (system.thread i).session system.db

variable {contract : ι → Contract Db Key Write S ε} {debts : ι → Session Key Write S ε → RequestOp S → Db → Prop}

theorem Meeting.conforms {system : System ι Db Key Write S ε α} (meeting : E.Meeting contract debts system) :
    E.Conforms contract system :=
  ⟨meeting.exclusive, fun i alive => (meeting.meets i alive).safe⟩

/-- What the next operation of a request owes. -/
theorem Meeting.owed {system : System ι Db Key Write S ε α} (meeting : E.Meeting contract debts system) {i : ι}
    {op : RequestOp S} {resume : Except ε op.Reply → Request S ε α} (alive : (system.thread i).alive = true)
    (calls : (system.thread i).program = .call op resume) : debts i (system.thread i).session op system.db := by
  have meets := meeting.meets i alive
  rw [calls] at meets
  exact (meets system.db (.refl (contract i) _ _)).1

theorem meeting_start {db : Db} {program : ι → Request S ε α}
    (meets : ∀ i, E.Meets (contract i) (debts i) (fun _ _ _ => True) (program i) .empty db) :
    E.Meeting contract debts (System.start db program) :=
  ⟨E.exclusive_start db program, fun i _ => meets i⟩

variable [Fintype ι] [DecidableEq ι] [DecidableEq Key]

/-- The step rule. -/
theorem meeting_step (compatible : Compatible contract) {source target : System ι Db Key Write S ε α} {act : Act ι ε}
    (meeting : E.Meeting contract debts source) (stepped : E.Steps source act target)
    (assumed : Assumed contract source act) : E.Meeting contract debts target := by
  refine ⟨exclusive_step meeting.exclusive stepped, ?_⟩
  rcases E.steps_cases stepped with ⟨i, op, resume, rfl, alive, calls, free, rfl⟩ |
    ⟨i, error, op, resume, rfl, alive, calls, rfl⟩ | ⟨i, rfl, alive, rfl⟩
  · intro j aliveAfter
    by_cases same : j = i
    · subst same
      have meets := meeting.meets j alive
      rw [calls] at meets
      simp only [Function.update_self]
      exact ((meets source.db (.refl (contract j) _ _)).2.2 (assumed op resume calls)).2
    · simp only [Function.update_of_ne same] at aliveAfter ⊢
      exact (meeting.meets j aliveAfter).stable
        (meeting.conforms.interferes compatible same alive calls free (assumed op resume calls))
  · intro j aliveAfter
    by_cases same : j = i
    · subst same
      have meets := meeting.meets j alive
      rw [calls] at meets
      simp only [Function.update_self]
      exact (meets source.db (.refl (contract j) _ _)).2.1 error
    · simp only [Function.update_of_ne same] at aliveAfter ⊢
      exact meeting.meets j aliveAfter
  · intro j aliveAfter
    by_cases same : j = i
    · subst same
      simp only [Function.update_self] at aliveAfter
      cases aliveAfter
    · simp only [Function.update_of_ne same] at aliveAfter ⊢
      exact meeting.meets j aliveAfter

end StoreSaas.Engine
