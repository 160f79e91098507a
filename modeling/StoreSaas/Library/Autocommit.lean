import StoreSaas.Library.RelyGuarantee

/-! # Rely-guarantee rules for statements that commit by themselves

The counterpart of `Body` for a program whose statements each publish what they write.  The
session's own transaction, if one is open, stays as it is.
-/

namespace StoreSaas.Engine

variable {Db Key Write : Type} {Val : Key → Type} {S : Signature} {ε α β : Type}
variable (E : Engine Db Key Write Val S ε) (C : Contract Db Key Write S ε)

/-- The statements keep the contract and, unless one throws, end in `post`. -/
def Autocommitted (post : α → Db → Prop) (body : Program S ε α) (held : List (RowLock Key)) (pending : List Write)
    (db : Db) : Prop :=
  ∀ log, E.Safe C (fun result session db => session.held = held ∧ session.pending = pending ∧
    ∀ value, result = .ok value → post value db) body.autocommit ⟨held, pending, log⟩ db

variable {E C} {held : List (RowLock Key)} {pending : List Write} {db : Db}

theorem autocommitted_throw {post : α → Db → Prop} (error : ε) :
    E.Autocommitted C post (.throw error) held pending db :=
  fun _ _ _ => ⟨rfl, rfl, fun _ failed => nomatch failed⟩

theorem autocommitted_done {post : α → Db → Prop} {value : α}
    (holds : ∀ after, E.Interferes C.rely held db after → post value after) :
    E.Autocommitted C post (.done value) held pending db := by
  intro log after interferes
  refine ⟨rfl, rfl, fun given isValue => ?_⟩
  cases isValue
  exact holds after interferes

/-- A statement under a fact that the others keep: it publishes what it writes, or fails and publishes nothing. -/
theorem autocommitted_perform_bind (fact : Db → Prop) {post : β → Db → Prop} {op : S.Op}
    {next : S.Reply op → Program S ε β} (stable : ∀ before after, C.rely before after → fact before → fact after)
    (now : fact db)
    (silent : ∀ session db, C.assume session (.auto op) db → C.guarantee session (.auto op) db db)
    (continues : ∀ session db reply writes, fact db → C.assume session (.auto op) db →
      E.execute op db = .ok (reply, writes) → C.guarantee session (.auto op) db (E.applyAll db writes) ∧
        E.Autocommitted C post (next reply) held pending (E.applyAll db writes)) :
    E.Autocommitted C post (Program.perform op >>= next) held pending db := by
  intro log
  rw [Program.perform_bind]
  intro after interferes
  have stillHolds := stable _ _ interferes.allowed now
  refine ⟨fun error => autocommitted_throw error _, fun assumed => ?_⟩
  cases executed : E.execute op after with
  | ok result =>
    obtain ⟨owed, rest⟩ := continues _ after result.1 result.2 stillHolds assumed executed
    simp only [perform, executed]
    exact ⟨fun _ => owed, rest _⟩
  | error error =>
    simp only [perform, executed]
    exact ⟨fun _ => silent _ after assumed, autocommitted_throw error _⟩

theorem autocommitted_perform (fact : Db → Prop) {op : S.Op} {post : S.Reply op → Db → Prop}
    (stable : ∀ before after, C.rely before after → fact before → fact after) (now : fact db)
    (silent : ∀ session db, C.assume session (.auto op) db → C.guarantee session (.auto op) db db)
    (continues : ∀ session db reply writes, fact db → C.assume session (.auto op) db →
      E.execute op db = .ok (reply, writes) → C.guarantee session (.auto op) db (E.applyAll db writes) ∧
        ∀ after, C.rely (E.applyAll db writes) after → post reply after) :
    E.Autocommitted C post (Program.perform op) held pending db := by
  rw [← Program.perform_bind_done]
  refine autocommitted_perform_bind fact stable now silent fun session db reply writes holds assumed executed => ?_
  obtain ⟨owed, ends⟩ := continues session db reply writes holds assumed executed
  exact ⟨owed, autocommitted_done fun after interferes => ends after interferes.allowed⟩

theorem Autocommitted.bind {middle : α → Db → Prop} {post : β → Db → Prop} {body : Program S ε α}
    {next : α → Program S ε β} (first : E.Autocommitted C middle body held pending db)
    (continues : ∀ value db, middle value db → E.Autocommitted C post (next value) held pending db) :
    E.Autocommitted C post (body >>= next) held pending db := by
  intro log
  rw [Program.autocommit_bind]
  refine Safe.handle (first log) fun result session db ended => ?_
  obtain ⟨sameHeld, samePending, ends⟩ := ended db (.refl C _ db)
  obtain ⟨_, _, log⟩ := session
  cases sameHeld
  cases samePending
  cases result with
  | ok value => exact continues value db (ends value rfl) log
  | error error => exact autocommitted_throw error log

/-- Statements that keep the contract whatever came before. -/
theorem autocommitted_of_only {allowed : S.Op → Prop} {body : Program S ε α} (only : body.Only allowed)
    (silent : ∀ session op db, C.assume session (.auto op) db → C.guarantee session (.auto op) db db)
    (owed : ∀ session op db reply writes, allowed op → C.assume session (.auto op) db →
      E.execute op db = .ok (reply, writes) → C.guarantee session (.auto op) db (E.applyAll db writes)) :
    E.Autocommitted C (fun _ _ => True) body held pending db := by
  induction body generalizing db with
  | done value => exact autocommitted_done fun _ _ => trivial
  | throw error => exact autocommitted_throw error
  | call op resume ih =>
    intro log after interferes
    refine ⟨fun error => ih _ (only.2 _) _, fun assumed => ?_⟩
    cases executed : E.execute op after with
    | ok result =>
      simp only [perform, executed]
      exact ⟨fun _ => owed _ op after result.1 result.2 only.1 assumed executed, ih _ (only.2 _) _⟩
    | error error =>
      simp only [perform, executed]
      exact ⟨fun _ => silent _ op after assumed, ih _ (only.2 _) _⟩

theorem Safe.imp {weak strong : Except ε α → Session Key Write S ε → Db → Prop} {program : Request S ε α}
    {session : Session Key Write S ε} (safe : E.Safe C strong program session db)
    (implies : ∀ result session db, strong result session db → weak result session db) :
    E.Safe C weak program session db := by
  induction program generalizing session db with
  | done value => exact fun after interferes => implies _ _ _ (safe after interferes)
  | throw error => exact fun after interferes => implies _ _ _ (safe after interferes)
  | call op resume ih =>
    intro after interferes
    obtain ⟨fails, runs⟩ := safe after interferes
    exact ⟨fun error => ih _ (fails error), fun assumed => ⟨(runs assumed).1, ih _ (runs assumed).2⟩⟩

theorem Autocommitted.safe {post : α → Db → Prop} {body : Program S ε α}
    {log : List (Σ op : RequestOp S, Except ε op.Reply)} (keeps : E.Autocommitted C post body held pending db) :
    E.Safe C (fun _ _ _ => True) body.autocommit ⟨held, pending, log⟩ db :=
  (keeps log).imp fun _ _ _ _ => trivial

/-- What follows the statements of an open or a closed session. -/
theorem Autocommitted.then {middle : α → Db → Prop} {post : Except ε β → Session Key Write S ε → Db → Prop}
    {body : Program S ε α} {next : Except ε α → Request S ε β} {log : List (Σ op : RequestOp S, Except ε op.Reply)}
    (first : E.Autocommitted C middle body held pending db)
    (continues : ∀ result log db, (∀ value, result = .ok value → middle value db) →
      E.Safe C post (next result) ⟨held, pending, log⟩ db) :
    E.Safe C post (body.autocommit.handle next) ⟨held, pending, log⟩ db := by
  refine Safe.handle (first log) fun result session db ended => ?_
  obtain ⟨sameHeld, samePending, ends⟩ := ended db (.refl C _ db)
  obtain ⟨_, _, log⟩ := session
  cases sameHeld
  cases samePending
  exact continues result log db ends

end StoreSaas.Engine
