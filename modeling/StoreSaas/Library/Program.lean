import Mathlib.Logic.Basic

/-! # Programs that call an environment

A `Signature` names the operations an environment offers and the type of reply
to each.  A `Program` either ends (with a value or by throwing) or calls one
operation and continues from its reply, which may be a failure.  Nothing is said
here about what an operation does: `runWith` gives a program its meaning alone
against a state, and a scheduler may just as well interleave the calls of many
programs.
-/

namespace StoreSaas

/-- The operations an environment offers, each with the type of its reply. -/
structure Signature where
  Op : Type
  Reply : Op → Type

inductive Program (S : Signature) (ε α : Type) where
  | done (value : α)
  | throw (error : ε)
  | call (op : S.Op) (resume : Except ε (S.Reply op) → Program S ε α)

namespace Program

variable {S : Signature} {ε α β γ : Type}

def ended : Program S ε α → Bool
  | .done _ | .throw _ => true
  | .call _ _ => false

/-- Continue a program with a handler for both ways in which it can end. -/
def handle : Program S ε α → (Except ε α → Program S ε β) → Program S ε β
  | .done value, next => next (.ok value)
  | .throw error, next => next (.error error)
  | .call op resume, next => .call op (fun reply => (resume reply).handle next)

/-- The handler that goes on from a value and passes an error through. -/
def onOk (next : α → Program S ε β) : Except ε α → Program S ε β
  | .ok value => next value
  | .error error => .throw error

/-- The handler that keeps a value and goes on from an error. -/
def onError (next : ε → Program S ε α) : Except ε α → Program S ε α
  | .ok value => .done value
  | .error error => next error

instance : Monad (Program S ε) where
  pure := .done
  bind program next := program.handle (onOk next)

def tryCatch (program : Program S ε α) (next : ε → Program S ε α) : Program S ε α :=
  program.handle (onError next)

/-- Call one operation; its failure is thrown. -/
def perform (op : S.Op) : Program S ε (S.Reply op) :=
  .call op (onOk .done)

/-- End with a value, or by throwing. -/
def ofExcept : Except ε α → Program S ε α
  | .ok value => .done value
  | .error error => .throw error

@[simp] theorem onOk_ok (next : α → Program S ε β) (value : α) : onOk next (.ok value) = next value := rfl
@[simp] theorem onOk_error (next : α → Program S ε β) (error : ε) :
    onOk next (.error error) = .throw error := rfl
@[simp] theorem onError_ok (next : ε → Program S ε α) (value : α) :
    onError next (.ok value) = .done value := rfl
@[simp] theorem onError_error (next : ε → Program S ε α) (error : ε) :
    onError next (.error error) = next error := rfl

@[simp] theorem pure_eq_done (value : α) : (pure value : Program S ε α) = .done value := rfl
@[simp] theorem done_bind (value : α) (next : α → Program S ε β) :
    (.done value : Program S ε α) >>= next = next value := rfl
@[simp] theorem throw_bind (error : ε) (next : α → Program S ε β) :
    (.throw error : Program S ε α) >>= next = .throw error := rfl
@[simp] theorem call_bind (op : S.Op) (resume : Except ε (S.Reply op) → Program S ε α)
    (next : α → Program S ε β) :
    (.call op resume : Program S ε α) >>= next = .call op (fun reply => resume reply >>= next) := rfl

theorem onOk_bind (first : α → Program S ε β) (next : β → Program S ε γ) (reply : Except ε α) :
    onOk first reply >>= next = onOk (fun value => first value >>= next) reply := by
  cases reply <;> rfl

theorem perform_bind (op : S.Op) (next : S.Reply op → Program S ε β) :
    (perform op : Program S ε _) >>= next = .call op (onOk next) := by
  simp only [perform, call_bind, onOk_bind, done_bind]

theorem perform_bind_done (op : S.Op) : (perform op : Program S ε _) >>= .done = perform op :=
  perform_bind op .done

theorem handle_handle (program : Program S ε α) (first : Except ε α → Program S ε β)
    (second : Except ε β → Program S ε γ) :
    (program.handle first).handle second = program.handle (fun reply => (first reply).handle second) := by
  induction program with
  | done value => rfl
  | throw error => rfl
  | call op resume ih => simp only [handle, ih]

theorem bind_assoc (program : Program S ε α) (first : α → Program S ε β) (second : β → Program S ε γ) :
    program >>= first >>= second = program >>= fun value => first value >>= second := by
  change (program.handle (onOk first)).handle (onOk second) = _
  rw [handle_handle]
  exact congrArg program.handle (funext fun reply => onOk_bind first second reply)

/-! ## The operations a program may call -/

/-- Every operation the program can come to call is allowed. -/
def Only (allowed : S.Op → Prop) : Program S ε α → Prop
  | .done _ | .throw _ => True
  | .call op resume => allowed op ∧ ∀ reply, (resume reply).Only allowed

theorem Only.bind {allowed : S.Op → Prop} {program : Program S ε α} {next : α → Program S ε β}
    (first : program.Only allowed) (rest : ∀ value, (next value).Only allowed) :
    (program >>= next).Only allowed := by
  induction program with
  | done value => exact rest value
  | throw error => trivial
  | call op resume ih => exact ⟨first.1, fun reply => ih reply (first.2 reply)⟩

theorem Only.handle {allowed : S.Op → Prop} {program : Program S ε α} {next : Except ε α → Program S ε β}
    (first : program.Only allowed) (rest : ∀ result, (next result).Only allowed) :
    (program.handle next).Only allowed := by
  induction program with
  | done value => exact rest _
  | throw error => exact rest _
  | call op resume ih => exact ⟨first.1, fun reply => ih reply (first.2 reply)⟩

theorem only_perform {allowed : S.Op → Prop} {op : S.Op} (isAllowed : allowed op) :
    (perform op : Program S ε _).Only allowed := by
  refine ⟨isAllowed, fun reply => ?_⟩
  cases reply <;> trivial

theorem only_perform_bind {allowed : S.Op → Prop} {op : S.Op} {next : S.Reply op → Program S ε β}
    (isAllowed : allowed op) (rest : ∀ reply, (next reply).Only allowed) : (perform op >>= next).Only allowed :=
  (only_perform isAllowed).bind rest

theorem only_ite {allowed : S.Op → Prop} {condition : Prop} [Decidable condition] {program other : Program S ε α}
    (holds : program.Only allowed) (fails : other.Only allowed) : (if condition then program else other).Only allowed := by
  split
  next => exact holds
  next => exact fails

theorem Only.imp {allowed more : S.Op → Prop} {program : Program S ε α} (only : program.Only allowed)
    (implies : ∀ op, allowed op → more op) : program.Only more := by
  induction program with
  | done | throw => trivial
  | call op resume ih => exact ⟨implies op only.1, fun reply => ih reply (only.2 reply)⟩

theorem Only.and {first second : S.Op → Prop} {program : Program S ε α} (isFirst : program.Only first)
    (isSecond : program.Only second) : program.Only fun op => first op ∧ second op := by
  induction program with
  | done | throw => trivial
  | call op resume ih => exact ⟨⟨isFirst.1, isSecond.1⟩, fun reply => ih reply (isFirst.2 reply) (isSecond.2 reply)⟩

theorem only_any (program : Program S ε α) : program.Only fun _ => True := by
  induction program with
  | done | throw => trivial
  | call op resume ih => exact ⟨trivial, ih⟩

/-! ## Running a program alone -/

section Alone

variable {State : Type} (execute : (op : S.Op) → State → Except ε (S.Reply op) × State)

/-- The result and the final state of a program that runs with nothing in between. -/
def runWith : Program S ε α → State → Except ε α × State
  | .done value, state => (.ok value, state)
  | .throw error, state => (.error error, state)
  | .call op resume, state =>
    (resume (execute op state).1).runWith (execute op state).2

@[simp] theorem runWith_done (value : α) (state : State) :
    (.done value : Program S ε α).runWith execute state = (.ok value, state) := rfl
@[simp] theorem runWith_throw (error : ε) (state : State) :
    (.throw error : Program S ε α).runWith execute state = (.error error, state) := rfl
@[simp] theorem runWith_call (op : S.Op) (resume : Except ε (S.Reply op) → Program S ε α)
    (state : State) :
    (.call op resume : Program S ε α).runWith execute state =
      (resume (execute op state).1).runWith execute (execute op state).2 := rfl

/-- The invariant rule: what every allowed operation keeps, a program that calls no others keeps. -/
theorem runWith_of_only {allowed : S.Op → Prop} {invariant : State → Prop} {program : Program S ε α}
    (only : program.Only allowed)
    (keeps : ∀ op state, allowed op → invariant state → invariant (execute op state).2) {state : State}
    (now : invariant state) : invariant (program.runWith execute state).2 := by
  induction program generalizing state with
  | done value => exact now
  | throw error => exact now
  | call op resume ih => exact ih _ (only.2 _) (keeps op state only.1 now)

theorem runWith_handle (program : Program S ε α) (next : Except ε α → Program S ε β) (state : State) :
    (program.handle next).runWith execute state =
      (next (program.runWith execute state).1).runWith execute (program.runWith execute state).2 := by
  induction program generalizing state with
  | done value => rfl
  | throw error => rfl
  | call op resume ih => exact ih _ _

theorem runWith_bind (program : Program S ε α) (next : α → Program S ε β) (state : State) :
    (program >>= next).runWith execute state =
      (onOk next (program.runWith execute state).1).runWith execute (program.runWith execute state).2 :=
  runWith_handle execute program (onOk next) state

theorem runWith_bind_ok {program : Program S ε α} {next : α → Program S ε β} {state after : State} {value : α}
    (ran : program.runWith execute state = (.ok value, after)) :
    (program >>= next).runWith execute state = (next value).runWith execute after := by
  rw [runWith_bind, ran]
  rfl

theorem runWith_perform (op : S.Op) (state : State) :
    (perform op : Program S ε (S.Reply op)).runWith execute state = execute op state := by
  rw [perform, runWith_call]
  cases execute op state with
  | mk result after => cases result <;> rfl

theorem runWith_perform_bind (op : S.Op) (next : S.Reply op → Program S ε β) (state : State) :
    (perform op >>= next).runWith execute state =
      (onOk next (execute op state).1).runWith execute (execute op state).2 := by
  rw [perform_bind, runWith_call]

theorem runWith_perform_ok {op : S.Op} {next : S.Reply op → Program S ε β} {state after : State}
    {reply : S.Reply op} (ran : execute op state = (.ok reply, after)) :
    (perform op >>= next).runWith execute state = (next reply).runWith execute after := by
  rw [runWith_perform_bind, ran]
  rfl

end Alone

end Program

end StoreSaas
