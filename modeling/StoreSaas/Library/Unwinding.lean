import Mathlib.Data.List.Basic
import StoreSaas.Library.Sequential

/-! # What one owner sees of a shared state

`view` is what an owner sees of the state.  Where the actions of others leave the view as it
is, and an owner's own actions answer and go on by the view alone, the answers that an owner
gets in a run depend on the owner's actions only (`answers_eq`).

Both conditions are about single operations: `Program.Each` follows a program from one state
and asks something of every operation it comes to, and the two rules lift the conditions from
the operations to the program.
-/

namespace StoreSaas

namespace Program

variable {S : Signature} {ε α β State View : Type}
variable (execute : (op : S.Op) → State → Except ε (S.Reply op) × State)

/-- Every operation that the program comes to from this state is allowed there, and `post` holds if it ends. -/
def Each (allowed : State → S.Op → Prop) (post : α → State → Prop) : Program S ε α → State → Prop
  | .done value, state => post value state
  | .throw _, _ => True
  | .call op resume, state =>
    allowed state op ∧ Each allowed post (resume (execute op state).1) (execute op state).2

variable {execute} {allowed : State → S.Op → Prop} {state : State}

theorem Each.bind {middle : α → State → Prop} {post : β → State → Prop} {program : Program S ε α}
    {next : α → Program S ε β} (first : program.Each execute allowed middle state)
    (rest : ∀ value after, middle value after → (next value).Each execute allowed post after) :
    (program >>= next).Each execute allowed post state := by
  induction program generalizing state with
  | done value => exact rest value state first
  | throw error => trivial
  | call op resume ih => exact ⟨first.1, ih _ first.2⟩

theorem Each.imp {weak strong : α → State → Prop} {program : Program S ε α}
    (each : program.Each execute allowed strong state) (implies : ∀ value after, strong value after → weak value after) :
    program.Each execute allowed weak state := by
  induction program generalizing state with
  | done value => exact implies _ _ each
  | throw error => trivial
  | call op resume ih => exact ⟨each.1, ih _ each.2⟩

/-- What is known of the end, for a program whose operations are all allowed. -/
theorem Each.ensuring {post : α → State → Prop} {program : Program S ε α}
    (each : program.Each execute allowed (fun _ _ => True) state) (ensures : Ensures execute program state post) :
    program.Each execute allowed post state := by
  induction program generalizing state with
  | done value => exact ensures value state rfl
  | throw error => trivial
  | call op resume ih => exact ⟨each.1, ih _ each.2 ensures⟩

theorem each_perform_bind {op : S.Op} {next : S.Reply op → Program S ε β} {post : β → State → Prop}
    (isAllowed : allowed state op)
    (rest : ∀ reply after, execute op state = (.ok reply, after) → (next reply).Each execute allowed post after) :
    (perform op >>= next).Each execute allowed post state := by
  rw [perform_bind]
  refine ⟨isAllowed, ?_⟩
  cases executed : execute op state with
  | mk result after =>
    cases result with
    | ok reply => exact rest reply after executed
    | error error => trivial

theorem each_perform (op : S.Op) {post : S.Reply op → State → Prop} (isAllowed : allowed state op)
    (rest : ∀ reply after, execute op state = (.ok reply, after) → post reply after) :
    (perform op : Program S ε (S.Reply op)).Each execute allowed post state := by
  rw [← perform_bind_done]
  exact each_perform_bind isAllowed rest

theorem each_ite {condition : Prop} [Decidable condition] {program other : Program S ε α} {post : α → State → Prop}
    (holds : condition → program.Each execute allowed post state)
    (fails : ¬ condition → other.Each execute allowed post state) :
    (if condition then program else other).Each execute allowed post state := by
  split
  next isTrue => exact holds isTrue
  next isFalse => exact fails isFalse

/-- What every allowed operation leaves as it is, the program leaves as it is. -/
theorem Each.view_eq {post : α → State → Prop} {program : Program S ε α} (view : State → View)
    (each : program.Each execute allowed post state)
    (respects : ∀ state op, allowed state op → view (execute op state).2 = view state) :
    view (program.runWith execute state).2 = view state := by
  induction program generalizing state with
  | done value | throw error => rfl
  | call op resume ih => exact (ih _ each.2).trans (respects state op each.1)

/-- An invariant that every allowed operation keeps. -/
theorem Each.keeps {post : α → State → Prop} {program : Program S ε α} (invariant : State → Prop)
    (each : program.Each execute allowed post state)
    (keeps : ∀ state op, allowed state op → invariant state → invariant (execute op state).2)
    (now : invariant state) : invariant (program.runWith execute state).2 := by
  induction program generalizing state with
  | done value | throw error => exact now
  | call op resume ih => exact ih _ each.2 (keeps state op each.1 now)

/-- Two runs of a program from states that look alike answer the same, and end in states that look alike. -/
theorem Each.alike {post : α → State → Prop} {program : Program S ε α} (view : State → View) {left right : State}
    (eachLeft : program.Each execute allowed post left) (eachRight : program.Each execute allowed post right)
    (consistent : ∀ left right op, allowed left op → allowed right op → view left = view right →
      (execute op left).1 = (execute op right).1 ∧ view (execute op left).2 = view (execute op right).2)
    (same : view left = view right) :
    (program.runWith execute left).1 = (program.runWith execute right).1 ∧
      view (program.runWith execute left).2 = view (program.runWith execute right).2 := by
  induction program generalizing left right with
  | done value | throw error => exact ⟨rfl, same⟩
  | call op resume ih =>
    obtain ⟨sameReply, sameView⟩ := consistent left right op eachLeft.1 eachRight.1 same
    have restRight := eachRight.2
    simp only [runWith_call]
    rw [← sameReply] at restRight ⊢
    exact ih _ eachLeft.2 restRight sameView

/-- On states that carry more, another execution may do the same. -/
theorem Each.runWith_along {Other : Type} {executeToo : (op : S.Op) → Other → Except ε (S.Reply op) × Other}
    {post : α → State → Prop} {program : Program S ε α} (along : State → Other)
    (each : program.Each execute allowed post state)
    (same : ∀ state op, allowed state op →
      executeToo op (along state) = ((execute op state).1, along (execute op state).2)) :
    program.runWith executeToo (along state) =
      ((program.runWith execute state).1, along (program.runWith execute state).2) := by
  induction program generalizing state with
  | done value | throw error => rfl
  | call op resume ih =>
    rw [runWith_call, runWith_call, same state op each.1]
    exact ih _ each.2

end Program

/-! ## Unwinding -/

namespace Unwinding

variable {State Action Owner Answer View : Type} (serve : Action → State → Answer × State)

/-- The state after these actions. -/
def runAll : List Action → State → State
  | [], state => state
  | action :: rest, state => runAll rest (serve action state).2

variable [DecidableEq Owner] (owner : Action → Owner)

/-- The answers to the actions of one owner, in their order. -/
def answersTo (o : Owner) : List Action → State → List Answer
  | [], _ => []
  | action :: rest, state =>
    if owner action = o then (serve action state).1 :: answersTo o rest (serve action state).2
    else answersTo o rest (serve action state).2

/-- `Ready` are the states from which the actions that are left can be served one after the other. -/
structure Unwinds (view : Owner → State → View) (Ready : List Action → State → Prop) : Prop where
  next : ∀ action rest state, Ready (action :: rest) state → Ready rest (serve action state).2
  respects : ∀ action rest state o, Ready (action :: rest) state → owner action ≠ o →
    view o (serve action state).2 = view o state
  consistent : ∀ action rest more left right, Ready (action :: rest) left → Ready (action :: more) right →
    view (owner action) left = view (owner action) right →
    (serve action left).1 = (serve action right).1 ∧
      view (owner action) (serve action left).2 = view (owner action) (serve action right).2

variable {serve owner} {view : Owner → State → View} {Ready : List Action → State → Prop}

/-- What an owner gets and sees depends on the owner's own actions. -/
theorem Unwinds.answers_eq (unwinds : Unwinds serve owner view Ready) (o : Owner) {first second : List Action}
    {left right : State} (readyLeft : Ready first left) (readyRight : Ready second right)
    (same : view o left = view o right)
    (sameOwn : first.filter (fun action => owner action = o) = second.filter fun action => owner action = o) :
    answersTo serve owner o first left = answersTo serve owner o second right ∧
      view o (runAll serve first left) = view o (runAll serve second right) := by
  induction first generalizing second left right with
  | nil =>
    -- no action of the owner is left in the second run either
    induction second generalizing right with
    | nil => exact ⟨rfl, same⟩
    | cons action rest ih =>
      have isOther : owner action ≠ o := fun isOwn => by simp [isOwn] at sameOwn
      simp only [List.filter_cons, isOther, decide_false, Bool.false_eq_true, if_false] at sameOwn
      simp only [answersTo, isOther, if_false, runAll]
      exact ih (unwinds.next _ _ _ readyRight)
        (same.trans (unwinds.respects _ _ _ o readyRight isOther).symm) sameOwn
  | cons action rest ih =>
    by_cases isOwn : owner action = o
    · induction second generalizing right with
      | nil => simp [isOwn] at sameOwn
      | cons other more ihSecond =>
        by_cases isOwnToo : owner other = o
        · -- both take the same step of the owner
          simp only [List.filter_cons, isOwn, isOwnToo, decide_true, if_true, List.cons.injEq] at sameOwn
          obtain ⟨rfl, sameRest⟩ := sameOwn
          obtain ⟨sameAnswer, sameView⟩ := unwinds.consistent action rest more left right readyLeft readyRight
            (isOwn.symm ▸ same)
          obtain ⟨answers, views⟩ := ih (unwinds.next _ _ _ readyLeft) (unwinds.next _ _ _ readyRight)
            (isOwn ▸ sameView) sameRest
          simp only [answersTo, isOwn, if_true, runAll]
          exact ⟨by rw [sameAnswer, answers], views⟩
        · have skips : (other :: more).filter (fun action => owner action = o) =
              more.filter fun action => owner action = o := by simp [isOwnToo]
          rw [skips] at sameOwn
          have after := ihSecond (unwinds.next _ _ _ readyRight)
            (same.trans (unwinds.respects _ _ _ o readyRight isOwnToo).symm) sameOwn
          rw [answersTo.eq_def serve owner o (other :: more) right]
          simp only [isOwnToo, if_false]
          exact after
    · simp only [List.filter_cons, isOwn, decide_false, Bool.false_eq_true, if_false] at sameOwn
      simp only [answersTo, isOwn, if_false, runAll]
      exact ih (unwinds.next _ _ _ readyLeft) readyRight
        ((unwinds.respects _ _ _ o readyLeft isOwn).trans same) sameOwn

end Unwinding

end StoreSaas
