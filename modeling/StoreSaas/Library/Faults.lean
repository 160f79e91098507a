import StoreSaas.Library.Program

/-! # Programs whose operations fail on schedule

A schedule says of one operation after the other whether it fails, and with what error; the
operations past its end go well.  A failing operation does nothing.
-/

namespace StoreSaas

abbrev Schedule (ε : Type) : Type := List (Option ε)

namespace Program

variable {S : Signature} {ε α β State : Type} (execute : (op : S.Op) → State → Except ε (S.Reply op) × State)

def executeScheduled (op : S.Op) : State × Schedule ε → Except ε (S.Reply op) × State × Schedule ε
  | (state, some error :: rest) => (.error error, state, rest)
  | (state, none :: rest) => ((execute op state).1, (execute op state).2, rest)
  | (state, []) => ((execute op state).1, (execute op state).2, [])

theorem runWith_scheduled_error (op : S.Op) (error : ε) (state : State) (rest : Schedule ε) :
    (perform op : Program S ε _).runWith (executeScheduled execute) (state, some error :: rest) =
      (.error error, state, rest) :=
  runWith_perform _ _ _

theorem runWith_scheduled_ok {op : S.Op} {state after : State} {reply : S.Reply op}
    (ran : execute op state = (.ok reply, after)) (rest : Schedule ε) :
    (perform op : Program S ε _).runWith (executeScheduled execute) (state, none :: rest) = (.ok reply, after, rest) := by
  rw [runWith_perform, executeScheduled, ran]

/-- On a schedule without failures a program runs as it does alone. -/
theorem runWith_scheduled_none (program : Program S ε α) (state : State) {schedule : Schedule ε}
    (quiet : ∀ entry ∈ schedule, entry = none) :
    ∃ rest, program.runWith (executeScheduled execute) (state, schedule) =
      ((program.runWith execute state).1, (program.runWith execute state).2, rest) := by
  induction program generalizing state schedule with
  | done | throw => exact ⟨schedule, rfl⟩
  | call op resume ih =>
    cases schedule with
    | nil => exact ih _ _ quiet
    | cons entry rest =>
      obtain ⟨rfl, quietRest⟩ := List.forall_mem_cons.mp quiet
      exact ih _ _ quietRest

/-- A `catch` that swallows the error keeps what the program did before it. -/
theorem runWith_tryCatch_done (program : Program S ε Unit) (state : State) :
    (program.tryCatch fun _ => .done ()).runWith execute state = (.ok (), (program.runWith execute state).2) := by
  rw [tryCatch, runWith_handle]
  cases (program.runWith execute state).1 <;> rfl

end Program

end StoreSaas
