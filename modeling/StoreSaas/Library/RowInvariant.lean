import StoreSaas.Library.Sequential

/-! # Invariants of single rows

A property of single rows needs no locks: if every statement writes rows that have it
whenever the rows it sees have it, then it holds of the committed rows and of the pending
writes in every run.  `Writes` follows one program through the replies it can get from
such rows, with what is known of its value at the end.
-/

namespace StoreSaas.Engine

variable {ι Db Key Write : Type} {Val : Key → Type} {S : Signature} {ε α β : Type}
variable (E : Engine Db Key Write Val S ε) (ok : (key : Key) → Val key → Prop)

def RowsOk (db : Db) : Prop := ∀ key row, E.get db key = some row → ok key row

def WriteOk (write : Write) : Prop := ∀ row, E.valueOf write = some row → ok (E.keyOf write) row

variable {E ok}

theorem RowsOk.applyAll {db : Db} {writes : List Write} (rows : E.RowsOk ok db)
    (made : ∀ write ∈ writes, E.WriteOk ok write) : E.RowsOk ok (E.applyAll db writes) := by
  induction writes generalizing db with
  | nil => exact rows
  | cons write rest ih =>
    refine ih (fun key row found => ?_) fun other inRest => made other (List.mem_cons_of_mem _ inRest)
    by_cases touched : key = E.keyOf write
    · subst touched
      rw [E.get_apply_same] at found
      exact made write List.mem_cons_self row found
    · rw [E.get_apply_ne db write key touched] at found
      exact rows key row found

/-! ## Programs -/

variable (E ok) in
/-- The program writes such rows only, as long as it sees no others, and its value is as `post` says. -/
def Writes (post : α → Prop) : Program S ε α → Prop
  | .done value => post value
  | .throw _ => True
  | .call op resume => (∀ error, Writes post (resume (.error error))) ∧
      ∀ view reply writes, E.RowsOk ok view → E.execute op view = .ok (reply, writes) →
        (∀ write ∈ writes, E.WriteOk ok write) ∧ Writes post (resume (.ok reply))

variable {post : α → Prop}

theorem Writes.bind {post : β → Prop} {middle : α → Prop} {program : Program S ε α} {next : α → Program S ε β}
    (first : E.Writes ok middle program) (rest : ∀ value, middle value → E.Writes ok post (next value)) :
    E.Writes ok post (program >>= next) := by
  induction program with
  | done value => exact rest value first
  | throw error => trivial
  | call op resume ih =>
    refine ⟨fun error => ih _ (first.1 error), fun view reply writes rows executed => ?_⟩
    obtain ⟨made, continues⟩ := first.2 view reply writes rows executed
    exact ⟨made, ih _ continues⟩

theorem Writes.imp {weak strong : α → Prop} {program : Program S ε α} (writes : E.Writes ok strong program)
    (implies : ∀ value, strong value → weak value) : E.Writes ok weak program := by
  induction program with
  | done value => exact implies value writes
  | throw error => trivial
  | call op resume ih =>
    refine ⟨fun error => ih _ (writes.1 error), fun view reply made rows executed => ?_⟩
    obtain ⟨isMade, continues⟩ := writes.2 view reply made rows executed
    exact ⟨isMade, ih _ continues⟩

/-- A statement, and what follows its replies. -/
theorem writes_perform_bind {post : β → Prop} {op : S.Op} {next : S.Reply op → Program S ε β}
    (executes : ∀ view reply writes, E.RowsOk ok view → E.execute op view = .ok (reply, writes) →
      (∀ write ∈ writes, E.WriteOk ok write) ∧ E.Writes ok post (next reply)) :
    E.Writes ok post (Program.perform op >>= next) := by
  rw [Program.perform_bind]
  exact ⟨fun _ => trivial, executes⟩

theorem writes_perform {op : S.Op} {post : S.Reply op → Prop}
    (executes : ∀ view reply writes, E.RowsOk ok view → E.execute op view = .ok (reply, writes) →
      (∀ write ∈ writes, E.WriteOk ok write) ∧ post reply) :
    E.Writes ok post (Program.perform op) := by
  rw [← Program.perform_bind_done]
  exact writes_perform_bind executes

/-- A program all of whose statements write such rows, whatever they reply. -/
theorem writes_of_only {allowed : S.Op → Prop} {program : Program S ε α} (only : program.Only allowed)
    (executes : ∀ op view reply writes, allowed op → E.RowsOk ok view → E.execute op view = .ok (reply, writes) →
      ∀ write ∈ writes, E.WriteOk ok write) :
    E.Writes ok (fun _ => True) program := by
  induction program with
  | done value => trivial
  | throw error => trivial
  | call op resume ih =>
    exact ⟨fun error => ih _ (only.2 _), fun view reply writes rows executed =>
      ⟨executes op view reply writes only.1 rows executed, ih _ (only.2 _)⟩⟩

/-- The program with the database to itself. -/
theorem Writes.runWith {program : Program S ε α} (writes : E.Writes ok post program) {db : Db} (rows : E.RowsOk ok db) :
    E.RowsOk ok (program.runWith E.executeOn db).2 := by
  induction program generalizing db with
  | done value => exact rows
  | throw error => exact rows
  | call op resume ih =>
    rw [Program.runWith_call, executeOn]
    cases executed : E.execute op db with
    | error error => exact ih _ (writes.1 error) rows
    | ok result =>
      obtain ⟨made, continues⟩ := writes.2 db result.1 result.2 rows executed
      exact ih _ continues (rows.applyAll made)

/-! ## Requests -/

variable (E ok) in
/-- The request's writes keep to such rows, from any session that does. -/
def RequestWrites : Request S ε α → Prop
  | .done _ | .throw _ => True
  | .call op resume => (∀ error, RequestWrites (resume (.error error))) ∧
      ∀ session db, E.RowsOk ok db → (∀ write ∈ session.pending, E.WriteOk ok write) →
        E.RowsOk ok (E.perform session db op).db ∧
        (∀ write ∈ (E.perform session db op).session.pending, E.WriteOk ok write) ∧
        RequestWrites (resume (E.perform session db op).reply)

theorem RequestWrites.handle {request : Request S ε α} {next : Except ε α → Request S ε β}
    (first : E.RequestWrites ok request) (rest : ∀ result, E.RequestWrites ok (next result)) :
    E.RequestWrites ok (request.handle next) := by
  induction request with
  | done value => exact rest (.ok value)
  | throw error => exact rest (.error error)
  | call op resume ih =>
    refine ⟨fun error => ih _ (first.1 error), fun session db rows pending => ?_⟩
    obtain ⟨after, made, continues⟩ := first.2 session db rows pending
    exact ⟨after, made, ih _ continues⟩

variable (E ok) in
/-- And what is known of its value at the end. -/
def RequestEnds (post : α → Prop) : Request S ε α → Prop
  | .done value => post value
  | .throw _ => True
  | .call op resume => (∀ error, RequestEnds post (resume (.error error))) ∧
      ∀ session db, E.RowsOk ok db → (∀ write ∈ session.pending, E.WriteOk ok write) →
        E.RowsOk ok (E.perform session db op).db ∧
        (∀ write ∈ (E.perform session db op).session.pending, E.WriteOk ok write) ∧
        RequestEnds post (resume (E.perform session db op).reply)

theorem RequestEnds.requestWrites {request : Request S ε α} (ends : E.RequestEnds ok post request) :
    E.RequestWrites ok request := by
  induction request with
  | done value => trivial
  | throw error => trivial
  | call op resume ih =>
    refine ⟨fun error => ih _ (ends.1 error), fun session db rows pending => ?_⟩
    obtain ⟨after, made, continues⟩ := ends.2 session db rows pending
    exact ⟨after, made, ih _ continues⟩

theorem RequestEnds.bind {request : Request S ε α} {next : α → Request S ε β}
    (first : E.RequestEnds ok post request) (rest : ∀ value, post value → E.RequestWrites ok (next value)) :
    E.RequestWrites ok (request >>= next) := by
  induction request with
  | done value => exact rest value first
  | throw error => trivial
  | call op resume ih =>
    refine ⟨fun error => ih _ (first.1 error), fun session db rows pending => ?_⟩
    obtain ⟨after, made, continues⟩ := first.2 session db rows pending
    exact ⟨after, made, ih _ continues⟩

theorem Writes.inTransaction_ends {program : Program S ε α} (writes : E.Writes ok post program) :
    E.RequestEnds ok post program.inTransaction := by
  induction program with
  | done value => exact writes
  | throw error => trivial
  | call op resume ih =>
    refine ⟨fun error => ih _ (writes.1 error), fun session db rows pending => ?_⟩
    simp only [perform]
    cases executed : E.execute op (E.view db session) with
    | error error => exact ⟨rows, pending, ih _ (writes.1 error)⟩
    | ok result =>
      obtain ⟨made, continues⟩ := writes.2 _ result.1 result.2 (rows.applyAll pending) executed
      exact ⟨rows, fun write isPending => (List.mem_append.mp isPending).elim (pending write) (made write), ih _ continues⟩

theorem Writes.autocommit_ends {program : Program S ε α} (writes : E.Writes ok post program) :
    E.RequestEnds ok post program.autocommit := by
  induction program with
  | done value => exact writes
  | throw error => trivial
  | call op resume ih =>
    refine ⟨fun error => ih _ (writes.1 error), fun session db rows pending => ?_⟩
    simp only [perform]
    cases executed : E.execute op db with
    | error error => exact ⟨rows, pending, ih _ (writes.1 error)⟩
    | ok result =>
      obtain ⟨made, continues⟩ := writes.2 _ result.1 result.2 rows executed
      exact ⟨rows.applyAll made, pending, ih _ continues⟩

theorem Writes.inTransaction {program : Program S ε α} (writes : E.Writes ok post program) :
    E.RequestWrites ok program.inTransaction :=
  writes.inTransaction_ends.requestWrites

theorem RequestWrites.withTransaction {body : Request S ε α} (writes : E.RequestWrites ok body) :
    E.RequestWrites ok (Program.withTransaction body) := by
  have ends (result : Except ε α) : E.RequestWrites ok (Program.endTransaction (S := S) result) := by
    cases result with
    | ok value =>
      exact ⟨fun _ => trivial, fun session db rows pending =>
        ⟨rows.applyAll pending, fun _ isPending => (nomatch isPending), trivial⟩⟩
    | error error =>
      exact ⟨fun _ => trivial, fun session db rows _ => ⟨rows, fun _ isPending => (nomatch isPending), trivial⟩⟩
  exact ⟨fun _ => trivial, fun session db rows pending => ⟨rows, pending, writes.handle ends⟩⟩

/-! ## Systems -/

variable (E ok) in
structure RowsKept (system : System ι Db Key Write S ε α) : Prop where
  db : E.RowsOk ok system.db
  pending : ∀ i, ∀ write ∈ (system.thread i).session.pending, E.WriteOk ok write
  programs : ∀ i, E.RequestWrites ok (system.thread i).program

theorem rowsKept_start {db : Db} {program : ι → Request S ε α} (rows : E.RowsOk ok db)
    (writes : ∀ i, E.RequestWrites ok (program i)) : E.RowsKept ok (System.start db program) :=
  ⟨rows, fun _ _ pending => (nomatch pending), writes⟩

variable [Fintype ι] [DecidableEq ι] [DecidableEq Key]

omit [Fintype ι] [DecidableEq Key] in
theorem RowsKept.update {system : System ι Db Key Write S ε α} (kept : E.RowsKept ok system) {db : Db} {i : ι}
    {thread : Thread Key Write S ε α} (rows : E.RowsOk ok db)
    (pending : ∀ write ∈ thread.session.pending, E.WriteOk ok write) (writes : E.RequestWrites ok thread.program) :
    E.RowsKept ok (⟨db, Function.update system.thread i thread⟩ : System ι Db Key Write S ε α) := by
  refine ⟨rows, fun j => ?_, fun j => ?_⟩
  · by_cases same : j = i
    · subst same
      simpa only [Function.update_self] using pending
    · simpa only [Function.update_of_ne same] using kept.pending j
  · by_cases same : j = i
    · subst same
      simpa only [Function.update_self] using writes
    · simpa only [Function.update_of_ne same] using kept.programs j

/-- The step rule. -/
theorem RowsKept.step {source target : System ι Db Key Write S ε α} {act : Act ι ε} (kept : E.RowsKept ok source)
    (stepped : E.Steps source act target) : E.RowsKept ok target := by
  rcases E.steps_cases stepped with ⟨i, op, resume, -, -, calls, -, rfl⟩ | ⟨i, error, op, resume, -, -, calls, rfl⟩ |
    ⟨i, -, -, rfl⟩
  · have writes := kept.programs i
    rw [calls] at writes
    obtain ⟨rows, pending, continues⟩ := writes.2 _ source.db kept.db (kept.pending i)
    exact kept.update rows pending continues
  · have writes := kept.programs i
    rw [calls] at writes
    have stays : ∀ write ∈ (failed (source.thread i).session op error).pending,
        write ∈ (source.thread i).session.pending := by
      unfold failed
      split
      · exact fun _ isPending => nomatch isPending
      · exact fun _ isPending => isPending
    exact kept.update kept.db (fun write isPending => kept.pending i write (stays write isPending)) (writes.1 error)
  · exact kept.update kept.db (fun _ isPending => nomatch isPending) (kept.programs i)

/-- The run rule. -/
theorem rowsKept_of_run {start : System ι Db Key Write S ε α} (kept : E.RowsKept ok start)
    {run : List (Act ι ε × System ι Db Key Write S ε α)} (isRun : Transition.Run E.Steps start run) :
    Transition.EachState (E.RowsKept ok) start run :=
  Transition.eachState_of_step (fun _ _ _ before stepped => before.step stepped) kept isRun

end StoreSaas.Engine
