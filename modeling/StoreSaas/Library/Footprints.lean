import StoreSaas.Library.AtomicCommit
import StoreSaas.Library.RowInvariant

/-! # What one owner's requests do by themselves

Each request asks certain statements only, and from sound databases these write certain
rows only, its footprint; `Footprints.step` carries this through every run, by the replies
that rows of the right kind can give.

Where the footprints of an owner's requests are apart from those of all others, and the
owner's statements depend on the owner's part of the database only, the others can be left
out: the owner's acts are a run by themselves, with the same sessions and the same part of
the database (`Projects.run`).
-/

namespace StoreSaas

/-- The request that an act is of. -/
def Act.request {ι ε : Type} : Act ι ε → ι
  | .run i | .fail i _ | .crash i => i

namespace Engine

variable {ι Db Key Write : Type} {Val : Key → Type} {S : Signature} {ε α β : Type}
variable (E : Engine Db Key Write Val S ε) (ok : (key : Key) → Val key → Prop)

/-! ## Programs -/

/-- The program asks such statements only, as long as it sees such rows only, and its value is as `post` says. -/
def Asks (asked : S.Op → Prop) (post : α → Prop) : Program S ε α → Prop
  | .done value => post value
  | .throw _ => True
  | .call op resume => asked op ∧ (∀ error, Asks asked post (resume (.error error))) ∧
      ∀ view reply writes, E.RowsOk ok view → E.execute op view = .ok (reply, writes) →
        Asks asked post (resume (.ok reply))

variable {E ok} {asked : S.Op → Prop} {post : α → Prop}

theorem Asks.bind {post : β → Prop} {middle : α → Prop} {program : Program S ε α} {next : α → Program S ε β}
    (first : E.Asks ok asked middle program) (rest : ∀ value, middle value → E.Asks ok asked post (next value)) :
    E.Asks ok asked post (program >>= next) := by
  induction program with
  | done value => exact rest value first
  | throw error => trivial
  | call op resume ih =>
    exact ⟨first.1, fun error => ih _ (first.2.1 error), fun view reply writes rows executed =>
      ih _ (first.2.2 view reply writes rows executed)⟩

/-- A statement, and what follows its replies. -/
theorem asks_perform_bind {post : β → Prop} {op : S.Op} {next : S.Reply op → Program S ε β} (isAsked : asked op)
    (rest : ∀ view reply writes, E.RowsOk ok view → E.execute op view = .ok (reply, writes) →
      E.Asks ok asked post (next reply)) :
    E.Asks ok asked post (Program.perform op >>= next) := by
  rw [Program.perform_bind]
  exact ⟨isAsked, fun _ => trivial, rest⟩

theorem asks_perform {op : S.Op} (isAsked : asked op) : E.Asks ok asked (fun _ => True) (Program.perform op) := by
  rw [← Program.perform_bind_done]
  exact asks_perform_bind isAsked fun _ _ _ _ _ => trivial

/-- A program all of whose statements are asked, whatever they reply. -/
theorem asks_of_only {program : Program S ε α} (only : program.Only asked) :
    E.Asks ok asked (fun _ => True) program := by
  induction program with
  | done value => trivial
  | throw error => trivial
  | call op resume ih => exact ⟨only.1, fun error => ih _ (only.2 _), fun _ _ _ _ _ => ih _ (only.2 _)⟩

/-- What is known of the value from what the program writes. -/
theorem Asks.ensuring {program : Program S ε α} (asks : E.Asks ok asked (fun _ => True) program)
    (writes : E.Writes ok post program) : E.Asks ok asked post program := by
  induction program with
  | done value => exact writes
  | throw error => trivial
  | call op resume ih =>
    exact ⟨asks.1, fun error => ih _ (asks.2.1 error) (writes.1 error), fun view reply made rows executed =>
      ih _ (asks.2.2 view reply made rows executed) (writes.2 view reply made rows executed).2⟩

/-! ## Requests -/

variable (E ok asked) in
/-- The request is a transaction that asks such statements only. -/
def RequestAsks : Request S ε α → Prop
  | .done _ | .throw _ => True
  | .call op resume => RequestOp.Transacts asked op ∧ (∀ error, RequestAsks (resume (.error error))) ∧
      ∀ session db, E.RowsOk ok db → (∀ write ∈ session.pending, E.WriteOk ok write) →
        RequestAsks (resume (E.perform session db op).reply)

theorem RequestAsks.handle {request : Request S ε α} {next : Except ε α → Request S ε β}
    (first : E.RequestAsks ok asked request) (rest : ∀ result, E.RequestAsks ok asked (next result)) :
    E.RequestAsks ok asked (request.handle next) := by
  induction request with
  | done value => exact rest (.ok value)
  | throw error => exact rest (.error error)
  | call op resume ih =>
    exact ⟨first.1, fun error => ih _ (first.2.1 error), fun session db rows pending =>
      ih _ (first.2.2 session db rows pending)⟩

theorem Asks.inTransaction {program : Program S ε α} (asks : E.Asks ok asked post program) :
    E.RequestAsks ok asked program.inTransaction := by
  induction program with
  | done value => trivial
  | throw error => trivial
  | call op resume ih =>
    refine ⟨asks.1, fun error => ih _ (asks.2.1 error), fun session db rows pending => ?_⟩
    cases executed : E.execute op (E.view db session) with
    | ok result =>
      rw [perform_query_ok executed]
      exact ih _ (asks.2.2 _ result.1 result.2 (rows.applyAll pending) executed)
    | error error =>
      rw [perform_query_error executed]
      exact ih _ (asks.2.1 error)

theorem Asks.withTransaction {body : Program S ε α} (asks : E.Asks ok asked post body) :
    E.RequestAsks ok asked (Program.withTransaction body.inTransaction) := by
  have ends (result : Except ε α) : E.RequestAsks ok asked (Program.endTransaction (S := S) result) := by
    cases result with
    | ok value | error error => exact ⟨trivial, fun _ => trivial, fun _ _ _ _ => trivial⟩
  exact ⟨trivial, fun _ => trivial, fun _ _ _ _ => asks.inTransaction.handle ends⟩

/-! ## Footprints -/

variable {sound : Db → Prop} {fits : Db → List (RowLock Key) → List Write → Prop}
  {asks : ι → S.Op → Prop} {footprint : ι → Key → Prop}

variable (E ok asks footprint) in
/-- Each request asks its own statements, and has writes of its footprint pending. -/
structure Footprints (fits : Db → List (RowLock Key) → List Write → Prop) (sound : Db → Prop)
    (system : System ι Db Key Write S ε α) : Prop where
  rows : E.RowsKept ok system
  fitting : E.PendingKept sound fits system
  programs : ∀ i, E.RequestAsks ok (asks i) (system.thread i).program
  pending : ∀ i, ∀ write ∈ (system.thread i).session.pending, footprint i (E.keyOf write)

theorem footprints_start (rules : E.PendingRules sound fits) {db : Db} {program : ι → Request S ε α}
    (rows : E.RowsOk ok db) (isSound : sound db) (writes : ∀ i, E.RequestWrites ok (program i))
    (programs : ∀ i, E.RequestAsks ok (asks i) (program i)) :
    E.Footprints ok asks footprint fits sound (System.start db program) :=
  ⟨rowsKept_start rows writes, pendingKept_start rules isSound, programs, fun _ _ none => (by cases none)⟩

theorem Footprints.view_rows {system : System ι Db Key Write S ε α}
    (footprints : E.Footprints ok asks footprint fits sound system) (i : ι) :
    E.RowsOk ok (E.view system.db (system.thread i).session) :=
  footprints.rows.db.applyAll (footprints.rows.pending i)

theorem Footprints.view_sound (rules : E.PendingRules sound fits) {system : System ι Db Key Write S ε α}
    (footprints : E.Footprints ok asks footprint fits sound system) (i : ι) :
    sound (E.view system.db (system.thread i).session) :=
  rules.view _ _ _ (footprints.fitting.pending i)

section Steps

variable [Fintype ι] [DecidableEq ι] [DecidableEq Key]

variable (E ok asks footprint sound) in
/-- What the statements of each request write is in its footprint. -/
def StaysWithin : Prop :=
  ∀ i op view reply writes, asks i op → E.RowsOk ok view → sound view → E.execute op view = .ok (reply, writes) →
    ∀ write ∈ writes, footprint i (E.keyOf write)

/-- The step rule, with what a step publishes. -/
theorem Footprints.step (rules : E.PendingRules sound fits) (stays : E.StaysWithin ok sound asks footprint)
    {source target : System ι Db Key Write S ε α} {act : Act ι ε}
    (footprints : E.Footprints ok asks footprint fits sound source) (stepped : E.Steps source act target) :
    E.Footprints ok asks footprint fits sound target ∧
      ∃ writes, target.db = E.applyAll source.db writes ∧ ∀ write ∈ writes, footprint act.request (E.keyOf write) := by
  have rows := footprints.rows.step stepped
  have fitting := footprints.fitting.step rules stepped
  have updated {db : Db} {i : ι} {thread : Thread Key Write S ε α}
      (isTarget : target = ⟨db, Function.update source.thread i thread⟩) (program : E.RequestAsks ok (asks i) thread.program)
      (pending : ∀ write ∈ thread.session.pending, footprint i (E.keyOf write)) :
      E.Footprints ok asks footprint fits sound target := by
    refine ⟨rows, fitting, fun j => ?_, fun j => ?_⟩
    · rw [isTarget]
      by_cases same : j = i
      · subst same; simpa only [Function.update_self] using program
      · simpa only [Function.update_of_ne same] using footprints.programs j
    · rw [isTarget]
      by_cases same : j = i
      · subst same; simpa only [Function.update_self] using pending
      · simpa only [Function.update_of_ne same] using footprints.pending j
  have nothing : ∃ writes, source.db = E.applyAll source.db writes ∧
      ∀ write ∈ writes, footprint act.request (E.keyOf write) :=
    ⟨[], rfl, fun _ none => by cases none⟩
  rcases E.steps_cases stepped with ⟨i, op, resume, rfl, -, calls, -, isTarget⟩ |
    ⟨i, error, op, resume, rfl, -, calls, isTarget⟩ | ⟨i, rfl, -, isTarget⟩
  · obtain ⟨isAsked, -, continues⟩ : E.RequestAsks ok (asks i) (.call op resume) := calls ▸ footprints.programs i
    have rest := continues _ source.db footprints.rows.db (footprints.rows.pending i)
    have own := footprints.pending i
    cases op with
    | begin => exact ⟨updated isTarget rest own, isTarget ▸ nothing⟩
    | rollback => exact ⟨updated isTarget rest fun _ none => (by cases none), isTarget ▸ nothing⟩
    | commit =>
      exact ⟨updated isTarget rest fun _ none => (by cases none), (source.thread i).session.pending,
        isTarget ▸ rfl, own⟩
    | auto op => exact isAsked.elim
    -- a statement adds to what is pending, within the footprint; nothing is published
    | query op =>
      cases executed : E.execute op (E.view source.db (source.thread i).session) with
      | ok result =>
        obtain ⟨reply, writes⟩ := result
        rw [perform_query_ok executed] at isTarget rest
        refine ⟨updated isTarget rest fun write isPending => ?_, isTarget ▸ nothing⟩
        rcases List.mem_append.mp isPending with before | now
        · exact own write before
        · exact stays i op _ reply writes isAsked (footprints.view_rows i) (footprints.view_sound rules i) executed
            write now
      | error error =>
        rw [perform_query_error executed] at isTarget rest
        exact ⟨updated isTarget rest own, isTarget ▸ nothing⟩
  · obtain ⟨-, fails, -⟩ : E.RequestAsks ok (asks i) (.call op resume) := calls ▸ footprints.programs i
    exact ⟨updated isTarget (fails error) fun write isPending =>
      footprints.pending i write (failed_pending_subset _ op error isPending), isTarget ▸ nothing⟩
  · exact ⟨updated isTarget (footprints.programs i) fun _ none => (by cases none), isTarget ▸ nothing⟩

variable (E ok asks sound) in
/-- The locks that the statements of each request need are of a kind. -/
def LocksWithin (holds : ι → RowLock Key → Prop) : Prop :=
  ∀ i op view reply writes, asks i op → E.RowsOk ok view → sound view → E.execute op view = .ok (reply, writes) →
    ∀ lock ∈ E.locksOf op view writes, holds i lock

omit [Fintype ι] [DecidableEq ι] [DecidableEq Key] in
theorem Footprints.needs (rules : E.PendingRules sound fits) {holds : ι → RowLock Key → Prop}
    (locks : E.LocksWithin ok sound asks holds) {system : System ι Db Key Write S ε α}
    (footprints : E.Footprints ok asks footprint fits sound system) {i : ι} {op : RequestOp S}
    {resume : Except ε op.Reply → Request S ε α} (calls : (system.thread i).program = .call op resume) :
    ∀ lock ∈ (E.perform (system.thread i).session system.db op).needs, holds i lock := by
  obtain ⟨isAsked, -⟩ : E.RequestAsks ok (asks i) (.call op resume) := calls ▸ footprints.programs i
  cases op with
  | begin | commit | rollback => exact fun _ none => by cases none
  | auto op => exact isAsked.elim
  | query op =>
    cases executed : E.execute op (E.view system.db (system.thread i).session) with
    | ok result =>
      obtain ⟨reply, writes⟩ := result
      rw [perform_query_ok executed]
      exact locks i op _ reply writes isAsked (footprints.view_rows i) (footprints.view_sound rules i) executed
    | error error =>
      rw [perform_query_error executed]
      exact fun _ none => by cases none

/-- What a request holds is of its kind. -/
theorem Footprints.held_step (rules : E.PendingRules sound fits) {holds : ι → RowLock Key → Prop}
    (locks : E.LocksWithin ok sound asks holds) {source target : System ι Db Key Write S ε α} {act : Act ι ε}
    (footprints : E.Footprints ok asks footprint fits sound source)
    (held : ∀ i, ∀ lock ∈ (source.thread i).session.held, holds i lock) (stepped : E.Steps source act target) :
    ∀ i, ∀ lock ∈ (target.thread i).session.held, holds i lock := by
  have updated {db : Db} {i : ι} {thread : Thread Key Write S ε α} (own : ∀ lock ∈ thread.session.held, holds i lock)
      (j : ι) : ∀ lock ∈ ((⟨db, Function.update source.thread i thread⟩ : System ι Db Key Write S ε α).thread j).session.held,
        holds j lock := by
    by_cases same : j = i
    · subst same; simpa only [Function.update_self] using own
    · simpa only [Function.update_of_ne same] using held j
  rcases E.steps_cases stepped with ⟨i, op, resume, rfl, -, calls, -, rfl⟩ | ⟨i, error, op, resume, rfl, -, -, rfl⟩ |
    ⟨i, rfl, -, rfl⟩
  · refine updated fun lock isHeld => ?_
    rcases perform_held_subset _ _ op isHeld with before | ⟨-, needed⟩
    · exact held i lock before
    · exact footprints.needs rules locks calls lock needed
  · exact updated fun lock isHeld => held i lock (failed_held_subset _ op error isHeld)
  · exact updated fun _ none => (by cases none)

/-- The run rule. -/
theorem footprints_of_run (rules : E.PendingRules sound fits) (stays : E.StaysWithin ok sound asks footprint)
    {start : System ι Db Key Write S ε α} (footprints : E.Footprints ok asks footprint fits sound start)
    {run : List (Act ι ε × System ι Db Key Write S ε α)} (isRun : Transition.Run E.Steps start run) :
    Transition.EachState (E.Footprints ok asks footprint fits sound) start run :=
  Transition.eachState_of_step (fun _ _ _ before stepped => (before.step rules stays stepped).1) footprints isRun

end Steps

/-! ## An owner's part -/

variable (E) in
/-- `cut` leaves an owner's part of the database: the owned rows, and no foreign ones. -/
structure Cuts (owned foreign : Key → Prop) (cut : Db → Db) : Prop where
  own : ∀ db write, owned (E.keyOf write) → cut (E.apply db write) = E.apply (cut db) write
  other : ∀ db write, foreign (E.keyOf write) → cut (E.apply db write) = cut db

section Cuts

variable {owned foreign : Key → Prop} {cut : Db → Db}

theorem Cuts.applyAll_own (cuts : E.Cuts owned foreign cut) (db : Db) {writes : List Write}
    (own : ∀ write ∈ writes, owned (E.keyOf write)) : cut (E.applyAll db writes) = E.applyAll (cut db) writes := by
  induction writes generalizing db with
  | nil => rfl
  | cons write rest ih =>
    rw [applyAll_cons, applyAll_cons, ih _ fun other inRest => own other (List.mem_cons_of_mem _ inRest),
      cuts.own db write (own write List.mem_cons_self)]

theorem Cuts.applyAll_other (cuts : E.Cuts owned foreign cut) (db : Db) {writes : List Write}
    (other : ∀ write ∈ writes, foreign (E.keyOf write)) : cut (E.applyAll db writes) = cut db := by
  induction writes generalizing db with
  | nil => rfl
  | cons write rest ih =>
    rw [applyAll_cons, ih _ fun later inRest => other later (List.mem_cons_of_mem _ inRest),
      cuts.other db write (other write List.mem_cons_self)]

end Cuts

/-! ## The owner's acts by themselves -/

/-- In the twin only the owner's requests have done anything, and that the same. -/
structure Projects (mine : ι → Prop) (cut : Db → Db) (source twin : System ι Db Key Write S ε α) : Prop where
  thread : ∀ i, mine i → twin.thread i = source.thread i
  idle : ∀ i, ¬ mine i → (twin.thread i).session.held = []
  cut : cut twin.db = cut source.db

section Projection

variable {mine : ι → Prop} {cut : Db → Db} {owned foreign : Key → Prop}

variable (E ok asks sound mine cut) in
/-- The owner's statements depend on the owner's part only. -/
def DependsOnPart : Prop :=
  ∀ i op view, mine i → asks i op → E.RowsOk ok view → sound view →
    E.execute op (cut view) = E.execute op view ∧ E.locks op (cut view) = E.locks op view

theorem perform_query_congr {session : Session Key Write S ε} {db other : Db} {op : S.Op}
    (sameResult : E.execute op (E.view other session) = E.execute op (E.view db session))
    (sameLocks : E.locks op (E.view other session) = E.locks op (E.view db session)) :
    (E.perform session other (.query op)).reply = (E.perform session db (.query op)).reply ∧
      (E.perform session other (.query op)).session = (E.perform session db (.query op)).session ∧
      (E.perform session other (.query op)).needs = (E.perform session db (.query op)).needs := by
  simp only [perform, sameResult]
  cases E.execute op (E.view db session) with
  | ok result =>
    obtain ⟨reply, writes⟩ := result
    simp only [locksOf, sameLocks]
    exact ⟨trivial, trivial, trivial⟩
  | error error => exact ⟨rfl, rfl, rfl⟩

/-- An operation of the owner does the same in both. -/
theorem Projects.perform (rules : E.PendingRules sound fits) (cuts : E.Cuts owned foreign cut)
    (depends : E.DependsOnPart ok sound asks mine cut) (owns : ∀ i, mine i → ∀ key, footprint i key → owned key)
    {source twin : System ι Db Key Write S ε α} (projects : Projects mine cut source twin)
    (footprints : E.Footprints ok asks footprint fits sound source)
    (footprintsTwin : E.Footprints ok asks footprint fits sound twin) {i : ι} (isMine : mine i) {op : RequestOp S}
    (isAsked : RequestOp.Transacts (asks i) op) :
    (E.perform (source.thread i).session twin.db op).reply = (E.perform (source.thread i).session source.db op).reply ∧
      (E.perform (source.thread i).session twin.db op).session =
        (E.perform (source.thread i).session source.db op).session ∧
      (E.perform (source.thread i).session twin.db op).needs = (E.perform (source.thread i).session source.db op).needs ∧
      cut (E.perform (source.thread i).session twin.db op).db =
        cut (E.perform (source.thread i).session source.db op).db := by
  have own : ∀ write ∈ (source.thread i).session.pending, owned (E.keyOf write) := fun write pending =>
    owns i isMine _ (footprints.pending i write pending)
  have sameView : cut (E.view twin.db (source.thread i).session) = cut (E.view source.db (source.thread i).session) := by
    unfold view
    rw [cuts.applyAll_own _ own, cuts.applyAll_own _ own, projects.cut]
  cases op with
  | begin | rollback => exact ⟨rfl, rfl, rfl, projects.cut⟩
  | commit => exact ⟨rfl, rfl, rfl, sameView⟩
  | auto op => exact isAsked.elim
  | query op =>
    have viewRows := footprintsTwin.view_rows i
    have viewSound := footprintsTwin.view_sound rules i
    rw [projects.thread i isMine] at viewRows viewSound
    obtain ⟨result, locks⟩ := depends i op _ isMine isAsked (footprints.view_rows i) (footprints.view_sound rules i)
    obtain ⟨resultTwin, locksTwin⟩ := depends i op _ isMine isAsked viewRows viewSound
    rw [sameView, result] at resultTwin
    rw [sameView, locks] at locksTwin
    obtain ⟨sameReply, sameSession, sameNeeds⟩ := perform_query_congr resultTwin.symm locksTwin.symm
    refine ⟨sameReply, sameSession, sameNeeds, ?_⟩
    rw [perform_query_db, perform_query_db]
    exact projects.cut

variable [DecidableEq ι]

theorem Projects.update {source twin : System ι Db Key Write S ε α} (projects : Projects mine cut source twin) {i : ι}
    (isMine : mine i) (thread : Thread Key Write S ε α) {db dbTwin : Db} (sameCut : cut dbTwin = cut db) :
    Projects mine cut (⟨db, Function.update source.thread i thread⟩ : System ι Db Key Write S ε α)
      ⟨dbTwin, Function.update twin.thread i thread⟩ := by
  refine ⟨fun j isMineToo => ?_, fun j notMine => ?_, sameCut⟩
  · by_cases same : j = i
    · subst same; simp only [Function.update_self]
    · simp only [Function.update_of_ne same, projects.thread j isMineToo]
  · have other : j ≠ i := fun same => notMine (same ▸ isMine)
    simpa only [Function.update_of_ne other] using projects.idle j notMine

variable [Fintype ι] [DecidableEq Key]

/-- An act of the owner can be taken by the twin as well. -/
theorem Projects.step_mine (rules : E.PendingRules sound fits) (cuts : E.Cuts owned foreign cut)
    (depends : E.DependsOnPart ok sound asks mine cut) (owns : ∀ i, mine i → ∀ key, footprint i key → owned key)
    {source target twin : System ι Db Key Write S ε α} {act : Act ι ε} (projects : Projects mine cut source twin)
    (footprints : E.Footprints ok asks footprint fits sound source)
    (footprintsTwin : E.Footprints ok asks footprint fits sound twin) (isMine : mine act.request)
    (stepped : E.Steps source act target) :
    ∃ targetTwin, E.Steps twin act targetTwin ∧ Projects mine cut target targetTwin := by
  rcases E.steps_cases stepped with ⟨i, op, resume, rfl, alive, calls, free, rfl⟩ |
    ⟨i, error, op, resume, rfl, alive, calls, rfl⟩ | ⟨i, rfl, alive, rfl⟩
  · have isMine : mine i := isMine
    obtain ⟨isAsked, -⟩ : E.RequestAsks ok (asks i) (.call op resume) := calls ▸ footprints.programs i
    obtain ⟨sameReply, sameSession, sameNeeds, sameCut⟩ :=
      projects.perform rules cuts depends owns footprints footprintsTwin isMine isAsked
    have freeTwin : ¬ twin.Blocked i op (E.perform (source.thread i).session twin.db op).needs := by
      rintro ⟨j, others, need, needed, lock, held, conflict⟩
      by_cases mineToo : mine j
      · rw [projects.thread j mineToo] at held
        exact free ⟨j, others, need, sameNeeds ▸ needed, lock, held, conflict⟩
      · rw [projects.idle j mineToo] at held
        cases held
    refine ⟨⟨(E.perform (source.thread i).session twin.db op).db, Function.update twin.thread i
      ⟨(E.perform (source.thread i).session source.db op).session,
        resume (E.perform (source.thread i).session source.db op).reply, true⟩⟩, ?_, projects.update isMine _ sameCut⟩
    simp only [Steps, step, projects.thread i isMine, calls]
    rw [if_pos ⟨alive, freeTwin⟩, sameSession, sameReply]
  · refine ⟨⟨twin.db, Function.update twin.thread i
      ⟨failed (source.thread i).session op error, resume (.error error), true⟩⟩, ?_,
      projects.update isMine _ projects.cut⟩
    simp only [Steps, step, projects.thread i isMine, calls, if_pos alive]
  · refine ⟨⟨twin.db, Function.update twin.thread i
      ⟨(source.thread i).session.closed, (source.thread i).program, false⟩⟩, ?_, projects.update isMine _ projects.cut⟩
    simp only [Steps, step, projects.thread i isMine, if_pos alive]

/-- An act of another leaves the twin where it is. -/
theorem Projects.step_other (rules : E.PendingRules sound fits) (stays : E.StaysWithin ok sound asks footprint)
    (cuts : E.Cuts owned foreign cut) (apart : ∀ i, ¬ mine i → ∀ key, footprint i key → foreign key)
    {source target twin : System ι Db Key Write S ε α} {act : Act ι ε} (projects : Projects mine cut source twin)
    (footprints : E.Footprints ok asks footprint fits sound source) (notMine : ¬ mine act.request)
    (stepped : E.Steps source act target) : Projects mine cut target twin := by
  obtain ⟨-, writes, published, within⟩ := footprints.step rules stays stepped
  refine ⟨fun i isMine => ?_, projects.idle, ?_⟩
  · have other : i ≠ act.request := fun same => notMine (same ▸ isMine)
    rw [projects.thread i isMine]
    rcases E.steps_cases stepped with ⟨j, op, resume, rfl, -, -, -, rfl⟩ | ⟨j, error, op, resume, rfl, -, -, rfl⟩ |
      ⟨j, rfl, -, rfl⟩ <;> exact (Function.update_of_ne other ..).symm
  · rw [projects.cut, published, cuts.applyAll_other _ fun write made => apart _ notMine _ (within write made)]

variable [DecidablePred mine]

/-- The owner's acts, in their order, are a run of the twin. -/
theorem Projects.run (rules : E.PendingRules sound fits) (stays : E.StaysWithin ok sound asks footprint)
    (cuts : E.Cuts owned foreign cut) (depends : E.DependsOnPart ok sound asks mine cut)
    (owns : ∀ i, mine i → ∀ key, footprint i key → owned key)
    (apart : ∀ i, ¬ mine i → ∀ key, footprint i key → foreign key)
    {source twin : System ι Db Key Write S ε α} (projects : Projects mine cut source twin)
    (footprints : E.Footprints ok asks footprint fits sound source)
    (footprintsTwin : E.Footprints ok asks footprint fits sound twin)
    {run : List (Act ι ε × System ι Db Key Write S ε α)} (isRun : Transition.Run E.Steps source run) :
    ∃ alone, Transition.Run E.Steps twin alone ∧
      alone.map Prod.fst = (run.map Prod.fst).filter (fun act => mine act.request) ∧
      Projects mine cut (Transition.final source run) (Transition.final twin alone) := by
  induction run generalizing source twin with
  | nil => exact ⟨[], trivial, rfl, projects⟩
  | cons entry rest ih =>
    obtain ⟨act, target⟩ := entry
    have after := (footprints.step rules stays isRun.1).1
    by_cases isMine : mine act.request
    · obtain ⟨targetTwin, steppedTwin, projectsAfter⟩ :=
        projects.step_mine rules cuts depends owns footprints footprintsTwin isMine isRun.1
      obtain ⟨alone, runsAlone, sameActs, projectsLast⟩ :=
        ih projectsAfter after (footprintsTwin.step rules stays steppedTwin).1 isRun.2
      refine ⟨(act, targetTwin) :: alone, ⟨steppedTwin, runsAlone⟩, ?_, projectsLast⟩
      simp only [List.map_cons, List.filter_cons, isMine, decide_true, if_true, sameActs]
    · have projectsAfter := projects.step_other rules stays cuts apart footprints isMine isRun.1
      obtain ⟨alone, runsAlone, sameActs, projectsLast⟩ := ih projectsAfter after footprintsTwin isRun.2
      refine ⟨alone, runsAlone, ?_, projectsLast⟩
      simp only [List.map_cons, List.filter_cons, isMine, decide_false, Bool.false_eq_true, if_false, sameActs]

end Projection

end Engine

end StoreSaas
