import StoreSaas.Library.RelyGuarantee

/-! # What the pending writes of transactions keep

A property of databases that each statement keeps on its own view need not survive the
writes of two transactions together.  `PendingRules` says what a relation `fits` between a
database, the locks of a transaction and its pending writes has to keep for that: above all,
when others publish writes that fit (`publish`).  Then the property holds in every run, of
the committed database and of every view (`pendingKept_of_run`).
-/

namespace StoreSaas.Engine

variable {ι Db Key Write : Type} {Val : Key → Type} {S : Signature} {ε α : Type}
variable (E : Engine Db Key Write Val S ε)

/-- Some write is to this row. -/
def Touches (writes : List Write) (key : Key) : Prop := ∃ write ∈ writes, E.keyOf write = key

variable {E}

/-! ## Rows under writes -/

/-- What a row that is written is does not depend on what it was. -/
theorem get_applyAll_of_touches {db other : Db} {writes : List Write} {key : Key} (touches : E.Touches writes key) :
    E.get (E.applyAll db writes) key = E.get (E.applyAll other writes) key := by
  induction writes generalizing db other with
  | nil =>
    obtain ⟨_, made, _⟩ := touches
    cases made
  | cons write rest ih =>
    by_cases again : E.Touches rest key
    · exact ih again
    · obtain ⟨made, isMade, isKey⟩ := touches
      obtain rfl : made = write := (List.mem_cons.mp isMade).resolve_right fun inRest => again ⟨made, inRest, isKey⟩
      refine E.get_applyAll_congr rest ?_
      rw [← isKey, E.get_apply_same, E.get_apply_same]

theorem get_applyAll_of_not_touches {db : Db} {writes : List Write} {key : Key} (untouched : ¬ E.Touches writes key) :
    E.get (E.applyAll db writes) key = E.get db key :=
  E.get_applyAll_of_untouched fun write made isKey => untouched ⟨write, made, isKey⟩

/-- A row that writes have taken away was taken away by one of them. -/
theorem erased_of_get_applyAll {db : Db} {writes : List Write} {key : Key}
    (wasThere : E.Touches writes key ∨ (E.get db key).isSome = true) (gone : E.get (E.applyAll db writes) key = none) :
    ∃ write ∈ writes, E.keyOf write = key ∧ E.valueOf write = none := by
  induction writes generalizing db with
  | nil =>
    rcases wasThere with ⟨_, made, _⟩ | present
    · cases made
    · rw [applyAll_nil] at gone
      rw [gone] at present
      cases present
  | cons write rest ih =>
    by_cases isKey : E.keyOf write = key
    · cases isValue : E.valueOf write with
      | none => exact ⟨write, List.mem_cons_self, isKey, isValue⟩
      | some row =>
        have present : (E.get (E.apply db write) key).isSome = true := by
          rw [← isKey, E.get_apply_same, isValue]
          rfl
        obtain ⟨made, inRest, erases⟩ := ih (.inr present) gone
        exact ⟨made, List.mem_cons_of_mem _ inRest, erases⟩
    · have still : E.Touches rest key ∨ (E.get (E.apply db write) key).isSome = true := by
        refine wasThere.imp ?_ fun present => ?_
        · rintro ⟨made, isMade, same⟩
          refine ⟨made, (List.mem_cons.mp isMade).resolve_left ?_, same⟩
          rintro rfl
          exact isKey same
        · rw [E.get_apply_ne db write key (Ne.symm isKey)]
          exact present
      obtain ⟨made, inRest, erases⟩ := ih still gone
      exact ⟨made, List.mem_cons_of_mem _ inRest, erases⟩

/-! ## Two transactions -/

variable {locks held : List (RowLock Key)} {published pending : List Write}

/-- No two writes of one row have compatible locks. -/
theorem not_touches_both (lockedPublished : ∀ write ∈ published, E.lockOf write ∈ locks)
    (lockedPending : ∀ write ∈ pending, E.lockOf write ∈ held)
    (compatible : ∀ left ∈ locks, ∀ right ∈ held, ¬ left.Conflicts right) {key : Key}
    (touchesPending : E.Touches pending key) : ¬ E.Touches published key := by
  rintro ⟨made, isMade, isKey⟩
  obtain ⟨write, isPending, sameKey⟩ := touchesPending
  refine compatible _ (lockedPublished made isMade) _ (lockedPending write isPending) (conflicts_lockOf ?_ ?_)
  · unfold lockOf
    split <;> exact LockMode.noConfusion
  · exact isKey.trans sameKey.symm

/-- What holds of every written row holds of the rows that are there by a write. -/
theorem row_of_touches (fact : (key : Key) → Val key → Prop) {writes : List Write}
    (made : ∀ write ∈ writes, ∀ row, E.valueOf write = some row → fact (E.keyOf write) row) {key : Key} {row : Val key}
    (touches : E.Touches writes key) (found : E.get (E.applyAll db writes) key = some row) : fact key row := by
  induction writes generalizing db with
  | nil =>
    obtain ⟨_, isMade, _⟩ := touches
    cases isMade
  | cons write rest ih =>
    by_cases again : E.Touches rest key
    · exact ih (fun other inRest => made other (List.mem_cons_of_mem _ inRest)) again found
    · obtain ⟨other, isMade, isKey⟩ := touches
      obtain rfl : other = write := (List.mem_cons.mp isMade).resolve_right fun inRest => again ⟨other, inRest, isKey⟩
      rw [applyAll_cons, get_applyAll_of_not_touches again] at found
      subst isKey
      rw [E.get_apply_same] at found
      exact made other List.mem_cons_self row found

/-! ## The rules -/

variable (E) in
/-- What makes `fits` a property of pending writes, and `sound` one of databases. -/
structure PendingRules (sound : Db → Prop) (fits : Db → List (RowLock Key) → List Write → Prop) : Prop where
  nothing : ∀ db locks, sound db → fits db locks []
  view : ∀ db locks writes, fits db locks writes → sound (E.applyAll db writes)
  append : ∀ db held pending locks writes, fits db held pending → fits (E.applyAll db pending) locks writes →
    fits db (locks ++ held) (pending ++ writes)
  publish : ∀ db locks published held pending, fits db locks published → fits db held pending →
    (∀ write ∈ published, E.lockOf write ∈ locks) → (∀ write ∈ pending, E.lockOf write ∈ held) →
    (∀ left ∈ locks, ∀ right ∈ held, ¬ left.Conflicts right) → fits (E.applyAll db published) held pending
  statement : ∀ op view reply writes, sound view → E.execute op view = .ok (reply, writes) →
    fits view (E.locksOf op view writes) writes

variable (E) in
/-- The committed database is sound, and the pending writes of each transaction fit. -/
structure PendingKept (sound : Db → Prop) (fits : Db → List (RowLock Key) → List Write → Prop)
    (system : System ι Db Key Write S ε α) : Prop where
  exclusive : E.Exclusive system
  db : sound system.db
  pending : ∀ i, fits system.db (system.thread i).session.held (system.thread i).session.pending

variable {sound : Db → Prop} {fits : Db → List (RowLock Key) → List Write → Prop}

theorem pendingKept_start (rules : E.PendingRules sound fits) {db : Db} {program : ι → Request S ε α} (start : sound db) :
    E.PendingKept sound fits (System.start db program) :=
  ⟨E.exclusive_start db program, start, fun _ => rules.nothing db [] start⟩

variable [DecidableEq ι]

/-- A step by which nothing is published. -/
theorem PendingKept.update {source : System ι Db Key Write S ε α} (kept : E.PendingKept sound fits source) {i : ι}
    {thread : Thread Key Write S ε α}
    (exclusive : E.Exclusive (⟨source.db, Function.update source.thread i thread⟩ : System ι Db Key Write S ε α))
    (own : fits source.db thread.session.held thread.session.pending) :
    E.PendingKept sound fits (⟨source.db, Function.update source.thread i thread⟩ : System ι Db Key Write S ε α) := by
  refine ⟨exclusive, kept.db, fun j => ?_⟩
  by_cases same : j = i
  · subst same
    simpa only [Function.update_self] using own
  · simpa only [Function.update_of_ne same] using kept.pending j

variable [Fintype ι] [DecidableEq Key]

/-- The step rule. -/
theorem PendingKept.step (rules : E.PendingRules sound fits) {source target : System ι Db Key Write S ε α} {act : Act ι ε}
    (kept : E.PendingKept sound fits source) (stepped : E.Steps source act target) : E.PendingKept sound fits target := by
  have exclusive := exclusive_step kept.exclusive stepped
  rcases E.steps_cases stepped with ⟨i, op, resume, -, -, -, free, rfl⟩ | ⟨i, error, op, resume, -, -, -, rfl⟩ |
    ⟨i, -, -, rfl⟩
  · cases op with
    | begin => exact kept.update exclusive (kept.pending i)
    | rollback => exact kept.update exclusive (rules.nothing _ _ kept.db)
    | query op =>
      cases executed : E.execute op (E.view source.db (source.thread i).session) with
      | error error =>
        rw [perform_query_error executed] at exclusive ⊢
        exact kept.update exclusive (kept.pending i)
      | ok result =>
        rw [perform_query_ok executed] at exclusive ⊢
        have statement := rules.statement op _ result.1 result.2 (rules.view _ _ _ (kept.pending i)) executed
        exact kept.update exclusive (rules.append _ _ _ _ _ (kept.pending i) statement)
    | commit =>
      have committed := rules.view _ _ _ (kept.pending i)
      refine ⟨exclusive, committed, fun j => ?_⟩
      by_cases same : j = i
      · subst same
        simp only [Function.update_self]
        exact rules.nothing _ _ committed
      · simp only [Function.update_of_ne same]
        -- what `i` publishes shares no lock with what `j` has pending
        exact rules.publish _ _ _ _ _ (kept.pending i) (kept.pending j) (kept.exclusive.locked i)
          (kept.exclusive.locked j) (kept.exclusive.disjoint i j (Ne.symm same))
    | auto op =>
      simp only [perform] at free exclusive ⊢
      cases executed : E.execute op source.db with
      | error error =>
        simp only [executed] at exclusive ⊢
        exact kept.update exclusive (kept.pending i)
      | ok result =>
        simp only [executed] at free exclusive ⊢
        obtain ⟨reply, writes⟩ := result
        have statement := rules.statement op source.db reply writes kept.db executed
        -- a statement outside a transaction publishes at once, and conflicts with no held lock
        have others (j : ι) : fits (E.applyAll source.db writes) (source.thread j).session.held
            (source.thread j).session.pending :=
          rules.publish _ _ _ _ _ statement (kept.pending j)
            (fun write made => List.mem_append_right _ (List.mem_map_of_mem made)) (kept.exclusive.locked j)
            fun left isLeft right isRight conflict => free ⟨j, fun _ => rfl, left, isLeft, right, isRight, conflict⟩
        refine ⟨exclusive, rules.view _ _ _ statement, fun j => ?_⟩
        by_cases same : j = i
        · subst same
          simpa only [Function.update_self] using others j
        · simpa only [Function.update_of_ne same] using others j
  · refine kept.update exclusive ?_
    unfold failed
    split
    · exact rules.nothing _ _ kept.db
    · exact kept.pending i
  · exact kept.update exclusive (rules.nothing _ _ kept.db)

/-- The run rule. -/
theorem pendingKept_of_run (rules : E.PendingRules sound fits) {start : System ι Db Key Write S ε α}
    (kept : E.PendingKept sound fits start) {run : List (Act ι ε × System ι Db Key Write S ε α)}
    (isRun : Transition.Run E.Steps start run) : Transition.EachState (E.PendingKept sound fits) start run :=
  Transition.eachState_of_step (fun _ _ _ before stepped => before.step rules stepped) kept isRun

end StoreSaas.Engine
