import StoreSaas.Library.PendingWrites

/-! # Foreign keys of a read-committed database

`refs` lists the rows that a row refers to.  A statement that keeps to `WritesRefs` checks
a new reference on its own view only, and locks what it refers to; a row that goes takes
the references to it along, again on the view of the one who removes it.  The locks make
both views agree: in every run all references name rows, in the committed database and in
the view of every transaction (`refsRules`, with `pendingKept_of_run`).
-/

namespace StoreSaas.Engine

variable {ι Db Key Write : Type} {Val : Key → Type} {S : Signature} {ε α : Type}
variable (E : Engine Db Key Write Val S ε) (refs : (key : Key) → Val key → List Key)

/-- Every reference names a row. -/
def RefsExist (db : Db) : Prop :=
  ∀ key row, E.get db key = some row → ∀ target ∈ refs key row, (E.get db target).isSome = true

/-- The writes leave no reference without a row, and each reference they bring is locked. -/
structure WritesRefs (db : Db) (locks : List (RowLock Key)) (writes : List Write) : Prop where
  exist : E.RefsExist refs (E.applyAll db writes)
  covered : ∀ key row, E.Touches writes key → E.get (E.applyAll db writes) key = some row → ∀ target ∈ refs key row,
    (∃ lock ∈ locks, lock.key = target) ∨ ∃ old, E.get db key = some old ∧ target ∈ refs key old

/-- Every statement keeps the foreign keys of its view. -/
def KeepsForeignKeys : Prop :=
  ∀ op view reply writes, E.RefsExist refs view → E.execute op view = .ok (reply, writes) →
    E.WritesRefs refs view (E.locksOf op view writes) writes

variable {E refs}

/-! ## Two transactions -/

variable {db : Db} {locks held : List (RowLock Key)} {published pending : List Write}

/-- What a transaction is about to write stays right when another one publishes. -/
theorem WritesRefs.publish (others : E.WritesRefs refs db locks published) (own : E.WritesRefs refs db held pending)
    (lockedPublished : ∀ write ∈ published, E.lockOf write ∈ locks)
    (lockedPending : ∀ write ∈ pending, E.lockOf write ∈ held)
    (compatible : ∀ left ∈ locks, ∀ right ∈ held, ¬ left.Conflicts right) :
    E.WritesRefs refs (E.applyAll db published) held pending := by
  have apart {key : Key} (touches : E.Touches pending key) : ¬ E.Touches published key :=
    not_touches_both lockedPublished lockedPending compatible touches
  have same {key : Key} (touches : E.Touches pending key) :
      E.get (E.applyAll (E.applyAll db published) pending) key = E.get (E.applyAll db pending) key :=
    get_applyAll_of_touches touches
  refine ⟨fun key row found target isRef => ?_, fun key row touches found target isRef => ?_⟩
  · by_contra missing
    have gone : E.get (E.applyAll (E.applyAll db published) pending) target = none :=
      Option.not_isSome_iff_eq_none.mp missing
    by_cases ownKey : E.Touches pending key
    · rw [same ownKey] at found
      have present := own.exist key row found target isRef
      by_cases ownTarget : E.Touches pending target
      · rw [same ownTarget] at gone
        rw [gone] at present
        cases present
      -- the other one has taken the row away that this one refers to
      · rw [get_applyAll_of_not_touches ownTarget] at gone present
        obtain ⟨write, made, isTarget, erases⟩ := erased_of_get_applyAll (.inr present) gone
        rcases own.covered key row ownKey found target isRef with ⟨lock, isHeld, onTarget⟩ | ⟨old, wasThere, wasRef⟩
        · refine compatible _ (lockedPublished write made) lock isHeld (conflicts_lockOf_of_erases ?_ ?_)
          · rw [erases]
            rfl
          · exact isTarget.trans onTarget.symm
        · have stays : E.get (E.applyAll db published) key = some old := by
            rw [get_applyAll_of_not_touches (apart ownKey)]
            exact wasThere
          have stillThere := others.exist key old stays target wasRef
          rw [gone] at stillThere
          cases stillThere
    · rw [get_applyAll_of_not_touches ownKey] at found
      by_cases ownTarget : E.Touches pending target
      -- this one has taken the row away that the other one refers to
      · rw [same ownTarget] at gone
        obtain ⟨write, isPending, isTarget, erases⟩ := erased_of_get_applyAll (.inl ownTarget) gone
        have notBefore (old : Val key) (wasThere : E.get db key = some old) : target ∉ refs key old := by
          intro wasRef
          have stays : E.get (E.applyAll db pending) key = some old := by
            rw [get_applyAll_of_not_touches ownKey]
            exact wasThere
          have stillThere := own.exist key old stays target wasRef
          rw [gone] at stillThere
          cases stillThere
        by_cases othersKey : E.Touches published key
        · rcases others.covered key row othersKey found target isRef with ⟨lock, isHeld, onTarget⟩ | ⟨old, wasThere, wasRef⟩
          · refine compatible lock isHeld _ (lockedPending write isPending) (RowLock.Conflicts.symm ?_)
            refine conflicts_lockOf_of_erases ?_ (isTarget.trans onTarget.symm)
            rw [erases]
            rfl
          · exact notBefore old wasThere wasRef
        · rw [get_applyAll_of_not_touches othersKey] at found
          exact notBefore row found isRef
      · rw [get_applyAll_of_not_touches ownTarget] at gone
        have stillThere := others.exist key row found target isRef
        rw [gone] at stillThere
        cases stillThere
  · rw [same touches] at found
    refine (own.covered key row touches found target isRef).imp_right fun ⟨old, wasThere, wasRef⟩ => ⟨old, ?_, wasRef⟩
    rw [get_applyAll_of_not_touches (apart touches)]
    exact wasThere

/-- One more statement of a transaction. -/
theorem WritesRefs.append {more : List (RowLock Key)} {writes : List Write}
    (earlier : E.WritesRefs refs db held pending) (statement : E.WritesRefs refs (E.applyAll db pending) more writes) :
    E.WritesRefs refs db (more ++ held) (pending ++ writes) := by
  refine ⟨?_, fun key row touches found target isRef => ?_⟩
  · rw [applyAll_append]
    exact statement.exist
  · rw [applyAll_append] at found
    have before {old : Val key} (seen : E.get (E.applyAll db pending) key = some old) (wasRef : target ∈ refs key old) :
        (∃ lock ∈ more ++ held, lock.key = target) ∨ ∃ old, E.get db key = some old ∧ target ∈ refs key old := by
      by_cases touched : E.Touches pending key
      · exact (earlier.covered key old touched seen target wasRef).imp_left fun ⟨lock, isHeld, onTarget⟩ =>
          ⟨lock, List.mem_append_right _ isHeld, onTarget⟩
      · rw [get_applyAll_of_not_touches touched] at seen
        exact .inr ⟨old, seen, wasRef⟩
    by_cases now : E.Touches writes key
    · rcases statement.covered key row now found target isRef with ⟨lock, isHeld, onTarget⟩ | ⟨old, seen, wasRef⟩
      · exact .inl ⟨lock, List.mem_append_left _ isHeld, onTarget⟩
      · exact before seen wasRef
    · rw [get_applyAll_of_not_touches now] at found
      exact before found isRef

/-! ## Statements -/

theorem writesRefs_nil (exist : E.RefsExist refs db) (held : List (RowLock Key)) : E.WritesRefs refs db held [] :=
  ⟨exist, fun _ _ ⟨_, made, _⟩ => nomatch made⟩

/-- A statement that takes no row away, and refers to rows it sees and locks. -/
theorem writesRefs_of_puts {writes : List Write} (exist : E.RefsExist refs db)
    (puts : ∀ write ∈ writes, (E.valueOf write).isSome = true)
    (refers : ∀ write ∈ writes, ∀ row, E.valueOf write = some row → ∀ target ∈ refs (E.keyOf write) row,
      (∃ old, E.get db (E.keyOf write) = some old ∧ target ∈ refs (E.keyOf write) old) ∨
        ((E.get db target).isSome = true ∧ ∃ lock ∈ locks, lock.key = target)) :
    E.WritesRefs refs db locks writes := by
  have written {key : Key} {row : Val key} (touches : E.Touches writes key)
      (found : E.get (E.applyAll db writes) key = some row) : ∀ target ∈ refs key row,
      (∃ old, E.get db key = some old ∧ target ∈ refs key old) ∨
        ((E.get db target).isSome = true ∧ ∃ lock ∈ locks, lock.key = target) :=
    row_of_touches (fun key row => ∀ target ∈ refs key row, (∃ old, E.get db key = some old ∧ target ∈ refs key old) ∨
      ((E.get db target).isSome = true ∧ ∃ lock ∈ locks, lock.key = target)) refers touches found
  refine ⟨fun key row found target isRef => ?_, fun key row touches found target isRef => ?_⟩
  · refine E.isSome_get_applyAll ?_ fun write made _ => puts write made
    by_cases touches : E.Touches writes key
    · rcases written touches found target isRef with ⟨old, wasThere, wasRef⟩ | ⟨present, -⟩
      · exact exist key old wasThere target wasRef
      · exact present
    · rw [get_applyAll_of_not_touches touches] at found
      exact exist key row found target isRef
  · exact (written touches found target isRef).symm.imp_left And.right

/-- A statement that takes one row away, and every reference to it. -/
theorem writesRefs_of_erase {first : Write} {rest : List Write} (exist : E.RefsExist refs db)
    (erases : E.valueOf first = none) (apart : ∀ write ∈ rest, E.keyOf write ≠ E.keyOf first)
    (puts : ∀ write ∈ rest, (E.valueOf write).isSome = true)
    (unlinks : ∀ write ∈ rest, ∀ row, E.valueOf write = some row → E.keyOf first ∉ refs (E.keyOf write) row ∧
      ∃ old, E.get db (E.keyOf write) = some old ∧ ∀ target ∈ refs (E.keyOf write) row, target ∈ refs (E.keyOf write) old)
    (all : ∀ key row, E.get db key = some row → E.keyOf first ∈ refs key row → E.Touches rest key) :
    E.WritesRefs refs db locks (first :: rest) := by
  have written {key : Key} {row : Val key} (touches : E.Touches rest key)
      (found : E.get (E.applyAll (E.apply db first) rest) key = some row) :
      E.keyOf first ∉ refs key row ∧ ∃ old, E.get db key = some old ∧ ∀ target ∈ refs key row, target ∈ refs key old :=
    row_of_touches (fun key row => E.keyOf first ∉ refs key row ∧
      ∃ old, E.get db key = some old ∧ ∀ target ∈ refs key row, target ∈ refs key old) unlinks touches found
  have notFirst {key : Key} {row : Val key} (untouched : ¬ E.Touches rest key)
      (found : E.get (E.applyAll (E.apply db first) rest) key = some row) : key ≠ E.keyOf first := by
    rintro rfl
    rw [get_applyAll_of_not_touches untouched, E.get_apply_same, erases] at found
    cases found
  have stays {target : Key} (other : target ≠ E.keyOf first) (present : (E.get db target).isSome = true) :
      (E.get (E.applyAll (E.apply db first) rest) target).isSome = true := by
    refine E.isSome_get_applyAll ?_ fun write made _ => puts write made
    rw [E.get_apply_ne db first target other]
    exact present
  refine ⟨fun key row found target isRef => ?_, fun key row touches found target isRef => .inr ?_⟩
  · by_cases touches : E.Touches rest key
    · obtain ⟨noRef, old, wasThere, subset⟩ := written touches found
      exact stays (fun same => noRef (same ▸ isRef)) (exist key old wasThere target (subset target isRef))
    · have other := notFirst touches found
      rw [applyAll_cons, get_applyAll_of_not_touches touches, E.get_apply_ne db first key other] at found
      exact stays (fun same => touches (all key row found (same ▸ isRef))) (exist key row found target isRef)
  · by_cases inRest : E.Touches rest key
    · obtain ⟨-, old, wasThere, subset⟩ := written inRest found
      exact ⟨old, wasThere, subset target isRef⟩
    · obtain ⟨write, made, isKey⟩ := touches
      rcases List.mem_cons.mp made with rfl | isRest
      · exact absurd isKey.symm (notFirst inRest found)
      · exact absurd ⟨write, isRest, isKey⟩ inRest

/-- A statement on rows that neither refer to others nor are referred to. -/
theorem writesRefs_of_apart {writes : List Write} (exist : E.RefsExist refs db)
    (noRefs : ∀ write ∈ writes, ∀ row, refs (E.keyOf write) row = [])
    (noTarget : ∀ write ∈ writes, ∀ key row, E.keyOf write ∉ refs key row) : E.WritesRefs refs db locks writes := by
  have refers {key : Key} {row : Val key} (touches : E.Touches writes key) : refs key row = [] := by
    obtain ⟨write, made, rfl⟩ := touches
    exact noRefs write made row
  refine ⟨fun key row found target isRef => ?_, fun key row touches found target isRef => ?_⟩
  · have untouched : ¬ E.Touches writes key := fun touches => by
      rw [refers touches] at isRef
      cases isRef
    have notTarget : ¬ E.Touches writes target := by
      rintro ⟨write, made, rfl⟩
      exact noTarget write made key row isRef
    rw [get_applyAll_of_not_touches untouched] at found
    rw [get_applyAll_of_not_touches notTarget]
    exact exist key row found target isRef
  · rw [refers touches] at isRef
    cases isRef

/-- Foreign keys that every statement keeps on its view are kept by every run. -/
theorem refsRules (keeps : E.KeepsForeignKeys refs) : E.PendingRules (E.RefsExist refs) (E.WritesRefs refs) where
  nothing _ locks exist := writesRefs_nil exist locks
  view _ _ _ writes := writes.exist
  append _ _ _ _ _ earlier statement := earlier.append statement
  publish _ _ _ _ _ others own := others.publish own
  statement := keeps

end StoreSaas.Engine
