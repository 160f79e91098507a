import StoreSaas.Library.PendingWrites

/-! # Unique indexes of a read-committed database

`entry` is the entry that a row has in a unique index, as a key that can be locked.  A
statement that keeps to `WritesEntries` compares a new entry with its own view only, and
locks it; whoever wants the same entry waits until the first is committed, and then sees
it.  So in every run no two rows have the same entry (`entriesRules`, with
`pendingKept_of_run`).
-/

namespace StoreSaas.Engine

variable {Db Key Write : Type} {Val : Key → Type} {S : Signature} {ε : Type}
variable (E : Engine Db Key Write Val S ε) (entry : (key : Key) → Val key → Option Key)

/-- The row is there and has the entry. -/
def HasEntry (db : Db) (key e : Key) : Prop := ∃ row, E.get db key = some row ∧ entry key row = some e

def EntriesUnique (db : Db) : Prop :=
  ∀ left right e, E.HasEntry entry db left e → E.HasEntry entry db right e → left = right

/-- The writes make no entry twice, and each entry they make is locked. -/
structure WritesEntries (db : Db) (locks : List (RowLock Key)) (writes : List Write) : Prop where
  unique : E.EntriesUnique entry (E.applyAll db writes)
  claimed : ∀ key e, E.Touches writes key → E.HasEntry entry (E.applyAll db writes) key e →
    ⟨e, .update⟩ ∈ locks ∨ E.HasEntry entry db key e

/-- Every statement keeps the entries of its view unique. -/
def KeepsEntries : Prop :=
  ∀ op view reply writes, E.EntriesUnique entry view → E.execute op view = .ok (reply, writes) →
    E.WritesEntries entry view (E.locksOf op view writes) writes

variable {E entry} {db : Db} {locks held : List (RowLock Key)} {published pending : List Write}

theorem hasEntry_congr {other : Db} {key e : Key} (same : E.get db key = E.get other key) :
    E.HasEntry entry db key e ↔ E.HasEntry entry other key e := by
  unfold HasEntry
  rw [same]

theorem hasEntry_of_not_touches {writes : List Write} {key e : Key} (untouched : ¬ E.Touches writes key) :
    E.HasEntry entry (E.applyAll db writes) key e ↔ E.HasEntry entry db key e :=
  hasEntry_congr (get_applyAll_of_not_touches untouched)

theorem writesEntries_nil (unique : E.EntriesUnique entry db) : E.WritesEntries entry db locks [] :=
  ⟨unique, fun _ _ ⟨_, made, _⟩ => nomatch made⟩

/-- An entry that one transaction makes is not made by another, nor there already. -/
theorem WritesEntries.apart (others : E.WritesEntries entry db locks published)
    (own : E.WritesEntries entry db held pending)
    (compatible : ∀ left ∈ locks, ∀ right ∈ held, ¬ left.Conflicts right) {left right e : Key}
    (touches : E.Touches pending left) (notPublished : ¬ E.Touches published left) (untouched : ¬ E.Touches pending right)
    (hasLeft : E.HasEntry entry (E.applyAll db pending) left e)
    (hasRight : E.HasEntry entry (E.applyAll db published) right e) : left = right := by
  rcases own.claimed left e touches hasLeft with isHeld | wasThere
  · have wasRight : E.HasEntry entry db right e := by
      by_cases made : E.Touches published right
      · refine (others.claimed right e made hasRight).resolve_left fun isLocked => ?_
        exact compatible _ isLocked _ isHeld ⟨rfl, rfl⟩
      · exact (hasEntry_of_not_touches made).mp hasRight
    exact own.unique left right e hasLeft ((hasEntry_of_not_touches untouched).mpr wasRight)
  · exact others.unique left right e ((hasEntry_of_not_touches notPublished).mpr wasThere) hasRight

/-- What a transaction is about to write stays unique when another one publishes. -/
theorem WritesEntries.publish (others : E.WritesEntries entry db locks published)
    (own : E.WritesEntries entry db held pending)
    (lockedPublished : ∀ write ∈ published, E.lockOf write ∈ locks)
    (lockedPending : ∀ write ∈ pending, E.lockOf write ∈ held)
    (compatible : ∀ left ∈ locks, ∀ right ∈ held, ¬ left.Conflicts right) :
    E.WritesEntries entry (E.applyAll db published) held pending := by
  have notPublished {key : Key} (touches : E.Touches pending key) : ¬ E.Touches published key :=
    not_touches_both lockedPublished lockedPending compatible touches
  have same {key e : Key} (touches : E.Touches pending key) :
      E.HasEntry entry (E.applyAll (E.applyAll db published) pending) key e ↔
        E.HasEntry entry (E.applyAll db pending) key e :=
    hasEntry_congr (get_applyAll_of_touches touches)
  refine ⟨fun left right e hasLeft hasRight => ?_, fun key e touches has => ?_⟩
  · by_cases ownLeft : E.Touches pending left
    · rw [same ownLeft] at hasLeft
      by_cases ownRight : E.Touches pending right
      · rw [same ownRight] at hasRight
        exact own.unique left right e hasLeft hasRight
      · rw [hasEntry_of_not_touches ownRight] at hasRight
        exact others.apart own compatible ownLeft (notPublished ownLeft) ownRight hasLeft hasRight
    · rw [hasEntry_of_not_touches ownLeft] at hasLeft
      by_cases ownRight : E.Touches pending right
      · rw [same ownRight] at hasRight
        exact (others.apart own compatible ownRight (notPublished ownRight) ownLeft hasRight hasLeft).symm
      · rw [hasEntry_of_not_touches ownRight] at hasRight
        exact others.unique left right e hasLeft hasRight
  · rw [same touches] at has
    exact (own.claimed key e touches has).imp_right (hasEntry_of_not_touches (notPublished touches)).mpr

/-- One more statement of a transaction. -/
theorem WritesEntries.append {more : List (RowLock Key)} {writes : List Write}
    (earlier : E.WritesEntries entry db held pending)
    (statement : E.WritesEntries entry (E.applyAll db pending) more writes) :
    E.WritesEntries entry db (more ++ held) (pending ++ writes) := by
  refine ⟨?_, fun key e touches has => ?_⟩
  · rw [applyAll_append]
    exact statement.unique
  · rw [applyAll_append] at has
    have before (seen : E.HasEntry entry (E.applyAll db pending) key e) :
        ⟨e, .update⟩ ∈ more ++ held ∨ E.HasEntry entry db key e := by
      by_cases touched : E.Touches pending key
      · exact (earlier.claimed key e touched seen).imp_left (List.mem_append_right _)
      · exact .inr ((hasEntry_of_not_touches touched).mp seen)
    by_cases now : E.Touches writes key
    · rcases statement.claimed key e now has with isLocked | seen
      · exact .inl (List.mem_append_left _ isLocked)
      · exact before seen
    · exact before ((hasEntry_of_not_touches now).mp has)

/-! ## Statements -/

/-- A statement that puts one row, with its entry as it was, or with one that it locks and nobody has. -/
theorem writesEntries_put {write : Write} (unique : E.EntriesUnique entry db)
    (fresh : ∀ row e, E.valueOf write = some row → entry (E.keyOf write) row = some e →
      E.HasEntry entry db (E.keyOf write) e ∨
        (⟨e, .update⟩ ∈ locks ∧ ∀ key, E.HasEntry entry db key e → key = E.keyOf write)) :
    E.WritesEntries entry db locks [write] := by
  have stays {key e : Key} (other : key ≠ E.keyOf write) (has : E.HasEntry entry (E.applyAll db [write]) key e) :
      E.HasEntry entry db key e := by
    refine (hasEntry_of_not_touches fun touches => ?_).mp has
    obtain ⟨made, isMade, isKey⟩ := touches
    exact other (isKey ▸ List.mem_singleton.mp isMade ▸ rfl)
  have written {e : Key} (has : E.HasEntry entry (E.applyAll db [write]) (E.keyOf write) e) :
      E.HasEntry entry db (E.keyOf write) e ∨
        (⟨e, .update⟩ ∈ locks ∧ ∀ key, E.HasEntry entry db key e → key = E.keyOf write) := by
    obtain ⟨row, found, isEntry⟩ := has
    exact fresh row e ((E.get_apply_same db write).symm.trans found) isEntry
  have others {key e : Key} (other : key ≠ E.keyOf write) (has : E.HasEntry entry (E.applyAll db [write]) key e)
      (hasWritten : E.HasEntry entry (E.applyAll db [write]) (E.keyOf write) e) : False := by
    rcases written hasWritten with wasThere | ⟨-, only⟩
    · exact other (unique _ _ _ (stays other has) wasThere)
    · exact other (only key (stays other has))
  refine ⟨fun left right e hasLeft hasRight => ?_, fun key e ⟨made, isMade, isKey⟩ has => ?_⟩
  · by_cases isLeft : left = E.keyOf write
    · subst isLeft
      by_contra differs
      exact others (Ne.symm differs) hasRight hasLeft
    · by_cases isRight : right = E.keyOf write
      · subst isRight
        exact (others isLeft hasLeft hasRight).elim
      · exact unique _ _ _ (stays isLeft hasLeft) (stays isRight hasRight)
  · obtain rfl : made = write := List.mem_singleton.mp isMade
    subst isKey
    exact (written has).symm.imp_left And.left

/-- A statement whose writes make no entry that was not there, nor move one. -/
theorem writesEntries_of_kept {writes : List Write} (unique : E.EntriesUnique entry db)
    (kept : ∀ write ∈ writes, ∀ row e, E.valueOf write = some row → entry (E.keyOf write) row = some e →
      E.HasEntry entry db (E.keyOf write) e) : E.WritesEntries entry db locks writes := by
  have before {key e : Key} (has : E.HasEntry entry (E.applyAll db writes) key e) : E.HasEntry entry db key e := by
    by_cases touches : E.Touches writes key
    · obtain ⟨row, found, isEntry⟩ := has
      exact row_of_touches (fun key row => ∀ e, entry key row = some e → E.HasEntry entry db key e)
        (fun write made row isRow e isEntry => kept write made row e isRow isEntry) touches found e isEntry
    · exact (hasEntry_of_not_touches touches).mp has
  exact ⟨fun left right e hasLeft hasRight => unique left right e (before hasLeft) (before hasRight),
    fun key e _ has => .inr (before has)⟩

/-- Entries that every statement keeps unique on its view are unique in every run. -/
theorem entriesRules (keeps : E.KeepsEntries entry) :
    E.PendingRules (E.EntriesUnique entry) (E.WritesEntries entry) where
  nothing _ _ unique := writesEntries_nil unique
  view _ _ _ writes := writes.unique
  append _ _ _ _ _ earlier statement := earlier.append statement
  publish _ _ _ _ _ others own := others.publish own
  statement := keeps

end StoreSaas.Engine
