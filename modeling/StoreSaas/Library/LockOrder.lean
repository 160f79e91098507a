import Mathlib.Logic.Relation
import Mathlib.Order.Basic
import StoreSaas.Library.RelyGuarantee

/-! # Deadlocks, and requests that lock in order

A request waits for another one when the operation it calls next needs a lock in conflict
with one the other holds; a deadlock is a cycle of such requests.  If every request asks
only for locks that rank above all it holds, or that one of its own already covers, then
ranks rise along every chain of waiting requests, and no chain comes back.
-/

namespace StoreSaas

/-- Whoever has to wait for the second lock has to wait for the first one. -/
def LockMode.covers : LockMode → LockMode → Bool
  | .update, _ | .noKeyUpdate, .noKeyUpdate | _, .keyShare => true
  | .noKeyUpdate, .update | .keyShare, .noKeyUpdate | .keyShare, .update => false

def RowLock.Covers {Key : Type} (own need : RowLock Key) : Prop :=
  own.key = need.key ∧ own.mode.covers need.mode = true

theorem RowLock.Covers.conflicts {Key : Type} {own need lock : RowLock Key} (covers : own.Covers need)
    (conflict : need.Conflicts lock) : own.Conflicts lock := by
  obtain ⟨sameKey, modes⟩ := covers
  obtain ⟨isKey, clash⟩ := conflict
  refine ⟨sameKey.trans isKey, ?_⟩
  revert modes clash
  cases own.mode <;> cases need.mode <;> cases lock.mode <;> simp [LockMode.covers, LockMode.conflicts]

variable {Db Key Write : Type} {Val : Key → Type} {S : Signature} {ε α ι : Type}

/-- The locks the next operation of a request needs, while it lives. -/
def System.needs (E : Engine Db Key Write Val S ε) (system : System ι Db Key Write S ε α) (i : ι) :
    List (RowLock Key) :=
  match (system.thread i).alive, (system.thread i).program with
  | true, .call op _ => (E.perform (system.thread i).session system.db op).needs
  | _, _ => []

/-- A request waits for a lock on a row of this kind that another one holds. -/
def System.WaitsFor (E : Engine Db Key Write Val S ε) (guarded : Key → Prop) (system : System ι Db Key Write S ε α)
    (i j : ι) : Prop :=
  i ≠ j ∧ ∃ need ∈ system.needs E i, guarded need.key ∧ ∃ lock ∈ (system.thread j).session.held, need.Conflicts lock

instance [DecidableEq ι] [DecidableEq Key] (E : Engine Db Key Write Val S ε) (guarded : Key → Prop)
    [DecidablePred guarded] (system : System ι Db Key Write S ε α) (i j : ι) :
    Decidable (system.WaitsFor E guarded i j) :=
  inferInstanceAs (Decidable (i ≠ j ∧ ∃ need ∈ system.needs E i, guarded need.key ∧
    ∃ lock ∈ (system.thread j).session.held, need.Conflicts lock))

/-- No request waits, over others, for itself. -/
def System.NoDeadlock (E : Engine Db Key Write Val S ε) (guarded : Key → Prop) (system : System ι Db Key Write S ε α) :
    Prop :=
  ∀ i, ¬ Relation.TransGen (system.WaitsFor E guarded) i i

namespace Engine

variable {E : Engine Db Key Write Val S ε} {R : Type} [Preorder R]

/-- Every lock that is needed has a cover among those held, or ranks above all of them. -/
def Climbs (guarded : Key → Prop) (rank : Key → R) (held needs : List (RowLock Key)) : Prop :=
  ∀ need ∈ needs, guarded need.key →
    (∃ own ∈ held, own.Covers need) ∨ ∀ lock ∈ held, guarded lock.key → rank lock.key < rank need.key

variable {guarded : Key → Prop} {rank : Key → R} {system : System ι Db Key Write S ε α}

/-- The row a request waits for ranks above all the rows it has locked. -/
theorem waitsFor_cases (exclusive : E.Exclusive system)
    (climbs : ∀ i, Climbs guarded rank (system.thread i).session.held (system.needs E i)) {i j : ι}
    (waits : system.WaitsFor E guarded i j) :
    ∃ key, guarded key ∧ (∃ lock ∈ (system.thread j).session.held, lock.key = key) ∧
      ∀ lock ∈ (system.thread i).session.held, guarded lock.key → rank lock.key < rank key := by
  obtain ⟨differ, need, needed, isGuarded, lock, held, conflict⟩ := waits
  refine ⟨need.key, isGuarded, ⟨lock, held, conflict.1.symm⟩, ?_⟩
  rcases climbs i need needed isGuarded with ⟨own, isOwn, covers⟩ | above
  · exact absurd (covers.conflicts conflict) (exclusive.disjoint i j differ own isOwn lock held)
  · exact above

/-- Along a chain of waiting requests the last one holds a row that ranks above all the first one holds. -/
theorem chain_climbs (exclusive : E.Exclusive system)
    (climbs : ∀ i, Climbs guarded rank (system.thread i).session.held (system.needs E i)) {i k : ι}
    (chain : Relation.TransGen (system.WaitsFor E guarded) i k) :
    ∃ last ∈ (system.thread k).session.held, guarded last.key ∧
      ∀ lock ∈ (system.thread i).session.held, guarded lock.key → rank lock.key < rank last.key := by
  induction chain with
  | single waits =>
    obtain ⟨key, isGuarded, ⟨lock, held, rfl⟩, above⟩ := waitsFor_cases exclusive climbs waits
    exact ⟨lock, held, isGuarded, above⟩
  | tail _ waits ih =>
    obtain ⟨middle, middleHeld, middleGuarded, below⟩ := ih
    obtain ⟨key, isGuarded, ⟨lock, held, rfl⟩, above⟩ := waitsFor_cases exclusive climbs waits
    have rises := above middle middleHeld middleGuarded
    exact ⟨lock, held, isGuarded, fun first firstHeld firstGuarded => (below first firstHeld firstGuarded).trans rises⟩

/-- Requests that lock in order do not deadlock. -/
theorem noDeadlock_of_climbs (rank : Key → R) (exclusive : E.Exclusive system)
    (climbs : ∀ i, Climbs guarded rank (system.thread i).session.held (system.needs E i)) :
    system.NoDeadlock E guarded := by
  intro i cycle
  obtain ⟨last, held, isGuarded, above⟩ := chain_climbs exclusive climbs cycle
  exact lt_irrefl _ (above last held isGuarded)

end Engine

end StoreSaas
