import Mathlib.Logic.Basic
import Mathlib.Data.List.Basic

/-! # One flight at a time

A result that several parties want at the same time and that is fetched for all of them at
once.  Whoever asks while a flight is under way joins it; when it has landed it is
forgotten, so that the next one to ask sends a new one off.
-/

namespace StoreSaas

universe u

variable {Answer : Type u}

inductive Flight (Answer : Type u) where
  /-- Sent, and not answered. -/
  | outstanding
  /-- Answered, but those who wait do not know it yet. -/
  | answered (answer : Answer)
  | landed (answer : Answer)
  deriving DecidableEq

/-- All flights in the order in which they took off, and the one to join. -/
structure SharedFlight (Answer : Type u) where
  flights : List (Flight Answer)
  current : Option Nat
  deriving DecidableEq

def Flight.isLanded : Flight Answer → Bool
  | landed _ => true
  | _ => false

namespace SharedFlight

def none : SharedFlight Answer := ⟨[], .none⟩

/-- The flight under way, or else a new one, which takes off as `new`. -/
def join (new : Flight Answer) (shared : SharedFlight Answer) : SharedFlight Answer × Nat :=
  match shared.current with
  | some id => (shared, id)
  | .none => (⟨shared.flights ++ [new], some shared.flights.length⟩, shared.flights.length)

def answer (id : Nat) (answer : Answer) (shared : SharedFlight Answer) : Option (SharedFlight Answer) :=
  match shared.flights[id]? with
  | some .outstanding => some { shared with flights := shared.flights.set id (.answered answer) }
  | _ => .none

def land (id : Nat) (shared : SharedFlight Answer) : Option (SharedFlight Answer) :=
  match shared.flights[id]? with
  | some (.answered answer) => some ⟨shared.flights.set id (.landed answer), .none⟩
  | _ => .none

/-- The flight to join is the one that has not landed. -/
def Exclusive (shared : SharedFlight Answer) : Prop :=
  ∀ id, shared.current = some id ↔ ∃ flight, shared.flights[id]? = some flight ∧ flight.isLanded = false

variable {shared after : SharedFlight Answer} {id other : Nat} {new flight : Flight Answer} {result : Answer}

/-! ## What an operation does -/

theorem join_current (under : shared.current = some id) : shared.join new = (shared, id) := by
  simp only [join, under]

theorem join_none (nobody : shared.current = .none) :
    shared.join new = (⟨shared.flights ++ [new], some shared.flights.length⟩, shared.flights.length) := by
  simp only [join, nobody]

theorem answer_eq_some (answered : shared.answer id result = some after) :
    shared.flights[id]? = some .outstanding ∧
      after = { shared with flights := shared.flights.set id (.answered result) } := by
  unfold answer at answered
  split at answered
  next sent => exact ⟨sent, (Option.some.inj answered).symm⟩
  next => cases answered

theorem land_eq_some (lands : shared.land id = some after) :
    ∃ answer, shared.flights[id]? = some (.answered answer) ∧
      after = ⟨shared.flights.set id (.landed answer), .none⟩ := by
  unfold land at lands
  split at lands
  next answer sent => exact ⟨answer, sent, (Option.some.inj lands).symm⟩
  next => cases lands

/-! ## The invariant -/

theorem exclusive_none : (none : SharedFlight Answer).Exclusive := fun id => by
  constructor
  · intro under
    cases under
  · rintro ⟨flight, found, -⟩
    cases found

/-- Two flights that have not landed are one. -/
theorem Exclusive.unique (exclusive : shared.Exclusive) {left right : Flight Answer}
    (leftFound : shared.flights[id]? = some left) (leftAloft : left.isLanded = false)
    (rightFound : shared.flights[other]? = some right) (rightAloft : right.isLanded = false) : id = other := by
  have current := (exclusive id).mpr ⟨left, leftFound, leftAloft⟩
  have same := (exclusive other).mpr ⟨right, rightFound, rightAloft⟩
  exact Option.some.inj (current.symm.trans same)

/-- Nobody joins a flight that has landed. -/
theorem Exclusive.forgets (exclusive : shared.Exclusive) (landed : shared.flights[id]? = some (.landed result)) :
    shared.current ≠ some id := fun under => by
  obtain ⟨flight, found, aloft⟩ := (exclusive id).mp under
  rw [landed] at found
  cases found
  cases aloft

theorem Exclusive.joined (exclusive : shared.Exclusive) (aloft : new.isLanded = false) :
    (shared.join new).1.Exclusive := by
  cases current : shared.current with
  | some id => rwa [join_current current]
  | none =>
    rw [join_none current]
    intro id
    rw [List.getElem?_append, Option.some_inj]
    constructor
    · rintro rfl
      exact ⟨new, by simp, aloft⟩
    · rintro ⟨flight, found, notLanded⟩
      split at found
      next old =>
        have under := (exclusive id).mpr ⟨flight, found, notLanded⟩
        rw [current] at under
        cases under
      next late =>
        have first := (List.getElem?_eq_some_iff.mp found).1
        rw [List.length_singleton] at first
        omega

theorem Exclusive.answered (exclusive : shared.Exclusive) (answered : shared.answer id result = some after) :
    after.Exclusive := by
  obtain ⟨sent, rfl⟩ := answer_eq_some answered
  intro other
  rw [exclusive other, List.getElem?_set]
  split
  next same =>
    subst same
    have inside := (List.getElem?_eq_some_iff.mp sent).1
    simp only [sent, inside, if_true, Option.some_inj, exists_eq_left', Flight.isLanded]
  next => exact Iff.rfl

theorem Exclusive.landed (exclusive : shared.Exclusive) (lands : shared.land id = some after) : after.Exclusive := by
  obtain ⟨answer, sent, rfl⟩ := land_eq_some lands
  intro other
  constructor
  · intro under
    cases under
  · rintro ⟨flight, found, aloft⟩
    rw [List.getElem?_set] at found
    split at found
    next same =>
      split at found
      · cases found
        cases aloft
      · cases found
    next apart => exact absurd (exclusive.unique sent rfl found aloft) apart

/-! ## A flight that has taken off -/

end SharedFlight

end StoreSaas
