import Mathlib.Logic.Function.Basic

/-! # Slots that are reserved, changed and released

Many parties share a map of slots.  A party reserves a slot that is free, may change
what it says, and may release it again; nobody touches a slot that another one holds.
The facts of `Sound` follow for every step: what a party holds is what the slot says, no
slot has two holders, what stands in a slot was there at the start or is held, and what was
there at the start stays and is nobody's.
-/

namespace StoreSaas

structure Slots (ι Key Value : Type) where
  entry : Key → Option Value
  /-- The slot a party has reserved and not released, with what it has put there. -/
  holding : ι → Option (Key × Value)

namespace Slots

variable {ι Key Value : Type}

/-- One party puts a value into a slot, or clears it. -/
def set [DecidableEq ι] [DecidableEq Key] (slots : Slots ι Key Value) (i : ι) (key : Key) (value : Option Value) :
    Slots ι Key Value :=
  ⟨Function.update slots.entry key value, Function.update slots.holding i (value.map fun value => (key, value))⟩

inductive Step [DecidableEq ι] [DecidableEq Key] (slots : Slots ι Key Value) : Slots ι Key Value → Prop where
  | stay : Step slots slots
  | reserve (i : ι) (key : Key) (value : Value) (free : slots.entry key = none) (idle : slots.holding i = none) :
    Step slots (slots.set i key (some value))
  | change (i : ι) (key : Key) (old new : Value) (holds : slots.holding i = some (key, old)) :
    Step slots (slots.set i key (some new))
  | release (i : ι) (key : Key) (old : Value) (holds : slots.holding i = some (key, old)) :
    Step slots (slots.set i key none)

structure Sound (start : Key → Option Value) (slots : Slots ι Key Value) : Prop where
  held : ∀ i key value, slots.holding i = some (key, value) → slots.entry key = some value
  single : ∀ i j key left right, slots.holding i = some (key, left) → slots.holding j = some (key, right) → i = j
  origin : ∀ key value, slots.entry key = some value →
    start key = some value ∨ ∃ i, slots.holding i = some (key, value)
  kept : ∀ key value, start key = some value →
    slots.entry key = some value ∧ ∀ i left, slots.holding i ≠ some (key, left)

variable {start : Key → Option Value} {slots next : Slots ι Key Value}

theorem sound_start (start : Key → Option Value) : Sound start (⟨start, fun _ : ι => none⟩ : Slots ι Key Value) where
  held _ _ _ holds := nomatch holds
  single _ _ _ _ _ holds := nomatch holds
  origin _ _ found := .inl found
  kept _ _ found := ⟨found, fun _ _ holds => nomatch holds⟩

variable [DecidableEq ι] [DecidableEq Key]

theorem entry_set (slots : Slots ι Key Value) (i : ι) (key other : Key) (value : Option Value) :
    (slots.set i key value).entry other = if other = key then value else slots.entry other :=
  Function.update_apply ..

theorem holding_set (slots : Slots ι Key Value) (i j : ι) (key : Key) (value : Option Value) :
    (slots.set i key value).holding j = if j = i then value.map fun value => (key, value) else slots.holding j :=
  Function.update_apply ..

theorem holding_set_eq_some {i j : ι} {key other : Key} {value : Option Value} {left : Value}
    (holds : (slots.set i key value).holding j = some (other, left)) :
    (j = i ∧ other = key ∧ value = some left) ∨ (j ≠ i ∧ slots.holding j = some (other, left)) := by
  rw [holding_set] at holds
  split at holds
  next same =>
    obtain ⟨put, isPut, isPair⟩ := Option.map_eq_some_iff.mp holds
    cases isPair
    exact .inl ⟨same, rfl, isPut⟩
  next differs => exact .inr ⟨differs, holds⟩

/-- The slot was free at the start, nobody else holds it, and the party holds no other. -/
theorem Sound.set (sound : Sound start slots) {i : ι} {key : Key} (value : Option Value) (foreign : start key = none)
    (own : ∀ j left, slots.holding j = some (key, left) → j = i)
    (only : ∀ other left, slots.holding i = some (other, left) → other = key) :
    Sound start (slots.set i key value) where
  held j other left holds := by
    rw [entry_set]
    obtain ⟨-, rfl, isValue⟩ | ⟨differs, before⟩ := holding_set_eq_some holds
    · rw [if_pos rfl, isValue]
    · have elsewhere : other ≠ key := fun same => differs (own j left (same ▸ before))
      rw [if_neg elsewhere]
      exact sound.held j other left before
  single j k other left right holds alsoHolds := by
    obtain ⟨isJ, rfl, -⟩ | ⟨notJ, beforeJ⟩ := holding_set_eq_some holds
    · obtain ⟨isK, -⟩ | ⟨notK, beforeK⟩ := holding_set_eq_some alsoHolds
      · exact isJ.trans isK.symm
      · exact absurd (own k right beforeK) notK
    · obtain ⟨-, rfl, -⟩ | ⟨-, beforeK⟩ := holding_set_eq_some alsoHolds
      · exact absurd (own j left beforeJ) notJ
      · exact sound.single j k other left right beforeJ beforeK
  origin other left found := by
    rw [entry_set] at found
    split at found
    next same =>
      refine .inr ⟨i, ?_⟩
      rw [holding_set, if_pos rfl, found, same]
      rfl
    next differs =>
      refine (sound.origin other left found).imp_right fun ⟨j, holds⟩ => ⟨j, ?_⟩
      have another : j ≠ i := fun same => differs (only other left (same ▸ holds))
      rw [holding_set, if_neg another]
      exact holds
  kept other left found := by
    have elsewhere : other ≠ key := by
      rintro rfl
      cases foreign.symm.trans found
    obtain ⟨stays, nobody⟩ := sound.kept other left found
    refine ⟨?_, fun j right holds => ?_⟩
    · rw [entry_set, if_neg elsewhere]
      exact stays
    · obtain ⟨-, same, -⟩ | ⟨-, before⟩ := holding_set_eq_some holds
      · exact elsewhere same
      · exact nobody j right before

/-- The step rule. -/
theorem Sound.step (sound : Sound start slots) (stepped : Step slots next) : Sound start next := by
  cases stepped with
  | stay => exact sound
  | reserve i key value free idle =>
    refine sound.set _ ?_ (fun j left holds => ?_) fun other left holds => ?_
    · refine Option.eq_none_iff_forall_ne_some.mpr fun old found => ?_
      cases free.symm.trans (sound.kept key old found).1
    · rw [sound.held j key left holds] at free
      cases free
    · rw [idle] at holds
      cases holds
  | change i key old new holds | release i key old holds =>
    refine sound.set _ ?_ (fun j left also => sound.single j i key left old also holds) fun other left also => ?_
    · exact Option.eq_none_iff_forall_ne_some.mpr fun before found => (sound.kept key before found).2 i old holds
    rw [holds] at also
    cases also
    rfl

end Slots

end StoreSaas
