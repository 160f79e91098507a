import Mathlib.Logic.Basic

/-! # Runs of a labelled transition relation

A run is the list of the actions taken, each with the state it leads to.  A
property may be asked of every state a run visits (`EachState`) or of every step
it takes (`EachStep`); being a run of `step` at all is the second kind.  What a
statement has to remember of the past is kept beside the states (`withHistory`).  The
two rules below carry an invariant along a run: `eachState_of_invariant` when every
step meets a side condition, and `eachState_iff_eachStep` when that side
condition is exactly what the property needs.
-/

namespace StoreSaas.Transition

universe u v

variable {State : Type u} {Action : Type v}

/-- Every step of the run satisfies `condition`. -/
def EachStep (condition : State → Action → State → Prop) : State → List (Action × State) → Prop
  | _, [] => True
  | source, (action, target) :: rest =>
    condition source action target ∧ EachStep condition target rest

instance EachStep.decidable {condition : State → Action → State → Prop}
    [decideStep : ∀ source action target, Decidable (condition source action target)] :
    ∀ source run, Decidable (EachStep condition source run)
  | _, [] => isTrue trivial
  | source, (action, target) :: rest =>
    have : Decidable (EachStep condition target rest) := EachStep.decidable target rest
    inferInstanceAs (Decidable (condition source action target ∧ EachStep condition target rest))

/-- Every state of the run, the first one included, satisfies `property`. -/
def EachState (property : State → Prop) : State → List (Action × State) → Prop
  | state, [] => property state
  | state, (_, target) :: rest => property state ∧ EachState property target rest

/-- A run of `step` is a path all of whose steps are steps of `step`. -/
abbrev Run (step : State → Action → State → Prop) : State → List (Action × State) → Prop :=
  EachStep step

/-- The state in which a run ends. -/
def final : State → List (Action × State) → State
  | state, [] => state
  | _, (_, target) :: rest => final target rest

/-- The run that a function makes of a list of actions. -/
def runOf (perform : State → Action → State) : State → List Action → List (Action × State)
  | _, [] => []
  | state, action :: rest => (action, perform state action) :: runOf perform (perform state action) rest

theorem run_runOf (perform : State → Action → State) (state : State) (actions : List Action) :
    Run (fun source action target => target = perform source action) state (runOf perform state actions) := by
  induction actions generalizing state with
  | nil => trivial
  | cons action rest ih => exact ⟨rfl, ih _⟩

/-- The run that a partial function makes of a list of actions, if it is defined at each. -/
def traceOf (perform : State → Action → Option State) : State → List Action → Option (List (Action × State))
  | _, [] => some []
  | state, action :: rest =>
    (perform state action).bind fun next => (traceOf perform next rest).map ((action, next) :: ·)

theorem run_get_traceOf {perform : State → Action → Option State} {state : State} {actions : List Action}
    (enabled : (traceOf perform state actions).isSome = true) :
    Run (fun source action target => perform source action = some target) state
      ((traceOf perform state actions).get enabled) := by
  have runs {run : List (Action × State)} (traced : traceOf perform state actions = some run) :
      Run (fun source action target => perform source action = some target) state run := by
    clear enabled
    induction actions generalizing state run with
    | nil => cases traced; trivial
    | cons action rest ih =>
      obtain ⟨next, performed, traced⟩ := Option.bind_eq_some_iff.mp traced
      obtain ⟨tail, tailTraced, rfl⟩ := Option.map_eq_some_iff.mp traced
      exact ⟨performed, ih tailTraced⟩
  exact runs (Option.some_get enabled).symm

/-- A run with an account of what has happened, which `observe` brings up to date at every step. -/
def withHistory {History : Type v} (observe : State → Action → History → History) :
    State → History → List (Action × State) → List (Action × State × History)
  | _, _, [] => []
  | source, history, (action, target) :: rest =>
    let next := observe source action history
    (action, target, next) :: withHistory observe target next rest

theorem run_withHistory {History : Type v} {step : State → Action → State → Prop}
    (observe : State → Action → History → History) {source : State} (history : History) {run : List (Action × State)}
    (isRun : Run step source run) :
    Run (fun before action after => step before.1 action after.1 ∧ after.2 = observe before.1 action before.2)
      (source, history) (withHistory observe source history run) := by
  induction run generalizing source history with
  | nil => trivial
  | cons entry rest ih => exact ⟨⟨isRun.1, rfl⟩, ih _ isRun.2⟩

variable {step condition : State → Action → State → Prop} {property invariant : State → Prop}

theorem EachState.head {state : State} {run : List (Action × State)}
    (holds : EachState property state run) : property state := by
  cases run with
  | nil => exact holds
  | cons _ _ => exact holds.1

theorem EachState.last {state : State} {run : List (Action × State)}
    (holds : EachState property state run) : property (final state run) := by
  induction run generalizing state with
  | nil => exact holds
  | cons entry rest ih => exact ih holds.2

theorem EachState.imp {other : State → Prop} (implies : ∀ state, property state → other state)
    {state : State} {run : List (Action × State)} (holds : EachState property state run) :
    EachState other state run := by
  induction run generalizing state with
  | nil => exact implies _ holds
  | cons entry rest ih => exact ⟨implies _ holds.1, ih holds.2⟩

theorem EachState.and {other : State → Prop} {state : State} {run : List (Action × State)}
    (left : EachState property state run) (right : EachState other state run) :
    EachState (fun state => property state ∧ other state) state run := by
  induction run generalizing state with
  | nil => exact ⟨left, right⟩
  | cons entry rest ih => exact ⟨⟨left.1, right.1⟩, ih left.2 right.2⟩

theorem EachState.congr {left right : State → Prop} {state : State} {run : List (Action × State)}
    (holds : EachState property state run) (same : ∀ state, property state → (left state ↔ right state)) :
    EachState left state run ↔ EachState right state run := by
  induction run generalizing state with
  | nil => exact same state holds
  | cons entry rest ih => exact and_congr (same state holds.1) (ih holds.2)

theorem EachStep.imp {other : State → Action → State → Prop}
    (implies : ∀ source action target, condition source action target → other source action target)
    {state : State} {run : List (Action × State)} (holds : EachStep condition state run) :
    EachStep other state run := by
  induction run generalizing state with
  | nil => trivial
  | cons entry rest ih => exact ⟨implies _ _ _ holds.1, ih holds.2⟩

theorem EachStep.and {other : State → Action → State → Prop} {state : State}
    {run : List (Action × State)} (left : EachStep condition state run)
    (right : EachStep other state run) :
    EachStep (fun source action target => condition source action target ∧ other source action target)
      state run := by
  induction run generalizing state with
  | nil => trivial
  | cons entry rest ih => exact ⟨⟨left.1, right.1⟩, ih left.2 right.2⟩

/-- The steps of a run and one step more, from the state in which the run ends. -/
theorem eachStep_concat {state target : State} {action : Action} {run : List (Action × State)} :
    EachStep condition state (run ++ [(action, target)]) ↔
      EachStep condition state run ∧ condition (final state run) action target := by
  induction run generalizing state with
  | nil => exact and_comm
  | cons entry rest ih => exact (and_congr_right fun _ => ih).trans (and_assoc).symm

/-- A run that goes on where another one ended. -/
theorem run_append {state : State} {first second : List (Action × State)} (isFirst : Run step state first)
    (isSecond : Run step (final state first) second) :
    Run step state (first ++ second) ∧ final state (first ++ second) = final (final state first) second := by
  induction first generalizing state with
  | nil => exact ⟨isSecond, rfl⟩
  | cons entry rest ih =>
    obtain ⟨isRun, ends⟩ := ih isFirst.2 isSecond
    exact ⟨⟨isFirst.1, isRun⟩, ends⟩

/-- The invariant rule for runs whose steps all meet `condition`. -/
theorem eachState_of_invariant
    (preserved : ∀ source action target, invariant source → step source action target →
      condition source action target → invariant target)
    {state : State} {run : List (Action × State)} (start : invariant state)
    (isRun : Run step state run) (meets : EachStep condition state run) :
    EachState invariant state run := by
  induction run generalizing state with
  | nil => exact start
  | cons entry rest ih =>
    have next : invariant entry.2 := preserved state entry.1 entry.2 start isRun.1 meets.1
    exact ⟨start, ih next isRun.2 meets.2⟩

/-- The invariant rule for runs whose steps are all alike. -/
theorem eachState_of_step
    (preserved : ∀ source action target, invariant source → step source action target → invariant target)
    {state : State} {run : List (Action × State)} (start : invariant state) (isRun : Run step state run) :
    EachState invariant state run :=
  eachState_of_invariant (fun source action target before stepped _ => preserved source action target before stepped)
    start isRun isRun

/-- What every step from a state of the invariant does, every step of a run does. -/
theorem eachStep_of_invariant
    (each : ∀ source action target, invariant source → step source action target → condition source action target)
    (preserved : ∀ source action target, invariant source → step source action target → invariant target)
    {state : State} {run : List (Action × State)} (start : invariant state) (isRun : Run step state run) :
    EachStep condition state run := by
  induction run generalizing state with
  | nil => trivial
  | cons entry rest ih =>
    exact ⟨each _ _ _ start isRun.1, ih (preserved _ _ _ start isRun.1) isRun.2⟩

/-- Two conditions on a step that agree under an invariant agree on the steps of a run. -/
theorem eachStep_congr {other : State → Action → State → Prop}
    (exact_step : ∀ source action target, invariant source → step source action target →
      (other source action target ↔ condition source action target))
    (preserved : ∀ source action target, invariant source → step source action target → invariant target)
    {state : State} {run : List (Action × State)} (start : invariant state) (isRun : Run step state run) :
    EachStep other state run ↔ EachStep condition state run := by
  induction run generalizing state with
  | nil => exact Iff.rfl
  | cons entry rest ih =>
    have next : invariant entry.2 := preserved state entry.1 entry.2 start isRun.1
    exact and_congr (exact_step state entry.1 entry.2 start isRun.1) (ih next isRun.2)

/-- When, under an invariant, a step keeps `property` exactly if it meets `condition`,
    a run keeps `property` throughout exactly if all its steps meet `condition`. -/
theorem eachState_iff_eachStep
    (exact_step : ∀ source action target, invariant source → property source →
      step source action target → (property target ↔ condition source action target))
    (preserved : ∀ source action target, invariant source → property source →
      step source action target → property target → invariant target)
    {state : State} {run : List (Action × State)} (start : invariant state)
    (holds : property state) (isRun : Run step state run) :
    EachState property state run ↔ EachStep condition state run := by
  induction run generalizing state with
  | nil => exact ⟨fun _ => trivial, fun _ => holds⟩
  | cons entry rest ih =>
    have stepIff := exact_step state entry.1 entry.2 start holds isRun.1
    constructor
    · intro always
      have next : property entry.2 := always.2.head
      have kept := preserved state entry.1 entry.2 start holds isRun.1 next
      exact ⟨stepIff.mp next, (ih kept next isRun.2).mp always.2⟩
    · intro meets
      have next : property entry.2 := stepIff.mpr meets.1
      have kept := preserved state entry.1 entry.2 start holds isRun.1 next
      exact ⟨holds, (ih kept next isRun.2).mpr meets.2⟩

end StoreSaas.Transition
