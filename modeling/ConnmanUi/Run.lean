import Mathlib.Data.Option.Basic

/-!
Runs of a partial step function.

A component is a `step` that answers an event, or refuses it with `none` when
the event cannot happen in that state.  `Reaches` collects the states that runs
lead to; its `guard` restricts which steps a run may take, so a property of
every run is proved under `Always` and a property of the runs whose steps all
meet a condition is proved under that condition.  `Reaches.invariant` is the
induction every such result goes through.  `AllSteps` says of a run that each of
its steps meets a condition; the steps of `watch` carry what an observer notes.
-/

namespace ConnmanUi.Run

variable {State Event : Type*} {step : State → Event → Option State}
  {guard guard' : State → Event → Prop} {start : State → Prop} {s s' : State} {e : Event}

/-- The states reached from a `start` state by accepted steps that all meet
`guard`. -/
inductive Reaches (step : State → Event → Option State) (guard : State → Event → Prop)
    (start : State → Prop) : State → Prop where
  | here {s : State} (initial : start s) : Reaches step guard start s
  | next {s s' : State} {e : Event} (before : Reaches step guard start s) (allowed : guard s e)
      (ran : step s e = some s') : Reaches step guard start s'

/-- The guard of unrestricted runs. -/
def Always : State → Event → Prop := fun _ _ => True

/-- What the start states satisfy and every admitted step preserves holds in
every state reached. -/
theorem Reaches.invariant {I : State → Prop} (reached : Reaches step guard start s)
    (initial : ∀ s, start s → I s)
    (preserved : ∀ s e s', I s → guard s e → step s e = some s' → I s') : I s := by
  induction reached with
  | here h => exact initial _ h
  | next _ allowed ran ih => exact preserved _ _ _ ih allowed ran

/-- A guard that is exact for `Good`: the runs under it stay good, and a step
from one of their states ends in a good state if and only if it is allowed. -/
theorem Reaches.exact {I Good : State → Prop} (reached : Reaches step guard start s)
    (initial : ∀ s, start s → I s) (good : ∀ s, I s → Good s)
    (preserved : ∀ s e s', I s → guard s e → step s e = some s' → I s')
    (broken : ∀ s e s', I s → step s e = some s' → ¬ guard s e → ¬ Good s') :
    Good s ∧ ∀ e s', step s e = some s' → (Good s' ↔ guard s e) := by
  have inv := reached.invariant initial preserved
  refine ⟨good s inv, fun e s' ran => ⟨fun goodAfter => ?_, fun allowed => ?_⟩⟩
  · by_contra refused
    exact broken s e s' inv ran refused goodAfter
  · exact good s' (preserved s e s' inv allowed ran)

/-- Runs under a stronger guard are runs under a weaker one. -/
theorem Reaches.weaken (reached : Reaches step guard start s)
    (weaker : ∀ s e, guard s e → guard' s e) : Reaches step guard' start s := by
  induction reached with
  | here h => exact .here h
  | next _ allowed ran ih => exact .next ih (weaker _ _ allowed) ran

/-- The state a list of events leads to, if every step is allowed and accepted. -/
def play (step : State → Event → Option State) (guard : State → Event → Prop)
    [∀ s e, Decidable (guard s e)] (s : State) (events : List Event) : Option State :=
  events.foldlM (fun s e => if guard s e then step s e else none) s

instance (s : State) (e : Event) : Decidable (Always s e) := isTrue trivial

theorem Reaches.play [∀ s e, Decidable (guard s e)] (reached : Reaches step guard start s)
    (events : List Event) (ran : play step guard s events = some s') :
    Reaches step guard start s' := by
  induction events generalizing s with
  | nil =>
    cases ran
    exact reached
  | cons e events ih =>
    rw [Run.play, List.foldlM_cons] at ran
    obtain ⟨middle, first, rest⟩ := Option.bind_eq_some_iff.mp ran
    obtain ⟨allowed, first⟩ := Option.ite_none_right_eq_some.mp first
    exact ih (.next reached allowed first) rest

/-! ## Conditions on every step -/

/-- Every step of the run that a list of events makes meets `P`; the run ends
at an event that is refused. -/
def AllSteps (step : State → Event → Option State) (P : State → Event → Prop) : State → List Event → Prop
  | _, [] => True
  | s, e :: events =>
    match step s e with
    | none => True
    | some s' => P s e ∧ AllSteps step P s' events

/-- Two conditions that agree on every step from a state with an invariant agree
on runs, if the steps that meet them keep the invariant. -/
theorem AllSteps.iff {P Q : State → Event → Prop} {I : State → Prop}
    (agree : ∀ s e s', I s → step s e = some s' → (P s e ↔ Q s e))
    (preserved : ∀ s e s', I s → step s e = some s' → P s e → Q s e → I s') {s : State} (inv : I s)
    (events : List Event) : AllSteps step P s events ↔ AllSteps step Q s events := by
  induction events generalizing s with
  | nil => rfl
  | cons e events ih =>
    cases ran : step s e with
    | none => simp only [AllSteps, ran]
    | some s' =>
      simp only [AllSteps, ran]
      constructor
      · rintro ⟨p, rest⟩
        have q := (agree s e s' inv ran).mp p
        exact ⟨q, (ih (preserved s e s' inv ran p q)).mp rest⟩
      · rintro ⟨q, rest⟩
        have p := (agree s e s' inv ran).mpr q
        exact ⟨p, (ih (preserved s e s' inv ran p q)).mpr rest⟩

theorem AllSteps.of_play {P : State → Event → Prop} [∀ s e, Decidable (P s e)] {events : List Event}
    (ran : play step P s events = some s') : AllSteps step P s events := by
  induction events generalizing s with
  | nil => trivial
  | cons e events ih =>
    rw [Run.play, List.foldlM_cons] at ran
    obtain ⟨middle, first, rest⟩ := Option.bind_eq_some_iff.mp ran
    obtain ⟨allowed, first⟩ := Option.ite_none_right_eq_some.mp first
    simp only [AllSteps, first]
    exact ⟨allowed, ih rest⟩

theorem AllSteps.mono {P Q : State → Event → Prop} (weaker : ∀ s e, P s e → Q s e) {s : State} {events : List Event}
    (all : AllSteps step P s events) : AllSteps step Q s events := by
  induction events generalizing s with
  | nil => trivial
  | cons e events ih =>
    cases ran : step s e with
    | none => simp only [AllSteps, ran]
    | some s' =>
      simp only [AllSteps, ran] at all ⊢
      exact ⟨weaker s e all.1, ih all.2⟩

/-- The condition holds at the last step of a run. -/
theorem AllSteps.last {P : State → Event → Prop} {s'' : State} (events : List Event) (e : Event)
    (all : AllSteps step P s (events ++ [e])) (ran : events.foldlM step s = some s')
    (ends : step s' e = some s'') : P s' e := by
  induction events generalizing s with
  | nil =>
    cases ran
    simp only [List.nil_append, AllSteps, ends] at all
    exact all.1
  | cons first events ih =>
    rw [List.foldlM_cons] at ran
    obtain ⟨middle, one, rest⟩ := Option.bind_eq_some_iff.mp ran
    simp only [List.cons_append, AllSteps, one] at all
    exact ih all.2 rest

/-! ## Runs under observation -/

/-- A state, and what an observer has noted of the run that led to it. -/
structure Watched (State Ghost : Type*) where
  state : State
  ghost : Ghost

/-- The steps of `act` for an observer who notes something at each of them. -/
def watch {Ghost Output : Type*} (act : State → Event → Option (State × Output))
    (note : State → Event → State × Output → Ghost → Ghost) (w : Watched State Ghost) (e : Event) :
    Option (Watched State Ghost) :=
  (act w.state e).map fun out => ⟨out.1, note w.state e out w.ghost⟩

theorem watch_eq_some {Ghost Output : Type*} {act : State → Event → Option (State × Output)}
    {note : State → Event → State × Output → Ghost → Ghost} {w w' : Watched State Ghost}
    (ran : watch act note w e = some w') :
    ∃ out, act w.state e = some out ∧ w' = ⟨out.1, note w.state e out w.ghost⟩ := by
  obtain ⟨out, acted, rfl⟩ := Option.map_eq_some_iff.mp ran
  exact ⟨out, acted, rfl⟩

/-- The steps of `step` for an observer who looks at the states. -/
def observe {Ghost : Type*} (step : State → Event → Option State)
    (note : State → Event → State → Ghost → Ghost) (w : Watched State Ghost) (e : Event) :
    Option (Watched State Ghost) :=
  (step w.state e).map fun s' => ⟨s', note w.state e s' w.ghost⟩

theorem observe_eq_some {Ghost : Type*} {note : State → Event → State → Ghost → Ghost}
    {w w' : Watched State Ghost} (ran : observe step note w e = some w') :
    ∃ s', step w.state e = some s' ∧ w' = ⟨s', note w.state e s' w.ghost⟩ := by
  obtain ⟨s', stepped, rfl⟩ := Option.map_eq_some_iff.mp ran
  exact ⟨s', stepped, rfl⟩

end ConnmanUi.Run
