/-
# Labelled machines and their runs

A machine takes a labelled step from a state, or refuses the label. Its runs
are folds of the step over a list of labels, and the states reached through
steps that all meet a side condition form an inductive predicate. An invariant
established at the start and kept by every admitted step holds of every state
reached; a property of single steps then holds at every step of a run.
-/

import Mathlib.Data.List.Basic

namespace ClusterChat

universe u v

/-- A machine over states `σ`: a label either moves the state or is refused. -/
structure Machine (σ : Type u) (ℓ : Type v) where
  step : σ → ℓ → Option σ

namespace Machine

variable {σ : Type u} {ℓ : Type v} (machine : Machine σ ℓ)

/-- Take the labels in order; `none` as soon as one is refused. -/
def run : σ → List ℓ → Option σ
  | state, [] => some state
  | state, label :: rest => (machine.step state label).bind fun next => run next rest

@[simp] theorem run_nil (state : σ) : machine.run state [] = some state := rfl

@[simp] theorem run_cons (state : σ) (label : ℓ) (rest : List ℓ) :
    machine.run state (label :: rest) =
      (machine.step state label).bind fun next => machine.run next rest := rfl

/-- The states reached from `start` through steps that all meet `allowed`. -/
inductive Reach (allowed : σ → ℓ → Prop) (start : σ) : σ → Prop
  | refl : Reach allowed start start
  | step {state next : σ} {label : ℓ} (reached : Reach allowed start state)
      (admitted : allowed state label) (moved : machine.step state label = some next) :
      Reach allowed start next

/-- Take the labels in order, as long as the side condition admits them. -/
def runWithin (allowed : σ → ℓ → Prop) [∀ state label, Decidable (allowed state label)] :
    σ → List ℓ → Option σ
  | state, [] => some state
  | state, label :: rest =>
    if allowed state label then
      (machine.step state label).bind fun next => runWithin allowed next rest
    else none

/-- The side condition that admits every step. -/
def anyStep : σ → ℓ → Prop := fun _ _ => True

instance (state : σ) (label : ℓ) : Decidable (anyStep state label) := .isTrue trivial

/-- The states that a run has come through, the latest first, in steps that all meet
`allowed`. -/
inductive Visits (allowed : σ → ℓ → Prop) (start : σ) : List σ → Prop
  | start : Visits allowed start [start]
  | step {state next : σ} {label : ℓ} {before : List σ}
      (visits : Visits allowed start (state :: before)) (admitted : allowed state label)
      (moved : machine.step state label = some next) :
        Visits allowed start (next :: state :: before)

/-- Take the labels in order, as long as the side condition admits them, and list the states on
the way before those that were passed already. -/
def trail (allowed : σ → ℓ → Prop) [∀ state label, Decidable (allowed state label)] :
    σ → List σ → List ℓ → Option (List σ)
  | state, before, [] => some (state :: before)
  | state, before, label :: rest =>
    if allowed state label then
      (machine.step state label).bind fun next => trail allowed next (state :: before) rest
    else none

variable {machine} {allowed : σ → ℓ → Prop} {start : σ}

/-- **Invariant rule.** What holds at the start and is kept by every admitted
step holds of every state reached. -/
theorem Reach.invariant (holds : σ → Prop) (initially : holds start)
    (kept : ∀ {state next : σ} {label : ℓ}, holds state → allowed state label →
      machine.step state label = some next → holds next)
    {state : σ} (reached : machine.Reach allowed start state) : holds state := by
  induction reached with
  | refl => exact initially
  | step _ admitted moved ih => exact kept ih admitted moved

/-- What is reached after a step is reached. -/
theorem Reach.head {middle last : σ} {label : ℓ} (admitted : allowed start label)
    (moved : machine.step start label = some middle) (rest : machine.Reach allowed middle last) :
    machine.Reach allowed start last := by
  induction rest with
  | refl => exact .step .refl admitted moved
  | step _ admitted moved ih => exact .step ih admitted moved

/-- A list of labels that the machine accepts reaches its final state, once
each of its steps is known to meet the side condition. -/
theorem Reach.of_run {labels : List ℓ} {state final : σ}
    (reached : machine.Reach allowed start state)
    (admitted : ∀ s label, allowed s label)
    (ran : machine.run state labels = some final) : machine.Reach allowed start final := by
  induction labels generalizing state with
  | nil =>
    rw [run_nil, Option.some.injEq] at ran
    exact ran ▸ reached
  | cons label rest ih =>
    obtain ⟨next, moved, ran⟩ := Option.bind_eq_some_iff.mp ran
    exact ih (.step reached (admitted _ _) moved) ran

/-- A run whose steps were checked against the side condition reaches its final
state. -/
theorem Reach.of_runWithin [∀ state label, Decidable (allowed state label)] {labels : List ℓ}
    {state final : σ} (reached : machine.Reach allowed start state)
    (ran : machine.runWithin allowed state labels = some final) :
    machine.Reach allowed start final := by
  induction labels generalizing state with
  | nil =>
    rw [runWithin, Option.some.injEq] at ran
    exact ran ▸ reached
  | cons label rest ih =>
    rw [runWithin] at ran
    split at ran
    · rename_i admitted
      obtain ⟨next, moved, ran⟩ := Option.bind_eq_some_iff.mp ran
      exact ih (.step reached admitted moved) ran
    · cases ran

theorem Visits.of_trail [∀ state label, Decidable (allowed state label)] {labels : List ℓ}
    {state : σ} {before visited : List σ} (visits : machine.Visits allowed start (state :: before))
    (went : machine.trail allowed state before labels = some visited) :
    machine.Visits allowed start visited := by
  induction labels generalizing state before with
  | nil => exact Option.some.inj went ▸ visits
  | cons label rest ih =>
    rw [trail] at went
    split at went
    · rename_i admitted
      obtain ⟨next, moved, went⟩ := Option.bind_eq_some_iff.mp went
      exact ih (.step visits admitted moved) went
    · cases went

/-- The state that a run has come to is reached. -/
theorem Visits.reach {state : σ} {before : List σ}
    (visits : machine.Visits allowed start (state :: before)) :
    machine.Reach allowed start state := by
  generalize whole : state :: before = visited at visits
  induction visits generalizing state before with
  | start =>
    obtain rfl := (List.cons.inj whole).1
    exact .refl
  | step visits admitted moved ih =>
    obtain rfl := (List.cons.inj whole).1
    exact .step (ih rfl) admitted moved

end Machine

end ClusterChat
