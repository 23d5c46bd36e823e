import Reliastra.Source.Core.Basics
import Reliastra.Library.Interleaving

/-!
# The circuit breaker of a dependency

Source: `app/core/circuit_breaker.py`, while Redis is available. The JSON
document of a dependency is a record, and a key without a document reads as the
empty state. `time.time()` is an instant.
-/

namespace Reliastra.Source.CircuitBreaker

def failureThreshold : Nat := 3

def successThreshold : Nat := 2

def halfOpenIntervalSeconds : Int := 60

def probeLeaseSeconds : Int := 60

inductive BreakerState where
  | closed
  | opened
  deriving DecidableEq, Repr

structure Circuit where
  state : BreakerState
  failures : Nat
  successes : Nat
  openedAt : Option Instant
  deriving DecidableEq, Repr

def emptyState : Circuit := ⟨.closed, 0, 0, none⟩

/-- The keys `reliastra:circuit:<id>`, and `reliastra:circuit:probe:<id>` with the
instant they expire. -/
structure BreakerStore where
  circuits : Uuid → Option Circuit
  probes : Uuid → Option Instant

def BreakerStore.empty : BreakerStore := ⟨fun _ => none, fun _ => none⟩

def BreakerStore.load (store : BreakerStore) (dependencyId : Uuid) : Circuit :=
  (store.circuits dependencyId).getD emptyState

def BreakerStore.save (store : BreakerStore) (dependencyId : Uuid) (circuit : Circuit) :
    BreakerStore :=
  { store with
    circuits := fun id => if id = dependencyId then some circuit else store.circuits id }

/-- `float(state.get("opened_at") or 0.0)`. -/
def Circuit.openedSince (circuit : Circuit) : Instant := circuit.openedAt.getD 0

/-- The circuit is open, and has been for less than the half-open interval. -/
def Circuit.Cooling (circuit : Circuit) (now : Instant) : Prop :=
  circuit.state = .opened ∧
    now - circuit.openedSince < secondsToMicros halfOpenIntervalSeconds

instance (circuit : Circuit) (now : Instant) : Decidable (circuit.Cooling now) :=
  inferInstanceAs (Decidable (_ ∧ _))

/-- Somebody has the lease. -/
def BreakerStore.Leased (store : BreakerStore) (dependencyId : Uuid) (now : Instant) : Prop :=
  ∃ expiresAt ∈ store.probes dependencyId, now < expiresAt

instance (store : BreakerStore) (dependencyId : Uuid) (now : Instant) :
    Decidable (store.Leased dependencyId now) :=
  inferInstanceAs (Decidable (∃ expiresAt ∈ store.probes dependencyId, now < expiresAt))

def shouldDispatch (store : BreakerStore) (dependencyId : Uuid) (now : Instant) :
    BreakerStore × Bool :=
  let circuit := store.load dependencyId
  if circuit.state ≠ .opened then (store, true)
  else if circuit.Cooling now then (store, false)
  else if store.Leased dependencyId now then (store, false)
  else
    ({ store with
      probes := fun id =>
        if id = dependencyId then some (now + secondsToMicros probeLeaseSeconds)
        else store.probes id }, true)

def recordSuccess (store : BreakerStore) (dependencyId : Uuid) : BreakerStore :=
  let circuit := store.load dependencyId
  let succeeded := { circuit with failures := 0, successes := circuit.successes + 1 }
  if successThreshold ≤ succeeded.successes then
    { store with
      probes := fun id => if id = dependencyId then none else store.probes id }.save dependencyId
        { succeeded with state := .closed, successes := 0, openedAt := none }
  else store.save dependencyId succeeded

def recordFailure (store : BreakerStore) (dependencyId : Uuid) (now : Instant) : BreakerStore :=
  let circuit := store.load dependencyId
  let failed := { circuit with successes := 0, failures := circuit.failures + 1 }
  store.save dependencyId
    (if failureThreshold ≤ failed.failures then
      { failed with state := .opened, openedAt := some now }
    else failed)

/-- What the breaker answers, and when it takes the lease. -/
theorem shouldDispatch_iff (store : BreakerStore) (dependencyId : Uuid) (now : Instant) :
    (shouldDispatch store dependencyId now).2 = true ↔
      ((store.load dependencyId).state = .opened →
        ¬ (store.load dependencyId).Cooling now ∧ ¬ store.Leased dependencyId now) := by
  unfold shouldDispatch
  by_cases opened : (store.load dependencyId).state = .opened
  · by_cases cooling : (store.load dependencyId).Cooling now
    · simp [opened, cooling]
    · by_cases leased : store.Leased dependencyId now
      · simp [opened, cooling, leased]
      · simp [opened, cooling, leased]
  · simp [opened]

end Reliastra.Source.CircuitBreaker

/-!
## Recordings side by side

`_record` of `app/core/circuit_breaker.py`, Redis command by Redis command, for
the workers that check one dependency. The commands of different workers
interleave in any way; a worker records one outcome after another.
-/

namespace Reliastra.Source.CircuitBreaker

inductive Outcome where
  | success
  | failure
  deriving DecidableEq, Repr

/-- What `_record` makes of the state it has loaded. -/
def Circuit.after (circuit : Circuit) (now : Instant) : Outcome → Circuit
  | .success =>
    let succeeded := { circuit with failures := 0, successes := circuit.successes + 1 }
    if successThreshold ≤ succeeded.successes then
      { succeeded with state := .closed, successes := 0, openedAt := none }
    else succeeded
  | .failure =>
    let failed := { circuit with successes := 0, failures := circuit.failures + 1 }
    if failureThreshold ≤ failed.failures then
      { failed with state := .opened, openedAt := some now }
    else failed

/-- Before this outcome is saved, the key of the probe is deleted. -/
def Circuit.Closes (circuit : Circuit) (outcome : Outcome) : Prop :=
  outcome = .success ∧ successThreshold ≤ circuit.successes + 1

instance (circuit : Circuit) (outcome : Outcome) : Decidable (circuit.Closes outcome) :=
  inferInstanceAs (Decidable (_ ∧ _))

def BreakerStore.clearProbe (store : BreakerStore) (dependencyId : Uuid) : BreakerStore :=
  { store with probes := fun id => if id = dependencyId then none else store.probes id }

@[simp] theorem BreakerStore.load_save (store : BreakerStore) (dependencyId : Uuid)
    (circuit : Circuit) : (store.save dependencyId circuit).load dependencyId = circuit := by
  simp [BreakerStore.save, BreakerStore.load]

/-- A recording without others in between applies its outcome. -/
theorem recordSuccess_load (store : BreakerStore) (dependencyId : Uuid) (now : Instant) :
    (recordSuccess store dependencyId).load dependencyId =
      (store.load dependencyId).after now .success := by
  unfold recordSuccess Circuit.after
  by_cases closes : successThreshold ≤ (store.load dependencyId).successes + 1
  · simp only [if_pos closes, BreakerStore.load_save]
  · simp only [if_neg closes, BreakerStore.load_save]

theorem recordFailure_load (store : BreakerStore) (dependencyId : Uuid) (now : Instant) :
    (recordFailure store dependencyId now).load dependencyId =
      (store.load dependencyId).after now .failure := by
  simp only [recordFailure, Circuit.after, BreakerStore.load_save]

/-! ## Commands -/

/-- Where a worker is: `cleared` is past the deletion of the probe. -/
inductive RecorderPhase where
  | idle
  | loaded (outcome : Outcome) (circuit : Circuit)
  | cleared (outcome : Outcome) (circuit : Circuit)

inductive RecorderAct where
  | load (outcome : Outcome)
  | clearProbe
  | save (now : Instant)

/-- Redis, and the outcomes in the order they were saved, which nothing reads. -/
structure RecordingStore where
  redis : BreakerStore
  recorded : List Outcome

def RecordingStore.save (s : RecordingStore) (dependencyId : Uuid) (outcome : Outcome)
    (circuit : Circuit) (now : Instant) : RecordingStore :=
  ⟨s.redis.save dependencyId (circuit.after now outcome), s.recorded ++ [outcome]⟩

/-- One command of a worker; one that is not its next waits. -/
def recordStep {ι : Type} (dependencyId : Uuid) (_ : ι) (s : RecordingStore)
    (phase : RecorderPhase) : RecorderAct → RecordingStore × RecorderPhase
  | .load outcome =>
    match phase with
    | .idle => (s, .loaded outcome (s.redis.load dependencyId))
    | _ => (s, phase)
  | .clearProbe =>
    match phase with
    | .loaded outcome circuit =>
      if circuit.Closes outcome then
        ({ s with redis := s.redis.clearProbe dependencyId }, .cleared outcome circuit)
      else (s, phase)
    | _ => (s, phase)
  | .save now =>
    match phase with
    | .loaded outcome circuit =>
      if circuit.Closes outcome then (s, phase)
      else (s.save dependencyId outcome circuit now, .idle)
    | .cleared outcome circuit => (s.save dependencyId outcome circuit now, .idle)
    | .idle => (s, phase)

end Reliastra.Source.CircuitBreaker
