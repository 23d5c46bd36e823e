import Reliastra.Source.Checks.Execution
import Reliastra.Source.Observations.ConcurrentOutbox

/-!
# The statistics of checks and of observations

Source: `get_aggregated_stats` of `app/modules/checks/repository.py` and of
`app/modules/observations/repository.py`, over the rows that `execute_check` and
`process_outbox` write. Each table has no other writer but the retention, which
is left out. Of the aggregates the model has the counts; averages, percentiles
and percentages are floats made of them and of the latencies, and are left out.
-/

namespace Reliastra.Source.Observations

open Reliastra.Library
open Checks (Dependency StoredDependency Network Region checkRow probeDependency)
open SsrfProtection (UrlLibrary)

/-! ## The aggregates -/

/-- `now - timedelta(hours=window_hours)`. -/
def windowStart (windowHours : Int) (now : Instant) : Instant :=
  now - secondsToMicros (windowHours * 3600)

structure CheckStats where
  totalChecks : Int
  totalUp : Int
  totalDown : Int
  deriving DecidableEq, Repr

/-- The rows the query of `CheckRepository` joins and selects. -/
def checksInWindow (dependencies : Table Dependency.id) (dependencyId : Uuid) (since : Instant)
    (rows : List CheckResult) : List CheckResult :=
  rows.filter (fun r => (∃ dep ∈ dependencies.rows, r.dependencyId = dep.id ∧ dep.isDeleted = false) ∧
    r.dependencyId = dependencyId ∧ since ≤ r.executedAt)

/-- `CheckRepository.get_aggregated_stats`. The figures of no rows are zeros. -/
def checkAggregatedStats (dependencies : Table Dependency.id) (rows : List CheckResult)
    (dependencyId : Uuid) (windowHours : Int) (now : Instant) : CheckStats :=
  let selected := checksInWindow dependencies dependencyId (windowStart windowHours now) rows
  let totalUp := sumWhere (fun r => r.isUp = true) (fun _ => 1) selected
  ⟨selected.length, totalUp, selected.length - totalUp⟩

/-- The `failure` of the aggregate queries. -/
def CountsAsFailure (fields : ObservationFields) : Prop :=
  fields.statusCode = none ∨ fields.errorType ≠ none

instance : DecidablePred CountsAsFailure := fun fields =>
  inferInstanceAs (Decidable (fields.statusCode = none ∨ fields.errorType ≠ none))

structure ObservationStats where
  total : Int
  errors : Int
  deriving DecidableEq, Repr

/-- The rows the query of `ObservationRepository` selects. -/
def observationsInWindow (sourceId : Uuid) (since : Instant) (rows : List Observation) :
    List Observation :=
  rows.filter (fun o => o.fields.sourceId = some sourceId ∧ since ≤ o.timestamp)

/-- `ObservationRepository.get_aggregated_stats`. The figures of no rows are zeros. -/
def observationAggregatedStats (rows : List Observation) (sourceId : Uuid) (windowHours : Int)
    (now : Instant) : ObservationStats :=
  let selected := observationsInWindow sourceId (windowStart windowHours now) rows
  ⟨selected.length, sumWhere (fun o => CountsAsFailure o.fields) (fun _ => 1) selected⟩

/-! ## What writes the rows -/

/-- A statement of a worker. The result a producer flushes is that of a probe,
and its event is enqueued with the dependency's URL and method. -/
inductive EvidenceAct where
  | check (net : Network) (dep : StoredDependency) (region : Region) (now : Instant)
      (elapsedMs : Rat) (newId : Uuid)
  | confirmQuorum
  | enqueue (dep : StoredDependency) (now : Instant) (newId : Uuid)
  | listPending (limit : Nat) (events : List OutboxEvent)
  | processEvent (now : Instant)
  | deleteEvent
  | commit
  | abort

def EvidenceAct.statement (lib : UrlLibrary) : EvidenceAct → OutboxAct
  | .check net dep region now elapsedMs newId =>
    .createResult (checkRow dep region (probeDependency lib net dep) now elapsedMs newId)
  | .confirmQuorum => .confirmQuorum
  | .enqueue dep now newId => .enqueue dep.endpointUrl dep.method.value now newId
  | .listPending limit events => .listPending limit events
  | .processEvent now => .processEvent now
  | .deleteEvent => .deleteEvent
  | .commit => .commit
  | .abort => .abort

variable {ι : Type} [DecidableEq ι]

def evidenceAct (codec : PayloadCodec) (lib : UrlLibrary) (i : ι) (s : EvidenceStore ι)
    (phase : OutboxPhase) (act : EvidenceAct) : EvidenceStore ι × OutboxPhase :=
  outboxAct codec i s phase (act.statement lib)

end Reliastra.Source.Observations
