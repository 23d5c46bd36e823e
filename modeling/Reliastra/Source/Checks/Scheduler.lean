import Reliastra.Library.Run
import Reliastra.Library.Table
import Reliastra.Source.Checks.Execution
import Reliastra.Source.Core.CircuitBreaker

/-!
# The scheduler

Source: `schedule_due_checks` of `app/modules/checks/service.py`,
`get_due_dependencies` of `app/modules/dependencies/repository.py`, and
`_validate_regions` of `app/modules/dependencies/schemas.py`. A dispatched task
is an entry of the log, newest first, with the state of the circuit at that
moment. The outcomes of checks reach the circuit breaker in any order.
-/

namespace Reliastra.Source.Checks

open Reliastra.Library CircuitBreaker

/-! ## Regions -/

/-- The loop of `_validate_regions`. -/
def dedupeRegions : List String → List Region → Except String (List Region)
  | [], deduped => .ok deduped
  | region :: rest, deduped =>
    if allowed : region ∈ allowedRegions then
      dedupeRegions rest
        (if ⟨region, allowed⟩ ∈ deduped then deduped else deduped ++ [⟨region, allowed⟩])
    else
      .error ("Unknown region '" ++ region ++
        "'. Allowed: ap-south, eu-west, sa-east, us-east")

/-- `_validate_regions`; the error is the text of the `ValueError`. -/
def validateRegions (regions : List String) : Except String (List Region) :=
  if regions = [] then .error "regions must contain at least one region"
  else dedupeRegions regions []

def defaultRegions : List String := ["us-east", "eu-west"]

/-! ## Due dependencies -/

structure ScheduledDependency where
  id : Uuid
  isActive : Bool
  isDeleted : Bool
  nextCheckAt : Option Instant
  checkIntervalSeconds : Int
  regions : List String
  deriving DecidableEq, Repr

/-- The `where` clauses of `get_due_dependencies`. -/
def ScheduledDependency.Due (dep : ScheduledDependency) (now : Instant) : Prop :=
  dep.isActive = true ∧ dep.isDeleted = false ∧ ∃ next ∈ dep.nextCheckAt, next ≤ now

instance (dep : ScheduledDependency) (now : Instant) : Decidable (dep.Due now) :=
  inferInstanceAs (Decidable (_ ∧ _ ∧ ∃ next ∈ dep.nextCheckAt, next ≤ now))

def dueLimit : Nat := 500

/-- An answer of `get_due_dependencies`: the oldest due ones, no more than the
limit, rows of one instant in any order. -/
def DueAnswer (deps : Table ScheduledDependency.id) (now : Instant)
    (due : List ScheduledDependency) : Prop :=
  (∀ dep ∈ due, dep ∈ deps.rows ∧ dep.Due now) ∧
    (due.map ScheduledDependency.id).Nodup ∧
    due.Pairwise (fun older newer => older.nextCheckAt.getD 0 ≤ newer.nextCheckAt.getD 0) ∧
    due.length = min dueLimit (deps.rows.filter (fun dep => dep.Due now)).length ∧
    ∀ dep ∈ deps.rows, dep.Due now → dep ∉ due →
      ∀ chosen ∈ due, chosen.nextCheckAt.getD 0 ≤ dep.nextCheckAt.getD 0

instance (deps : Table ScheduledDependency.id) (now : Instant) (due : List ScheduledDependency) :
    Decidable (DueAnswer deps now due) :=
  inferInstanceAs (Decidable (_ ∧ _ ∧ _ ∧ _ ∧ _))

/-! ## Dispatching -/

/-- A call of `execute_check.delay`. -/
structure Dispatch where
  dependencyId : Uuid
  region : String
  dispatchedAt : Instant
  circuit : Circuit
  deriving DecidableEq, Repr

/-- `dep.regions or ["us-east", "eu-west"]`. -/
def ScheduledDependency.regionsToCheck (dep : ScheduledDependency) : List String :=
  if dep.regions = [] then defaultRegions else dep.regions

/-- The tasks of one dependency, in the order of its regions. -/
def dispatchDependency (breaker : BreakerStore) (now : Instant) (log : List Dispatch)
    (dep : ScheduledDependency) : List Dispatch :=
  dep.regionsToCheck.foldl
    (fun log region => ⟨dep.id, region, now, breaker.load dep.id⟩ :: log) log

structure Monitoring where
  dependencies : Table ScheduledDependency.id
  breaker : BreakerStore
  clock : Instant
  dispatches : List Dispatch

def scheduleDueChecks (s : Monitoring) (due : List ScheduledDependency) : Monitoring :=
  { s with
    dependencies := s.dependencies.updateEach due
      (fun dep => { dep with
        nextCheckAt := some (s.clock + secondsToMicros dep.checkIntervalSeconds) })
      (fun _ => rfl)
    dispatches := due.foldl (dispatchDependency s.breaker s.clock) s.dispatches }

inductive MonitoringAction where
  | elapse (micros : Nat)
  | recordSuccess (dependencyId : Uuid)
  | recordFailure (dependencyId : Uuid)
  | scheduleDueChecks (due : List ScheduledDependency)

/-- One step; an answer the database cannot give changes nothing. -/
def monitoringStep (s : Monitoring) (action : MonitoringAction) : Monitoring :=
  match action with
  | .elapse micros => { s with clock := s.clock + micros }
  | .recordSuccess dependencyId =>
    { s with breaker := CircuitBreaker.recordSuccess s.breaker dependencyId }
  | .recordFailure dependencyId =>
    { s with breaker := CircuitBreaker.recordFailure s.breaker dependencyId s.clock }
  | .scheduleDueChecks due =>
    if DueAnswer s.dependencies s.clock due then scheduleDueChecks s due else s

end Reliastra.Source.Checks
