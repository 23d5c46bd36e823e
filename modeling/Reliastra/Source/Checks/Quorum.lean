import Mathlib.Data.Finset.Card
import Reliastra.Library.Interleaving
import Reliastra.Library.Table
import Reliastra.Source.Core.Basics

/-!
# Check execution and the failure quorum

Source: `execute_check` of `app/modules/checks/service.py`,
`check_and_create_incident` and `resolve_incident` of
`app/modules/incidents/service.py`, their repositories, and the index
`uq_incidents_one_open_per_dependency` of migration 0014.

Any number of workers check one dependency, each in a transaction of its own.
A transaction is cut where the database serves it: the flush of its result, the
`FOR UPDATE` lock of the dependency row, the quorum read, the read of the open
incident, the insertion of a new one, the commit. Under READ COMMITTED a read
sees what is committed at that moment and the transaction's own result. A step
that has to wait leaves everything as it is.

The probe itself (DNS, HTTP, redirects) is an input. Alerts, correlations, the
observation outbox, the circuit breaker and the metrics write none of the rows
modelled here; an exception out of any of them is the action `abort`. The shared
lock a foreign key takes on the dependency row only adds waiting, so it is left
out and the model has more interleavings than the database.
-/

namespace Reliastra.Source.Checks

open Reliastra.Library

def quorumWindowSeconds : Int := 60

def quorumMinRegions : Nat := 2

def consecutiveRecoveryChecks : Nat := 2

structure Dependency where
  id : Uuid
  orgId : Uuid
  isActive : Bool
  isDeleted : Bool
  deriving DecidableEq, Repr

structure CheckResult where
  dependencyId : Uuid
  orgId : Uuid
  region : String
  executedAt : Instant
  isUp : Bool
  errorMessage : Option String
  quorumConfirmed : Bool
  deriving DecidableEq, Repr

/-- `OPEN`, `RESOLVED` and `FALSE_POSITIVE`. -/
inductive IncidentStatus where
  | opened
  | resolved
  | falsePositive
  deriving DecidableEq, Repr

structure Incident where
  id : Uuid
  orgId : Uuid
  dependencyId : Uuid
  startedAt : Instant
  resolvedAt : Option Instant
  severity : String
  status : IncidentStatus
  rootCause : String
  description : String
  deriving DecidableEq, Repr

/-- What the probe of a check came to: the target was refused by the SSRF policy
before any request, it answered as expected, or the check failed. -/
inductive ProbeOutcome where
  | blocked (reason : String)
  | up
  | down (errorMessage : String)
  deriving DecidableEq, Repr

/-- The check one transaction carries out. -/
structure Probe where
  region : String
  outcome : ProbeOutcome
  deriving DecidableEq, Repr

/-! ## Repositories -/

/-- The committed rows, and who holds the locks of uncommitted transactions:
the row lock of the dependency and the entry of the open-incident index. -/
structure CheckDatabase (ι : Type) where
  results : List CheckResult
  incidents : Table Incident.id
  lockHolder : Option ι
  indexWriter : Option ι

variable {ι : Type}

/-- The incidents `get_open_for_dependency` selects from. -/
def CheckDatabase.openIncidents (db : CheckDatabase ι) (dependencyId : Uuid) : List Incident :=
  db.incidents.rows.filter
    (fun incident => incident.dependencyId = dependencyId ∧ incident.status = .opened)

/-- An answer `.first()` may give on these rows, which the query does not order. -/
def FirstOf (rows : List Incident) (found : Option Incident) : Prop :=
  match found with
  | none => rows = []
  | some incident => incident ∈ rows

instance (rows : List Incident) (found : Option Incident) : Decidable (FirstOf rows found) := by
  cases found <;> unfold FirstOf <;> infer_instance

/-- An answer of `list_recent_for_dependency` on the rows a transaction sees:
newest first, rows of one instant in any order. -/
def RecentForDependency (dep : Dependency) (visible : List CheckResult) (since : Instant)
    (recent : List CheckResult) : Prop :=
  recent.Perm (visible.filter (fun r =>
      r.dependencyId = dep.id ∧ since ≤ r.executedAt ∧ dep.isDeleted = false)) ∧
    recent.Pairwise (fun newer older => older.executedAt ≤ newer.executedAt)

instance (dep : Dependency) (visible : List CheckResult) (since : Instant)
    (recent : List CheckResult) : Decidable (RecentForDependency dep visible since recent) :=
  inferInstanceAs (Decidable (_ ∧ _))

/-- The row `CheckRepository.create` makes of a probe. -/
def Probe.result (probe : Probe) (dep : Dependency) (now : Instant) : CheckResult where
  dependencyId := dep.id
  orgId := dep.orgId
  region := probe.region
  executedAt := now
  isUp := probe.outcome = .up
  errorMessage :=
    match probe.outcome with
    | .blocked reason => some ("URL blocked by security policy: " ++ reason)
    | .up => none
    | .down message => some message
  quorumConfirmed := false

/-- The columns take the row. -/
def CheckResult.Fits (result : CheckResult) : Prop :=
  FitsText 50 result.region ∧ ∀ message ∈ result.errorMessage, FitsText 500 message

instance (result : CheckResult) : Decidable result.Fits :=
  inferInstanceAs (Decidable (_ ∧ _))

/-- The row `IncidentRepository.create` makes for `check_and_create_incident`. -/
def newIncident (dep : Dependency) (result : CheckResult) (id : Uuid) (now : Instant) :
    Incident where
  id := id
  orgId := dep.orgId
  dependencyId := dep.id
  startedAt := now
  resolvedAt := none
  severity := "major"
  status := .opened
  rootCause := "unknown"
  description :=
    match result.errorMessage with
    | none | some "" => "Quorum confirmed failure"
    | some message => message

/-! ## Quorum -/

def failingRegions (region : String) (recent : List CheckResult) : Finset String :=
  insert region ((recent.filter (fun r => r.isUp = false)).map (·.region)).toFinset

def succeedingRegions (region : String) (recent : List CheckResult) : Finset String :=
  insert region
    (((recent.take (consecutiveRecoveryChecks * 2)).filter (fun r => r.isUp)).map
      (·.region)).toFinset

/-! ## One transaction -/

/-- What a transaction will do to the incidents when it commits. -/
inductive IncidentWrite where
  | unchanged
  | create (incident : Incident)
  | resolve (incidentId : Uuid) (resolvedAt : Instant)
  deriving DecidableEq, Repr

/-- Where a transaction is. `readAt` is the clock of its quorum read. -/
inductive Phase where
  | probing
  | skipped
  | recorded (result : CheckResult)
  | locked (result : CheckResult)
  /-- The failure quorum is confirmed, the open incident not read yet. -/
  | confirmed (result : CheckResult) (readAt : Instant)
  /-- `check_and_create_incident` found no open incident. -/
  | opening (result : CheckResult) (readAt : Instant)
  | recovering (result : CheckResult) (readAt : Instant) (recent : List CheckResult)
  | ready (result : CheckResult) (readAt : Option Instant) (write : IncidentWrite)
  | committed (result : CheckResult) (readAt : Option Instant) (write : IncidentWrite)
  | aborted
  deriving DecidableEq, Repr

inductive CheckAction where
  | record (now : Instant)
  | lock
  | readQuorum (now : Instant) (recent : List CheckResult)
  | readOpenIncident (found : Option Incident) (now : Instant)
  | createIncident (id : Uuid) (now : Instant)
  | commit
  | abort
  deriving DecidableEq, Repr

variable [DecidableEq ι]

/-- Gives back the locks a transaction holds when it ends. -/
def CheckDatabase.release (db : CheckDatabase ι) (t : ι) : CheckDatabase ι where
  results := db.results
  incidents := db.incidents
  lockHolder := if db.lockHolder = some t then none else db.lockHolder
  indexWriter := if db.indexWriter = some t then none else db.indexWriter

/-- The incident rows after the write is committed. A key that was taken since
the row was flushed cannot occur: the flush holds its index entry. -/
def CheckDatabase.publish (db : CheckDatabase ι) (result : CheckResult) (write : IncidentWrite) :
    CheckDatabase ι :=
  let incidents := match write with
    | .unchanged => db.incidents
    | .create incident => (db.incidents.insert incident).getD db.incidents
    | .resolve incidentId resolvedAt => db.incidents.updateKey incidentId
        (fun incident => { incident with status := .resolved, resolvedAt := some resolvedAt })
        (fun _ => rfl)
  { db with results := db.results ++ [result], incidents := incidents }

/-- One step of the transaction `t`. An action that does not come next, an
answer the database cannot give and a step that has to wait change nothing. -/
def executeCheck (dep : Dependency) (probes : ι → Probe) (t : ι) (db : CheckDatabase ι)
    (phase : Phase) (action : CheckAction) : CheckDatabase ι × Phase :=
  match phase, action with
  | .probing, .record now =>
    if dep.isDeleted ∨ ¬ dep.isActive then (db, .skipped)
    else if ¬ ((probes t).result dep now).Fits then (db.release t, .aborted)
    else match (probes t).outcome with
      | .blocked _ => (db, .ready ((probes t).result dep now) none .unchanged)
      | _ => (db, .recorded ((probes t).result dep now))
  | .recorded result, .lock =>
    match db.lockHolder with
    | none => ({ db with lockHolder := some t }, .locked result)
    | some _ => (db, phase)
  | .locked result, .readQuorum now recent =>
    if ¬ RecentForDependency dep (db.results ++ [result])
        (now - secondsToMicros quorumWindowSeconds) recent then (db, phase)
    else if result.isUp then (db, .recovering result now recent)
    else if quorumMinRegions ≤ (failingRegions result.region recent).card then
      (db, .confirmed { result with quorumConfirmed := true } now)
    else (db, .ready result (some now) .unchanged)
  | .confirmed result readAt, .readOpenIncident found _ =>
    if ¬ FirstOf (db.openIncidents dep.id) found then (db, phase)
    else match found with
      | some _ => (db, .ready result (some readAt) .unchanged)
      | none => (db, .opening result readAt)
  | .opening result readAt, .createIncident id now =>
    -- an uncommitted entry of the unique index makes the insertion wait
    if db.indexWriter ≠ none then (db, phase)
    -- the savepoint is rolled back and the winner's incident is reused
    else if db.openIncidents dep.id ≠ [] then (db, .ready result (some readAt) .unchanged)
    else match db.incidents.get? id with
      | some _ => (db.release t, .aborted)
      | none =>
        ({ db with indexWriter := some t },
          .ready result (some readAt) (.create (newIncident dep result id now)))
  | .recovering result readAt recent, .readOpenIncident found now =>
    if ¬ FirstOf (db.openIncidents dep.id) found then (db, phase)
    else match found with
      | none => (db, .ready result (some readAt) .unchanged)
      | some incident =>
        if (succeedingRegions result.region recent).card < quorumMinRegions then
          (db, .ready result (some readAt) .unchanged)
        else if db.indexWriter ≠ none then (db, phase)
        else
          ({ db with indexWriter := some t },
            .ready result (some readAt) (.resolve incident.id now))
  | .ready result readAt write, .commit =>
    ((db.publish result write).release t, .committed result readAt write)
  | .committed .., .abort | .skipped, .abort => (db, phase)
  | _, .abort => (db.release t, .aborted)
  | _, _ => (db, phase)

/-! ## What a step can do -/

inductive CheckEffect (dep : Dependency) (probe : Probe) (t : ι) (db : CheckDatabase ι) :
    Phase → CheckDatabase ι × Phase → Prop where
  | wait (phase : Phase) : CheckEffect dep probe t db phase (db, phase)
  | skip : CheckEffect dep probe t db .probing (db, .skipped)
  | block (now : Instant) (reason : String) (refused : probe.outcome = .blocked reason) :
      CheckEffect dep probe t db .probing (db, .ready (probe.result dep now) none .unchanged)
  | record (now : Instant) (listed : dep.isDeleted = false) :
      CheckEffect dep probe t db .probing (db, .recorded (probe.result dep now))
  | lock (result : CheckResult) (free : db.lockHolder = none) :
      CheckEffect dep probe t db (.recorded result)
        ({ db with lockHolder := some t }, .locked result)
  | confirm (result : CheckResult) (now : Instant) (recent : List CheckResult)
      (answer : RecentForDependency dep (db.results ++ [result])
        (now - secondsToMicros quorumWindowSeconds) recent)
      (quorum : quorumMinRegions ≤ (failingRegions result.region recent).card) :
      CheckEffect dep probe t db (.locked result)
        (db, .confirmed { result with quorumConfirmed := true } now)
  | noQuorum (result : CheckResult) (now : Instant) (recent : List CheckResult)
      (answer : RecentForDependency dep (db.results ++ [result])
        (now - secondsToMicros quorumWindowSeconds) recent)
      (few : (failingRegions result.region recent).card < quorumMinRegions) :
      CheckEffect dep probe t db (.locked result) (db, .ready result (some now) .unchanged)
  | found (result : CheckResult) (readAt : Instant) (exists_open : db.openIncidents dep.id ≠ []) :
      CheckEffect dep probe t db (.confirmed result readAt)
        (db, .ready result (some readAt) .unchanged)
  | notFound (result : CheckResult) (readAt : Instant) :
      CheckEffect dep probe t db (.confirmed result readAt) (db, .opening result readAt)
  | reuse (result : CheckResult) (readAt : Instant) (exists_open : db.openIncidents dep.id ≠ []) :
      CheckEffect dep probe t db (.opening result readAt)
        (db, .ready result (some readAt) .unchanged)
  | create (result : CheckResult) (readAt : Instant) (id : Uuid) (now : Instant)
      (none_open : db.openIncidents dep.id = []) (fresh : db.incidents.get? id = none) :
      CheckEffect dep probe t db (.opening result readAt)
        ({ db with indexWriter := some t },
          .ready result (some readAt) (.create (newIncident dep result id now)))
  | recover (result : CheckResult) (now : Instant) (recent : List CheckResult)
      (up : result.isUp = true) :
      CheckEffect dep probe t db (.locked result) (db, .recovering result now recent)
  | leave (result : CheckResult) (readAt : Instant) (recent : List CheckResult) :
      CheckEffect dep probe t db (.recovering result readAt recent)
        (db, .ready result (some readAt) .unchanged)
  | resolve (result : CheckResult) (readAt : Instant) (recent : List CheckResult)
      (incident : Incident) (now : Instant) :
      CheckEffect dep probe t db (.recovering result readAt recent)
        ({ db with indexWriter := some t },
          .ready result (some readAt) (.resolve incident.id now))
  | commit (result : CheckResult) (readAt : Option Instant) (write : IncidentWrite) :
      CheckEffect dep probe t db (.ready result readAt write)
        ((db.publish result write).release t, .committed result readAt write)
  | abort (phase : Phase) : CheckEffect dep probe t db phase (db.release t, .aborted)

theorem executeCheck_effect (dep : Dependency) (probes : ι → Probe) (t : ι)
    (db : CheckDatabase ι) (phase : Phase) (action : CheckAction) :
    CheckEffect dep (probes t) t db phase (executeCheck dep probes t db phase action) := by
  unfold executeCheck
  split
  · next now =>
    split
    · exact .skip
    · next active =>
      have listed : dep.isDeleted = false := by
        rw [not_or, Bool.not_eq_true] at active
        exact active.1
      split
      · exact .abort _
      · split
        · next reason refused => exact CheckEffect.block now reason refused
        · exact CheckEffect.record now listed
  · next result =>
    split
    · next free => exact .lock result free
    · exact .wait _
  · next result now recent =>
    split
    · exact .wait _
    · next answer =>
      split
      · next up => exact .recover result now recent up
      · split
        · next quorum => exact .confirm result now recent (not_not.mp answer) quorum
        · next few => exact .noQuorum result now recent (not_not.mp answer) (not_le.mp few)
  · next result readAt found now =>
    split
    · exact .wait _
    · next answer =>
      cases found with
      | none => exact .notFound result readAt
      | some incident =>
        have member : incident ∈ db.openIncidents dep.id := not_not.mp answer
        exact .found result readAt (List.ne_nil_of_mem member)
  · next result readAt id now =>
    split
    · exact .wait _
    · split
      · next exists_open => exact .reuse result readAt exists_open
      · next none_open =>
        split
        · exact .abort _
        · next fresh => exact .create result readAt id now (not_not.mp none_open) fresh
  · next result readAt recent found now =>
    split
    · exact .wait _
    · cases found with
      | none => exact .leave result readAt recent
      | some incident =>
        dsimp only
        split
        · exact .leave result readAt recent
        · split
          · exact .wait _
          · exact .resolve result readAt recent incident now
  · next result readAt write => exact .commit result readAt write
  · exact .wait _
  · exact .wait _
  · exact .abort _
  · exact .wait _

end Reliastra.Source.Checks
