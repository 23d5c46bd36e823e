import Reliastra.Source.Observations.Schema

/-!
# The observations of an incident

Source: `list_for_source` of `app/modules/observations/repository.py`,
`resolve_incident` of `app/modules/incidents/service.py` up to the attribution,
`generate_for_incident` of `app/modules/evidence/service.py` up to the hash. The
incident is the one `check_and_create_incident` opens, so its `started_at` is
the clock of that insertion. Of the snapshot the model keeps what is selected by
the window; the attribution result, the report and the storage are left out.
-/

namespace Reliastra.Source.Evidence

open Observations
open Checks (Dependency Incident Probe CheckDatabase executeCheck newIncident)

/-! ## Queries -/

/-- The arguments of `list_for_source`. -/
structure SourceQuery where
  sourceId : Uuid
  sourceType : Option String
  limit : Nat
  since : Option Instant
  upTo : Option Instant
  deriving DecidableEq, Repr

/-- The `where` clauses. -/
def SourceQuery.Selects (query : SourceQuery) (observation : Observation) : Prop :=
  observation.fields.sourceId = some query.sourceId ∧
    (∀ sourceType ∈ query.sourceType.filter (· ≠ ""),
      observation.fields.sourceType = sourceType) ∧
    (∀ since ∈ query.since, since ≤ observation.timestamp) ∧
    ∀ upTo ∈ query.upTo, observation.timestamp ≤ upTo

instance (query : SourceQuery) (observation : Observation) :
    Decidable (query.Selects observation) :=
  inferInstanceAs (Decidable (_ ∧ _ ∧ _ ∧ _))

/-- An answer of the database: newest first, rows of one instant in any order,
and no more than the limit. -/
def SourceQuery.Answers (query : SourceQuery) (rows answer : List Observation) : Prop :=
  ∃ ordered : List Observation,
    ordered.Perm (rows.filter query.Selects) ∧
      ordered.Pairwise (fun newer older => older.timestamp ≤ newer.timestamp) ∧
      answer = ordered.take query.limit

/-- The table `observations`, and how it is read. -/
structure ObservationStore where
  rows : List Observation
  listForSource : SourceQuery → List Observation
  answers : ∀ query : SourceQuery, query.Answers rows (listForSource query)

/-! ## The two readers -/

def customerCheck : String := "customer_check"

def attributionQuery (incident updated : Incident) : SourceQuery where
  sourceId := incident.dependencyId
  sourceType := some customerCheck
  limit := 100
  since := some incident.startedAt
  upTo := updated.resolvedAt

/-- `resolve_incident`: the incident, and what the attribution engine is given.
`attributed` says that there is an attribution result already. -/
def resolveIncident (store : ObservationStore) (stored : Option Incident) (orgId : Option Uuid)
    (attributed : Bool) (now : Instant) :
    Except AppException (Incident × Option (List Observation)) :=
  match stored with
  | none => .error (resourceNotFoundException "Incident not found")
  | some incident =>
    if ∃ owner ∈ orgId, incident.orgId ≠ owner then
      .error (resourceNotFoundException "Incident not found")
    else if incident.status = .resolved ∧ incident.resolvedAt ≠ none then .ok (incident, none)
    else
      let updated := { incident with status := .resolved, resolvedAt := some now }
      .ok (updated,
        if attributed then none
        else some (store.listForSource (attributionQuery incident updated)))

def snapshotQuery (incident : Incident) (dependency : Dependency) (windowEnd : Instant) :
    SourceQuery where
  sourceId := dependency.id
  sourceType := some customerCheck
  limit := 1000
  since := some incident.startedAt
  upTo := some windowEnd

/-- The part of `evidence_data` that the window decides. -/
structure EvidenceData where
  incident : Incident
  dependency : Dependency
  windowStart : Instant
  windowEnd : Instant
  observations : List Observation

/-- `generate_for_incident` up to the data that is hashed. -/
def generateForIncident (store : ObservationStore) (stored : Option Incident)
    (dependencies : List Dependency) (generatedAt : Instant) :
    Except AppException EvidenceData :=
  match stored with
  | none => .error (resourceNotFoundException "Incident not found")
  | some incident =>
    match dependencies.find? (fun dep => dep.id = incident.dependencyId ∧ dep.isDeleted = false) with
    | none => .error (resourceNotFoundException "Dependency not found")
    | some dependency =>
      let windowEnd := incident.resolvedAt.getD generatedAt
      .ok ⟨incident, dependency, incident.startedAt, windowEnd,
        store.listForSource (snapshotQuery incident dependency windowEnd)⟩

/-! ## How an incident opens -/

variable {ι : Type} [DecidableEq ι]

/-- The quorum read that confirms a failure, and the insertion of the incident,
as the two steps of a check's transaction. -/
structure QuorumOpening (ι : Type) [DecidableEq ι] (dep : Dependency) where
  probes : ι → Probe
  party : ι
  atRead : CheckDatabase ι
  atCreate : CheckDatabase ι
  result : Checks.CheckResult
  recent : List Checks.CheckResult
  readAt : Instant
  incidentId : Uuid
  startedAt : Instant
  confirms : executeCheck dep probes party atRead (.locked result) (.readQuorum readAt recent) =
    (atRead, .confirmed { result with quorumConfirmed := true } readAt)
  opens : executeCheck dep probes party atCreate
      (.opening { result with quorumConfirmed := true } readAt)
      (.createIncident incidentId startedAt) =
    ({ atCreate with indexWriter := some party },
      .ready { result with quorumConfirmed := true } (some readAt)
        (.create (newIncident dep { result with quorumConfirmed := true } incidentId startedAt)))

variable {dep : Dependency}

def QuorumOpening.incident (opening : QuorumOpening ι dep) : Incident :=
  newIncident dep { opening.result with quorumConfirmed := true } opening.incidentId
    opening.startedAt

/-- The failing checks that triggered the quorum. -/
def QuorumOpening.triggers (opening : QuorumOpening ι dep) : List Checks.CheckResult :=
  opening.result :: opening.recent.filter (fun r => r.isUp = false)

/-- The incident has begun: one of the failing checks took place, or the incident
was recorded (which is later, unless the clock runs backwards). -/
def QuorumOpening.Begun (opening : QuorumOpening ι dep) (moment : Instant) : Prop :=
  (∃ trigger ∈ opening.triggers, trigger.executedAt ≤ moment) ∨ opening.startedAt ≤ moment

instance (opening : QuorumOpening ι dep) (moment : Instant) : Decidable (opening.Begun moment) :=
  inferInstanceAs (Decidable (_ ∨ _))

/-- The observations of the incident, from the failing checks that triggered the
quorum up to the resolution. -/
def QuorumOpening.observations (opening : QuorumOpening ι dep) (resolvedAt : Instant)
    (rows : List Observation) : List Observation :=
  rows.filter (fun observation =>
    observation.fields.sourceId = some dep.id ∧ observation.fields.sourceType = customerCheck ∧
      opening.Begun observation.timestamp ∧ observation.timestamp ≤ resolvedAt)

end Reliastra.Source.Evidence
