import Reliastra.Source.Api.Monitoring

/-!
# The life of an incident

Source: `check_and_create_incident`, `update_incident` and `resolve_incident` of
`app/modules/incidents/service.py`, the repository under them, and the index
`uq_incidents_one_open_per_dependency` of migration 0014. A table of incidents
carries what the index enforces; a write it refuses is an `IntegrityError`.
Correlations, alerts, attribution and the dispatch of the evidence write other
tables.
-/

namespace Reliastra.Source.Incidents

open Reliastra.Library Api Checks

/-! ## The table -/

/-- `UNIQUE (org_id, dependency_id) WHERE status = 'open'`. -/
def OneOpen (rows : List Api.Incident) : Prop :=
  ∀ i ∈ rows, ∀ j ∈ rows, i.status = .opened → j.status = .opened → i.orgId = j.orgId →
    i.dependencyId = j.dependencyId → i.id = j.id

instance (rows : List Api.Incident) : Decidable (OneOpen rows) := by
  unfold OneOpen
  infer_instance

structure IncidentTable where
  table : Table Api.Incident.id
  oneOpen : OneOpen table.rows

namespace IncidentTable

def empty : IncidentTable := ⟨.empty, fun _ member => absurd member List.not_mem_nil⟩

/-- `session.flush()` of a changed table. -/
def flush (table : Table Api.Incident.id) : Except Failure IncidentTable :=
  if oneOpen : OneOpen table.rows then .ok ⟨table, oneOpen⟩
  else .error (.flush "uq_incidents_one_open_per_dependency")

/-- `get_open_for_dependency`. -/
def getOpenForDependency (s : IncidentTable) (dependencyId : Uuid) : Option Api.Incident :=
  s.table.rows.find? (fun i => i.dependencyId = dependencyId ∧ i.status = .opened)

/-- `IncidentRepository.update`. -/
def update (s : IncidentTable) (incident : Api.Incident) (f : Api.Incident → Api.Incident)
    (keeps : ∀ row, (f row).id = row.id) : Except Failure IncidentTable :=
  flush (s.table.updateKey incident.id f keeps)

end IncidentTable

/-! ## Operations -/

def openIncident (orgId dependencyId : Uuid) (errorMessage : String) (newId : Uuid)
    (now : Instant) : Api.Incident where
  id := newId
  orgId := orgId
  dependencyId := dependencyId
  startedAt := now
  resolvedAt := none
  severity := "major"
  status := .opened
  rootCause := "unknown"
  description := some errorMessage

/-- The insertion runs in a savepoint; after an `IntegrityError` the open incident
is read again. -/
def checkAndCreateIncident (orgId dependencyId : Uuid) (errorMessage : String) (newId : Uuid)
    (now : Instant) (s : IncidentTable) : Except Failure IncidentTable :=
  match s.getOpenForDependency dependencyId with
  | some _ => .ok s
  | none => do
    refuseIf ('\x00' ∈ errorMessage.toList) (.flush "DataError")
    match flushNew s.table (openIncident orgId dependencyId errorMessage newId now) >>=
      IncidentTable.flush with
    | .ok after => .ok after
    | .error failure =>
      match s.getOpenForDependency dependencyId with
      | some _ => .ok s
      | none => .error failure

/-- `resolve_incident`; without an organization any incident is resolved. -/
def resolveIncident (incidentId : Uuid) (orgId : Option Uuid) (now : Instant)
    (s : IncidentTable) : Except Failure IncidentTable := do
  let incident ← require (s.table.get? incidentId) (notFound "Incident not found")
  refuseIf (∃ org ∈ orgId, incident.orgId ≠ org) (notFound "Incident not found")
  if incident.status = .resolved ∧ incident.resolvedAt.isSome then return s
  else
    s.update incident (fun i => { i with status := .resolved, resolvedAt := some now })
      (fun _ => rfl)

theorem updatedIncident_keeps (request : IncidentUpdateRequest) (incident : Api.Incident) :
    (updatedIncident request incident).id = incident.id := rfl

/-- `update_incident`. Resolving goes through `resolve_incident`, after the other
columns are flushed. -/
def updateIncident (orgId incId : Uuid) (request : IncidentUpdateRequest) (now : Instant)
    (s : IncidentTable) : Except Failure IncidentTable := do
  let incident ← requireOwned (s.table.get? incId) (·.orgId) orgId "Incident not found"
  refuseIf (∃ text ∈ request.description, '\x00' ∈ text.toList) (.flush "DataError")
  let s ← s.update incident (updatedIncident request) (updatedIncident_keeps request)
  if request.status = some .resolved then resolveIncident incident.id (some orgId) now s
  else return s

inductive IncidentOp where
  | checkAndCreate (dependencyId : Uuid) (errorMessage : String) (newId : Uuid) (now : Instant)
  | update (orgId incId : Uuid) (request : IncidentUpdateRequest) (now : Instant)
  | resolve (incidentId : Uuid) (orgId : Option Uuid) (now : Instant)

/-- One operation; an incident belongs to the organization of its dependency. -/
def IncidentOp.run (orgOf : Uuid → Uuid) (s : IncidentTable) :
    IncidentOp → Except Failure IncidentTable
  | .checkAndCreate dependencyId errorMessage newId now =>
    checkAndCreateIncident (orgOf dependencyId) dependencyId errorMessage newId now s
  | .update orgId incId request now => updateIncident orgId incId request now s
  | .resolve incidentId orgId now => resolveIncident incidentId orgId now s

/-- A failed operation is rolled back. -/
def incidentStep (orgOf : Uuid → Uuid) (s : IncidentTable) (op : IncidentOp) : IncidentTable :=
  match op.run orgOf s with
  | .ok after => after
  | .error _ => s

end Reliastra.Source.Incidents
