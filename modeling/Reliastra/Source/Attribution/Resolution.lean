import Reliastra.Source.Attribution.Engine
import Reliastra.Source.Incidents.ConcurrentCreation

/-!
# Resolutions and late observations

Source: `resolve_incident` of `app/modules/incidents/service.py` with the
attribution, `get_correlations` of `app/modules/incidents/repository.py`, the end
of `execute_check` of `app/modules/checks/service.py`, and
`process_outbox_batch` of `app/modules/observations/outbox.py`.

A step is a commit. A check enqueues its observation in the transaction in which
it resolves an incident, after the resolution; a request that resolves one
enqueues nothing. An event is the row its processing writes, the identifier
included. An event that cannot be processed is in no outbox here. The dispatch of
the evidence is left out.
-/

namespace Reliastra.Source.Attribution

open Reliastra.Library Evidence.Generation Incidents
open Api (Incident Dependency require notFound)

variable {φ : Type}

/-! ## State -/

structure PendingObservation (φ : Type) where
  id : Uuid
  observation : Observation φ

structure AttributionDatabase (φ : Type) where
  incidents : IncidentTable
  dependencies : Table Dependency.id
  correlations : List (IncidentCorrelation φ)
  attributionResults : Table (StoredAttribution.key (φ := φ))
  observations : Table (Observation.key (φ := φ))
  outbox : List (PendingObservation φ)

/-- The tables the evidence is read from. -/
def AttributionDatabase.evidence (s : AttributionDatabase φ) : EvidenceDatabase φ where
  incidents := s.incidents.table
  dependencies := s.dependencies
  attributionResults :=
    ⟨s.attributionResults.rows.map (·.toAttributionResult), by
      rw [List.map_map]
      exact s.attributionResults.unique⟩
  observations := s.observations

/-- A call of `resolve_incident`, with the event of the check that makes it. -/
structure Resolution (φ : Type) where
  incidentId : Uuid
  orgId : Option Uuid
  now : Instant
  newId : Uuid
  own : Option (PendingObservation φ)

/-! ## Resolving -/

section Resolving
variable (ops : FloatOps φ) (lib : EvidenceLibrary φ)
  (order : OrderBy (Observation.newestFirst (φ := φ)))

/-- `order_by(correlation_confidence.desc())`. -/
def getCorrelations (s : AttributionDatabase φ) (incidentId : Uuid) :
    List (IncidentCorrelation φ) :=
  (s.correlations.filter (fun item => item.incidentId = incidentId)).insertionSort
    (fun first second => ops.le second.correlationConfidence first.correlationConfidence)

/-- What the engine reads for an incident resolved at `now`. -/
def inputsOf (s : AttributionDatabase φ) (incident : Incident) (now : Instant) :
    AttributionInputs φ where
  others := listOpenInWindow s.incidents incident
  correlations := getCorrelations ops s incident.id
  observations :=
    listForSource s.evidence order incident.dependencyId "customer_check" 100 incident.startedAt now
  infrastructureOk := true

/-- The attribution of an incident that was just resolved; a result that the
savepoint refuses is dropped. -/
def attributeIncident (newId : Uuid) (incident : Incident) (now : Instant) (s : AttributionDatabase φ) :
    AttributionDatabase φ :=
  match s.attributionResults.get? incident.id with
  | some _ => s
  | none =>
    match s.attributionResults.insert
      (computeAttribution ops lib incident (inputsOf ops order s incident now) newId) with
    | some rows => { s with attributionResults := rows }
    | none => s

/-- `resolve_incident`. -/
def resolveAndAttribute (resolution : Resolution φ) (s : AttributionDatabase φ) :
    Except Failure (AttributionDatabase φ) := do
  let incident ← require (s.incidents.table.get? resolution.incidentId)
    (notFound "Incident not found")
  let incidents ← resolveIncident resolution.incidentId resolution.orgId resolution.now s.incidents
  if incident.status = .resolved ∧ incident.resolvedAt.isSome then return s
  else
    return attributeIncident ops lib order resolution.newId
      { incident with status := .resolved, resolvedAt := some resolution.now } resolution.now
      { s with incidents := incidents }

/-! ## Steps -/

inductive OutageStep (φ : Type) where
  | enqueue (event : PendingObservation φ)
  | drain (eventId : Uuid)
  | resolve (resolution : Resolution φ)

/-- One event of a batch; a row that is refused leaves the event pending. -/
def drainEvent (s : AttributionDatabase φ) (eventId : Uuid) : AttributionDatabase φ :=
  match s.outbox.find? (fun event => event.id = eventId) with
  | none => s
  | some event =>
    match s.observations.insert event.observation with
    | none => s
    | some rows =>
      { s with
        observations := rows
        outbox := s.outbox.filter (fun other => other.id ≠ eventId) }

/-- A resolution that raises takes the transaction of its check with it. -/
def outageStep (s : AttributionDatabase φ) : OutageStep φ → AttributionDatabase φ
  | .enqueue event => { s with outbox := s.outbox ++ [event] }
  | .drain eventId => drainEvent s eventId
  | .resolve resolution =>
    match resolveAndAttribute ops lib order resolution s with
    | .ok after => { after with outbox := after.outbox ++ resolution.own.toList }
    | .error _ => s

end Resolving

end Reliastra.Source.Attribution
