import Reliastra.Library.Interleaving
import Reliastra.Source.Incidents.Lifecycle

/-!
# Creations of incidents side by side

`check_and_create_incident` of `app/modules/incidents/service.py` with
`TemporalCorrelationStrategy.correlate`, statement by statement. Each creation
runs in a READ COMMITTED transaction of its own: its incident and its
correlations are visible to the others from its commit on. An insertion waits
while another transaction holds an uncommitted entry of the same index key.
-/

namespace Reliastra.Source.Incidents

open Reliastra.Library Api Checks

/-- A row of `incident_correlations` with `correlation_method = 'temporal'`. -/
structure TemporalCorrelation where
  incidentId : Uuid
  correlatedDependencyId : Uuid
  correlationConfidence : String
  timeWindowSeconds : Int
  deriving DecidableEq, Repr

def temporalWindowSeconds : Int := 300

/-- `DEFAULT_CORRELATION_CONFIDENCE`, as the text of the float. -/
def defaultCorrelationConfidence : String := "0.85"

/-- What is committed, and the rows open transactions have put into the indexes. -/
structure CorrelationStore where
  incidents : IncidentTable
  uncommitted : List Api.Incident
  correlations : List TemporalCorrelation

inductive CreationPhase where
  | idle
  | checked (dependencyId : Uuid) (errorMessage : String) (newId : Uuid)
  | inserted (incident : Api.Incident)
  | listed (incident : Api.Incident) (others : List Api.Incident)

inductive CreationAct where
  | check (dependencyId : Uuid) (errorMessage : String) (newId : Uuid)
  | insert (now : Instant)
  | listOpen
  | commit
  | abort
  | resolve (incidentId : Uuid) (now : Instant)

/-! ## Statements -/

/-- The window of `list_open_in_window` around an incident. -/
def Near (i j : Api.Incident) : Prop :=
  i.startedAt - secondsToMicros temporalWindowSeconds ≤ j.startedAt ∧
    j.startedAt ≤ i.startedAt + secondsToMicros temporalWindowSeconds

instance (i j : Api.Incident) : Decidable (Near i j) :=
  inferInstanceAs (Decidable (_ ∧ _))

def listOpenInWindow (s : IncidentTable) (incident : Api.Incident) : List Api.Incident :=
  s.table.rows.filter (fun other => other.orgId = incident.orgId ∧ Near incident other ∧
    other.status = .opened ∧ other.id ≠ incident.id)

/-- "Also create reverse correlation on the existing incident". -/
def bothDirections (incident other : Api.Incident) : List TemporalCorrelation :=
  [⟨incident.id, other.dependencyId, defaultCorrelationConfidence, temporalWindowSeconds⟩,
    ⟨other.id, incident.dependencyId, defaultCorrelationConfidence, temporalWindowSeconds⟩]

/-- The rows `correlate` creates. -/
def correlate (incident : Api.Incident) (others : List Api.Incident) : List TemporalCorrelation :=
  (others.filter (fun other => other.dependencyId ≠ incident.dependencyId)).flatMap
    (bothDirections incident)

/-- The table with the row, if its keys are free. -/
def insertIncident (s : IncidentTable) (incident : Api.Incident) : Except Failure IncidentTable :=
  flushNew s.table incident >>= IncidentTable.flush

/-- An entry of the primary key or of the partial index that another transaction
has not committed. -/
def Waits (s : CorrelationStore) (dependencyId newId : Uuid) : Prop :=
  ∃ row ∈ s.uncommitted, row.id = newId ∨ row.dependencyId = dependencyId

instance (s : CorrelationStore) (dependencyId newId : Uuid) :
    Decidable (Waits s dependencyId newId) :=
  inferInstanceAs (Decidable (∃ row ∈ s.uncommitted, _))

/-- The end of a transaction takes its row out of the uncommitted ones. -/
def CorrelationStore.withdraw (s : CorrelationStore) (incident : Api.Incident) :
    CorrelationStore :=
  { s with uncommitted := s.uncommitted.filter (fun row => row.id ≠ incident.id) }

def creationAct (orgOf : Uuid → Uuid) (shared : CorrelationStore) (phase : CreationPhase) :
    CreationAct → CorrelationStore × CreationPhase
  | .check dependencyId errorMessage newId =>
    match phase with
    | .idle =>
      match shared.incidents.getOpenForDependency dependencyId with
      | some _ => (shared, .idle)
      | none => (shared, .checked dependencyId errorMessage newId)
    | _ => (shared, phase)
  | .insert now =>
    match phase with
    | .checked dependencyId errorMessage newId =>
      if '\x00' ∈ errorMessage.toList then (shared, .idle)
      else if Waits shared dependencyId newId then (shared, phase)
      else
        let incident := openIncident (orgOf dependencyId) dependencyId errorMessage newId now
        match insertIncident shared.incidents incident with
        | .ok _ =>
          ({ shared with uncommitted := incident :: shared.uncommitted }, .inserted incident)
        | .error _ => (shared, .idle)
    | _ => (shared, phase)
  | .listOpen =>
    match phase with
    | .inserted incident =>
      (shared, .listed incident (listOpenInWindow shared.incidents incident))
    | _ => (shared, phase)
  | .commit =>
    match phase with
    | .listed incident others =>
      match insertIncident shared.incidents incident with
      | .ok incidents =>
        ({ shared.withdraw incident with
            incidents := incidents
            correlations := shared.correlations ++ correlate incident others }, .idle)
      | .error _ => (shared.withdraw incident, .idle)
    | _ => (shared, phase)
  | .abort =>
    match phase with
    | .inserted incident | .listed incident _ => (shared.withdraw incident, .idle)
    | _ => (shared, .idle)
  | .resolve incidentId now =>
    match resolveIncident incidentId none now shared.incidents with
    | .ok incidents => ({ shared with incidents := incidents }, phase)
    | .error _ => (shared, phase)

/-! ## What the statements do -/

theorem insertIncident_rows {s after : IncidentTable} {incident : Api.Incident}
    (success : insertIncident s incident = .ok after) :
    incident.id ∉ s.table.rows.map (·.id) ∧
      after.table.rows = s.table.rows ++ [incident] := by
  obtain ⟨table, flushed, written⟩ := bind_eq_ok success
  obtain ⟨fresh, rows⟩ := Table.insert_eq_some (flushNew_eq_ok.mp flushed)
  unfold IncidentTable.flush at written
  split at written
  · cases written
    exact ⟨fresh, rows⟩
  · cases written

theorem mem_listOpenInWindow {s : IncidentTable} {incident other : Api.Incident} :
    other ∈ listOpenInWindow s incident ↔ other ∈ s.table.rows ∧ other.orgId = incident.orgId ∧
      Near incident other ∧ other.status = .opened ∧ other.id ≠ incident.id := by
  unfold listOpenInWindow
  rw [List.mem_filter, decide_eq_true_eq]

theorem mem_correlate {incident : Api.Incident} {others : List Api.Incident}
    {row : TemporalCorrelation} : row ∈ correlate incident others ↔
      ∃ other ∈ others, other.dependencyId ≠ incident.dependencyId ∧
        row ∈ bothDirections incident other := by
  simp [correlate, and_assoc]

/-- A resolution closes at most one incident. -/
theorem resolveIncident_rows {s after : IncidentTable} {incidentId : Uuid} {now : Instant}
    (success : resolveIncident incidentId none now s = .ok after) :
    ∀ j ∈ after.table.rows, ∃ i ∈ s.table.rows, j.id = i.id ∧ j.orgId = i.orgId ∧
      j.dependencyId = i.dependencyId ∧ j.startedAt = i.startedAt ∧
        (j.status = .opened → i.status = .opened) := by
  have self {j : Api.Incident} (member : j ∈ s.table.rows) : ∃ i ∈ s.table.rows, j.id = i.id ∧
      j.orgId = i.orgId ∧ j.dependencyId = i.dependencyId ∧ j.startedAt = i.startedAt ∧
        (j.status = .opened → i.status = .opened) := ⟨j, member, rfl, rfl, rfl, rfl, id⟩
  obtain ⟨incident, _, success⟩ := bind_eq_ok success
  obtain ⟨_, _, success⟩ := bind_eq_ok success
  split at success
  · cases success
    exact fun j member => self member
  · unfold IncidentTable.update IncidentTable.flush at success
    split at success
    · cases success
      intro j member
      obtain ⟨i, old, rfl⟩ := List.mem_map.mp member
      split
      · exact ⟨i, old, rfl, rfl, rfl, rfl, fun wrong => by cases wrong⟩
      · exact self old
    · cases success

end Reliastra.Source.Incidents
