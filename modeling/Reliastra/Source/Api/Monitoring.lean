import Reliastra.Source.Api.Accounts

/-!
# Dependencies, incidents and evidence

Source: the services of `app/modules/dependencies`, `app/modules/incidents`,
`app/modules/evidence`, and `publicize_evidence` of `app/modules/evidence_gate`,
with their repositories. What the attribution engine and the report renderer
compute is given by the environment; the rows they lead to are written here.
Alerts, metrics and dispatched tasks write no row of the request's session.
-/

namespace Reliastra.Source.Api

open Reliastra.Library Organizations Checks

/-! ## Dependencies -/

structure DependencyCreateRequest where
  name : String
  applicationId : Option Uuid
  endpointUrl : String
  method : String
  headers : Option Json
  expectedStatusCodes : List Int
  timeoutSeconds : Int
  checkIntervalSeconds : Int
  regions : List String
  alertThresholdMs : Option Int
  isActive : Bool

structure DependencyUpdateRequest where
  name : Option String
  applicationId : Option Uuid
  endpointUrl : Option String
  method : Option String
  headers : Option Json
  expectedStatusCodes : Option (List Int)
  timeoutSeconds : Option Int
  checkIntervalSeconds : Option Int
  regions : Option (List String)
  alertThresholdMs : Option Int
  isActive : Option Bool

/-- `_encode_headers`. -/
def encodeHeaders (env : ServiceEnvironment) (headers : Option Json) : Option Json :=
  (headers.filter Json.truthy).map
    (fun headers => .obj [("_encrypted_data", .str (env.encryptJsonb headers))])

/-- `DependencyRepository.get_by_id`. -/
def dependencyById (s : Platform) (id : Uuid) : Option Dependency :=
  (s.workspace.dependencies.get? id).filter (fun dep => dep.isDeleted = false)

/-- `count_for_org`. -/
def dependencyCount (s : Platform) (orgId : Uuid) : Nat :=
  s.workspace.dependencies.rows.countP (fun dep => dep.orgId = orgId ∧ dep.isDeleted = false)

def minimumInterval (plan : Plan) : Failure :=
  invalid ("Minimum check interval for plan '" ++ plan.value ++ "' is " ++
    toString plan.checkInterval ++ " seconds.")

/-- The application a request names has to be the organization's. -/
def requireApplication (s : Platform) (orgId applicationId : Uuid) : Except Failure Application :=
  match s.workspace.applications.get? applicationId with
  | some application =>
    if application.orgId = orgId then .ok application
    else .error (invalid "Application does not belong to this organization")
  | none => .error (invalid "Application does not belong to this organization")

/-- `get_default_application`: the oldest one. -/
def getDefaultApplication (s : Platform) (orgId : Uuid) : Option Application :=
  ((s.workspace.applications.rows.filter (fun a =>
    a.orgId = orgId ∧ a.clientId = none ∧ a.name = "Default")).insertionSort
      (fun older newer => older.createdAt ≤ newer.createdAt)).head?

/-- The application of a new dependency, and the table with it in. -/
def applicationFor (env : ServiceEnvironment) (s : Platform) (orgId : Uuid)
    (named : Option Uuid) : Except Failure (Uuid × Table Application.id) :=
  match named with
  | some applicationId => do
    let application ← requireApplication s orgId applicationId
    return (application.id, s.workspace.applications)
  | none =>
    match getDefaultApplication s orgId with
    | some application => .ok (application.id, s.workspace.applications)
    | none => do
      let applications ← flushNew s.workspace.applications
        (defaultApplication env (env.newId 1) orgId)
      return (env.newId 1, applications)

def newDependency (env : ServiceEnvironment) (orgId applicationId : Uuid)
    (request : DependencyCreateRequest) : Dependency :=
  { id := env.newId 0
    orgId := orgId
    applicationId := some applicationId
    name := request.name
    endpointUrl := request.endpointUrl
    method := request.method
    headers := encodeHeaders env request.headers
    expectedStatusCodes := request.expectedStatusCodes
    timeoutSeconds := request.timeoutSeconds
    checkIntervalSeconds := request.checkIntervalSeconds
    nextCheckAt := some env.now
    regions := request.regions
    alertThresholdMs := request.alertThresholdMs
    isActive := request.isActive
    isDeleted := false }

def createDependency (env : ServiceEnvironment) (orgId : Uuid) (request : DependencyCreateRequest)
    (s : Platform) : Except Failure Platform := do
  let org ← require (s.organizations.get? orgId) (notFound "Organization not found")
  refuseIf (request.checkIntervalSeconds < org.plan.checkInterval) (minimumInterval org.plan)
  refuseIf (org.plan.dependencyLimit ≤ dependencyCount s orgId)
    (conflict ("Dependency limit reached for plan '" ++ org.plan.value ++ "' (" ++
      toString org.plan.dependencyLimit ++ ")."))
  let (applicationId, applications) ← applicationFor env s orgId request.applicationId
  let dependencies ← flushNew s.workspace.dependencies
    (newDependency env orgId applicationId request)
  return { s with workspace := { s.workspace with
    applications := applications
    dependencies := dependencies } }

/-- `DependencyRepository.update`: `application_id` and `alert_threshold_ms` are
not among the columns it sets. -/
def updatedDependency (env : ServiceEnvironment) (request : DependencyUpdateRequest)
    (dep : Dependency) : Dependency :=
  { dep with
    name := request.name.getD dep.name
    endpointUrl := request.endpointUrl.getD dep.endpointUrl
    method := request.method.getD dep.method
    headers := (encodeHeaders env request.headers).orElse (fun _ => dep.headers)
    expectedStatusCodes := request.expectedStatusCodes.getD dep.expectedStatusCodes
    timeoutSeconds := request.timeoutSeconds.getD dep.timeoutSeconds
    checkIntervalSeconds := request.checkIntervalSeconds.getD dep.checkIntervalSeconds
    regions := request.regions.getD dep.regions
    isActive := request.isActive.getD dep.isActive }

/-- The checks `update_dependency` makes of the plan and the application. -/
def checkDependencyUpdate (orgId : Uuid) (request : DependencyUpdateRequest) (s : Platform) :
    Except Failure Unit := do
  whenGiven (s.organizations.get? orgId) (fun org =>
    refuseIf (∃ interval ∈ request.checkIntervalSeconds, interval < org.plan.checkInterval)
      (minimumInterval org.plan))
  whenGiven request.applicationId (fun applicationId =>
    (requireApplication s orgId applicationId).map (fun _ => ()))

def updateDependency (env : ServiceEnvironment) (orgId depId : Uuid)
    (request : DependencyUpdateRequest) (s : Platform) : Except Failure Platform := do
  let dep ← requireOwned (dependencyById s depId) (·.orgId) orgId "Dependency not found"
  checkDependencyUpdate orgId request s
  let dependencies := s.workspace.dependencies.updateKey dep.id (updatedDependency env request)
    (fun _ => rfl)
  return { s with workspace := { s.workspace with dependencies := dependencies } }

def deleteDependency (orgId depId : Uuid) (s : Platform) : Except Failure Platform := do
  let dep ← requireOwned (dependencyById s depId) (·.orgId) orgId "Dependency not found"
  let dependencies := s.workspace.dependencies.updateKey dep.id
    (fun dep => { dep with isDeleted := true, isActive := false }) (fun _ => rfl)
  return { s with workspace := { s.workspace with dependencies := dependencies } }

/-! ## Incidents -/

structure IncidentUpdateRequest where
  status : Option IncidentStatus
  severity : Option String
  rootCause : Option String
  description : Option String
  deriving DecidableEq, Repr

structure IncidentCorrelateRequest where
  correlatedDependencyId : Uuid
  correlationConfidence : Json
  correlationMethod : String
  timeWindowSeconds : Int

/-- `IncidentRepository.get_by_id` and the check every handler makes of it. -/
def requireIncident (w : Workspace) (orgId incId : Uuid) : Except Failure Incident :=
  requireOwned (w.incidents.get? incId) (·.orgId) orgId "Incident not found"

def updatedIncident (request : IncidentUpdateRequest) (incident : Incident) : Incident :=
  { incident with
    status := (request.status.filter (· ≠ .resolved)).getD incident.status
    severity := request.severity.getD incident.severity
    rootCause := request.rootCause.getD incident.rootCause
    description := request.description.orElse (fun _ => incident.description) }

/-- The attribution step of `resolve_incident`, in a savepoint of its own. -/
def storeAttribution (env : ServiceEnvironment) (incident : Incident) (w : Workspace) : Workspace :=
  if ∃ result ∈ w.attributionResults.rows, result.incidentId = incident.id then w
  else match env.computeAttribution w incident with
  | none => w
  | some attribution =>
    match w.attributionResults.insert
      ⟨env.newId 0, incident.id, incident.orgId, incident.dependencyId, attribution⟩ with
    | none => w
    | some attributionResults => { w with attributionResults := attributionResults }

def resolveIncident (env : ServiceEnvironment) (orgId incId : Uuid) (w : Workspace) :
    Except Failure Workspace := do
  let incident ← requireIncident w orgId incId
  if incident.status = .resolved ∧ incident.resolvedAt.isSome then return w
  else
    let resolved := { incident with status := .resolved, resolvedAt := some env.now }
    let incidents := w.incidents.updateKey incident.id
      (fun i => { i with status := .resolved, resolvedAt := some env.now }) (fun _ => rfl)
    return storeAttribution env resolved { w with incidents := incidents }

def updateIncident (env : ServiceEnvironment) (orgId incId : Uuid)
    (request : IncidentUpdateRequest) (s : Platform) : Except Failure Platform := do
  let incident ← requireIncident s.workspace orgId incId
  let incidents := s.workspace.incidents.updateKey incident.id (updatedIncident request)
    (fun _ => rfl)
  let workspace := { s.workspace with incidents := incidents }
  if request.status = some .resolved then do
    let workspace ← resolveIncident env orgId incident.id workspace
    return { s with workspace := workspace }
  else return { s with workspace := workspace }

def manuallyCorrelate (env : ServiceEnvironment) (orgId incId : Uuid)
    (request : IncidentCorrelateRequest) (s : Platform) : Except Failure Platform := do
  let incident ← requireIncident s.workspace orgId incId
  let correlations ← flushNew s.workspace.correlations
    { id := env.newId 0
      incidentId := incident.id
      correlatedDependencyId := request.correlatedDependencyId
      correlationConfidence := request.correlationConfidence
      timeWindowSeconds := request.timeWindowSeconds
      correlationMethod := request.correlationMethod }
  return { s with workspace := { s.workspace with correlations := correlations } }

/-! ## Evidence -/

def newReport (env : ServiceEnvironment) (incident : Incident) (rendering : Rendering) :
    EvidenceReport :=
  { id := env.newId 0
    orgId := incident.orgId
    incidentId := incident.id
    filePath := rendering.reportPath
    fileSizeBytes := rendering.fileSizeBytes
    checksum := rendering.checksum
    generatedAt := env.now }

def newSnapshot (env : ServiceEnvironment) (incident : Incident) (dependency : Dependency)
    (rendering : Rendering) : EvidenceSnapshot :=
  { id := env.newId 1
    incidentId := incident.id
    orgId := incident.orgId
    dependencyId := dependency.id
    timeWindowStart := incident.startedAt
    timeWindowEnd := incident.resolvedAt.getD env.now
    observationIds := rendering.observationIds
    attributionResult := rendering.attribution
    methodologyVersion := rendering.methodologyVersion
    dataHash := rendering.dataHash
    verificationId := rendering.verificationId
    reportFilePath := rendering.reportPath
    reportChecksum := rendering.checksum
    jsonEvidencePath := rendering.jsonPath }

/-- `generate_for_incident`: whose incident it is, is not asked here. -/
def generateForIncident (env : ServiceEnvironment) (incidentId : Uuid) (s : Platform) :
    Except Failure Platform := do
  let incident ← require (s.workspace.incidents.get? incidentId) (notFound "Incident not found")
  let dependency ← require (dependencyById s incident.dependencyId)
    (notFound "Dependency not found")
  let rendering ← env.renderEvidence s.workspace incident dependency
  let evidenceReports ← flushNew s.workspace.evidenceReports (newReport env incident rendering)
  let evidenceSnapshots ← flushNew s.workspace.evidenceSnapshots
    (newSnapshot env incident dependency rendering)
  let auditLogs ← flushNew s.workspace.auditLogs
    ⟨env.newId 2, some incident.orgId, none, "EVIDENCE_GENERATED", "evidence_snapshot",
      env.newId 1⟩
  return { s with workspace := { s.workspace with
    evidenceReports := evidenceReports
    evidenceSnapshots := evidenceSnapshots
    auditLogs := auditLogs } }

def getOrTriggerEvidence (env : ServiceEnvironment) (orgId incId : Uuid) (s : Platform) :
    Except Failure Platform := do
  let incident ← requireIncident s.workspace orgId incId
  if ∃ report ∈ s.workspace.evidenceReports.rows, report.incidentId = incident.id then return s
  else generateForIncident env incident.id s

def regenerateReport (env : ServiceEnvironment) (orgId reportId : Uuid) (s : Platform) :
    Except Failure Platform := do
  let report ← requireOwned (s.workspace.evidenceReports.get? reportId) (·.orgId) orgId
    "Evidence report not found"
  generateForIncident env report.incidentId s

structure PublicizeEvidenceRequest where
  incidentId : Uuid
  makePublic : Bool
  customTitle : Option String
  customSummary : Option String
  deriving DecidableEq, Repr

/-- `EvidenceRepository.get_by_incident`: the newest. -/
def reportOfIncident (w : Workspace) (incidentId : Uuid) : Option EvidenceReport :=
  ((w.evidenceReports.rows.filter (fun r => r.incidentId = incidentId)).insertionSort
    (fun newer older => older.generatedAt ≤ newer.generatedAt)).head?

/-- `PublicEvidenceReportRepository.get_by_incident`: the newest. -/
def publicReportOfIncident (w : Workspace) (incidentId : Uuid) : Option PublicEvidenceReport :=
  ((w.publicReports.rows.filter (fun r => r.incidentId = incidentId)).insertionSort
    (fun newer older => older.createdAt ≤ newer.createdAt)).head?

def updatedPublicity (request : PublicizeEvidenceRequest) (report : PublicEvidenceReport) :
    PublicEvidenceReport :=
  { report with
    isPublic := request.makePublic
    customTitle := request.customTitle.orElse (fun _ => report.customTitle)
    customSummary := request.customSummary.orElse (fun _ => report.customSummary) }

def publicizeEvidence (env : ServiceEnvironment) (orgId : Uuid)
    (request : PublicizeEvidenceRequest) (s : Platform) : Except Failure Platform := do
  let incident ← requireIncident s.workspace orgId request.incidentId
  let evidenceReport ← require (reportOfIncident s.workspace incident.id)
    (notFound "No evidence report exists for this incident. Generate one first.")
  match publicReportOfIncident s.workspace incident.id with
  | some existing =>
    let publicReports := s.workspace.publicReports.updateKey existing.id
      (updatedPublicity request) (fun _ => rfl)
    return { s with workspace := { s.workspace with publicReports := publicReports } }
  | none => do
    refuseIf (request.makePublic = false) (notFound "No public record exists to unpublish")
    let vendorName := ((dependencyById s incident.dependencyId).map (·.name)).getD "unknown"
    let publicReports ← flushNew s.workspace.publicReports
      { id := env.newId 0
        incidentId := incident.id
        vendorName := vendorName
        reportId := evidenceReport.id
        isPublic := true
        customTitle := request.customTitle
        customSummary := request.customSummary
        createdAt := env.now }
    return { s with workspace := { s.workspace with publicReports := publicReports } }

end Reliastra.Source.Api
