import Reliastra.Library.Interleaving
import Reliastra.Source.Evidence.Generation

/-!
# Evidence in the store, and its public verification

Source: `generate_for_incident` of `app/modules/evidence/service.py` from its first
write on, `create` and `get_by_verification_id` of
`app/modules/evidence/repository.py`, `upload_bytes` of
`app/infrastructure/storage.py` and `verify_evidence` of
`app/modules/verification/router.py`.

What a run is going to write depends on what it read and on nothing another run
does afterwards. Its writes come one after the other: the report row, the page, the
document, the snapshot row. The rows are seen by others once it commits, an object
is seen as soon as it is put and stays when the run fails. A snapshot is never
updated or deleted (`_prevent_snapshot_update`, `_prevent_snapshot_delete`).
-/

namespace Reliastra.Source.Evidence.Verification

open Reliastra.Library Generation
open Api (Incident Dependency EvidenceReport require notFound)

variable {φ : Type}

/-! ## What a run is going to write -/

structure Prepared (φ : Type) where
  incident : Incident
  dependency : Dependency
  windowEnd : Instant
  generationKey : String
  pdfBytes : ByteArray
  generated : Generated φ

/-- `generate_for_incident` up to its first write. -/
def prepare (lib : EvidenceLibrary φ) (run : GenerationRun φ) (read : EvidenceDatabase φ)
    (incidentId : Uuid) : Except Failure (Prepared φ) := do
  let incident ← require (read.incidents.get? incidentId) (notFound "Incident not found")
  let dependency ← require (dependencyById read incident.dependencyId)
    (notFound "Dependency not found")
  let generated ← Generation.generateForIncident lib { run with upload := fun _ _ => .ok () } read incidentId
  let pdfBytes ← run.renderPdf generated.dataHash
  return ⟨incident, dependency, incident.resolvedAt.getD run.now, run.generationKey, pdfBytes,
    generated⟩

/-- `EvidenceRepository.create`. -/
def newReport (p : Prepared φ) (id : Uuid) (generatedAt : Instant) : EvidenceReport where
  id := id
  orgId := p.incident.orgId
  incidentId := p.incident.id
  filePath := p.generated.reportFilePath
  fileSizeBytes := p.pdfBytes.size
  checksum := p.generated.reportChecksum
  generatedAt := generatedAt

/-- A row of `evidence_snapshots`; its copy of the attribution is left out. -/
structure EvidenceSnapshot where
  incidentId : Uuid
  orgId : Uuid
  dependencyId : Uuid
  timeWindowStart : Instant
  timeWindowEnd : Instant
  observationIds : List String
  methodologyVersion : String
  dataHash : String
  verificationId : String
  reportFilePath : String
  reportChecksum : String
  jsonEvidencePath : String
  createdAt : Instant
  deriving DecidableEq, Repr

/-- `EvidenceSnapshotRepository.create`. -/
def newSnapshot (p : Prepared φ) (createdAt : Instant) : EvidenceSnapshot where
  incidentId := p.incident.id
  orgId := p.incident.orgId
  dependencyId := p.dependency.id
  timeWindowStart := p.incident.startedAt
  timeWindowEnd := p.windowEnd
  observationIds := p.generated.observationIds
  methodologyVersion := p.generated.methodologyVersion
  dataHash := p.generated.dataHash
  verificationId := p.generated.verificationId
  reportFilePath := p.generated.reportFilePath
  reportChecksum := p.generated.reportChecksum
  jsonEvidencePath := p.generated.jsonEvidencePath
  createdAt := createdAt

/-! ## The writes of concurrent runs -/

/-- The committed rows, and the objects of the bucket, the newest first. -/
structure EvidenceStore where
  reports : Table EvidenceReport.id
  snapshots : Table EvidenceSnapshot.verificationId
  objects : List (String × ByteArray)

def EvidenceStore.empty : EvidenceStore := ⟨.empty, .empty, []⟩

/-- The object `get_object` returns for a key. -/
def EvidenceStore.object (s : EvidenceStore) (key : String) : Option ByteArray :=
  s.objects.lookup key

def EvidenceStore.putObject (s : EvidenceStore) (key : String) (data : ByteArray) :
    EvidenceStore :=
  { s with objects := (key, data) :: s.objects }

inductive GenerationPhase (φ : Type) where
  | idle
  /-- The report row is flushed. -/
  | reported (p : Prepared φ) (report : EvidenceReport)
  | pageStored (p : Prepared φ) (report : EvidenceReport)
  | documentStored (p : Prepared φ) (report : EvidenceReport)
  | snapshotFlushed (p : Prepared φ) (report : EvidenceReport) (createdAt : Instant)
  | committed (p : Prepared φ) (report : EvidenceReport) (createdAt : Instant)
  | failed

inductive GenerationAct (φ : Type) where
  | begin (incidentId : Uuid) (run : GenerationRun φ) (read : EvidenceDatabase φ) (reportId : Uuid)
      (now : Instant)
  | uploadPage
  | uploadDocument
  | createSnapshot (now : Instant)
  | commit
  /-- Whatever the run raises, on an upload as well as on a statement. -/
  | fail

/-- The run of a phase and its report row, unless it has failed. -/
def GenerationPhase.work : GenerationPhase φ → Option (Prepared φ × EvidenceReport)
  | .idle => none
  | .reported p report => some (p, report)
  | .pageStored p report => some (p, report)
  | .documentStored p report => some (p, report)
  | .snapshotFlushed p report _ => some (p, report)
  | .committed p report _ => some (p, report)
  | .failed => none

/-- What an exception leaves of a run: nothing, once its transaction has committed. -/
def GenerationPhase.afterFailure : GenerationPhase φ → GenerationPhase φ
  | .idle => .idle
  | .committed p report createdAt => .committed p report createdAt
  | _ => .failed

/-- One statement of run `i`. An insert of a verification identifier that is taken
fails; where it is taken by a run that has not committed it waits for that run, and
fails when that run commits. -/
def generationAct {ι : Type} (lib : EvidenceLibrary φ) (_i : ι) (s : EvidenceStore)
    (phase : GenerationPhase φ) (act : GenerationAct φ) : EvidenceStore × GenerationPhase φ :=
  match phase, act with
  | .idle, .begin incidentId run read reportId now =>
    match prepare lib run read incidentId with
    | .ok p => (s, .reported p (newReport p reportId now))
    | .error _ => (s, .failed)
  | .reported p report, .uploadPage =>
    (s.putObject p.generated.reportFilePath p.pdfBytes, .pageStored p report)
  | .pageStored p report, .uploadDocument =>
    (s.putObject p.generated.jsonEvidencePath p.generated.jsonEvidence, .documentStored p report)
  | .documentStored p report, .createSnapshot now =>
    match s.snapshots.get? p.generated.verificationId with
    | some _ => (s, .failed)
    | none => (s, .snapshotFlushed p report now)
  | .snapshotFlushed p report createdAt, .commit =>
    match s.reports.insert report, s.snapshots.insert (newSnapshot p createdAt) with
    | some reports, some snapshots =>
      ({ s with reports := reports, snapshots := snapshots }, .committed p report createdAt)
    | _, _ => (s, .failed)
  | phase, .fail => (s, phase.afterFailure)
  | phase, _ => (s, phase)

/-- `uuid.uuid4().hex`: a run draws a key that no run at work or committed has drawn. -/
def FreshKey {ι : Type} (w : World EvidenceStore ι (GenerationPhase φ))
    (m : ι × GenerationAct φ) : Prop :=
  match m.2 with
  | .begin _ run _ _ _ => run.generationKey.length = 32 ∧
    ∀ i p report, (w.locals i).work = some (p, report) → p.generationKey ≠ run.generationKey
  | _ => True

/-! ## Verification -/

/-- What the pattern of the path lets through. -/
def idCharacter (c : Char) : Bool :=
  c.isAlphanum || c == '_' || c == '-'

/-- `Path(min_length=1, max_length=64, pattern=r"^[A-Za-z0-9_-]+$")`. -/
abbrev VerificationId :=
  { text : String // 1 ≤ text.length ∧ text.length ≤ 64 ∧ text.toList.all idCharacter = true }

structure VerificationAnswer where
  statusCode : Nat
  content : Json

def unavailableAnswer : VerificationAnswer where
  statusCode := 503
  content := .obj [("found", .bool false),
    ("error", .str "Verification service temporarily unavailable"),
    ("service_degraded", .bool true)]

def notFoundAnswer : VerificationAnswer where
  statusCode := 404
  content := .obj [("found", .bool false), ("error", .str "Evidence not found")]

def foundAnswer (lib : EvidenceLibrary φ) (snapshot : EvidenceSnapshot) : VerificationAnswer where
  statusCode := 200
  content := .obj [("found", .bool true),
    ("incident_id", .str (lib.uuidText snapshot.incidentId)),
    ("dependency_id", .str (lib.uuidText snapshot.dependencyId)),
    ("org_id", .str (lib.uuidText snapshot.orgId)),
    ("time_window", .obj [("start", .str (lib.isoformat snapshot.timeWindowStart)),
      ("end", .str (lib.isoformat snapshot.timeWindowEnd))]),
    ("data_hash", .str snapshot.dataHash),
    ("report_checksum", .str snapshot.reportChecksum),
    ("methodology_version", .str snapshot.methodologyVersion),
    ("created_at", .str (lib.isoformat snapshot.createdAt))]

/-- `verify_evidence`, where the query is answered or raises. -/
def verifyEvidence (lib : EvidenceLibrary φ) (s : EvidenceStore) (databaseAnswers : Bool)
    (verificationId : VerificationId) : VerificationAnswer :=
  if databaseAnswers then
    match s.snapshots.get? verificationId.val with
    | some snapshot => foundAnswer lib snapshot
    | none => notFoundAnswer
  else unavailableAnswer

end Reliastra.Source.Evidence.Verification
