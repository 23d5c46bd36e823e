import Reliastra.Library.JsonText
import Reliastra.Source.Api.Schema

/-!
# The evidence document and its hash

Source: `generate_for_incident`, `_attribution_payload` and
`_observation_payload` of `app/modules/evidence/service.py`, `list_for_source` of
`app/modules/observations/repository.py`, `get_by_incident` of
`app/modules/attribution/repository.py`.

A dictionary column holds what `json.loads` returns, so its objects have one
member a key, and its floats are finite. A text with a lone surrogate fails at
`encode("utf-8")`; a `String` has none. The page and what it is made from besides
the hash (correlations, uptime, explanation) are one rendering the run is given.
The rows of the report and the snapshot are those of `Source/Api/Monitoring.lean`;
here is what they and the object store are given. The audit entry and the alert,
which are written afterwards, are left out.
-/

namespace Reliastra.Source.Evidence.Generation

open Reliastra.Library Reliastra.Library.JsonText
open Api (Incident Dependency require notFound)
open Checks (IncidentStatus)

/-! ## Rows -/

/-- A value of a JSON column. -/
abbrev Document (φ : Type) := { v : Value φ // v.Distinct }

variable {φ : Type}

structure Observation (φ : Type) where
  id : Uuid
  timestamp : Instant
  sourceType : String
  sourceId : Option Uuid
  region : String
  endpointUrl : String
  latencyMs : φ
  statusCode : Option Int
  errorType : Option String
  errorMessage : Option String
  metadata : Option (Document φ)

structure AttributionResult (φ : Type) where
  id : Uuid
  incidentId : Uuid
  classification : String
  confidenceScore : φ
  signalBreakdown : Document φ
  supportingEvidence : Document φ
  contradictingEvidence : Document φ
  methodologyVersion : String

def Observation.key (observation : Observation φ) : Uuid × Instant :=
  (observation.id, observation.timestamp)

/-- The tables the evidence of an incident is read from. -/
structure EvidenceDatabase (φ : Type) where
  incidents : Table Incident.id
  dependencies : Table Dependency.id
  attributionResults : Table (AttributionResult.incidentId (φ := φ))
  observations : Table (Observation.key (φ := φ))

/-! ## What a run is given -/

/-- The library functions a document goes through. -/
structure EvidenceLibrary (φ : Type) where
  floats : FloatText φ
  /-- `datetime.isoformat()` of an instant in UTC. -/
  isoformat : Instant → String
  /-- `str()` of a `uuid.UUID`. -/
  uuidText : Uuid → String
  /-- `hashlib.sha256(data).hexdigest()`. -/
  sha256Hex : ByteArray → String

/-- `order_by(Observation.timestamp.desc())`. -/
def Observation.newestFirst (observation : Observation φ) : Int := -observation.timestamp

/-- What one run has of its own: the clock, the order in which the database gives
rows of one instant, the random identifiers, the page and the object store. -/
structure GenerationRun (φ : Type) where
  now : Instant
  order : OrderBy (Observation.newestFirst (φ := φ))
  verificationId : String
  generationKey : String
  /-- `_render_html` and `_html_to_pdf`. -/
  renderPdf : String → Except Failure ByteArray
  /-- `storage_client.upload_bytes` of the page and of the document. -/
  upload : ByteArray → String → Except Failure Unit

/-! ## Queries -/

/-- The `where` clauses of `list_for_source`. -/
def Selects (sourceId : Uuid) (sourceType : String) (since upTo : Instant)
    (observation : Observation φ) : Prop :=
  observation.sourceId = some sourceId ∧ observation.sourceType = sourceType ∧
    since ≤ observation.timestamp ∧ observation.timestamp ≤ upTo

instance (sourceId : Uuid) (sourceType : String) (since upTo : Instant) :
    DecidablePred (Selects (φ := φ) sourceId sourceType since upTo) :=
  fun observation => inferInstanceAs (Decidable
    (observation.sourceId = some sourceId ∧ observation.sourceType = sourceType ∧
      since ≤ observation.timestamp ∧ observation.timestamp ≤ upTo))

/-- `list_for_source`, with all its arguments given. -/
def listForSource (s : EvidenceDatabase φ) (order : OrderBy (Observation.newestFirst (φ := φ)))
    (sourceId : Uuid) (sourceType : String) (limit : Nat) (since upTo : Instant) :
    List (Observation φ) :=
  let selected := s.observations.rows.filter
    (fun observation => Selects sourceId sourceType since upTo observation)
  (order.arrange selected).take limit

/-- `DependencyRepository.get_by_id`. -/
def dependencyById (s : EvidenceDatabase φ) (id : Uuid) : Option Dependency :=
  (s.dependencies.get? id).filter (fun dependency => dependency.isDeleted = false)

/-! ## The document -/

section Document
variable (lib : EvidenceLibrary φ)

def statusText : IncidentStatus → String
  | .opened => "open"
  | .resolved => "resolved"
  | .falsePositive => "false_positive"

/-- `None` where there is nothing to write. -/
def orNull (write : ρ → Value φ) : Option ρ → Value φ
  | some value => write value
  | none => .null

def attributionPayload : Option (AttributionResult φ) → Value φ
  | none => .null
  | some result => .obj
    [("id", .str (lib.uuidText result.id)),
      ("classification", .str result.classification),
      ("confidence_score", .float result.confidenceScore),
      ("signal_breakdown", result.signalBreakdown.val),
      ("supporting_evidence", result.supportingEvidence.val),
      ("contradicting_evidence", result.contradictingEvidence.val),
      ("methodology_version", .str result.methodologyVersion)]

def observationMembers (observation : Observation φ) : List (String × Value φ) :=
  [("id", .str (lib.uuidText observation.id)),
    ("timestamp", .str (lib.isoformat observation.timestamp)),
    ("source_type", .str observation.sourceType),
    ("source_id", orNull (fun id => .str (lib.uuidText id)) observation.sourceId),
    ("region", .str observation.region),
    ("endpoint_url", .str observation.endpointUrl),
    ("latency_ms", .float observation.latencyMs),
    ("status_code", orNull .int observation.statusCode),
    ("error_type", orNull .str observation.errorType),
    ("error_message", orNull .str observation.errorMessage),
    ("metadata", orNull Subtype.val observation.metadata)]

def observationPayload (observation : Observation φ) : Value φ :=
  .obj (observationMembers lib observation)

def incidentPayload (incident : Incident) : Value φ :=
  .obj
    [("id", .str (lib.uuidText incident.id)),
      ("org_id", .str (lib.uuidText incident.orgId)),
      ("dependency_id", .str (lib.uuidText incident.dependencyId)),
      ("started_at", .str (lib.isoformat incident.startedAt)),
      ("resolved_at", orNull (fun resolved => .str (lib.isoformat resolved)) incident.resolvedAt),
      ("severity", .str incident.severity),
      ("status", .str (statusText incident.status)),
      ("root_cause", .str incident.rootCause)]

def dependencyPayload (dependency : Dependency) : Value φ :=
  .obj
    [("id", .str (lib.uuidText dependency.id)),
      ("name", .str dependency.name),
      ("endpoint_url", .str dependency.endpointUrl),
      ("regions", .arr (dependency.regions.map .str))]

def methodologyVersion (attribution : Option (AttributionResult φ)) : String :=
  (attribution.map (·.methodologyVersion)).getD "v1.0"

/-- The members of `evidence_data`. -/
def evidenceData (incident : Incident) (dependency : Dependency) (windowEnd : Instant)
    (observations : List (Observation φ)) (attribution : Option (AttributionResult φ)) :
    List (String × Value φ) :=
  [("schema_version", .str "1.0"),
    ("incident", incidentPayload lib incident),
    ("dependency", dependencyPayload lib dependency),
    ("time_window", .obj
      [("start", .str (lib.isoformat incident.startedAt)),
        ("end", .str (lib.isoformat windowEnd))]),
    ("observations", .arr (observations.map (observationPayload lib))),
    ("attribution", attributionPayload lib attribution),
    ("methodology_version", .str (methodologyVersion attribution))]

/-- The members `json_document` adds. -/
def addedMembers (dataHash verificationId reportChecksum : String) (generatedAt : Instant) :
    List (String × Value φ) :=
  [("data_hash", .str dataHash),
    ("verification_id", .str verificationId),
    ("report_checksum", .str reportChecksum),
    ("generated_at", .str (lib.isoformat generatedAt))]

/-- `json.dumps(document, sort_keys=True, separators=(",", ":"), ensure_ascii=…)`
encoded as UTF-8. -/
def encodeDocument (ensureAscii : Bool) (document : Value φ) : ByteArray :=
  (String.ofList (dumps lib.floats ensureAscii document)).toUTF8

/-- `canonical_bytes`. -/
def canonicalBytes (document : Value φ) : ByteArray := encodeDocument lib false document

end Document

/-! ## A run -/

/-- What a run leaves: the columns of the `evidence_snapshots` row that say what
was hashed, and the document under the row's `json_evidence_path`. -/
structure Generated (φ : Type) where
  evidence : List (String × Value φ)
  observationIds : List String
  methodologyVersion : String
  dataHash : String
  verificationId : String
  reportFilePath : String
  reportChecksum : String
  jsonEvidencePath : String
  jsonEvidence : ByteArray

def generateForIncident (lib : EvidenceLibrary φ) (run : GenerationRun φ)
    (s : EvidenceDatabase φ) (incidentId : Uuid) : Except Failure (Generated φ) := do
  let incident ← require (s.incidents.get? incidentId) (notFound "Incident not found")
  let dependency ← require (dependencyById s incident.dependencyId)
    (notFound "Dependency not found")
  let windowEnd := incident.resolvedAt.getD run.now
  let observations := listForSource s run.order dependency.id "customer_check" 1000
    incident.startedAt windowEnd
  let attribution := s.attributionResults.get? incident.id
  let evidence := evidenceData lib incident dependency windowEnd observations attribution
  let dataHash := lib.sha256Hex (canonicalBytes lib (.obj evidence))
  let pdfBytes ← run.renderPdf dataHash
  let reportChecksum := lib.sha256Hex pdfBytes
  let basePath := "evidence/" ++ lib.uuidText incident.orgId ++ "/" ++ lib.uuidText incident.id ++
    "/" ++ run.generationKey
  let jsonEvidence := encodeDocument lib true
    (.obj (evidence ++ addedMembers lib dataHash run.verificationId reportChecksum run.now))
  run.upload pdfBytes (basePath ++ ".pdf")
  run.upload jsonEvidence (basePath ++ ".json")
  return {
    evidence := evidence
    observationIds := observations.map (fun observation => lib.uuidText observation.id)
    methodologyVersion := methodologyVersion attribution
    dataHash := dataHash
    verificationId := run.verificationId
    reportFilePath := basePath ++ ".pdf"
    reportChecksum := reportChecksum
    jsonEvidencePath := basePath ++ ".json"
    jsonEvidence := jsonEvidence }

end Reliastra.Source.Evidence.Generation
