import Mathlib.Data.Rat.Defs
import Reliastra.Source.Checks.Quorum
import Reliastra.Source.Core.Json
import Reliastra.Source.Core.Text

/-!
# Check results, observations and the outbox

Source: `app/modules/checks/models.py`, `app/modules/observations/models.py`,
`app/modules/observations/schemas.py`, `_enqueue_observation_outbox` of
`app/modules/checks/service.py`. Both evidence tables are partitioned with a
default partition, so every timestamp has a place. An observation's own id is a
fresh `uuid4` nothing refers to; it is left out. Milliseconds are rationals.
-/

namespace Reliastra.Source.Observations

open Reliastra.Library

/-! ## Check results -/

/-- A row of `check_results`, with the columns the quorum does not read. -/
structure CheckResult extends Checks.CheckResult where
  id : Uuid
  latencyMs : Rat
  statusCode : Option Int
  deriving DecidableEq, Repr

/-- The columns take the row. -/
def CheckResult.Fits (result : CheckResult) : Prop :=
  result.toCheckResult.Fits ∧ ∀ code ∈ result.statusCode, FitsInteger code

/-! ## Observations -/

/-- The fields of an `ObservationCreateDTO` before they are validated. -/
structure ObservationFields where
  timestamp : Option Instant
  sourceType : String
  sourceId : Option Uuid
  orgId : Option Uuid
  region : String
  endpointUrl : String
  latencyMs : Rat
  statusCode : Option Int
  responseTimeMs : Option Rat
  tlsVersion : Option String
  tlsCertificateIssuer : Option String
  tlsCertificateExpiry : Option Instant
  errorType : Option String
  errorMessage : Option String
  metadata : Option Json

/-- `Field(min_length=1, max_length=limit)`. -/
def HasLength (limit : Nat) (text : String) : Prop := 1 ≤ text.length ∧ text.length ≤ limit

instance (limit : Nat) (text : String) : Decidable (HasLength limit text) :=
  inferInstanceAs (Decidable (1 ≤ text.length ∧ text.length ≤ limit))

/-- The constraints the schema declares. -/
structure ObservationFields.Valid (fields : ObservationFields) : Prop where
  sourceType : HasLength 50 fields.sourceType
  region : HasLength 50 fields.region
  endpointUrl : HasLength 500 fields.endpointUrl
  latencyMs : 0 ≤ fields.latencyMs
  responseTimeMs : ∀ elapsed ∈ fields.responseTimeMs, 0 ≤ elapsed

instance (fields : ObservationFields) : Decidable fields.Valid :=
  decidable_of_iff
    (HasLength 50 fields.sourceType ∧ HasLength 50 fields.region ∧
      HasLength 500 fields.endpointUrl ∧ 0 ≤ fields.latencyMs ∧
      ∀ elapsed ∈ fields.responseTimeMs, 0 ≤ elapsed)
    ⟨fun ⟨a, b, c, d, e⟩ => ⟨a, b, c, d, e⟩, fun ⟨a, b, c, d, e⟩ => ⟨a, b, c, d, e⟩⟩

/-- `ObservationCreateDTO`: only valid fields make one. -/
abbrev ObservationCreateDTO := { fields : ObservationFields // fields.Valid }

/-- The constructor; `none` is a `ValidationError`. -/
def observationCreateDTO (fields : ObservationFields) : Option ObservationCreateDTO :=
  if valid : fields.Valid then some ⟨fields, valid⟩ else none

/-- What the foreign key and the columns of `observations` ask of a row. -/
structure ObservationFields.Storable (organizations : List Uuid) (fields : ObservationFields) :
    Prop where
  organization : ∀ orgId ∈ fields.orgId, orgId ∈ organizations
  sourceType : FitsText 50 fields.sourceType
  region : FitsText 50 fields.region
  endpointUrl : FitsText 500 fields.endpointUrl
  statusCode : ∀ code ∈ fields.statusCode, FitsInteger code
  tlsVersion : ∀ version ∈ fields.tlsVersion, FitsText 20 version
  tlsCertificateIssuer : ∀ issuer ∈ fields.tlsCertificateIssuer, FitsText 200 issuer
  errorType : ∀ errorType ∈ fields.errorType, FitsText 50 errorType
  errorMessage : ∀ message ∈ fields.errorMessage, FitsText 500 message

instance (organizations : List Uuid) (fields : ObservationFields) :
    Decidable (fields.Storable organizations) :=
  decidable_of_iff
    ((∀ orgId ∈ fields.orgId, orgId ∈ organizations) ∧ FitsText 50 fields.sourceType ∧
      FitsText 50 fields.region ∧ FitsText 500 fields.endpointUrl ∧
      (∀ code ∈ fields.statusCode, FitsInteger code) ∧
      (∀ version ∈ fields.tlsVersion, FitsText 20 version) ∧
      (∀ issuer ∈ fields.tlsCertificateIssuer, FitsText 200 issuer) ∧
      (∀ errorType ∈ fields.errorType, FitsText 50 errorType) ∧
      ∀ message ∈ fields.errorMessage, FitsText 500 message)
    ⟨fun ⟨a, b, c, d, e, f, g, h, i⟩ => ⟨a, b, c, d, e, f, g, h, i⟩,
      fun ⟨a, b, c, d, e, f, g, h, i⟩ => ⟨a, b, c, d, e, f, g, h, i⟩⟩

/-- A row of `observations`. -/
structure Observation where
  timestamp : Instant
  fields : ObservationFields

/-- The row `ObservationRepository.create` makes of a DTO. -/
def observationOf (dto : ObservationCreateDTO) (now : Instant) : Observation :=
  ⟨dto.val.timestamp.getD now, dto.val⟩

/-! ## Outbox events -/

structure OutboxEvent where
  id : Uuid
  eventType : String
  payload : String
  createdAt : Instant
  deriving DecidableEq, Repr

/-- The order of `list_pending`. -/
def Older (a b : OutboxEvent) : Prop :=
  a.createdAt < b.createdAt ∨ a.createdAt = b.createdAt ∧ a.id ≤ b.id

instance : DecidableRel Older := fun a b =>
  inferInstanceAs (Decidable (a.createdAt < b.createdAt ∨ a.createdAt = b.createdAt ∧ a.id ≤ b.id))

/-- The library functions a payload goes through. -/
structure PayloadCodec where
  /-- `model_dump_json`. -/
  dump : ObservationCreateDTO → String
  /-- `model_validate_json`; `none` is a `ValidationError`. -/
  parse : String → Option ObservationCreateDTO
  /-- `str()` of a row's id. -/
  uuidText : Uuid → String

def observationCreated : String := "observation_created"

/-- The observation is what the event's payload says. -/
def FromPayload (codec : PayloadCodec) (entry : OutboxEvent × Observation) : Prop :=
  ∃ dto now, codec.parse entry.1.payload = some dto ∧ entry.2 = observationOf dto now

/-- `error_message.split(":", 1)[0].strip().lower().replace(" ", "_")[:50]`.
Letters outside ASCII keep their case. -/
def errorTypeOf (errorMessage : String) : String :=
  let head := String.ofList (errorMessage.toList.takeWhile (fun c => c != ':'))
  Text.slice (Text.replaceChar (Text.lower (Text.strip head)) ' ' "_") 50

/-- The DTO `_enqueue_observation_outbox` builds of a check result. -/
def checkObservation (codec : PayloadCodec) (result : CheckResult) (endpointUrl method : String) :
    ObservationFields :=
  { timestamp := some result.executedAt
    sourceType := "customer_check"
    sourceId := some result.dependencyId
    orgId := some result.orgId
    region := result.region
    endpointUrl := endpointUrl
    latencyMs := result.latencyMs
    statusCode := result.statusCode
    responseTimeMs := some result.latencyMs
    tlsVersion := none
    tlsCertificateIssuer := none
    tlsCertificateExpiry := none
    errorType := (result.errorMessage.filter (· ≠ "")).map errorTypeOf
    errorMessage := result.errorMessage
    metadata := some (.obj [("method", .str method), ("is_up", .bool result.isUp),
      ("quorum_confirmed", .bool result.quorumConfirmed),
      ("check_result_id", .str (codec.uuidText result.id))]) }

/-- `_enqueue_observation_outbox`: the event it flushes. -/
def outboxEventOf (codec : PayloadCodec) (result : CheckResult) (endpointUrl method : String)
    (now : Instant) (newId : Uuid) : Except Failure OutboxEvent :=
  match observationCreateDTO (checkObservation codec result endpointUrl method) with
  | none => .error (.python "ValidationError")
  | some dto => .ok ⟨newId, observationCreated, codec.dump dto, now⟩

end Reliastra.Source.Observations
