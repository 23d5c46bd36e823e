import Reliastra.Source.Checks.PinnedProbe
import Reliastra.Source.Core.Json
import Reliastra.Source.Evidence.Generation

/-!
# The explanation of an incident

Source: `generate_explanation`, `_call_provider`, `_request` and `_extract` of
`app/modules/ai_integration/service.py`, `get_active_default` of its repository,
`decrypt_jsonb` of `app/core/security.py`, and `generate_for_incident` of
`app/modules/evidence/service.py` with the call of the first in its place.

What an endpoint answers may depend on the request and on the attempt. Metrics,
log lines and the pauses between attempts are left out, as is what a call adds to
the cache of transports. `uptime_pct` and `sla_impact_pct` are computed before the
call, of the checks of the last day, and are given here.
-/

namespace Reliastra.Source.Evidence.Explanation

open Reliastra.Library Reliastra.Library.JsonText
open Api (Incident Dependency require notFound invalid)
open Checks (PinnedTransport TransportCache pinnedTransportFor)
open SsrfProtection (Resolver UrlLibrary resolvePinnedTarget)
open Generation

variable {φ : Type}

/-! ## Providers -/

structure AIProvider where
  id : Uuid
  organizationId : Uuid
  providerType : String
  endpointUrl : String
  encryptedApiKey : Option String
  modelName : String
  isDefault : Bool
  maxTokens : Int
  /-- A number of the JSON payload. -/
  temperature : Json
  enabled : Bool
  createdAt : Instant

/-- What is posted to an endpoint. -/
structure ProviderRequest where
  url : String
  headers : List (String × String)
  payload : Json

/-- How one `client.post` ends; where it does not, the run does not end either. -/
inductive Attempt where
  /-- A status, and what `response.json()` gives or raises. -/
  | response (status : Nat) (body : Except Failure Json)
  /-- `TimeoutException`, `ConnectError` or `NetworkError`. -/
  | transient (exceptionClass : String)
  | failed (exceptionClass : String)

/-- Everything the explanation depends on besides the incident. -/
structure AIService where
  providers : Table AIProvider.id
  oldestFirst : OrderBy AIProvider.createdAt
  host : Runtime
  /-- `json.loads(fernet.decrypt(text))`; `none` is an exception. -/
  fernetJson : String → Option Json
  urls : UrlLibrary
  resolve : Resolver
  pin : Resolver
  transports : TransportCache
  endpoint : PinnedTransport → ProviderRequest → Nat → Attempt

def getActiveDefault (ai : AIService) (orgId : Uuid) : Option AIProvider :=
  (ai.oldestFirst.arrange (ai.providers.rows.filter (fun provider =>
    provider.organizationId = orgId ∧ provider.isDefault ∧ provider.enabled))).head?

def decryptJsonb (ai : AIService) : Option String → Option Json
  | none => none
  | some text => some ((ai.fernetJson text).getD (.obj []))

/-! ## Values of a reply -/

/-- `document.get(key, default)`; only a dictionary has the method. -/
def dictGet (document : Json) (key : String) (default : Json) : Except Failure Json :=
  match document with
  | .obj members => .ok ((members.lookup key).getD default)
  | _ => .error (.python "AttributeError")

/-- What `for item in x` runs over. -/
def iterate : Json → Except Failure (List Json)
  | .arr elements => .ok elements
  | .obj members => .ok (members.map (fun member => .str member.1))
  | .str value => .ok (value.toList.map (fun c => .str (String.singleton c)))
  | _ => .error (.python "TypeError")

/-- `x[0]`. -/
def firstElement : Json → Except Failure Json
  | .arr (first :: _) => .ok first
  | .arr [] => .error (.python "IndexError")
  | .str value => match value.toList with
    | c :: _ => .ok (.str (String.singleton c))
    | [] => .error (.python "IndexError")
  | .obj _ => .error (.python "KeyError")
  | _ => .error (.python "TypeError")

/-- The texts of the items that have one, a line each; `None` where there is nothing. -/
def joinTexts (host : Runtime) (items : List Json) : Option String :=
  let texts := items.filterMap (fun item =>
    if (item.get "text").truthy then some ((item.get "text").text host) else none)
  let joined := "\n".intercalate texts
  if joined = "" then none else some joined

def extract (host : Runtime) (providerType : String) (data : Json) :
    Except Failure (Option String) :=
  if providerType = "anthropic" then do
    let content ← dictGet data "content" .null
    let items ← iterate (content.orElse (.arr []))
    return joinTexts host items
  else if providerType = "google" then do
    let candidates ← dictGet data "candidates" .null
    if candidates.truthy then
      let first ← firstElement candidates
      let content ← dictGet first "content" (.obj [])
      let parts ← dictGet content "parts" (.arr [])
      let items ← iterate parts
      return joinTexts host items
    else return none
  else do
    let choices ← dictGet data "choices" .null
    if choices.truthy then
      let first ← firstElement choices
      let message ← dictGet first "message" (.obj [])
      let content ← dictGet message "content" .null
      return some (content.text host)
    else return none

/-! ## The call -/

def maxRetries : Nat := 2

def retriedStatuses : List Nat := [429, 500, 502, 503, 504]

def request (provider : AIProvider) (apiKey prompt : String) : ProviderRequest :=
  let contentType := ("Content-Type", "application/json")
  let messages : Json := .arr [.obj [("role", .str "user"), ("content", .str prompt)]]
  let completion : Json := .obj
    [("model", .str provider.modelName), ("max_tokens", .int provider.maxTokens),
      ("temperature", provider.temperature), ("messages", messages)]
  if provider.providerType = "anthropic" then
    ⟨provider.endpointUrl,
      [contentType, ("x-api-key", apiKey), ("anthropic-version", "2023-06-01")], completion⟩
  else if provider.providerType = "google" then
    ⟨provider.endpointUrl, [contentType, ("x-goog-api-key", apiKey)], .obj
      [("contents", .arr [.obj [("parts", .arr [.obj [("text", .str prompt)]])]]),
        ("generationConfig", .obj
          [("maxOutputTokens", .int provider.maxTokens), ("temperature", provider.temperature)])]⟩
  else
    ⟨provider.endpointUrl, [contentType, ("Authorization", "Bearer " ++ apiKey)], completion⟩

/-- The loop over the attempts, with those that are left and the last exception. -/
def attempts (host : Runtime) (providerType : String) (send : Nat → Attempt) :
    Nat → Nat → Option Failure → Except Failure (Option String)
  | 0, _, some lastExc => .error lastExc
  | 0, _, none => .ok none
  | left + 1, attempt, _ =>
    match send attempt with
    | .response status body =>
      if 200 ≤ status ∧ status < 300 then do
        let data ← body
        extract host providerType data
      else if status ∈ retriedStatuses ∧ attempt < maxRetries then
        attempts host providerType send left (attempt + 1) (some (.python "HTTPStatusError"))
      else .error (.python "HTTPStatusError")
    | .transient error =>
      if attempt < maxRetries then
        attempts host providerType send left (attempt + 1) (some (.python error))
      else .error (.python error)
    | .failed error => .error (.python error)

/-- `_call_provider`, the `text` of what it returns. -/
def callProvider (ai : AIService) (provider : AIProvider) (apiKey prompt : String) :
    Except Failure (Option String) :=
  match resolvePinnedTarget ai.urls ai.resolve ai.pin provider.endpointUrl with
  | .error refusal => .error (invalid refusal.text)
  | .ok target =>
    match pinnedTransportFor ai.transports target with
    | .error _ => .error (.python "IndexError")
    | .ok (transport, _) =>
      attempts ai.host provider.providerType
        (ai.endpoint transport (request provider apiKey prompt)) (maxRetries + 1) 0 none

/-! ## The text of the context -/

section Spaced
variable (floats : FloatText φ)

mutual

/-- The text of a document with a blank after each comma and colon. -/
def printSpaced : Value φ → List Char
  | .arr elements => '[' :: (List.intercalate [',', ' '] (printSpacedElements elements) ++ [']'])
  | .obj members => '\x7b' :: (List.intercalate [',', ' '] (printSpacedMembers members) ++ ['\x7d'])
  | other => print floats false other

def printSpacedElements : List (Value φ) → List (List Char)
  | [] => []
  | first :: rest => printSpaced first :: printSpacedElements rest

def printSpacedMembers : List (String × Value φ) → List (List Char)
  | [] => []
  | (key, value) :: rest =>
    (printString false key ++ ':' :: ' ' :: printSpaced value) :: printSpacedMembers rest

end

/-- `json.dumps(context, sort_keys=True, ensure_ascii=False)`. -/
def contextJson (context : Value φ) : String := String.ofList (printSpaced floats (normal context))

end Spaced

/-- A text that is cut off, and says so. -/
def truncated (limit : Nat) (text : String) : String :=
  if limit < text.length then String.ofList (text.toList.take limit) ++ "...[truncated]" else text

def promptOf (instruction contextJson : String) : String :=
  "You are a technical evidence explainer. Explain only the supplied " ++
  "pre-computed evidence. Do not invent measurements, conclusions, or " ++
  "facts. Do not alter the attribution result or confidence score.\n\n" ++
  "Instruction: " ++ instruction ++ "\n\nEvidence Data:\n" ++ contextJson ++ "\n\n" ++
  "Use clear language and state that this is an AI-generated explanation."

/-! ## The explanation -/

def maxContextJsonChars : Nat := 6000

def maxExplanationChars : Nat := 4000

/-- What is made of the end of a call: a text that is cut off. A failed safety check and
any other exception give `None`. -/
def boundedText : Except Failure (Option String) → Option String
  | .ok (some text) => if text = "" then none else some (truncated maxExplanationChars text)
  | .ok none => none
  | .error _ => none

def generateExplanation (floats : FloatText φ) (ai : AIService) (context : Value φ)
    (instruction : String) (orgId : Uuid) : Except Failure (Option String) :=
  match getActiveDefault ai orgId with
  | none => .ok none
  | some provider =>
    match decryptJsonb ai provider.encryptedApiKey with
    | none => .ok none
    | some keyData =>
      if keyData.truthy then do
        let apiKey ← dictGet keyData "api_key" .null
        if apiKey.truthy then
          let contextText := truncated maxContextJsonChars (contextJson floats context)
          return boundedText
            (callProvider ai provider (apiKey.text ai.host) (promptOf instruction contextText))
        else return none
      else .ok none

/-! ## The run around it -/

/-- What a run reads before it asks for an explanation, besides the rows. -/
structure Readings (φ : Type) where
  now : Instant
  order : OrderBy (Observation.newestFirst (φ := φ))
  uptimePct : φ
  slaImpactPct : φ

/-- What a run computes before it asks for an explanation. -/
structure Facts (φ : Type) where
  incident : Incident
  dependency : Dependency
  windowEnd : Instant
  observations : List (Observation φ)
  attribution : Option (AttributionResult φ)

/-- `generate_for_incident` up to `window_end`, the observations and the attribution. -/
def gather (readings : Readings φ) (s : EvidenceDatabase φ) (incidentId : Uuid) :
    Except Failure (Facts φ) := do
  let incident ← require (s.incidents.get? incidentId) (notFound "Incident not found")
  let dependency ← require (dependencyById s incident.dependencyId)
    (notFound "Dependency not found")
  let windowEnd := incident.resolvedAt.getD readings.now
  return {
    incident := incident
    dependency := dependency
    windowEnd := windowEnd
    observations := listForSource s readings.order dependency.id "customer_check" 1000
      incident.startedAt windowEnd
    attribution := s.attributionResults.get? incident.id }

section Facts
variable (lib : EvidenceLibrary φ) (facts : Facts φ)

def Facts.evidence : List (String × Value φ) :=
  evidenceData lib facts.incident facts.dependency facts.windowEnd facts.observations
    facts.attribution

def Facts.dataHash : String := lib.sha256Hex (canonicalBytes lib (.obj (facts.evidence lib)))

def Facts.context (readings : Readings φ) : Value φ :=
  .obj
    [("attribution", attributionPayload lib facts.attribution),
      ("uptime_percentage", .float readings.uptimePct),
      ("sla_impact_percentage", .float readings.slaImpactPct),
      ("observation_count", .int facts.observations.length)]

def explanationInstruction : String :=
  "Explain the measured incident and deterministic attribution " ++
  "in language suitable for an SLA evidence report."

/-- The `try` around `generate_explanation`. -/
def aiExplanation (readings : Readings φ) (ai : AIService) : Option String :=
  match generateExplanation lib.floats ai (facts.context lib readings) explanationInstruction
    facts.incident.orgId with
  | .ok explanation => explanation
  | .error _ => none

end Facts

/-- What one run has of its own: the AI service, the random identifiers, the page
and the object store. -/
structure ExplainedRun (φ : Type) where
  ai : AIService
  verificationId : String
  generationKey : String
  /-- `_render_html` of the facts, the identifier and the explanation, and `_html_to_pdf`. -/
  renderPdf : Facts φ → String → Option String → Except Failure ByteArray
  upload : ByteArray → String → Except Failure Unit

/-- `evidence_snapshots` with the columns the hash does not name. -/
structure Snapshot (φ : Type) extends Generated φ where
  timeWindowStart : Instant
  timeWindowEnd : Instant
  attributionResult : Value φ

section Run
variable (lib : EvidenceLibrary φ) (readings : Readings φ) (run : ExplainedRun φ) (facts : Facts φ)

def ExplainedRun.pdfBytes : Except Failure ByteArray :=
  run.renderPdf facts run.verificationId (aiExplanation lib facts readings run.ai)

def ExplainedRun.basePath : String :=
  "evidence/" ++ lib.uuidText facts.incident.orgId ++ "/" ++ lib.uuidText facts.incident.id ++
    "/" ++ run.generationKey

def ExplainedRun.jsonDocument (reportChecksum : String) : List (String × Value φ) :=
  facts.evidence lib ++
    addedMembers lib (facts.dataHash lib) run.verificationId reportChecksum readings.now

/-- The row, once the page is rendered. -/
def ExplainedRun.snapshot (reportChecksum : String) : Snapshot φ where
  evidence := facts.evidence lib
  observationIds := facts.observations.map (fun observation => lib.uuidText observation.id)
  methodologyVersion := methodologyVersion facts.attribution
  dataHash := facts.dataHash lib
  verificationId := run.verificationId
  reportFilePath := run.basePath lib facts ++ ".pdf"
  reportChecksum := reportChecksum
  jsonEvidencePath := run.basePath lib facts ++ ".json"
  jsonEvidence :=
    encodeDocument lib true (.obj (run.jsonDocument lib readings facts reportChecksum))
  timeWindowStart := facts.incident.startedAt
  timeWindowEnd := facts.windowEnd
  attributionResult := attributionPayload lib facts.attribution

/-- `generate_for_incident` from the explanation on. -/
def ExplainedRun.store : Except Failure (Snapshot φ) := do
  let pdfBytes ← run.pdfBytes lib readings facts
  let snapshot := run.snapshot lib readings facts (lib.sha256Hex pdfBytes)
  run.upload pdfBytes snapshot.reportFilePath
  run.upload snapshot.jsonEvidence snapshot.jsonEvidencePath
  return snapshot

/-- `generate_for_incident`. -/
def generateForIncident (s : EvidenceDatabase φ) (incidentId : Uuid) :
    Except Failure (Snapshot φ) := do
  let facts ← gather readings s incidentId
  run.store lib readings facts

end Run

/-- Without the explanation it is the run of `Source/Evidence/Generation.lean`. -/
theorem generateForIncident_generated (lib : EvidenceLibrary φ) (readings : Readings φ)
    (run : ExplainedRun φ) (s : EvidenceDatabase φ) (incidentId : Uuid) {facts : Facts φ}
    (gathered : gather readings s incidentId = .ok facts) :
    (generateForIncident lib readings run s incidentId).map Snapshot.toGenerated =
      Generation.generateForIncident lib
        { now := readings.now
          order := readings.order
          verificationId := run.verificationId
          generationKey := run.generationKey
          renderPdf := fun _ => run.pdfBytes lib readings facts
          upload := run.upload } s incidentId := by
  obtain ⟨incident, present, rest⟩ := Api.bind_eq_ok gathered
  obtain ⟨dependency, present', rest'⟩ := Api.bind_eq_ok rest
  obtain rfl := Except.ok.inj rest'
  simp only [generateForIncident, Generation.generateForIncident, gathered, present, present',
    ExplainedRun.store, bind, Except.bind]
  cases run.pdfBytes lib readings _ with
  | error failure => rfl
  | ok pdfBytes =>
    simp only [ExplainedRun.snapshot, ExplainedRun.jsonDocument, ExplainedRun.basePath,
      Facts.evidence, Facts.dataHash]
    cases run.upload pdfBytes _ with
    | error failure => rfl
    | ok _ =>
      simp only
      cases run.upload (encodeDocument lib true _) _ with
      | error failure => rfl
      | ok _ => rfl

end Reliastra.Source.Evidence.Explanation
