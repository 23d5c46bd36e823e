import Reliastra.Library.Run
import Reliastra.Source.Api.Monitoring
import Reliastra.Source.Core.Http

/-!
# The gate before evidence reports

Source: `process_gate` and `download_evidence` of
`app/modules/evidence_gate/service.py`, with the repositories and models of that
module; `publicize_evidence` is with the other handlers of a key. Lead events and
the counters of a public record are read by nothing here and left out.
-/

namespace Reliastra.Source.Evidence

open Reliastra.Library Auth Organizations Api

structure EvidenceGateToken where
  id : Uuid
  reportId : Uuid
  email : String
  userId : Option Uuid
  tokenHash : String
  ipAddress : Option String
  downloadedAt : Option Instant
  expiresAt : Instant
  deriving DecidableEq, Repr

structure GateStore where
  platform : Platform
  tokens : Table EvidenceGateToken.id

/-- `storage_client.download_bytes`. -/
inductive StorageAnswer where
  | bytes (content : List UInt8)
  | fileNotFound
  | storageError

/-- What the two operations get from outside the database. -/
structure GateEnvironment where
  service : ServiceEnvironment
  /-- `hashlib.sha256(token).hexdigest()`. -/
  sha256Hex : String → String
  /-- `secrets.token_urlsafe`, of 32 and of 16 bytes. -/
  rawToken : String
  randomPassword : String
  /-- `re.sub(r"[^\w-]", "-", text)`. -/
  dashed : String → String
  /-- `str(id)[:8]`. -/
  idPrefix : Uuid → String
  downloadBytes : String → StorageAnswer
  reportTokenTtlDays : Int
  frontendBaseUrl : String

structure EvidenceGateRequest where
  email : String
  fullName : Option String
  incidentId : Uuid
  vendorName : String
  orgName : Option String
  deriving DecidableEq, Repr

structure EvidenceGateResponse where
  downloadUrl : String
  reportId : Uuid
  reportToken : String
  expiresAt : Instant
  accountCreated : Bool
  loginUrl : Option String
  message : String
  deriving DecidableEq, Repr

/-! ## `process_gate` -/

def gateAccount (env : GateEnvironment) (request : EvidenceGateRequest) : Account where
  id := env.service.newId 0
  email := env.service.lower request.email
  fullName := (request.fullName.filter (· ≠ "")).getD
    (String.ofList (request.email.toList.takeWhile (· ≠ '@')))
  passwordHash := env.service.passwordHash env.randomPassword
  isActive := true
  isSuperuser := false
  isSystemAdmin := false
  updatedAt := env.service.now

/-- `re.sub(r"-+", "-", slug).strip("-")` and a random suffix. -/
def gateSlug (env : GateEnvironment) (name : String) : String :=
  let words := (env.dashed (env.service.lower name)).splitOn "-"
  "-".intercalate (words.filter (· ≠ "")) ++ "-" ++ env.service.slugSuffix

def gateOrganization (env : GateEnvironment) (name : String) : Api.Organization where
  id := env.service.newId 1
  name := name
  slug := env.service.lower (gateSlug env name)
  plan := .free
  hasAgencyMode := false
  createdAt := env.service.now

/-- The account of an address nobody has, and its organization if one is named. -/
def openGateAccount (env : GateEnvironment) (request : EvidenceGateRequest) (s : Platform) :
    Except Failure Platform := do
  let users ← flushNew s.users (gateAccount env request)
  match request.orgName.filter (· ≠ "") with
  | none => return { s with users := users }
  | some name => do
    let organizations ← flushNew s.organizations (gateOrganization env name)
    let members ← flushNew s.members
      (newMember env.service (env.service.newId 2) (env.service.newId 1) (env.service.newId 0) .owner)
    return { s with users := users, organizations := organizations, members := members }

/-- The public record a visitor may ask for. -/
def gatedReport (env : GateEnvironment) (request : EvidenceGateRequest) (s : Platform) :
    Except Failure PublicEvidenceReport := do
  let pubReport ← require ((publicReportOfIncident s.workspace request.incidentId).filter
    (fun r => r.isPublic)) (notFound "No public evidence report found for this incident")
  refuseIf (env.service.lower pubReport.vendorName ≠ env.service.lower request.vendorName)
    (invalid "Vendor name does not match the evidence report")
  return pubReport

def gateToken (env : GateEnvironment) (request : EvidenceGateRequest) (clientIp : Option String)
    (userId : Uuid) (pubReport : PublicEvidenceReport) : EvidenceGateToken where
  id := env.service.newId 3
  reportId := pubReport.id
  email := request.email
  userId := some userId
  tokenHash := env.sha256Hex env.rawToken
  ipAddress := clientIp
  downloadedAt := none
  expiresAt := env.service.now + daysToMicros env.reportTokenTtlDays

/-- `EvidenceGateTokenRepository.create`; the hash is unique. -/
def insertToken (tokens : Table EvidenceGateToken.id) (token : EvidenceGateToken) :
    Except Failure (Table EvidenceGateToken.id) := do
  refuseIf (∃ other ∈ tokens.rows, other.tokenHash = token.tokenHash)
    (.flush "evidence_gate_tokens_token_hash_key")
  flushNew tokens token

def gateResponse (env : GateEnvironment) (pubReport : PublicEvidenceReport) (created : Bool) :
    EvidenceGateResponse where
  downloadUrl := env.frontendBaseUrl ++ "/evidence/download/" ++ env.rawToken
  reportId := pubReport.id
  reportToken := env.rawToken
  expiresAt := env.service.now + daysToMicros env.reportTokenTtlDays
  accountCreated := created
  loginUrl := if created then some (env.frontendBaseUrl ++ "/login") else none
  message := if created then
      "Account created! Check your email to set your password and log in."
    else "Your download link is ready."

def processGate (env : GateEnvironment) (request : EvidenceGateRequest) (clientIp : Option String)
    (s : GateStore) : Except Failure (EvidenceGateResponse × GateStore) := do
  let pubReport ← gatedReport env request s.platform
  match userByEmail env.service s.platform request.email with
  | some user => do
    let tokens ← insertToken s.tokens (gateToken env request clientIp user.id pubReport)
    return (gateResponse env pubReport false, { s with tokens := tokens })
  | none => do
    let platform ← openGateAccount env request s.platform
    let tokens ← insertToken s.tokens (gateToken env request clientIp (env.service.newId 0) pubReport)
    return (gateResponse env pubReport true, ⟨platform, tokens⟩)

/-! ## `download_evidence` -/

/-- Up to the file: the token, its public record and the report of that record. -/
def downloadable (env : GateEnvironment) (token : String) (s : GateStore) :
    Except Failure (EvidenceGateToken × PublicEvidenceReport × EvidenceReport) := do
  let gateToken ← require (s.tokens.rows.find? (fun t => t.tokenHash = env.sha256Hex token))
    (notFound "Invalid or expired download token")
  refuseIf (gateToken.expiresAt < env.service.now) (invalid "Download token has expired")
  let pubReport ← require (s.platform.workspace.publicReports.get? gateToken.reportId)
    (notFound "Public evidence report not found")
  let evidenceReport ← require (s.platform.workspace.evidenceReports.get? pubReport.reportId)
    (notFound "Evidence report file not found")
  return (gateToken, pubReport, evidenceReport)

def fileBytes (env : GateEnvironment) (report : EvidenceReport) : Except Failure (List UInt8) :=
  match env.downloadBytes report.filePath with
  | .bytes content => .ok content
  | .fileNotFound => .error (notFound "Evidence report file not found in storage")
  | .storageError => .error (.python "StorageError")

def downloadFilename (env : GateEnvironment) (pubReport : PublicEvidenceReport) : String :=
  env.dashed (env.service.lower pubReport.vendorName) ++ "-evidence-" ++
    env.idPrefix pubReport.incidentId ++ ".pdf"

def markDownloaded (now : Instant) (token : EvidenceGateToken) : EvidenceGateToken :=
  { token with downloadedAt := token.downloadedAt.orElse (fun _ => some now) }

def downloadEvidence (env : GateEnvironment) (token : String) (s : GateStore) :
    Except Failure ((List UInt8 × String) × GateStore) := do
  let (gateToken, pubReport, evidenceReport) ← downloadable env token s
  let content ← fileBytes env evidenceReport
  let tokens := s.tokens.updateKey gateToken.id (markDownloaded env.service.now) (fun _ => rfl)
  return ((content, downloadFilename env pubReport), { s with tokens := tokens })

/-! ## Runs -/

inductive GateOp where
  | publicize (env : ServiceEnvironment) (orgId : Uuid) (request : PublicizeEvidenceRequest)
  | processGate (env : GateEnvironment) (request : EvidenceGateRequest) (clientIp : Option String)
  | download (env : GateEnvironment) (token : String)

/-- A failed request is rolled back. -/
def gateStep (s : GateStore) : GateOp → GateStore
  | .publicize env orgId request =>
    match publicizeEvidence env orgId request s.platform with
    | .ok platform => { s with platform := platform }
    | .error _ => s
  | .processGate env request clientIp =>
    match processGate env request clientIp s with
    | .ok (_, after) => after
    | .error _ => s
  | .download env token =>
    match downloadEvidence env token s with
    | .ok (_, after) => after
    | .error _ => s

end Reliastra.Source.Evidence

/-!
## Downloads of public evidence

Source: `download_public_evidence` of `app/modules/evidence_gate/router.py`: the response
it makes of what `download_evidence` returns.
-/

namespace Reliastra.Source.Evidence

open Reliastra.Library Api

def downloadHeaders (content : List UInt8) (filename : String) : List (String × String) :=
  [("Content-Disposition", "attachment; filename=\"" ++ filename ++ "\""),
    ("Content-Length", toString content.length)]

/-- `download_public_evidence`; a response that cannot be made rolls the request back. -/
def downloadPublicEvidence (env : GateEnvironment) (token : String) (s : GateStore) :
    Except Failure (List UInt8 × List (String × String) × GateStore) := do
  let ((content, filename), after) ← downloadEvidence env token s
  let headers ← initHeaders (downloadHeaders content filename)
  .ok (content, headers, after)

/-- The response to a token that opens a file. -/
theorem downloadPublicEvidence_eq {env : GateEnvironment} {token : String} {s : GateStore}
    {gateToken : EvidenceGateToken} {pubReport : PublicEvidenceReport} {report : EvidenceReport}
    {content : List UInt8} (found : downloadable env token s = .ok (gateToken, pubReport, report))
    (read : fileBytes env report = .ok content) :
    ∃ after, downloadPublicEvidence env token s =
      (initHeaders (downloadHeaders content (downloadFilename env pubReport))).map
        (fun headers => (content, headers, after)) := by
  unfold downloadPublicEvidence downloadEvidence
  rw [found]
  simp only [bind, Except.bind, pure, Except.pure, read]
  cases initHeaders (downloadHeaders content (downloadFilename env pubReport)) with
  | error failure => exact ⟨s, rfl⟩
  | ok headers => exact ⟨_, rfl⟩

end Reliastra.Source.Evidence
