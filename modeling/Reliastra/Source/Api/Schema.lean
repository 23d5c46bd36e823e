import Reliastra.Library.Ownership
import Reliastra.Source.Auth.CurrentUser
import Reliastra.Source.Billing.Service
import Reliastra.Source.Checks.Quorum

/-!
# The tables behind the routes a key reaches

Source: the `models.py` files of the modules whose handlers a request
authenticated with an API key can enter. A row has the columns these handlers
read or write; counters, time stamps nobody reads and the payloads of the audit
log are left out. A dictionary column is the JSON document it stores.

`ServiceEnvironment` is what a handler gets from outside the database.
-/

namespace Reliastra.Source.Api

open Reliastra.Library Auth Organizations Checks

structure Organization where
  id : Uuid
  name : String
  slug : String
  plan : Plan
  hasAgencyMode : Bool
  createdAt : Instant
  deriving DecidableEq, Repr

structure Client where
  id : Uuid
  orgId : Uuid
  name : String
  description : Option String
  deriving DecidableEq, Repr

structure Application where
  id : Uuid
  orgId : Uuid
  clientId : Option Uuid
  name : String
  description : Option String
  createdAt : Instant
  deriving DecidableEq, Repr

structure Dependency where
  id : Uuid
  orgId : Uuid
  applicationId : Option Uuid
  name : String
  endpointUrl : String
  method : String
  headers : Option Json
  expectedStatusCodes : List Int
  timeoutSeconds : Int
  checkIntervalSeconds : Int
  nextCheckAt : Option Instant
  regions : List String
  alertThresholdMs : Option Int
  isActive : Bool
  isDeleted : Bool

structure Incident where
  id : Uuid
  orgId : Uuid
  dependencyId : Uuid
  startedAt : Instant
  resolvedAt : Option Instant
  severity : String
  status : IncidentStatus
  rootCause : String
  description : Option String
  deriving DecidableEq, Repr

structure IncidentCorrelation where
  id : Uuid
  incidentId : Uuid
  correlatedDependencyId : Uuid
  correlationConfidence : Json
  timeWindowSeconds : Int
  correlationMethod : String

/-- What the attribution engine computes. -/
structure Attribution where
  classification : String
  confidenceScore : Json
  signalBreakdown : Json
  supportingEvidence : Json
  contradictingEvidence : Json
  methodologyVersion : String

structure AttributionResult where
  id : Uuid
  incidentId : Uuid
  orgId : Uuid
  suspectedDependencyId : Uuid
  attribution : Attribution

structure EvidenceReport where
  id : Uuid
  orgId : Uuid
  incidentId : Uuid
  filePath : String
  fileSizeBytes : Nat
  checksum : String
  generatedAt : Instant
  deriving DecidableEq, Repr

structure EvidenceSnapshot where
  id : Uuid
  incidentId : Uuid
  orgId : Uuid
  dependencyId : Uuid
  timeWindowStart : Instant
  timeWindowEnd : Instant
  observationIds : List String
  attributionResult : Option Json
  methodologyVersion : String
  dataHash : String
  verificationId : String
  reportFilePath : String
  reportChecksum : String
  jsonEvidencePath : String

structure PublicEvidenceReport where
  id : Uuid
  incidentId : Uuid
  vendorName : String
  reportId : Uuid
  isPublic : Bool
  customTitle : Option String
  customSummary : Option String
  createdAt : Instant
  deriving DecidableEq, Repr

structure AlertConfig where
  id : Uuid
  orgId : Uuid
  channelType : String
  config : Json
  isActive : Bool

structure AIProvider where
  id : Uuid
  organizationId : Uuid
  name : String
  providerType : String
  endpointUrl : String
  encryptedApiKey : Option String
  modelName : String
  isDefault : Bool
  maxTokens : Int
  temperature : Json
  enabled : Bool

structure Webhook where
  id : Uuid
  orgId : Uuid
  name : String
  url : String
  events : List String
  secretHash : Option String
  customHeaders : Option Json
  isActive : Bool
  createdBy : Uuid
  isDeleted : Bool

structure StatusPage where
  id : Uuid
  orgId : Uuid
  slug : String
  title : String
  showUptimeGraph : Bool
  showIncidentHistory : Bool
  branding : Option Json
  allowedDomains : Option (List String)
  isActive : Bool

structure AuditLog where
  id : Uuid
  orgId : Option Uuid
  userId : Option Uuid
  eventType : String
  resourceType : String
  resourceId : Uuid
  deriving DecidableEq, Repr

structure OrgPlanOverride where
  id : Uuid
  orgId : Uuid
  overrideType : String
  overrideValue : Int
  source : String
  sourceReferralId : Option Uuid
  isActive : Bool
  expiresAt : Option Instant
  deriving DecidableEq, Repr

structure ReferralCode where
  id : Uuid
  userId : Uuid
  code : String
  isActive : Bool
  deriving DecidableEq, Repr

structure Referral where
  id : Uuid
  referrerId : Uuid
  referredId : Uuid
  referredOrgId : Option Uuid
  status : String
  activatedAt : Option Instant
  deriving DecidableEq, Repr

structure ReferralReward where
  id : Uuid
  referralId : Uuid
  beneficiaryUserId : Uuid
  beneficiaryOrgId : Option Uuid
  type : String
  value : Int
  status : String
  activatedAt : Option Instant
  expiresAt : Option Instant
  claimedAt : Option Instant
  deriving DecidableEq, Repr

structure VendorSubmission where
  id : Uuid
  vendorName : String
  displayName : String
  category : Option String
  websiteUrl : Option String
  status : String
  reviewNote : Option String
  /-- A foreign key to `users`. -/
  reviewedBy : Option Uuid
  reviewedAt : Option Instant
  deriving DecidableEq, Repr

structure VendorTracking where
  id : Uuid
  vendorName : String
  displayName : String
  endpointUrl : String
  category : String
  isPublic : Bool
  deriving DecidableEq, Repr

structure VendorEndpoint where
  id : Uuid
  vendorId : Uuid
  endpointUrl : String
  checkIntervalSeconds : Int
  regions : List String
  isActive : Bool
  healthStatus : String
  deriving DecidableEq, Repr

structure TimelineShare where
  id : Uuid
  vendorName : String
  userId : Option Uuid
  shareToken : String
  window : String
  region : String
  note : Option String
  utmSource : Option String
  viewCount : Int
  expiresAt : Instant
  deriving DecidableEq, Repr

/-- What users earn by referring others, the vendors all organizations share, and
the links to their timelines: none of these rows belongs to an organization. -/
structure Community where
  referralCodes : Table ReferralCode.id
  referrals : Table Referral.id
  rewards : Table ReferralReward.id
  submissions : Table VendorSubmission.id
  vendors : Table VendorTracking.id
  vendorEndpoints : Table VendorEndpoint.id
  timelineShares : Table TimelineShare.id

/-- The partner program's tables without the memberships. -/
structure PartnerTables where
  profiles : Table Partners.PartnerProfile.id
  referrals : Table Partners.PartnerReferral.id
  commissions : Table Partners.PartnerCommission.id
  payouts : Table Partners.PartnerPayout.id

/-- What organizations own, row by row. -/
structure Workspace where
  clients : Table Client.id
  applications : Table Application.id
  dependencies : Table Dependency.id
  incidents : Table Incident.id
  correlations : Table IncidentCorrelation.id
  attributionResults : Table AttributionResult.id
  evidenceReports : Table EvidenceReport.id
  evidenceSnapshots : Table EvidenceSnapshot.id
  publicReports : Table PublicEvidenceReport.id
  alertConfigs : Table AlertConfig.id
  aiProviders : Table AIProvider.id
  webhooks : Table Webhook.id
  statusPages : Table StatusPage.id
  subscriptions : Table Billing.Subscription.organizationId
  planOverrides : Table OrgPlanOverride.id
  auditLogs : Table AuditLog.id

structure Platform where
  users : Table Account.id
  organizations : Table Organization.id
  members : Table OrganizationMember.id
  apiKeys : Table ApiKey.id
  workspace : Workspace
  community : Community
  partners : PartnerTables

def Platform.directory (s : Platform) : Directory := ⟨s.users, s.apiKeys, s.members.rows⟩

/-! ## The billing service's view -/

def Platform.ledger (s : Platform) : Partners.Ledger :=
  ⟨s.members.rows, s.partners.profiles, s.partners.referrals, s.partners.commissions,
    s.partners.payouts⟩

def Platform.billing (s : Platform) : Billing.Database where
  organizations := s.organizations.project (fun org => ⟨org.id, org.plan⟩) (fun _ => rfl)
  subscriptions := s.workspace.subscriptions
  users := s.users.project (fun user => ⟨user.id, user.email⟩) (fun _ => rfl)
  ledger := s.ledger

/-- The plan the billing service left an organization with. -/
def planIn (db : Billing.Database) (org : Organization) : Plan :=
  ((db.organizations.get? org.id).map (·.plan)).getD org.plan

def partnerTables (ledger : Partners.Ledger) : PartnerTables :=
  ⟨ledger.profiles, ledger.referrals, ledger.commissions, ledger.payouts⟩

/-- The database after the billing service wrote its part. -/
def Platform.withBilling (s : Platform) (db : Billing.Database) : Platform :=
  let organizations :=
    s.organizations.mapRows (fun org => { org with plan := planIn db org }) (fun _ => rfl)
  { s with
    organizations := organizations
    workspace := { s.workspace with subscriptions := db.subscriptions }
    partners := partnerTables db.ledger }

/-! ## What handlers are given -/

/-- What the evidence service renders and uploads for an incident. -/
structure Rendering where
  reportPath : String
  jsonPath : String
  fileSizeBytes : Nat
  checksum : String
  observationIds : List String
  attribution : Option Json
  methodologyVersion : String
  dataHash : String
  verificationId : String

structure GeneratedKey where
  keyPrefix : String
  hashedKey : String

structure ServiceEnvironment where
  credentials : CredentialEnvironment
  billing : Billing.BillingSettings
  now : Instant
  /-- The values `uuid.uuid4()` returns to this request. -/
  newId : Nat → Uuid
  /-- `str.lower()`. -/
  lower : String → String
  /-- `get_password_hash`. -/
  passwordHash : String → String
  /-- `encrypt_jsonb`, and the Fernet encryption of a signing secret. -/
  encryptJsonb : Json → String
  encryptSecret : String → String
  /-- `secrets.token_urlsafe(32)`. -/
  generatedSecret : String
  generatedKey : GeneratedKey
  /-- `uuid.uuid4().hex[:8]`. -/
  slugSuffix : String
  /-- The candidates `_generate_unique_code` draws for a name, and its last resort. -/
  referralCodes : String → List String
  longReferralCode : String → String
  /-- `validate_outbound_url`; the text of its `ValueError`. -/
  validateOutboundUrl : String → Except String Unit
  /-- The attribution engine; `none` where it fails inside its savepoint. -/
  computeAttribution : Workspace → Incident → Option Attribution
  /-- Rendering and upload of an evidence report. -/
  renderEvidence : Workspace → Incident → Dependency → Except Failure Rendering
  /-- Paystack's answer to `transaction/verify`. -/
  paystack : String → Billing.PaystackReply
  /-- `timeline_share_limiter`, for the client of this request. -/
  admitsShare : Except Failure Unit
  /-- Whether the rows this request flushes meet the constraints of the schema
  that the tables do not state (column lengths, unique columns, foreign keys). -/
  accepts : Bool

/-! ## Queries and statements -/

def notFound (message : String) : Failure := .app (resourceNotFoundException message)

def conflict (message : String) : Failure := .app (conflictException message)

def invalid (message : String) : Failure := .app (validationException message)

def forbidden (message : String) : Failure := .app (forbiddenException message)

variable {ρ κ : Type} {key : ρ → κ}

/-- `if not row: raise`. -/
def require (row : Option ρ) (missing : Failure) : Except Failure ρ :=
  match row with
  | some row => .ok row
  | none => .error missing

/-- `if not row or row.org_id != org_id: raise ResourceNotFoundException`. -/
def requireOwned (row : Option ρ) (orgOf : ρ → Uuid) (orgId : Uuid) (message : String) :
    Except Failure ρ :=
  match row with
  | some row => if orgOf row = orgId then .ok row else .error (notFound message)
  | none => .error (notFound message)

/-- `if condition: raise`. -/
def refuseIf (condition : Prop) [Decidable condition] (failure : Failure) : Except Failure Unit :=
  if condition then .error failure else .ok ()

/-- `if value is not None`, for a check. -/
def whenGiven {α : Type} (value : Option α) (check : α → Except Failure Unit) :
    Except Failure Unit :=
  match value with
  | some value => check value
  | none => .ok ()

/-- `scalar_one_or_none`. -/
def oneOrNone : List ρ → Except Failure (Option ρ)
  | [] => .ok none
  | [row] => .ok (some row)
  | _ => .error (.python "MultipleResultsFound")

/-- `session.add` and `flush` of a new row. -/
def flushNew [DecidableEq κ] (t : Table key) (row : ρ) : Except Failure (Table key) :=
  match t.insert row with
  | some t => .ok t
  | none => .error (.flush "pkey")

theorem mem_of_oneOrNone {rows : List ρ} {row : ρ}
    (success : oneOrNone rows = .ok (some row)) : row ∈ rows := by
  unfold oneOrNone at success
  split at success
  · cases success
  · cases success
    exact List.mem_singleton_self _
  · cases success

theorem nil_of_oneOrNone {rows : List ρ} (success : oneOrNone rows = .ok none) : rows = [] := by
  unfold oneOrNone at success
  split at success
  · rfl
  · cases success
  · cases success

@[simp] theorem require_eq_ok {row : Option ρ} {missing : Failure} {found : ρ} :
    require row missing = .ok found ↔ row = some found := by
  cases row with
  | none => simp [require]
  | some row => simp [require]

@[simp] theorem requireOwned_eq_ok {row : Option ρ} {orgOf : ρ → Uuid} {orgId : Uuid}
    {message : String} {found : ρ} :
    requireOwned row orgOf orgId message = .ok found ↔ row = some found ∧ orgOf found = orgId := by
  cases row with
  | none => simp [requireOwned]
  | some row =>
    by_cases owned : orgOf row = orgId
    · simp only [requireOwned, owned, if_true, Except.ok.injEq, Option.some.injEq]
      exact ⟨fun same => ⟨same, same ▸ owned⟩, fun both => both.1⟩
    · simp only [requireOwned, owned, if_false, Option.some.injEq, reduceCtorEq, false_iff]
      rintro ⟨rfl, here⟩
      exact owned here

@[simp] theorem refuseIf_eq_ok {condition : Prop} [Decidable condition] {failure : Failure}
    {value : Unit} : refuseIf condition failure = .ok value ↔ ¬ condition := by
  unfold refuseIf
  split
  · next holds => simp [holds]
  · next fails => simp [fails]

theorem error_of_bind {α β : Type} {first : Except Failure α} {rest : α → Except Failure β}
    {failure : Failure} (failed : first >>= rest = .error failure) :
    first = .error failure ∨ ∃ value, first = .ok value ∧ rest value = .error failure := by
  cases first with
  | error failure' =>
    cases failed
    exact .inl rfl
  | ok value => exact .inr ⟨value, rfl, failed⟩

theorem refuseIf_error {condition : Prop} [Decidable condition] {failure failure' : Failure}
    (refused : refuseIf condition failure = .error failure') : failure' = failure := by
  unfold refuseIf at refused
  split at refused
  · cases refused
    rfl
  · cases refused

@[simp] theorem flushNew_eq_ok [DecidableEq κ] {t u : Table key} {row : ρ} :
    flushNew t row = .ok u ↔ t.insert row = some u := by
  unfold flushNew
  cases t.insert row with
  | none => simp
  | some inserted => simp

/-- A row is taken whose key no stored row has. -/
theorem flushNew_isOk_iff [DecidableEq κ] (t : Table key) (row : ρ) :
    (∃ u, flushNew t row = .ok u) ↔ key row ∉ t.rows.map key := by
  simp only [flushNew_eq_ok, Table.insert_isSome_iff]

theorem bind_eq_ok_iff {ε α β : Type} {first : Except ε α} {rest : α → Except ε β} {result : β} :
    first >>= rest = .ok result ↔ ∃ value, first = .ok value ∧ rest value = .ok result := by
  cases first with
  | error failure => simp [bind, Except.bind]
  | ok value => simp [bind, Except.bind]

/-- A step of a handler that went on. -/
theorem bind_eq_ok {ε α β : Type} {first : Except ε α} {rest : α → Except ε β} {result : β}
    (success : first >>= rest = .ok result) :
    ∃ value, first = .ok value ∧ rest value = .ok result :=
  bind_eq_ok_iff.mp success

/-- A server without a payment provider, mail, storage or attribution. -/
def plainServer (credentials : CredentialEnvironment) : ServiceEnvironment where
  credentials := credentials
  billing := ⟨"", {}⟩
  now := 0
  newId n := 100 + n
  lower := Text.lower
  passwordHash password := "$2b$12$" ++ password
  encryptJsonb _ := ""
  encryptSecret secret := secret
  generatedSecret := "c2VjcmV0"
  generatedKey := ⟨"rel_d4d4", ""⟩
  slugSuffix := "d4d4d4d4"
  referralCodes _ := []
  longReferralCode name := name
  validateOutboundUrl _ := .ok ()
  computeAttribution _ _ := none
  renderEvidence _ _ _ := .error (.python "OSError")
  paystack _ := .httpError
  admitsShare := .ok ()
  accepts := true

def memberIdText : String := "00000000-0000-0000-0000-00000000000b"

def betaIdText : String := "00000000-0000-0000-0000-000000000002"

def acmeIdText : String := "00000000-0000-0000-0000-000000000001"

/-- A server that knows one access token. -/
def oneTokenCredentials : CredentialEnvironment where
  host :=
    { containerText := fun _ => ""
      uuidOfText := fun text =>
        if text = memberIdText then some 11
        else if text = betaIdText then some 2
        else if text = acmeIdText then some 1
        else none
      intOfText := fun _ => none
      fromisoformat := fun _ => none
      hmacSha512Hex := fun _ _ => "" }
  decodeToken token _ :=
    if token = "eyJ.access" then
      .ok (.obj [("type", .str "access"), ("sub", .str memberIdText)])
    else .error (.app (unauthorizedException "Invalid token"))
  sha256Hex _ := ""
  httpBearer header :=
    let parts := Text.partitionSpace (header.getD "")
    if Text.lower parts.1 = "bearer" ∧ parts.2 ≠ "" then some ⟨parts.1, parts.2⟩ else none
  verifyApiKey _ _ := false
  enforceRateLimit _ := .ok ()

end Reliastra.Source.Api
