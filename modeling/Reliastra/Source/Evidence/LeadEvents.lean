import Mathlib.Data.Rat.Floor
import Reliastra.Source.Evidence.Gate

/-!
# Lead events and the statistics of the gate

Source: `process_gate`, `download_evidence` and `get_stats` of
`app/modules/evidence_gate/service.py` with `LeadCaptureEventRepository`. The gate
is as in `Reliastra.Source.Evidence.Gate`; here are the rows and counters it leaves
behind for the statistics.

A rate is an exact quotient of two counts, rounded to two digits.
-/

namespace Reliastra.Source.Evidence

open Reliastra.Library Auth Organizations Api

structure LeadCaptureEvent where
  id : Uuid
  source : String
  email : String
  userId : Option Uuid
  vendorName : Option String
  incidentId : Option Uuid
  refCode : Option String
  ipAddress : Option String
  userAgent : Option String
  convertedToSignup : Bool
  convertedAt : Option Instant
  /-- `metadata_["account_created"]`. -/
  accountCreated : Bool
  deriving DecidableEq, Repr

/-- The gate with its lead events. `accounts_created` and `download_count` are the
columns of a public record, by its id. -/
structure FunnelStore extends GateStore where
  leads : Table LeadCaptureEvent.id
  accountsCreated : Uuid → Nat
  downloadCount : Uuid → Nat

structure GateVisit extends EvidenceGateRequest where
  refCode : Option String
  userAgent : Option String
  deriving DecidableEq, Repr

/-! ## The repository -/

/-- `increment_accounts_created`, `increment_download_count`. -/
def increment (column : Uuid → Nat) (reportId : Uuid) : Uuid → Nat :=
  fun id => if id = reportId then column id + 1 else column id

/-- The rows `mark_converted` updates. -/
def Unclaimed (email : String) (event : LeadCaptureEvent) : Prop :=
  event.email = email ∧ event.userId = none

instance (email : String) : DecidablePred (Unclaimed email) :=
  fun _ => inferInstanceAs (Decidable (_ ∧ _))

/-- A row after `mark_converted`. -/
def converted (userId : Uuid) (email : String) (now : Instant) (event : LeadCaptureEvent) :
    LeadCaptureEvent :=
  if Unclaimed email event then
    { event with userId := some userId, convertedToSignup := true, convertedAt := some now }
  else event

theorem converted_keeps (userId : Uuid) (email : String) (now : Instant)
    (event : LeadCaptureEvent) : (converted userId email now event).id = event.id := by
  unfold converted
  split <;> rfl

def markConverted (leads : Table LeadCaptureEvent.id) (userId : Uuid) (email : String)
    (now : Instant) : Table LeadCaptureEvent.id :=
  leads.mapRows (converted userId email now) (converted_keeps userId email now)

def leadEvent (env : GateEnvironment) (request : GateVisit) (clientIp : Option String)
    (userId : Uuid) (accountCreated : Bool) : LeadCaptureEvent where
  id := env.service.newId 4
  source := "evidence_download"
  email := request.email
  userId := some userId
  vendorName := some request.vendorName
  incidentId := some request.incidentId
  refCode := request.refCode
  ipAddress := clientIp
  userAgent := request.userAgent
  convertedToSignup := false
  convertedAt := none
  accountCreated := accountCreated

/-! ## The two requests -/

/-- The end of `process_gate`: the token and the lead event. -/
def issueToken (env : GateEnvironment) (request : GateVisit) (clientIp : Option String)
    (userId : Uuid) (accountCreated : Bool) (pubReport : PublicEvidenceReport) (s : FunnelStore) :
    Except Failure (EvidenceGateResponse × FunnelStore) := do
  let tokens ← insertToken s.tokens
    (gateToken env request.toEvidenceGateRequest clientIp userId pubReport)
  let leads ← flushNew s.leads (leadEvent env request clientIp userId accountCreated)
  return (gateResponse env pubReport accountCreated, { s with tokens := tokens, leads := leads })

/-- `process_gate`. -/
def visitGate (env : GateEnvironment) (request : GateVisit) (clientIp : Option String)
    (s : FunnelStore) : Except Failure (EvidenceGateResponse × FunnelStore) := do
  let pubReport ← gatedReport env request.toEvidenceGateRequest s.platform
  match userByEmail env.service s.platform request.email with
  | some user => issueToken env request clientIp user.id false pubReport s
  | none => do
    let platform ← openGateAccount env request.toEvidenceGateRequest s.platform
    let userId := env.service.newId 0
    issueToken env request clientIp userId true pubReport
      { s with
        platform := platform
        accountsCreated := increment s.accountsCreated pubReport.id
        leads := markConverted s.leads userId request.email env.service.now }

/-- `download_evidence`. -/
def countedDownload (env : GateEnvironment) (token : String) (s : FunnelStore) :
    Except Failure ((List UInt8 × String) × FunnelStore) := do
  let (gateToken, pubReport, _) ← downloadable env token s.toGateStore
  let (file, gate) ← downloadEvidence env token s.toGateStore
  return (file, { s with
    toGateStore := gate
    downloadCount := if gateToken.downloadedAt = none then
      increment s.downloadCount pubReport.id else s.downloadCount })

/-- The part of `process_gate` that the gate model has. -/
theorem visitGate_gate {env : GateEnvironment} {request : GateVisit} {clientIp : Option String}
    {s after : FunnelStore} {response : EvidenceGateResponse}
    (success : visitGate env request clientIp s = .ok (response, after)) :
    processGate env request.toEvidenceGateRequest clientIp s.toGateStore =
      .ok (response, after.toGateStore) := by
  unfold visitGate at success
  obtain ⟨pubReport, gated, success⟩ := bind_eq_ok success
  unfold processGate
  rw [gated]
  cases known : userByEmail env.service s.platform request.email with
  | some user =>
    simp only [known] at success
    unfold issueToken at success
    obtain ⟨tokens, inserted, success⟩ := bind_eq_ok success
    obtain ⟨leads, logged, success⟩ := bind_eq_ok success
    cases success
    simp only [bind, Except.bind, inserted]
    rfl
  | none =>
    simp only [known] at success
    obtain ⟨platform, opened, success⟩ := bind_eq_ok success
    unfold issueToken at success
    obtain ⟨tokens, inserted, success⟩ := bind_eq_ok success
    obtain ⟨leads, logged, success⟩ := bind_eq_ok success
    cases success
    simp only [bind, Except.bind, opened, inserted]
    rfl

/-! ## Statistics -/

def FunnelStore.totalDownloads (s : FunnelStore) : Nat :=
  s.tokens.rows.countP (fun token => token.downloadedAt.isSome)

def FunnelStore.totalAccountsCreated (s : FunnelStore) : Nat :=
  (s.platform.workspace.publicReports.rows.map (fun report => s.accountsCreated report.id)).sum

def IsConversion (event : LeadCaptureEvent) : Prop :=
  event.source = "evidence_download" ∧ event.convertedToSignup = true

instance : DecidablePred IsConversion := fun _ => inferInstanceAs (Decidable (_ ∧ _))

/-- `round(value, 2)`, to the even neighbour from halfway. -/
def round2 (value : ℚ) : ℚ :=
  let scaled := value * 100
  let below := ⌊scaled⌋
  (if scaled - below < 1 / 2 then below
  else if 1 / 2 < scaled - below then below + 1
  else if below % 2 = 0 then below else below + 1) / 100

def FunnelStore.conversionRate (s : FunnelStore) : ℚ :=
  if s.totalDownloads = 0 then 0
  else round2 (s.leads.rows.countP (fun event => decide (IsConversion event)) /
    s.totalDownloads * 100)

/-- A row of the ranking. -/
structure VendorCount where
  vendorName : Option String
  count : Nat
  deriving DecidableEq, Repr

/-- The groups of `get_top_vendors`. -/
def FunnelStore.vendorCounts (s : FunnelStore) : List VendorCount :=
  let vendors := (s.leads.rows.filter (fun e => e.source = "evidence_download")).map (·.vendorName)
  vendors.dedup.map (fun name => ⟨name, vendors.count name⟩)

structure RecentConversion where
  email : String
  vendorName : Option String
  convertedAt : Option Instant
  deriving DecidableEq, Repr

/-- The orders the database chooses among groups of one size, and among conversions
of one instant. -/
structure StatsOrder where
  vendors : OrderBy (fun group : VendorCount => -(group.count : Int))
  /-- Every conversion has its instant. -/
  conversions : OrderBy (fun event : LeadCaptureEvent => -(event.convertedAt.getD 0))

def FunnelStore.topVendors (s : FunnelStore) (order : StatsOrder) : List VendorCount :=
  (order.vendors.arrange s.vendorCounts).take 10

def FunnelStore.recentConversions (s : FunnelStore) (order : StatsOrder) : List RecentConversion :=
  ((order.conversions.arrange
      (s.leads.rows.filter (fun event => decide (IsConversion event)))).take 10).map
    (fun event => ⟨event.email, event.vendorName, event.convertedAt⟩)

structure EvidenceGateStats where
  totalGatedDownloads : Nat
  totalAccountsCreated : Nat
  conversionRate : ℚ
  topVendors : List VendorCount
  recentConversions : List RecentConversion
  deriving DecidableEq

/-- `get_stats`; the argument is read by none of its queries. -/
def getStats (order : StatsOrder) (_orgId : Uuid) (s : FunnelStore) : EvidenceGateStats where
  totalGatedDownloads := s.totalDownloads
  totalAccountsCreated := s.totalAccountsCreated
  conversionRate := s.conversionRate
  topVendors := s.topVendors order
  recentConversions := s.recentConversions order

/-- `get_evidence_gate_stats`, which hands over the id of the caller. -/
def getEvidenceGateStats (order : StatsOrder) (currentUser : Uuid) (s : FunnelStore) :
    EvidenceGateStats := getStats order currentUser s

end Reliastra.Source.Evidence
