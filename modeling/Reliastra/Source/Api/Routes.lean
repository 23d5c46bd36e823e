import Reliastra.Source.Api.Community
import Reliastra.Source.Api.Integrations

/-!
# The routes behind authentication

Source: the `router.py` files, `get_current_org` and `require_role` of
`app/dependencies.py`, `app/core/tenant.py`, `require_system_admin` of
`app/modules/admin/guards.py`, `require_partner_user` of
`app/modules/partners/router.py` and `create_timeline_share` of
`app/modules/timeline_share/router.py`.

Every route that calls `get_current_user` is here: those that take only the
user, those that take the organization as well, the two groups behind a guard of
their own, and the public one that asks who is calling. Of a partner or
administration route the model keeps the guard; its handler is a parameter. A
reading route selects rows, and may call another server, but flushes nothing.
-/

namespace Reliastra.Source.Api

open Reliastra.Library Auth Organizations

/-! ## Guards -/

/-- `extract_organization_id`; `TenantContextMiddleware` answers a header that is
no UUID. -/
def extractOrganizationId (host : Runtime) (request : Request) : Except Failure (Option Uuid) :=
  match [request.organizationId, request.reliastraOrganization].findSome? nonempty with
  | none => .ok none
  | some raw =>
    match host.uuidOfText (Text.strip raw) with
    | some orgId => .ok (some orgId)
    | none => .error (.app ⟨"Invalid organization header", 400, "VALIDATION_ERROR"⟩)

/-- `get_current_org`, with the role it leaves in `request.state`. -/
def getCurrentOrg (s : Platform) (principal : Principal) (user : Account)
    (header : Option Uuid) : Except Failure (Organization × Role) :=
  match principal with
  | .apiKey key => do
    refuseIf (∃ orgId ∈ header, orgId ≠ key.orgId)
      (forbidden "API key is not authorized for this organization")
    let org ← require (s.organizations.get? key.orgId) (notFound "Organization not found")
    return (org, .admin)
  | .jwt _ => do
    let orgId ← require header
      (forbidden "Organization context required. Send X-Organization-ID or Reliastra-Organization.")
    let members := s.members.rows.filter (fun m =>
      m.orgId = orgId ∧ m.userId = user.id ∧ m.isDeleted = false)
    let member ← oneOrNone members
    let member ← require member (forbidden "User is not a member of this organization")
    let org ← require (s.organizations.get? orgId) (notFound "Organization not found")
    return (org, member.role)

/-- `require_role`, where a route has one. -/
def requireRole (userRole : Role) (minRole : Option Role) : Except Failure Unit :=
  match minRole with
  | none => .ok ()
  | some minRole =>
    refuseIf (¬ hasPermission userRole minRole)
      (forbidden ("Action requires at least '" ++ minRole.value ++ "' role, but user has '" ++
        userRole.value ++ "' role."))

def requirePartnerUser (principal : Principal) : Except Failure Unit :=
  match principal with
  | .apiKey _ => .error
      (forbidden "Organization API keys cannot access partner self-service routes")
  | .jwt _ => .ok ()

def requireSystemAdmin (user : Account) : Except Failure Unit :=
  refuseIf (user.isSystemAdmin = false) (forbidden "System admin access required")

/-! ## Routes that take the user -/

inductive UserRead where
  | getMyProfile | listMyOrganizations | getActiveAnnouncements
  deriving DecidableEq, Repr

inductive UserEndpoint where
  | read (route : UserRead)
  | updateMyProfile (request : UserUpdateRequest)
  | createOrganization (request : OrganizationCreateRequest)
  | getMyReferral
  | claimReward (rewardId : Uuid)

def UserEndpoint.run (env : ServiceEnvironment) (userId : Uuid) (s : Platform) :
    UserEndpoint → Except Failure Platform
  | .read _ => .ok s
  | .updateMyProfile request => updateProfile env userId request s
  | .createOrganization request => createOrg env userId request s
  | .getMyReferral => getReferralInfo env userId s
  | .claimReward rewardId => Api.claimReward env userId rewardId s

/-! ## Routes that take the organization -/

inductive OrgRead where
  | listClients | listApplications
  | listDependencies | getDependency | getDependencyCheckResults | getDependencyHistory
  | listRecentCheckResults
  | listIncidents | getIncident
  | listEvidenceReports | getEvidenceReport | getEvidenceGateStats
  | listAlertConfigs | getAlertConfig | sendTestNotification
  | listWebhooks | testWebhook | listDeliveries
  | listAiProviders | testAiProvider
  | listApiKeys
  | getOrganization | listOrganizationMembers
  | getOrganizationPlan | initializePayment
  | getOrgStatusPage
  | getDashboardSummary | getLatencyTimeseries | getSlaDegradation | getDependencyHealth
  | getIncidentTimeline | getVendorStatus
  | listSubmissions
  deriving DecidableEq, Repr

def OrgRead.minRole : OrgRead → Option Role
  | .getEvidenceGateStats | .testAiProvider | .initializePayment | .listSubmissions => some .admin
  | .sendTestNotification | .listWebhooks | .testWebhook | .listDeliveries
  | .getOrgStatusPage => some .member
  | _ => none

inductive OrgEndpoint where
  | read (route : OrgRead)
  | updateOrganization (request : OrganizationUpdateRequest)
  | inviteOrganizationMember (request : OrganizationMemberInviteRequest)
  | changeOrganizationMemberRole (memberId : Uuid) (role : Role)
  | removeOrganizationMember (memberId : Uuid)
  | createClient (request : ClientCreateRequest)
  | createApplication (clientId : Uuid) (request : ApplicationCreateRequest)
  | createApiKey (request : ApiKeyCreateRequest)
  | revokeApiKey (keyId : Uuid)
  | createOrgStatusPage (request : StatusPageConfigRequest)
  | createDependency (request : DependencyCreateRequest)
  | updateDependency (depId : Uuid) (request : DependencyUpdateRequest)
  | deleteDependency (depId : Uuid)
  | updateIncident (incId : Uuid) (request : IncidentUpdateRequest)
  | correlateIncident (incId : Uuid) (request : IncidentCorrelateRequest)
  | getIncidentEvidence (incId : Uuid)
  | regenerateEvidenceReport (reportId : Uuid)
  | publicizeEvidence (request : PublicizeEvidenceRequest)
  | createAlertConfig (request : AlertConfigCreateRequest)
  | updateAlertConfig (configId : Uuid) (request : AlertConfigUpdateRequest)
  | deleteAlertConfig (configId : Uuid)
  | createWebhook (request : WebhookCreateRequest)
  | updateWebhook (webhookId : Uuid) (request : WebhookUpdateRequest)
  | deleteWebhook (webhookId : Uuid)
  | createAiProvider (request : AIProviderCreateRequest)
  | updateAiProvider (providerId : Uuid) (request : AIProviderUpdateRequest)
  | deleteAiProvider (providerId : Uuid)
  | verifyTransaction (reference : String)
  | approveSubmission (submissionId : Uuid) (request : ApproveVendorRequest)
  | rejectSubmission (submissionId : Uuid) (reason : String)

def OrgEndpoint.minRole : OrgEndpoint → Option Role
  | .read route => route.minRole
  | .changeOrganizationMemberRole _ _ => some .owner
  | .getIncidentEvidence _ => none
  | .regenerateEvidenceReport _ | .createAlertConfig _ | .updateAlertConfig _ _
  | .deleteAlertConfig _ | .createWebhook _ | .updateWebhook _ _
  | .verifyTransaction _ => some .member
  | _ => some .admin

/-- `BillingService.verify_transaction`: the organization is the one in the
transaction's metadata. -/
def verifyPayment (env : ServiceEnvironment) (reference : String) (s : Platform) :
    Except Failure Platform :=
  match Billing.verifyTransaction env.credentials.host env.billing (env.paystack reference)
      reference env.now (env.newId 0) s.billing with
  | .ok (_, work) => if work.active then .ok (s.withBilling work.database) else .ok s
  | .error failure => .error failure

/-- The handlers; the routes on submissions pass what `require_admin` returns,
the organization, for the reviewer. -/
def OrgEndpoint.run (env : ServiceEnvironment) (userId orgId : Uuid) (s : Platform) :
    OrgEndpoint → Except Failure Platform
  | .read _ => .ok s
  | .updateOrganization request => updateOrg orgId request s
  | .inviteOrganizationMember request => inviteMember env orgId request s
  | .changeOrganizationMemberRole memberId role => changeMemberRole orgId memberId role s
  | .removeOrganizationMember memberId => removeMember orgId memberId s
  | .createClient request => Api.createClient env orgId request s
  | .createApplication clientId request => Api.createApplication env orgId clientId request s
  | .createApiKey request => createKey env orgId request s
  | .revokeApiKey keyId => revokeKey orgId keyId s
  | .createOrgStatusPage request => Api.createOrgStatusPage env orgId request s
  | .createDependency request => Api.createDependency env orgId request s
  | .updateDependency depId request => Api.updateDependency env orgId depId request s
  | .deleteDependency depId => Api.deleteDependency orgId depId s
  | .updateIncident incId request => Api.updateIncident env orgId incId request s
  | .correlateIncident incId request => manuallyCorrelate env orgId incId request s
  | .getIncidentEvidence incId => getOrTriggerEvidence env orgId incId s
  | .regenerateEvidenceReport reportId => regenerateReport env orgId reportId s
  | .publicizeEvidence request => Api.publicizeEvidence env orgId request s
  | .createAlertConfig request => createConfig env orgId request s
  | .updateAlertConfig configId request => updateConfig orgId configId request s
  | .deleteAlertConfig configId => deleteConfig orgId configId s
  | .createWebhook request => Api.createWebhook env orgId userId request s
  | .updateWebhook webhookId request => Api.updateWebhook env orgId webhookId request s
  | .deleteWebhook webhookId => Api.deleteWebhook orgId webhookId s
  | .createAiProvider request => createProvider env orgId request s
  | .updateAiProvider providerId request => updateProvider env orgId providerId request s
  | .deleteAiProvider providerId => deleteProvider env orgId providerId s
  | .verifyTransaction reference => verifyPayment env reference s
  | .approveSubmission submissionId request =>
    Api.approveSubmission env orgId submissionId request s
  | .rejectSubmission submissionId reason => Api.rejectSubmission env orgId submissionId reason s

/-! ## Requests -/

inductive Endpoint where
  | byUser (endpoint : UserEndpoint)
  | byOrganization (endpoint : OrgEndpoint)
  | byPartner (handler : Account → Platform → Except Failure Platform)
  | bySystemAdmin (handler : Account → Platform → Except Failure Platform)
  /-- `create_timeline_share`, which tries to identify the user and needs none. -/
  | timelineShare (vendorName : String) (request : TimelineShareCreateRequest)

structure Call where
  request : Request
  endpoint : Endpoint

/-- `get_current_user(request, db)` as `create_timeline_share` calls it: `bearer`
is then the default of the parameter, which has no credentials. -/
def getCurrentUserDirectly (env : ServiceEnvironment) (s : Platform) (request : Request) :
    Except Failure (Principal × Account) :=
  let authHeader := Text.strip (request.authorization.getD "")
  let apiKeyHeader := Text.strip (request.apiKey.getD "")
  if apiKeyHeader ≠ "" ∨ Text.startsWith (Text.lower authHeader) "rel_" then
    getCurrentUser env.credentials s.directory request none env.now
  else .error (.python "AttributeError")

/-- Who the route takes the request to come from. -/
def authenticate (env : ServiceEnvironment) (s : Platform) (call : Call) :
    Except Failure (Principal × Account) :=
  match call.endpoint with
  | .timelineShare _ _ => getCurrentUserDirectly env s call.request
  | _ => getCurrentUser env.credentials s.directory call.request none env.now

/-- What a request runs into, from the guards on. -/
def handle (env : ServiceEnvironment) (sender : Except Failure (Principal × Account))
    (header : Option Uuid) (s : Platform) : Endpoint → Except Failure Platform
  | .byUser endpoint => do
    let (_, user) ← sender
    endpoint.run env user.id s
  | .byOrganization endpoint => do
    let (principal, user) ← sender
    let (org, role) ← getCurrentOrg s principal user header
    requireRole role endpoint.minRole
    endpoint.run env user.id org.id s
  | .byPartner handler => do
    let (principal, user) ← sender
    requirePartnerUser principal
    handler user s
  | .bySystemAdmin handler => do
    let (_, user) ← sender
    requireSystemAdmin user
    handler user s
  | .timelineShare vendorName request => do
    env.admitsShare
    -- `except Exception: pass`
    createShareLink env vendorName (sender.toOption.map (·.2.id)) request s

/-- What `get_db` leaves committed: the handler's rows, where it returned and the
schema takes them. -/
def committed (env : ServiceEnvironment) (s : Platform) (result : Except Failure Platform) :
    Platform :=
  match result with
  | .ok after => if env.accepts then after else s
  | .error _ => s

def serve (env : ServiceEnvironment) (s : Platform) (call : Call) : Platform :=
  committed env s (do
    let header ← extractOrganizationId env.credentials.host call.request
    handle env (authenticate env s call) header s call.endpoint)

/-- The request is one of the user, for the organization it names, in the role
the user has there. -/
def ActsAs (env : ServiceEnvironment) (s : Platform) (request : Request) (user : Account)
    (org : Organization) (role : Role) : Prop :=
  ∃ header principal, extractOrganizationId env.credentials.host request = .ok header ∧
    getCurrentUser env.credentials s.directory request none env.now = .ok (principal, user) ∧
    getCurrentOrg s principal user header = .ok (org, role)

theorem serve_byOrganization {env : ServiceEnvironment} {s : Platform} {request : Request}
    {user : Account} {org : Organization} {role : Role} (endpoint : OrgEndpoint)
    (acts : ActsAs env s request user org role)
    (permitted : requireRole role endpoint.minRole = .ok ()) :
    serve env s ⟨request, .byOrganization endpoint⟩ =
      committed env s (endpoint.run env user.id org.id s) := by
  obtain ⟨header, principal, read, authenticated, entered⟩ := acts
  have sender : authenticate env s ⟨request, .byOrganization endpoint⟩ = .ok (principal, user) :=
    authenticated
  have handled : handle env (.ok (principal, user)) header s (.byOrganization endpoint) =
      endpoint.run env user.id org.id s := by
    simp only [handle, bind, Except.bind, entered, permitted]
  unfold serve
  rw [read, sender]
  simp only [bind, Except.bind]
  rw [handled]

/-- The request gets past the guards of a system-administration route. -/
def reachesAdministration (env : ServiceEnvironment) (s : Platform) (call : Call) : Prop :=
  match call.endpoint with
  | .bySystemAdmin _ =>
    ∃ header principal user, extractOrganizationId env.credentials.host call.request = .ok header ∧
      authenticate env s call = .ok (principal, user) ∧ requireSystemAdmin user = .ok ()
  | _ => False

end Reliastra.Source.Api
