import Reliastra.Source.Api.Routes

/-!
# The paths the mutating routes are registered under

Source: the decorators of the `router.py` files and the prefixes of their
routers. Only routes with a method other than `GET` are here, and only those on
which an API key can reach the handler: `apply` of the partner program refuses
keys, and the role of a key is below the one a change of a member's role needs.
The path of a request is the one its URL has after decoding.
-/

namespace Reliastra.Source.Api

open Auth

/-- A part of a path between slashes. -/
inductive Segment where
  | literal (text : String)
  /-- A parameter of type `str`. -/
  | text (value : String)
  /-- A parameter of type `uuid.UUID`; a text that is none is answered with 422. -/
  | uuid (id : Uuid)
  deriving DecidableEq, Repr

def Segment.Accepts (host : Runtime) (part : String) : Segment → Prop
  | .literal expected => part = expected
  | .text value => part = value ∧ part ≠ ""
  | .uuid id => host.uuidOfText part = some id

instance (host : Runtime) (part : String) : DecidablePred (Segment.Accepts host part) := fun
  | .literal expected => inferInstanceAs (Decidable (part = expected))
  | .text value => inferInstanceAs (Decidable (part = value ∧ part ≠ ""))
  | .uuid id => inferInstanceAs (Decidable (host.uuidOfText part = some id))

structure Route where
  method : String
  /-- The template, behind `/v1`. -/
  template : List Segment
  deriving DecidableEq, Repr

/-- The parts of a path, the first of which is what precedes the first slash. -/
def pathParts (path : String) : List String := (path.toList.splitOn '/').map String.ofList

def Route.Matches (host : Runtime) (method path : String) (route : Route) : Prop :=
  route.method = method ∧ List.Forall₂ (fun part segment => Segment.Accepts host part segment)
    (pathParts path) (.literal "" :: .literal "v1" :: route.template)

instance (host : Runtime) (method path : String) : DecidablePred (Route.Matches host method path) :=
  fun route => inferInstanceAs (Decidable (route.method = method ∧ List.Forall₂ _ _ _))

/-! ## Tables -/

def UserEndpoint.keyRoutes : UserEndpoint → List Route
  | .updateMyProfile _ => [⟨"PATCH", [.literal "users", .literal "me"]⟩]
  | .createOrganization _ => [⟨"POST", [.literal "orgs"]⟩]
  | .claimReward _ => [⟨"POST", [.literal "referrals", .literal "claim-reward"]⟩]
  | .read _ | .getMyReferral => []

/-- `resource` names what the route without a database effect calls a server about. -/
def OrgRead.keyRoutes (resource : Uuid) : OrgRead → List Route
  | .sendTestNotification => [⟨"POST", [.literal "notifications", .literal "test"]⟩]
  | .testWebhook => [⟨"POST", [.literal "webhooks", .uuid resource, .literal "test"]⟩]
  | .testAiProvider => [⟨"POST", [.literal "ai-providers", .uuid resource, .literal "test"]⟩]
  | .initializePayment => [⟨"POST", [.literal "billing", .literal "initialize"]⟩]
  | _ => []

def OrgEndpoint.keyRoutes (resource : Uuid) : OrgEndpoint → List Route
  | .read route => route.keyRoutes resource
  | .updateOrganization _ => [⟨"PATCH", [.literal "orgs", .literal "current"]⟩]
  | .inviteOrganizationMember _ => [⟨"POST", [.literal "orgs", .literal "members"]⟩]
  | .changeOrganizationMemberRole _ _ => []
  | .removeOrganizationMember memberId =>
    [⟨"DELETE", [.literal "orgs", .literal "members", .uuid memberId]⟩]
  | .createClient _ => [⟨"POST", [.literal "clients"]⟩]
  | .createApplication clientId _ =>
    [⟨"POST", [.literal "clients", .uuid clientId, .literal "applications"]⟩]
  | .createApiKey _ => [⟨"POST", [.literal "api-keys"]⟩]
  | .revokeApiKey keyId => [⟨"DELETE", [.literal "api-keys", .uuid keyId]⟩]
  | .createOrgStatusPage _ => [⟨"POST", [.literal "status-page"]⟩]
  | .createDependency _ => [⟨"POST", [.literal "dependencies"]⟩]
  | .updateDependency depId _ => [⟨"PATCH", [.literal "dependencies", .uuid depId]⟩]
  | .deleteDependency depId => [⟨"DELETE", [.literal "dependencies", .uuid depId]⟩]
  | .updateIncident incId _ => [⟨"PATCH", [.literal "incidents", .uuid incId]⟩]
  | .correlateIncident incId _ =>
    [⟨"POST", [.literal "incidents", .uuid incId, .literal "correlate"]⟩]
  | .getIncidentEvidence _ => []
  | .regenerateEvidenceReport reportId =>
    [⟨"POST", [.literal "evidence", .uuid reportId, .literal "regenerate"]⟩]
  | .publicizeEvidence _ => [⟨"POST", [.literal "evidence", .literal "publicize"]⟩]
  | .createAlertConfig _ => [⟨"POST", [.literal "notifications", .literal "configs"]⟩]
  | .updateAlertConfig configId _ =>
    [⟨"PATCH", [.literal "notifications", .literal "configs", .uuid configId]⟩]
  | .deleteAlertConfig configId =>
    [⟨"DELETE", [.literal "notifications", .literal "configs", .uuid configId]⟩]
  | .createWebhook _ => [⟨"POST", [.literal "webhooks"]⟩]
  | .updateWebhook webhookId _ => [⟨"PATCH", [.literal "webhooks", .uuid webhookId]⟩]
  | .deleteWebhook webhookId => [⟨"DELETE", [.literal "webhooks", .uuid webhookId]⟩]
  | .createAiProvider _ => [⟨"POST", [.literal "ai-providers"]⟩]
  | .updateAiProvider providerId _ => [⟨"PATCH", [.literal "ai-providers", .uuid providerId]⟩]
  | .deleteAiProvider providerId => [⟨"DELETE", [.literal "ai-providers", .uuid providerId]⟩]
  | .verifyTransaction _ => [⟨"POST", [.literal "billing", .literal "verify"]⟩]
  | .approveSubmission submissionId _ =>
    [⟨"POST", [.literal "vendors", .literal "submissions", .uuid submissionId, .literal "approve"]⟩]
  | .rejectSubmission submissionId _ =>
    [⟨"POST", [.literal "vendors", .literal "submissions", .uuid submissionId, .literal "reject"]⟩]

def customersRoutes (customerId : Uuid) : List Route :=
  [⟨"PATCH", [.uuid customerId]⟩,
    ⟨"POST", [.uuid customerId, .literal "impersonate"]⟩,
    ⟨"POST", [.uuid customerId, .literal "plan"]⟩,
    ⟨"POST", [.uuid customerId, .literal "email"]⟩,
    ⟨"POST", [.uuid customerId, .literal "deactivate"]⟩]

def supportRoutes (ticketId : Uuid) : List Route :=
  [⟨"POST", [.literal "tickets"]⟩,
    ⟨"PATCH", [.literal "tickets", .uuid ticketId]⟩,
    ⟨"POST", [.literal "tickets", .uuid ticketId, .literal "reply"]⟩,
    ⟨"POST", [.literal "tickets", .literal "bulk-update"]⟩]

def communicationsRoutes (id : Uuid) : List Route :=
  [⟨"POST", [.literal "campaigns"]⟩,
    ⟨"PATCH", [.literal "campaigns", .uuid id]⟩,
    ⟨"POST", [.literal "campaigns", .uuid id, .literal "send"]⟩,
    ⟨"POST", [.literal "notifications"]⟩,
    ⟨"POST", [.literal "announcements"]⟩,
    ⟨"PATCH", [.literal "announcements", .uuid id]⟩]

def adminUsersRoutes (userId : Uuid) : List Route :=
  [⟨"PATCH", [.uuid userId]⟩,
    ⟨"POST", [.uuid userId, .literal "impersonate"]⟩,
    ⟨"POST", [.literal "override-plan"]⟩,
    ⟨"POST", [.literal "send-email"]⟩]

def adminPartnersRoutes (id : Uuid) : List Route :=
  [⟨"POST", [.literal "commissions", .uuid id, .literal "reverse"]⟩,
    ⟨"POST", [.literal "payouts"]⟩,
    ⟨"POST", [.literal "payouts", .uuid id, .literal "process"]⟩,
    ⟨"PATCH", [.uuid id]⟩]

/-- `APIRouter(prefix="/v1/admin/" + name)`. -/
def underAdmin (name : String) (routes : List Route) : List Route :=
  routes.map (fun route => ⟨route.method, .literal "admin" :: .literal name :: route.template⟩)

def adminRoutes (resource : Uuid) : List Route :=
  underAdmin "customers" (customersRoutes resource) ++
    underAdmin "support" (supportRoutes resource) ++
    underAdmin "communications" (communicationsRoutes resource) ++
    underAdmin "users" (adminUsersRoutes resource) ++
    underAdmin "partners" (adminPartnersRoutes resource)

/-- The mutating routes whose handler an endpoint is, where a key reaches it. -/
def Endpoint.keyRoutes (resource : Uuid) : Endpoint → List Route
  | .byUser endpoint => endpoint.keyRoutes
  | .byOrganization endpoint => endpoint.keyRoutes resource
  | .byPartner _ => []
  | .bySystemAdmin _ => adminRoutes resource
  | .timelineShare vendorName _ =>
    [⟨"POST", [.literal "vendors", .text vendorName, .literal "timeline", .literal "share"]⟩]

/-- A request that is routed to a mutating handler which accepts keys. -/
def Endpoint.RoutedFrom (host : Runtime) (method path : String) (endpoint : Endpoint) : Prop :=
  ∃ resource, ∃ route ∈ endpoint.keyRoutes resource, route.Matches host method path

/-! ## Methods -/

theorem UserEndpoint.keyRoutes_method {endpoint : UserEndpoint} {route : Route}
    (registered : route ∈ endpoint.keyRoutes) : route.method ∈ ["POST", "PATCH", "DELETE"] := by
  cases endpoint <;> simp [UserEndpoint.keyRoutes] at registered <;> simp [registered]

theorem OrgEndpoint.keyRoutes_method {resource : Uuid} {endpoint : OrgEndpoint} {route : Route}
    (registered : route ∈ endpoint.keyRoutes resource) :
    route.method ∈ ["POST", "PATCH", "DELETE"] := by
  cases endpoint with
  | read read =>
    cases read <;> simp [OrgEndpoint.keyRoutes, OrgRead.keyRoutes] at registered <;>
      simp [registered]
  | _ => simp [OrgEndpoint.keyRoutes] at registered <;> simp [registered]

theorem adminRoutes_method {resource : Uuid} {route : Route}
    (registered : route ∈ adminRoutes resource) : route.method ∈ ["POST", "PATCH", "DELETE"] := by
  have all : ∀ route ∈ adminRoutes resource, route.method ∈ ["POST", "PATCH", "DELETE"] := by
    simp [adminRoutes, underAdmin, customersRoutes, supportRoutes, communicationsRoutes,
      adminUsersRoutes, adminPartnersRoutes]
  exact all route registered

/-- No table holds a route that only reads. -/
theorem Endpoint.RoutedFrom.method {host : Runtime} {method path : String} {endpoint : Endpoint}
    (routed : endpoint.RoutedFrom host method path) : method ∈ ["POST", "PATCH", "DELETE"] := by
  obtain ⟨resource, route, registered, matched⟩ := routed
  rw [← matched.1]
  cases endpoint with
  | byUser endpoint => exact UserEndpoint.keyRoutes_method registered
  | byOrganization endpoint => exact OrgEndpoint.keyRoutes_method registered
  | byPartner handler => exact absurd registered (List.not_mem_nil)
  | bySystemAdmin handler => exact adminRoutes_method registered
  | timelineShare vendorName request =>
    simp only [Endpoint.keyRoutes, List.mem_singleton] at registered
    simp [registered]

end Reliastra.Source.Api
