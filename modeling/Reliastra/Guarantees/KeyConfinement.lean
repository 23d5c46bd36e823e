import Reliastra.Source.Api.Escapes

/-!
# Is an API key confined to its organization?

`get_current_user` turns a key into the user object of the organization's owner.
A handler that takes the organization uses the key's, and `require_partner_user`
refuses keys; a handler or guard that takes the user alone cannot tell a key
from its owner. `Escapes` lists the requests of a key that leave its
organization; `confined_iff` says that there are no others.
-/

namespace Reliastra.Guarantees.KeyConfinement

open Reliastra.Library Reliastra.Source Reliastra.Source.Auth Reliastra.Source.Organizations
open Reliastra.Source.Api

/-- Whatever key a request is authenticated with, the request changes at most
data of the key's organization, and enters no administration route. -/
def Confined (env : ServiceEnvironment) (s : Platform) (call : Call) : Prop :=
  ∀ key user, authenticate env s call = .ok (.apiKey key, user) →
    OnlyOf key.orgId s (serve env s call) ∧ ¬ reachesAdministration env s call

/-! ## Requests that escape -/

def userEscapes (env : ServiceEnvironment) (X userId : Uuid) (s : Platform) : UserEndpoint → Prop
  | .read _ => False
  | .updateMyProfile request => ∃ user, ChangesProfile env userId request s user
  | .createOrganization request => CreatesOrganization env X request s
  | .getMyReferral => OpensReferralCode env userId s
  | .claimReward rewardId =>
    ∃ reward referral, ClaimsReward env userId rewardId s reward referral ∧
      OverrideFresh env userId s reward ∧ env.newId 1 ∉ s.workspace.auditLogs.rows.map (·.id)

def orgEscapes (env : ServiceEnvironment) (X : Uuid) (s : Platform) : OrgEndpoint → Prop
  | .regenerateEvidenceReport reportId => ∃ report incident dependency,
    RegeneratesOutside env X s reportId report incident dependency
  | .verifyTransaction reference => PaysOutside env X s reference
  | .approveSubmission submissionId request =>
    Approves env s request ∧ ∃ submission, Reviews X s submissionId submission
  | .rejectSubmission submissionId _ => ∃ submission, Reviews X s submissionId submission
  | _ => False

/-- A request of a key that leaves the key's organization. -/
def Escapes (env : ServiceEnvironment) (s : Platform) (key : ApiKey) (user : Account)
    (header : Option Uuid) : Endpoint → Prop
  | .byUser endpoint => env.accepts = true ∧ userEscapes env key.orgId user.id s endpoint
  | .byOrganization endpoint => env.accepts = true ∧ (∀ orgId ∈ header, orgId = key.orgId) ∧
    (∃ org, s.organizations.get? key.orgId = some org) ∧ orgEscapes env key.orgId s endpoint
  | .byPartner _ => False
  | .bySystemAdmin _ => user.isSystemAdmin = true
  | .timelineShare _ _ => env.accepts = true ∧ env.admitsShare = .ok () ∧
    env.newId 0 ∉ s.community.timelineShares.rows.map (·.id)

/-! ## One route at a time -/

variable {env : ServiceEnvironment} {X : Uuid} {s : Platform}

theorem user_foreign_iff {userId : Uuid} (endpoint : UserEndpoint) :
    Foreign X s (endpoint.run env userId s) ↔ userEscapes env X userId s endpoint := by
  cases endpoint with
  | read route =>
    refine iff_of_false (not_foreign_of_only (fun after success => ?_)) id
    obtain rfl := Except.ok.inj success
    exact OnlyOf.refl X s
  | updateMyProfile request => exact updateProfile_foreign_iff
  | createOrganization request => exact createOrg_foreign_iff
  | getMyReferral => exact getReferralInfo_foreign_iff
  | claimReward rewardId => exact claimReward_foreign_iff

theorem org_foreign_iff {userId : Uuid} (endpoint : OrgEndpoint) :
    Foreign X s (endpoint.run env userId X s) ↔ orgEscapes env X s endpoint := by
  have confined {result : Except Failure Platform}
      (only : ∀ after, result = .ok after → OnlyOf X s after) : Foreign X s result ↔ False :=
    iff_of_false (not_foreign_of_only only) id
  cases endpoint with
  | read route =>
    refine confined (fun after success => ?_)
    obtain rfl := Except.ok.inj success
    exact OnlyOf.refl X s
  | updateOrganization request => exact confined (fun _ => updateOrg_only)
  | inviteOrganizationMember request => exact confined (fun _ => inviteMember_only)
  | changeOrganizationMemberRole memberId role => exact confined (fun _ => changeMemberRole_only)
  | removeOrganizationMember memberId => exact confined (fun _ => removeMember_only)
  | createClient request => exact confined (fun _ => createClient_only)
  | createApplication clientId request => exact confined (fun _ => createApplication_only)
  | createApiKey request => exact confined (fun _ => createKey_only)
  | revokeApiKey keyId => exact confined (fun _ => revokeKey_only)
  | createOrgStatusPage request => exact confined (fun _ => createOrgStatusPage_only)
  | createDependency request => exact confined (fun _ => createDependency_only)
  | updateDependency depId request => exact confined (fun _ => updateDependency_only)
  | deleteDependency depId => exact confined (fun _ => deleteDependency_only)
  | updateIncident incId request => exact confined (fun _ => updateIncident_only)
  | correlateIncident incId request => exact confined (fun _ => manuallyCorrelate_only)
  | getIncidentEvidence incId => exact confined (fun _ => getOrTriggerEvidence_only)
  | regenerateEvidenceReport reportId => exact regenerateReport_foreign_iff
  | publicizeEvidence request => exact confined (fun _ => publicizeEvidence_only)
  | createAlertConfig request => exact confined (fun _ => createConfig_only)
  | updateAlertConfig configId request => exact confined (fun _ => updateConfig_only)
  | deleteAlertConfig configId => exact confined (fun _ => deleteConfig_only)
  | createWebhook request => exact confined (fun _ => createWebhook_only)
  | updateWebhook webhookId request => exact confined (fun _ => updateWebhook_only)
  | deleteWebhook webhookId => exact confined (fun _ => deleteWebhook_only)
  | createAiProvider request => exact confined (fun _ => createProvider_only)
  | updateAiProvider providerId request => exact confined (fun _ => updateProvider_only)
  | deleteAiProvider providerId => exact confined (fun _ => deleteProvider_only)
  | verifyTransaction reference => exact verifyPayment_foreign_iff
  | approveSubmission submissionId request => exact approveSubmission_foreign_iff
  | rejectSubmission submissionId reason => exact rejectSubmission_foreign_iff

/-- A key has the role of an administrator, and no escaping route asks for more. -/
theorem requireRole_of_escapes {endpoint : OrgEndpoint} (escapes : orgEscapes env X s endpoint) :
    requireRole .admin endpoint.minRole = .ok () := by
  cases endpoint with
  | regenerateEvidenceReport reportId => rfl
  | verifyTransaction reference => rfl
  | approveSubmission submissionId request => rfl
  | rejectSubmission submissionId reason => rfl
  | _ => exact escapes.elim

theorem getCurrentOrg_apiKey {key : ApiKey} {user : Account} {header : Option Uuid}
    {found : Organization × Role} :
    getCurrentOrg s (.apiKey key) user header = .ok found ↔
      (∀ orgId ∈ header, orgId = key.orgId) ∧ s.organizations.get? key.orgId = some found.1 ∧
        found.2 = .admin := by
  obtain ⟨org, role⟩ := found
  unfold getCurrentOrg
  constructor
  · intro success
    obtain ⟨_, named, success⟩ := bind_eq_ok success
    obtain ⟨_, stored, success⟩ := bind_eq_ok success
    cases success
    have named := refuseIf_eq_ok.mp named
    exact ⟨fun orgId given => by_contra (fun other => named ⟨orgId, given, other⟩),
      require_eq_ok.mp stored, rfl⟩
  · rintro ⟨named, stored, rfl⟩
    refine bind_eq_ok_iff.mpr ⟨(), refuseIf_eq_ok.mpr ?_,
      bind_eq_ok_iff.mpr ⟨org, require_eq_ok.mpr stored, rfl⟩⟩
    intro ⟨orgId, given, other⟩
    exact other (named orgId given)

theorem handle_org_foreign_iff {key : ApiKey} {user : Account} {header : Option Uuid}
    {endpoint : OrgEndpoint} :
    Foreign key.orgId s (handle env (.ok (.apiKey key, user)) header s (.byOrganization endpoint)) ↔
      (∀ orgId ∈ header, orgId = key.orgId) ∧
        (∃ org, s.organizations.get? key.orgId = some org) ∧
        orgEscapes env key.orgId s endpoint := by
  constructor
  · intro ⟨after, success, foreign⟩
    have success : (getCurrentOrg s (.apiKey key) user header >>= fun found =>
        requireRole found.2 endpoint.minRole >>= fun _ =>
          endpoint.run env user.id found.1.id s) = .ok after := success
    obtain ⟨⟨org, role⟩, organization, success⟩ := bind_eq_ok success
    obtain ⟨_, _, success⟩ := bind_eq_ok success
    obtain ⟨named, stored, _⟩ := getCurrentOrg_apiKey.mp organization
    have here : org.id = key.orgId := ((Table.get?_eq_some_iff _ _ _).mp stored).2
    rw [here] at success
    exact ⟨named, ⟨org, stored⟩, (org_foreign_iff endpoint).mp ⟨after, success, foreign⟩⟩
  · intro ⟨named, ⟨org, stored⟩, escapes⟩
    have foreign : Foreign key.orgId s (endpoint.run env user.id key.orgId s) :=
      (org_foreign_iff endpoint).mpr escapes
    obtain ⟨after, success, foreign⟩ := foreign
    have here : org.id = key.orgId := ((Table.get?_eq_some_iff _ _ _).mp stored).2
    rw [← here] at success
    have organization : getCurrentOrg s (.apiKey key) user header = .ok (org, .admin) :=
      getCurrentOrg_apiKey.mpr ⟨named, stored, rfl⟩
    refine ⟨after, ?_, foreign⟩
    exact bind_eq_ok_iff.mpr ⟨(.apiKey key, user), rfl,
      bind_eq_ok_iff.mpr ⟨(org, .admin), organization,
      bind_eq_ok_iff.mpr ⟨(), requireRole_of_escapes escapes, success⟩⟩⟩

theorem requireSystemAdmin_eq_ok {user : Account} :
    requireSystemAdmin user = .ok () ↔ user.isSystemAdmin = true := by
  simp [requireSystemAdmin]

theorem handle_timeline_foreign_iff {sender : Except Failure (Principal × Account)}
    {header : Option Uuid} {vendorName : String} {request : TimelineShareCreateRequest} :
    Foreign X s (handle env sender header s (.timelineShare vendorName request)) ↔
      env.admitsShare = .ok () ∧
        env.newId 0 ∉ s.community.timelineShares.rows.map (·.id) := by
  have shared : Foreign X s (createShareLink env vendorName (sender.toOption.map (·.2.id))
      request s) ↔ env.newId 0 ∉ s.community.timelineShares.rows.map (·.id) :=
    createShareLink_foreign_iff
  rw [← shared]
  constructor
  · intro ⟨after, success, foreign⟩
    obtain ⟨_, admitted, success⟩ := bind_eq_ok success
    exact ⟨admitted, after, success, foreign⟩
  · intro ⟨admitted, after, success, foreign⟩
    exact ⟨after, bind_eq_ok_iff.mpr ⟨(), admitted, success⟩, foreign⟩

/-! ## The guarantee -/

/-- What an authenticated request does once its organization header is read. -/
theorem confined_handle_iff {key : ApiKey} {user : Account} {header : Option Uuid} {call : Call}
    (authenticated : authenticate env s call = .ok (.apiKey key, user))
    (read : extractOrganizationId env.credentials.host call.request = .ok header) :
    OnlyOf key.orgId s (serve env s call) ∧ ¬ reachesAdministration env s call ↔
      ¬ Escapes env s key user header call.endpoint := by
  have served : serve env s call =
      committed env s (handle env (.ok (.apiKey key, user)) header s call.endpoint) := by
    unfold serve
    rw [read, authenticated]
    rfl
  rw [served, only_committed_iff]
  obtain ⟨request, endpoint⟩ := call
  cases endpoint with
  | byUser endpoint =>
    have run : handle env (.ok (.apiKey key, user)) header s (.byUser endpoint) =
        endpoint.run env user.id s := rfl
    simp only [run, user_foreign_iff, reachesAdministration, not_false_eq_true, and_true, Escapes]
  | byOrganization endpoint =>
    simp only [handle_org_foreign_iff, reachesAdministration, not_false_eq_true, and_true, Escapes]
  | byPartner handler =>
    have refused : ¬ Foreign key.orgId s
        (handle env (.ok (.apiKey key, user)) header s (.byPartner handler)) :=
      not_foreign_of_only (fun after success => by cases success)
    simp only [refused, reachesAdministration, and_false, not_false_eq_true, and_true, Escapes]
  | bySystemAdmin handler =>
    have reached : reachesAdministration env s ⟨request, .bySystemAdmin handler⟩ ↔
        user.isSystemAdmin = true := by
      rw [← requireSystemAdmin_eq_ok]
      constructor
      · rintro ⟨_, _, _, _, other, admin⟩
        cases authenticated.symm.trans other
        exact admin
      · exact fun admin => ⟨header, _, user, read, authenticated, admin⟩
    have refused (unprivileged : ¬ user.isSystemAdmin = true) : ¬ Foreign key.orgId s
        (handle env (.ok (.apiKey key, user)) header s (.bySystemAdmin handler)) := by
      refine not_foreign_of_only (fun after success => ?_)
      have success : (requireSystemAdmin user >>= fun _ => handler user s) = .ok after := success
      obtain ⟨_, admin, _⟩ := bind_eq_ok success
      exact absurd (requireSystemAdmin_eq_ok.mp admin) unprivileged
    rw [reached]
    exact ⟨fun both => both.2, fun unprivileged => ⟨fun foreign =>
      refused unprivileged foreign.2, unprivileged⟩⟩
  | timelineShare vendorName request =>
    simp only [handle_timeline_foreign_iff, reachesAdministration, not_false_eq_true, and_true,
      Escapes]

/-- A request whose organization header is no UUID is answered before it is
authenticated. -/
theorem confined_of_invalid_header {call : Call} {failure : Failure}
    (read : extractOrganizationId env.credentials.host call.request = .error failure) (X : Uuid) :
    OnlyOf X s (serve env s call) ∧ ¬ reachesAdministration env s call := by
  constructor
  · unfold serve
    rw [read]
    exact OnlyOf.refl X s
  · unfold reachesAdministration
    split
    · intro ⟨header, _, _, other, _⟩
      cases read.symm.trans other
    · exact id

/-- Keys are confined except on the requests of `Escapes`. -/
theorem confined_iff (env : ServiceEnvironment) (s : Platform) (call : Call) :
    Confined env s call ↔ ∀ key user, authenticate env s call = .ok (.apiKey key, user) →
      ¬ ∃ header, extractOrganizationId env.credentials.host call.request = .ok header ∧
        Escapes env s key user header call.endpoint := by
  refine forall_congr' (fun key => forall_congr' (fun user => imp_congr_right ?_))
  intro authenticated
  cases read : extractOrganizationId env.credentials.host call.request with
  | error failure =>
    refine iff_of_true (confined_of_invalid_header read key.orgId) ?_
    intro ⟨header, other, _⟩
    cases other
  | ok header =>
    rw [confined_handle_iff authenticated read]
    simp

/-! ## A key of a system administrator's organization -/

def ciRawKey : String := "rel_c3c3c3c3c3c3c3c3c3c3c3c3c3c3c3c3c3c3c3c3"

def ciKeyHash : String := "89f7fac62903f4cab2711cab3fce825e8c23269ef4f97a8a01d2a9cc4e4f399b"

/-- A server that knows one key, and no JWT. -/
def ciCredentials : CredentialEnvironment where
  host := ⟨fun _ => "", fun _ => none, fun _ => none, fun _ => none, fun _ _ => ""⟩
  decodeToken _ _ := .error (.app (unauthorizedException "Invalid token"))
  sha256Hex text := if text = ciRawKey then ciKeyHash else ""
  httpBearer _ := none
  verifyApiKey rawKey storedHash := rawKey = ciRawKey && storedHash = ciKeyHash
  enforceRateLimit _ := .ok ()

def ciServer : ServiceEnvironment where
  credentials := ciCredentials
  billing := ⟨"", {}⟩
  now := 0
  newId n := 100 + n
  lower := Text.lower
  passwordHash password := "$2b$12$" ++ password
  encryptJsonb _ := ""
  encryptSecret secret := secret
  generatedSecret := "c2VjcmV0"
  generatedKey := ⟨"rel_d4d4", ""⟩
  slugSuffix := "d4d4d4d4"
  referralCodes _ := []
  longReferralCode name := name
  validateOutboundUrl _ := .ok ()
  computeAttribution _ _ := none
  renderEvidence _ _ _ := .error (.python "OSError")
  paystack _ := .httpError
  admitsShare := .ok ()
  accepts := true

def ciKey : ApiKey where
  id := 21
  orgId := 1
  name := "ci"
  keyPrefix := "rel_c3c3"
  hashedKey := ciKeyHash
  scopes := []
  expiresAt := none
  createdAt := 0
  isDeleted := false

def administrator : Account :=
  ⟨11, "root@example.com", "Root", "$2b$12$secret", true, false, true, 0⟩

/-- One organization, whose owner is a system administrator, with one key that
has no scope at all. -/
def oneKeyPlatform : Platform where
  users := ⟨[administrator], by decide⟩
  organizations := .single ⟨1, "Acme", "acme", .free, false, 0⟩
  members := ⟨[⟨31, 1, 11, .owner, 0, false⟩], by decide⟩
  apiKeys := ⟨[ciKey], by decide⟩
  workspace := ⟨.empty, .empty, .empty, .empty, .empty, .empty, .empty, .empty, .empty, .empty,
    .empty, .empty, .empty, .empty, .empty, .empty⟩
  community := ⟨.empty, .empty, .empty, .empty, .empty, .empty, .empty⟩
  partners := ⟨.empty, .empty, .empty, .empty⟩

def ciRequest (method path : String) : Request where
  method := method
  path := path
  authorization := none
  apiKey := some ciRawKey
  organizationId := none
  reliastraOrganization := none
  idempotencyKey := none
  clientHost := some "203.0.113.5"

/-- `PATCH /v1/users/me` with a new password. -/
def passwordChange : Call :=
  ⟨ciRequest "PATCH" "/v1/users/me", .byUser (.updateMyProfile ⟨none, none, some "taken"⟩)⟩

/-- `GET /v1/admin/users`, which writes nothing. -/
def userListing : Call :=
  ⟨ciRequest "GET" "/v1/admin/users", .bySystemAdmin (fun _ s => .ok s)⟩

/-- A key without scopes sets its owner's password, and enters the
administration when the owner may. -/
theorem key_not_confined :
    ¬ Confined ciServer oneKeyPlatform passwordChange ∧
      ¬ Confined ciServer oneKeyPlatform userListing := by
  have changing : authenticate ciServer oneKeyPlatform passwordChange =
      .ok (.apiKey ciKey, administrator) := by decide +kernel
  have listing : authenticate ciServer oneKeyPlatform userListing =
      .ok (.apiKey ciKey, administrator) := by decide
  constructor
  · intro confined
    have only := (confined ciKey administrator changing).1
    have rows : (serve ciServer oneKeyPlatform passwordChange).users.rows = [administrator] :=
      congrArg Table.rows only.users
    exact absurd rows (by decide)
  · intro confined
    have outside := (confined ciKey administrator listing).2
    exact outside ⟨none, .apiKey ciKey, administrator, by decide, listing,
      by decide⟩

end Reliastra.Guarantees.KeyConfinement
