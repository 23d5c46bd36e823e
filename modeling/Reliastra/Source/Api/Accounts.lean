import Reliastra.Source.Api.Schema

/-!
# Profiles, organizations, clients, keys and status pages

Source: the services of `app/modules/users`, `app/modules/organizations`,
`app/modules/agencies`, `app/modules/api_keys` and `app/modules/status_pages`,
with the repositories they call. A handler answers with the database its
session would commit, or with the exception that rolls it back.
-/

namespace Reliastra.Source.Api

open Reliastra.Library Auth Organizations

/-! ## Users -/

structure UserUpdateRequest where
  fullName : Option String
  email : Option String
  password : Option String
  deriving DecidableEq, Repr

/-- `UserRepository.get_by_email`; the column is unique. -/
def userByEmail (env : ServiceEnvironment) (s : Platform) (email : String) : Option Account :=
  s.users.rows.find? (fun user => user.email = env.lower email)

/-- `UserRepository.update` with the values of the request: `None` sets nothing,
and a row that stays equal is not flushed. -/
def updatedAccount (env : ServiceEnvironment) (request : UserUpdateRequest) (user : Account) :
    Account :=
  let row := { user with
    fullName := request.fullName.getD user.fullName
    email := (request.email.map env.lower).getD user.email
    passwordHash := (request.password.map env.passwordHash).getD user.passwordHash }
  if row = user then user else { row with updatedAt := env.now }

theorem updatedAccount_id (env : ServiceEnvironment) (request : UserUpdateRequest)
    (user : Account) : (updatedAccount env request user).id = user.id := by
  unfold updatedAccount
  dsimp only
  split <;> rfl

def updateProfile (env : ServiceEnvironment) (userId : Uuid) (request : UserUpdateRequest)
    (s : Platform) : Except Failure Platform := do
  let user ← require (s.users.get? userId) (notFound "User not found")
  refuseIf (∃ email ∈ request.email, ∃ existing ∈ userByEmail env s email, existing.id ≠ userId)
    (conflict "Email is already registered by another user")
  let users := s.users.updateKey user.id (updatedAccount env request)
    (updatedAccount_id env request)
  return { s with users := users }

/-! ## Organizations -/

structure OrganizationCreateRequest where
  name : String
  slug : Option String
  deriving DecidableEq, Repr

/-- `re.sub(r"[^a-z0-9-]+", "-", text)`; the flag says that the last character
was replaced. -/
def hyphenate : Bool → List Char → List Char
  | _, [] => []
  | replaced, c :: rest =>
    if c.isDigit ∨ ('a' ≤ c ∧ c ≤ 'z') ∨ c = '-' then c :: hyphenate false rest
    else if replaced then hyphenate true rest
    else '-' :: hyphenate true rest

def stripHyphens (text : List Char) : List Char :=
  (text.dropWhile (· = '-')).rdropWhile (· = '-')

def organizationSlug (env : ServiceEnvironment) (request : OrganizationCreateRequest) : String :=
  match request.slug.filter (· ≠ "") with
  | some slug => slug
  | none =>
    let slug := String.ofList (stripHyphens (hyphenate false (env.lower request.name).toList))
    if slug = "" then "org-" ++ env.slugSuffix else slug

/-- `get_by_slug`; the column is unique. -/
def organizationBySlug (env : ServiceEnvironment) (s : Platform) (slug : String) :
    Option Organization :=
  s.organizations.rows.find? (fun org => org.slug = env.lower slug)

def newOrganization (env : ServiceEnvironment) (request : OrganizationCreateRequest) :
    Organization :=
  { id := env.newId 0
    name := request.name
    slug := env.lower (organizationSlug env request)
    plan := .free
    hasAgencyMode := false
    createdAt := env.now }

def newMember (env : ServiceEnvironment) (id orgId userId : Uuid) (role : Role) :
    OrganizationMember :=
  ⟨id, orgId, userId, role, env.now, false⟩

def defaultApplication (env : ServiceEnvironment) (id orgId : Uuid) : Application :=
  ⟨id, orgId, none, "Default", some "Default application", env.now⟩

def createOrg (env : ServiceEnvironment) (userId : Uuid) (request : OrganizationCreateRequest)
    (s : Platform) : Except Failure Platform := do
  let slug := organizationSlug env request
  refuseIf ((organizationBySlug env s slug).isSome)
    (conflict ("Organization slug '" ++ slug ++ "' is already in use"))
  let org := newOrganization env request
  let organizations ← flushNew s.organizations org
  let members ← flushNew s.members (newMember env (env.newId 1) org.id userId .owner)
  let applications ← flushNew s.workspace.applications
    (defaultApplication env (env.newId 2) org.id)
  return { s with
    organizations := organizations
    members := members
    workspace := { s.workspace with applications := applications } }

structure OrganizationUpdateRequest where
  name : Option String
  deriving DecidableEq, Repr

def updateOrg (orgId : Uuid) (request : OrganizationUpdateRequest) (s : Platform) :
    Except Failure Platform := do
  let org ← require (s.organizations.get? orgId) (notFound "Organization not found")
  let organizations := s.organizations.updateKey org.id
    (fun org => { org with name := request.name.getD org.name }) (fun _ => rfl)
  return { s with organizations := organizations }

structure OrganizationMemberInviteRequest where
  email : String
  role : Role
  deriving DecidableEq, Repr

/-- `get_member(..., include_deleted=True)`. -/
def membership (s : Platform) (orgId userId : Uuid) :
    Except Failure (Option OrganizationMember) :=
  oneOrNone (s.members.rows.filter (fun m => m.orgId = orgId ∧ m.userId = userId))

def inviteMember (env : ServiceEnvironment) (orgId : Uuid)
    (request : OrganizationMemberInviteRequest) (s : Platform) : Except Failure Platform := do
  let user ← require (userByEmail env s request.email)
    (notFound ("User with email '" ++ request.email ++ "' not found"))
  let existing ← membership s orgId user.id
  match existing with
  | some member => do
    refuseIf (member.isDeleted = false) (conflict "User is already a member of this organization")
    let members := s.members.updateKey member.id
      (fun m => { m with isDeleted := false, role := request.role }) (fun _ => rfl)
    return { s with members := members }
  | none => do
    let members ← flushNew s.members
      (newMember env (env.newId 0) orgId user.id request.role)
    return { s with members := members }

/-- `get_member_by_id`. -/
def memberById (s : Platform) (memberId : Uuid) : Option OrganizationMember :=
  (s.members.get? memberId).filter (fun m => m.isDeleted = false)

def changeMemberRole (orgId memberId : Uuid) (role : Role) (s : Platform) :
    Except Failure Platform := do
  let member ← requireOwned (memberById s memberId) (·.orgId) orgId
    "Organization member not found"
  let members := s.members.updateKey member.id (fun m => { m with role := role }) (fun _ => rfl)
  return { s with members := members }

def removeMember (orgId memberId : Uuid) (s : Platform) : Except Failure Platform := do
  let member ← requireOwned (memberById s memberId) (·.orgId) orgId
    "Organization member not found"
  let owners := (listMembers s.members.rows orgId).filter (fun m => m.role = .owner)
  refuseIf (member.role = .owner ∧ owners.length ≤ 1)
    (forbidden ("Cannot remove the last owner of the organization. " ++
      "Transfer ownership to another member first."))
  let members := s.members.updateKey member.id (fun m => { m with isDeleted := true })
    (fun _ => rfl)
  return { s with members := members }

/-! ## Clients and applications -/

structure ClientCreateRequest where
  name : String
  description : Option String
  deriving DecidableEq, Repr

def createClient (env : ServiceEnvironment) (orgId : Uuid) (request : ClientCreateRequest)
    (s : Platform) : Except Failure Platform := do
  let org ← require (s.organizations.get? orgId) (notFound "Organization not found")
  let clients ← flushNew s.workspace.clients
    ⟨env.newId 0, orgId, request.name, request.description⟩
  -- already set for an organization in agency mode
  let organizations := s.organizations.updateKey org.id
    (fun org => { org with hasAgencyMode := true }) (fun _ => rfl)
  return { s with
    organizations := organizations
    workspace := { s.workspace with clients := clients } }

structure ApplicationCreateRequest where
  name : String
  description : Option String
  deriving DecidableEq, Repr

def createApplication (env : ServiceEnvironment) (orgId clientId : Uuid)
    (request : ApplicationCreateRequest) (s : Platform) : Except Failure Platform := do
  let client ← requireOwned (s.workspace.clients.get? clientId) (·.orgId) orgId "Client not found"
  let applications ← flushNew s.workspace.applications
    ⟨env.newId 0, orgId, some client.id, request.name, request.description, env.now⟩
  return { s with workspace := { s.workspace with applications := applications } }

/-! ## Keys -/

structure ApiKeyCreateRequest where
  name : String
  scopes : List String
  expiresAt : Option Instant
  deriving DecidableEq, Repr

def createKey (env : ServiceEnvironment) (orgId : Uuid) (request : ApiKeyCreateRequest)
    (s : Platform) : Except Failure Platform := do
  let apiKeys ← flushNew s.apiKeys
    { id := env.newId 0
      orgId := orgId
      name := request.name
      keyPrefix := env.generatedKey.keyPrefix
      hashedKey := env.generatedKey.hashedKey
      scopes := request.scopes
      expiresAt := request.expiresAt
      createdAt := env.now
      isDeleted := false }
  return { s with apiKeys := apiKeys }

def revokeKey (orgId keyId : Uuid) (s : Platform) : Except Failure Platform := do
  let key ← requireOwned ((s.apiKeys.get? keyId).filter (fun key => key.isDeleted = false))
    (·.orgId) orgId "API key not found"
  let apiKeys := s.apiKeys.updateKey key.id (fun key => { key with isDeleted := true })
    (fun _ => rfl)
  return { s with apiKeys := apiKeys }

/-! ## Status pages -/

structure StatusPageConfigRequest where
  slug : String
  title : String
  showUptimeGraph : Bool
  showIncidentHistory : Bool
  branding : Option Json
  allowedDomains : Option (List String)

def createOrgStatusPage (env : ServiceEnvironment) (orgId : Uuid)
    (request : StatusPageConfigRequest) (s : Platform) : Except Failure Platform := do
  refuseIf (∃ page ∈ s.workspace.statusPages.rows, page.orgId = orgId)
    (conflict "Organization already has a status page. Update it instead.")
  refuseIf (∃ page ∈ s.workspace.statusPages.rows, page.slug = request.slug ∧ page.isActive = true)
    (conflict ("Status page slug '" ++ request.slug ++ "' is already taken."))
  let statusPages ← flushNew s.workspace.statusPages
    { id := env.newId 0
      orgId := orgId
      slug := request.slug
      title := request.title
      showUptimeGraph := request.showUptimeGraph
      showIncidentHistory := request.showIncidentHistory
      branding := request.branding
      allowedDomains := request.allowedDomains
      isActive := true }
  return { s with workspace := { s.workspace with statusPages := statusPages } }

end Reliastra.Source.Api
