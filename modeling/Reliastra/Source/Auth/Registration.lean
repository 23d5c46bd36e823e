import Reliastra.Source.Api.Accounts
import Reliastra.Source.Auth.RefreshTokens

/-!
# Registration

Source: `register` of `app/modules/auth/service.py` and `bind_referral` of
`app/modules/partners/service.py`, with the repositories they call. The partner
code runs under `except Exception` in the session of the registration, and is a
parameter of `register`.
-/

namespace Reliastra.Source.Auth

open Reliastra.Library Organizations Api Partners

structure RegisterRequest where
  email : String
  password : String
  fullName : String
  orgName : Option String
  refCode : Option String
  deriving DecidableEq, Repr

/-- The response: the user, the organization and the tokens. -/
structure RegisterResponse where
  user : Account
  organization : Api.Organization
  tokens : TokenResponse
  deriving DecidableEq, Repr

/-- The tables a registration writes, with the partner program's and the audit
log's, which belong to the partner code. -/
structure SignupDatabase where
  platform : Platform
  refreshTokens : Table RefreshToken.tokenHash

/-- What a registration draws at random, and the libraries it calls. -/
structure SignupEnvironment where
  service : ServiceEnvironment
  auth : AuthEnvironment
  accessToken : String
  refreshToken : String
  /-- `user.id.hex[:8]`. -/
  hexPrefix : Uuid → String

/-- What the partner code may have flushed. -/
abbrev PartnerRows := PartnerTables × Table AuditLog.id

abbrev BindReferral := String → Uuid → Uuid → Platform → Swallowed PartnerRows

def partnerRows (s : Platform) : PartnerRows := (s.partners, s.workspace.auditLogs)

def withPartnerRows (s : Platform) (rows : PartnerRows) : Platform :=
  { s with partners := rows.1, workspace := { s.workspace with auditLogs := rows.2 } }

/-! ## The account -/

/-- A row the column types of a table refuse. -/
def refuseMisfit (fits : Prop) [Decidable fits] : Except Failure Unit :=
  refuseIf (¬ fits) (.flush "DataError")

def newAccount (env : SignupEnvironment) (request : RegisterRequest) : Account :=
  { id := env.service.newId 0
    email := env.service.lower request.email
    fullName := request.fullName
    passwordHash := env.service.passwordHash request.password
    isActive := true
    isSuperuser := false
    isSystemAdmin := false
    updatedAt := env.service.now }

/-- The loop over suffixes: the first slug no organization has is among as many
candidates as there are organizations, and one more. -/
def registrationSlug (env : SignupEnvironment) (s : Platform) (user : Account) : String :=
  let base := "org-" ++ env.hexPrefix user.id
  let candidates := base :: (List.range s.organizations.rows.length).map (fun suffix =>
    base ++ "-" ++ toString (suffix + 2))
  (candidates.find? (fun slug => (organizationBySlug env.service s slug).isNone)).getD base

def registeredOrganization (env : SignupEnvironment) (request : RegisterRequest) (s : Platform)
    (user : Account) : Api.Organization :=
  { id := env.service.newId 1
    name := (request.orgName.filter (· ≠ "")).getD (request.fullName ++ "'s Organization")
    slug := env.service.lower (registrationSlug env s user)
    plan := .free
    hasAgencyMode := false
    createdAt := env.service.now }

/-- `register` up to the default application. -/
def openAccount (env : SignupEnvironment) (request : RegisterRequest) (s : Platform) :
    Except Failure (Account × Api.Organization × Platform) := do
  refuseIf (userByEmail env.service s request.email).isSome
    (conflict "Email is already registered")
  let user := newAccount env request
  refuseMisfit (FitsText 255 user.email ∧ FitsText 255 user.passwordHash ∧
    FitsText 150 user.fullName)
  let users ← flushNew s.users user
  let org := registeredOrganization env request s user
  refuseMisfit (FitsText 150 org.name ∧ FitsText 150 org.slug)
  let organizations ← flushNew s.organizations org
  let members ← flushNew s.members
    (newMember env.service (env.service.newId 2) org.id user.id .owner)
  let applications ← flushNew s.workspace.applications
    (defaultApplication env.service (env.service.newId 3) org.id)
  return (user, org, { s with
    users := users
    organizations := organizations
    members := members
    workspace := { s.workspace with applications := applications } })

/-! ## The tokens -/

/-- `create_refresh_token` of a new family. -/
def issueToken (env : SignupEnvironment) (user : Account)
    (refreshTokens : Table RefreshToken.tokenHash) :
    Except Failure (Table RefreshToken.tokenHash) :=
  flushNew refreshTokens
    { tokenHash := env.auth.hashToken env.refreshToken
      userId := user.id
      tokenFamily := env.service.newId 4
      tokenSequence := 1
      isRevoked := false
      expiresAt := env.service.now + daysToMicros env.auth.refreshTokenExpireDays }

/-- The rows the session holds after the partner code. A session that lost its
transaction raises at the next flush. -/
def afterPartnerCode (s : Platform) : Swallowed PartnerRows → Except Failure Platform
  | .done rows => .ok (withPartnerRows s rows)
  | .databaseError => .error (.python "PendingRollbackError")

/-- "Process referral if ref_code provided". -/
def processReferral (bind : BindReferral) (request : RegisterRequest) (user : Account)
    (org : Api.Organization) (opened : Platform) : Except Failure Platform :=
  match request.refCode.filter (· ≠ "") with
  | some refCode => afterPartnerCode opened (bind refCode user.id org.id opened)
  | none => .ok opened

def register (env : SignupEnvironment) (bind : BindReferral) (request : RegisterRequest)
    (s : SignupDatabase) : Except Failure (RegisterResponse × SignupDatabase) := do
  let (user, org, opened) ← openAccount env request s.platform
  let platform ← processReferral bind request user org opened
  let refreshTokens ← issueToken env user s.refreshTokens
  return (⟨user, org, tokenPair env.auth env.accessToken env.refreshToken⟩,
    ⟨platform, refreshTokens⟩)

/-! ## The partner code -/

/-- `ReferralCodeRepository.get_by_code`. -/
def referralByCode (s : Platform) (code : String) : Option ReferralCode :=
  s.community.referralCodes.rows.find? (fun row => row.code = Text.upper code ∧ row.isActive)

def newReferral (env : SignupEnvironment) (partner : PartnerProfile) (newUserId : Uuid) :
    PartnerReferral :=
  ⟨env.service.newId 5, partner.id, newUserId, .signedUp, none⟩

/-- `bind_referral`. A text with a NUL is no text to PostgreSQL: the first
`SELECT` fails, and with it the transaction. -/
def bindReferral (env : SignupEnvironment) : BindReferral := fun referralCode newUserId _ s =>
  if '\x00' ∈ referralCode.toList then .databaseError
  else match referralByCode s referralCode with
  | none => .done (partnerRows s)
  | some codeObj =>
    match s.partners.profiles.rows.find? (fun p => p.userId = codeObj.userId) with
    | none => .done (partnerRows s)
    | some partner =>
      if partner.status ≠ .active then .done (partnerRows s)
      else if partner.userId = newUserId then .done (partnerRows s)
      else if s.partners.referrals.rows.any (fun r => r.referredUserId = newUserId) then
        .done (partnerRows s)
      else match s.partners.referrals.insert (newReferral env partner newUserId) with
      | none => .databaseError
      | some referrals =>
        match s.workspace.auditLogs.insert ⟨env.service.newId 6, none, some partner.userId,
          "partner_referral_created", "partner_referral", env.service.newId 5⟩ with
        | none => .databaseError
        | some auditLogs => .done ({ s.partners with referrals := referrals }, auditLogs)

end Reliastra.Source.Auth
