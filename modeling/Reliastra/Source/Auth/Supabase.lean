import Reliastra.Source.Auth.OAuth

/-!
# Signing in with a Supabase token

Source: `map_supabase_user` of `app/core/supabase.py` and `supabase_me` of
`app/modules/auth/supabase.py`. The payload is that of a token whose signature
has been checked. `ExternalLogin` puts this entry beside the two OAuth ones.
-/

namespace Reliastra.Source.Auth

open Reliastra.Library Organizations Api

/-- The rows the three services share, with the column `external_auth_id`. -/
structure IdentityDatabase where
  oauth : OAuthDatabase
  externalAuthIds : Uuid → Option String

structure ExternalEnvironment where
  oauth : OAuthEnvironment
  /-- `uuid.uuid4().hex[:8]`, for an address of its own. -/
  localAddressPrefix : String

/-! ## `map_supabase_user` -/

structure SupabaseUser where
  externalAuthId : String
  email : Json
  fullName : Json
  isEmailVerified : Json

def supabaseEmail (payload userMeta : Json) : Except Failure Json := do
  let email ← dictGet payload "email" .null
  if email.truthy then return email else dictGet userMeta "email" (.str "")

def supabaseFullName (payload userMeta : Json) : Except Failure Json := do
  let fullName ← dictGet userMeta "full_name" .null
  let name ← dictGet userMeta "name" .null
  if (fullName.orElse name).truthy then return fullName.orElse name
  else
    match ← dictGet payload "email" (.str "") with
    | .str email => return .str (localPart email)
    | _ => .error (.python "AttributeError")

def supabaseVerified (payload appMeta : Json) : Except Failure Json := do
  let verified ← dictGet payload "email_verified" .null
  if verified.truthy then return verified else dictGet appMeta "email_verified" (.bool false)

def mapSupabaseUser (host : Runtime) (payload : Json) : Except Failure SupabaseUser := do
  let userMetadata ← dictGet payload "user_metadata" .null
  let appMetadata ← dictGet payload "app_metadata" .null
  let email ← supabaseEmail payload (userMetadata.orElse (.obj []))
  let fullName ← supabaseFullName payload (userMetadata.orElse (.obj []))
  let isEmailVerified ← supabaseVerified payload (appMetadata.orElse (.obj []))
  let sub ← dictGet payload "sub" (.str "")
  return ⟨"supabase:" ++ sub.text host, email, fullName, isEmailVerified⟩

/-! ## `supabase_me` -/

/-- A value for a `Boolean` column; the default stands for `None`. -/
def booleanColumn : Json → Except Failure Bool
  | .null => .ok false
  | .bool value => .ok value
  | .int 0 => .ok false
  | .int 1 => .ok true
  | .float "0.0" _ => .ok false
  | .float "1.0" _ => .ok true
  | _ => .error (.flush "StatementError")

/-- `get_by_external_auth_id`; the column is not unique. -/
def userByExternalAuthId (s : IdentityDatabase) (externalAuthId : String) :
    Except Failure (Option Account) :=
  oneOrNone (s.oauth.platform.users.rows.filter
    (fun user => s.externalAuthIds user.id = some externalAuthId))

def IdentityDatabase.setExternalAuthId (s : IdentityDatabase) (userId : Uuid)
    (externalAuthId : String) : IdentityDatabase :=
  { s with externalAuthIds := fun id =>
      if id = userId then some externalAuthId else s.externalAuthIds id }

/-- "Try by email as fallback". -/
def fallbackByEmail (env : ExternalEnvironment) (mapped : SupabaseUser) (s : IdentityDatabase) :
    Except Failure (Option Account) :=
  if mapped.email.truthy then userByJsonEmail env.oauth s.oauth mapped.email else .ok none

/-- "Auto-provision a local account". -/
def provisionAccount (env : ExternalEnvironment) (mapped : SupabaseUser) (s : IdentityDatabase) :
    Except Failure (Account × IdentityDatabase) := do
  let signup := env.oauth.signup
  let email ← textParameter
    (mapped.email.orElse (.str (env.localAddressPrefix ++ "@supabase.local")))
  let fullName ← require (← textColumn 150 mapped.fullName) (.flush "IntegrityError")
  let isEmailVerified ← booleanColumn mapped.isEmailVerified
  let user : Account := { oauthAccount env.oauth email fullName with passwordHash := "" }
  refuseMisfit (FitsText 255 user.email ∧ FitsText 255 mapped.externalAuthId)
  refuseIf (userByEmail signup.service s.oauth.platform email).isSome (.flush "IntegrityError")
  let users ← flushNew s.oauth.platform.users user
  let org : Api.Organization :=
    { id := signup.service.newId 1
      name := fullName ++ "'s Organization"
      slug := signup.service.lower ("user-" ++ signup.hexPrefix user.id)
      plan := .free
      hasAgencyMode := false
      createdAt := signup.service.now }
  refuseMisfit (FitsText 150 org.name ∧ FitsText 150 org.slug)
  refuseIf (organizationBySlug signup.service s.oauth.platform org.slug).isSome
    (.flush "IntegrityError")
  let organizations ← flushNew s.oauth.platform.organizations org
  let members ← flushNew s.oauth.platform.members
    (newMember signup.service (signup.service.newId 2) org.id user.id .owner)
  let oauth := { s.oauth with
    platform := { s.oauth.platform with
      users := users
      organizations := organizations
      members := members } }.setColumns user.id ⟨none, none, none, none, isEmailVerified⟩
  return (user, { s with oauth := oauth }.setExternalAuthId user.id mapped.externalAuthId)

def findOrProvision (env : ExternalEnvironment) (mapped : SupabaseUser) (s : IdentityDatabase) :
    Except Failure (Account × IdentityDatabase) := do
  refuseIf ('\x00' ∈ mapped.externalAuthId.toList) (.flush "DataError")
  match ← userByExternalAuthId s mapped.externalAuthId with
  | some user => return (user, s)
  | none =>
    match ← fallbackByEmail env mapped s with
    | some user => do
      refuseMisfit (FitsText 255 mapped.externalAuthId)
      return (user, s.setExternalAuthId user.id mapped.externalAuthId)
    | none => provisionAccount env mapped s

/-- The refresh token of `supabase_me` expires with its access token. -/
def issueSupabaseToken (env : SignupEnvironment) (user : Account)
    (refreshTokens : Table RefreshToken.tokenHash) :
    Except Failure (Table RefreshToken.tokenHash) :=
  flushNew refreshTokens
    { tokenHash := env.auth.hashToken env.refreshToken
      userId := user.id
      tokenFamily := env.service.newId 4
      tokenSequence := 1
      isRevoked := false
      expiresAt := env.service.now + secondsToMicros (env.auth.accessTokenExpireMinutes * 60) }

structure SupabaseProfileResponse where
  userId : Uuid
  email : String
  fullName : String
  tokens : TokenResponse
  deriving DecidableEq, Repr

def supabaseMe (env : ExternalEnvironment) (payload : Json) (s : IdentityDatabase) :
    Except Failure (SupabaseProfileResponse × IdentityDatabase) := do
  let signup := env.oauth.signup
  let mapped ← mapSupabaseUser env.oauth.host payload
  let (user, s) ← findOrProvision env mapped s
  let refreshTokens ← issueSupabaseToken signup user s.oauth.refreshTokens
  return (⟨user.id, user.email, user.fullName,
      tokenPair signup.auth signup.accessToken signup.refreshToken⟩,
    { s with oauth := { s.oauth with refreshTokens := refreshTokens } })

/-! ## The external logins -/

inductive ExternalLogin where
  | oauth (provider : OAuthProvider) (code : String)
  | supabase (payload : Json)

/-- The rows a login that succeeds commits. -/
def externalLogin (env : ExternalEnvironment) (s : IdentityDatabase) :
    ExternalLogin → Except Failure IdentityDatabase
  | .oauth provider code => do
    let (_, _, oauth) ← signIn env.oauth provider code s.oauth
    return { s with oauth := oauth }
  | .supabase payload => do
    let (_, s) ← supabaseMe env payload s
    return s

end Reliastra.Source.Auth
