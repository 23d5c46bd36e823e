import Reliastra.Source.Auth.Registration

/-!
# Signing in with a code

Source: `authenticate_with_code` of `app/modules/auth/google_service.py` and of
`app/modules/auth/github_service.py` after the state check, and what it calls.
What the provider answers over HTTP is an input. The rows of `users` are the
accounts with the columns that only these services use beside them.
-/

namespace Reliastra.Source.Auth

open Reliastra.Library Organizations Api

inductive OAuthProvider where
  | google | github
  deriving DecidableEq, Repr

/-- `auth_provider`. -/
def OAuthProvider.value : OAuthProvider → String
  | .google => "google"
  | .github => "github"

/-- The provider's name in the messages. -/
def OAuthProvider.title : OAuthProvider → String
  | .google => "Google"
  | .github => "GitHub"

/-- `GOOGLE_AUTH_ENABLED` and the like. -/
structure OAuthSettings where
  enabled : Bool
  clientId : String
  clientSecret : String

inductive ProviderAnswer where
  /-- Status 200, with the document of the body. -/
  | document (json : Json)
  | otherStatus
  /-- No answer, or a body that is no JSON. -/
  | raised (exceptionClass : String)

structure OAuthEnvironment where
  signup : SignupEnvironment
  host : Runtime
  settings : OAuthProvider → OAuthSettings
  tokenUrl : OAuthProvider → String → ProviderAnswer
  userinfoUrl : OAuthProvider → Json → ProviderAnswer
  emailsUrl : Json → ProviderAnswer
  randomPassword : String

/-- The columns of a row of `users` beside those of its `Account`. -/
structure OAuthColumns where
  googleId : Option String
  githubId : Option String
  avatarUrl : Option String
  authProvider : Option String
  isEmailVerified : Bool
  deriving DecidableEq, Repr

structure OAuthDatabase where
  platform : Platform
  columns : Uuid → OAuthColumns
  refreshTokens : Table RefreshToken.tokenHash

/-! ## The provider's answers -/

/-- `document.get(key)` of a value that may be no dict. -/
def dictGet (document : Json) (key : String) (absent : Json) : Except Failure Json :=
  match document with
  | .obj members => .ok ((members.lookup key).getD absent)
  | _ => .error (.python "AttributeError")

def checkEnabled (env : OAuthEnvironment) (provider : OAuthProvider) : Except Failure Unit := do
  let settings := env.settings provider
  refuseIf (settings.enabled = false)
    (.app ⟨provider.title ++ " authentication is not enabled", 403,
      Text.upper provider.value ++ "_AUTH_DISABLED"⟩)
  refuseIf (settings.clientId = "" ∨ settings.clientSecret = "")
    (.app ⟨provider.title ++ " OAuth is not configured (missing CLIENT_ID or CLIENT_SECRET)", 500,
      Text.upper provider.value ++ "_AUTH_MISCONFIGURED"⟩)

def answered (answer : ProviderAnswer) (refusal : String) : Except Failure Json :=
  match answer with
  | .document json => .ok json
  | .otherStatus => .error (.app (unauthorizedException refusal))
  | .raised exceptionClass => .error (.python exceptionClass)

/-- `if "error" in data`, which GitHub sends with status 200. -/
def refuseTokenError (host : Runtime) : Json → Except Failure Unit
  | .obj members =>
    match members.lookup "error" with
    | none => .ok ()
    | some error => .error (.app (unauthorizedException
        ("GitHub OAuth error: " ++ ((members.lookup "error_description").getD error).text host)))
  | .arr _ => .error (.python "AttributeError")
  | .str _ => .error (.python "AttributeError")
  | _ => .error (.python "TypeError")

def exchangeCodeForToken (env : OAuthEnvironment) (provider : OAuthProvider) (code : String) :
    Except Failure Json := do
  checkEnabled env provider
  let data ← answered (env.tokenUrl provider code)
    ("Failed to exchange authorization code with " ++ provider.title)
  match provider with
  | .google => return data
  | .github => do
    refuseTokenError env.host data
    return data

/-- `get_google_user_info` and `get_github_user_info`. -/
def getUserInfo (env : OAuthEnvironment) (provider : OAuthProvider) (accessToken : Json) :
    Except Failure Json :=
  answered (env.userinfoUrl provider accessToken)
    ("Failed to retrieve user info from " ++ provider.title)

def getGithubEmails (env : OAuthEnvironment) (accessToken : Json) : Except Failure Json :=
  match env.emailsUrl accessToken with
  | .document json => .ok json
  | .otherStatus => .ok (.arr [])
  | .raised exceptionClass => .error (.python exceptionClass)

/-- What a `for` loop goes through. -/
def elements : Json → Except Failure (List Json)
  | .arr entries => .ok entries
  | .obj members => .ok (members.map (fun member => .str member.1))
  | .str value => .ok (value.toList.map (fun c => .str (String.singleton c)))
  | _ => .error (.python "TypeError")

/-- The `email` of the first entry with these keys set. -/
def firstEmail (flags : List String) : List Json → Except Failure (Option Json)
  | [] => .ok none
  | entry :: rest => do
    let values ← flags.mapM (fun flag => dictGet entry flag .null)
    if values.all Json.truthy then
      match entry with
      | .obj members =>
        match members.lookup "email" with
        | some email => return some email
        | none => .error (.python "KeyError")
      | _ => .error (.python "TypeError")
    else firstEmail flags rest

def resolveEmail (host : Runtime) (githubUser githubEmails : Json) :
    Except Failure (Json × Bool) := do
  let profileEmail ← dictGet githubUser "email" .null
  if profileEmail.truthy then return (profileEmail, true)
  let entries ← elements githubEmails
  match ← firstEmail ["primary", "verified"] entries with
  | some email => return (email, true)
  | none =>
    match ← firstEmail ["verified"] entries with
    | some email => return (email, true)
    | none => do
      let login ← dictGet githubUser "login" (.str "unknown")
      return (.str (login.text host ++ "@users.noreply.github.com"), false)

/-! ## The account the provider names -/

/-- What `authenticate_with_code` reads off the answers. -/
structure OAuthProfile where
  providerId : Json
  email : Json
  emailVerified : Bool
  /-- The name a new account gets. -/
  fullName : Json
  avatar : Json

/-- `google_email.split("@")[0]`. -/
def localPart (email : String) : String := String.ofList (email.toList.takeWhile (· ≠ '@'))

def googleProfile (env : OAuthEnvironment) (accessToken : Json) : Except Failure OAuthProfile := do
  let googleUser ← getUserInfo env .google accessToken
  let googleId ← dictGet googleUser "id" .null
  let googleEmail ← dictGet googleUser "email" .null
  let googleName ← dictGet googleUser "name" (.str "")
  let googlePicture ← dictGet googleUser "picture" .null
  let verified ← dictGet googleUser "email_verified" (.bool false)
  refuseIf (googleId.truthy = false ∨ googleEmail.truthy = false)
    (.app (validationException "Google account must provide an email address"))
  refuseIf (verified.truthy = false) (.app (unauthorizedException
    "Google email is not verified. Please verify your email with Google first."))
  let fullName := match googleEmail with
    | .str email => googleName.orElse (.str (localPart email))
    | _ => googleName
  return ⟨googleId, googleEmail, true, fullName, googlePicture⟩

def githubProfile (env : OAuthEnvironment) (accessToken : Json) : Except Failure OAuthProfile := do
  let githubUser ← getUserInfo env .github accessToken
  let githubEmails ← getGithubEmails env accessToken
  let id ← dictGet githubUser "id" .null
  let githubId := id.text env.host
  let githubLogin ← dictGet githubUser "login" (.str "")
  let name ← dictGet githubUser "name" .null
  let githubAvatar ← dictGet githubUser "avatar_url" .null
  let (email, emailVerified) ← resolveEmail env.host githubUser githubEmails
  refuseIf (githubId = "") (.app (validationException
    "GitHub account did not return a valid user ID"))
  return ⟨.str githubId, email, emailVerified, name.orElse githubLogin, githubAvatar⟩

def oauthProfile (env : OAuthEnvironment) (accessToken : Json) :
    OAuthProvider → Except Failure OAuthProfile
  | .google => googleProfile env accessToken
  | .github => githubProfile env accessToken

/-! ## Finding, linking and creating the user -/

/-- A parameter of a query. -/
def textParameter : Json → Except Failure String
  | .str value => if '\x00' ∈ value.toList then .error (.flush "DataError") else .ok value
  | _ => .error (.flush "DataError")

/-- A value for a nullable `String(limit)` column. -/
def textColumn (limit : Nat) : Json → Except Failure (Option String)
  | .null => .ok none
  | .str value => if FitsText limit value then .ok (some value) else .error (.flush "DataError")
  | _ => .error (.flush "DataError")

/-- `google_id` or `github_id`. -/
def OAuthColumns.providerId (columns : OAuthColumns) : OAuthProvider → Option String
  | .google => columns.googleId
  | .github => columns.githubId

def OAuthColumns.withProviderId (columns : OAuthColumns) (id : String) :
    OAuthProvider → OAuthColumns
  | .google => { columns with googleId := some id }
  | .github => { columns with githubId := some id }

/-- `get_by_google_id` and `get_by_github_id`. -/
def userByProviderId (s : OAuthDatabase) (provider : OAuthProvider) (id : String) :
    Option Account :=
  s.platform.users.rows.find? (fun user => (s.columns user.id).providerId provider = some id)

/-- `get_by_email`. -/
def userByJsonEmail (env : OAuthEnvironment) (s : OAuthDatabase) :
    Json → Except Failure (Option Account)
  | .str email => do
    let email ← textParameter (.str email)
    return userByEmail env.signup.service s.platform email
  | _ => .error (.python "AttributeError")

def OAuthDatabase.setColumns (s : OAuthDatabase) (userId : Uuid) (columns : OAuthColumns) :
    OAuthDatabase :=
  { s with columns := fun id => if id = userId then columns else s.columns id }

/-- A returning user: the avatar, where the provider sends one. -/
def refreshAvatar (user : Account) (avatar : Json) (s : OAuthDatabase) :
    Except Failure OAuthDatabase := do
  if avatar.truthy then
    let avatarUrl ← textColumn 500 avatar
    return s.setColumns user.id { s.columns user.id with avatarUrl := avatarUrl }
  else return s

/-- `UserRepository.update` of a user who has the email already. GitHub's service
keeps the avatar where the provider sends none, or an empty one. -/
def linkAccount (provider : OAuthProvider) (user : Account) (id : String) (avatar : Json)
    (s : OAuthDatabase) : Except Failure OAuthDatabase := do
  let sent := match provider with
    | .google => avatar
    | .github => if avatar.truthy then avatar else .null
  let avatarUrl ← textColumn 500 sent
  refuseMisfit (FitsText 255 id)
  let columns := (s.columns user.id).withProviderId id provider
  return s.setColumns user.id { columns with
    avatarUrl := avatarUrl.or columns.avatarUrl
    authProvider := some provider.value }

def oauthAccount (env : OAuthEnvironment) (email fullName : String) : Account :=
  { id := env.signup.service.newId 0
    email := env.signup.service.lower email
    fullName := fullName
    passwordHash := env.signup.service.passwordHash env.randomPassword
    isActive := true
    isSuperuser := false
    isSystemAdmin := false
    updatedAt := env.signup.service.now }

/-- `_create_org_and_agency`, the same in both services. -/
def createOrgAndAgency (env : SignupEnvironment) (user : Account) (fullName : String)
    (s : Platform) : Except Failure Platform := do
  let org : Api.Organization :=
    { id := env.service.newId 1
      name := fullName ++ "'s Organization"
      slug := env.service.lower (registrationSlug env s user)
      plan := .free
      hasAgencyMode := false
      createdAt := env.service.now }
  refuseMisfit (FitsText 150 org.name ∧ FitsText 150 org.slug)
  let organizations ← flushNew s.organizations org
  let members ← flushNew s.members
    (newMember env.service (env.service.newId 2) org.id user.id .owner)
  let applications ← flushNew s.workspace.applications
    (defaultApplication env.service (env.service.newId 3) org.id)
  return { s with
    organizations := organizations
    members := members
    workspace := { s.workspace with applications := applications } }

/-- A new user. `full_name` and `email` are not nullable. -/
def createAccount (env : OAuthEnvironment) (provider : OAuthProvider) (id email : String)
    (profile : OAuthProfile) (s : OAuthDatabase) : Except Failure (Account × OAuthDatabase) := do
  let fullName ← require (← textColumn 150 profile.fullName) (.flush "IntegrityError")
  let avatarUrl ← textColumn 500 profile.avatar
  let user := oauthAccount env email fullName
  refuseMisfit (FitsText 255 user.email ∧ FitsText 255 user.passwordHash ∧ FitsText 255 id)
  let users ← flushNew s.platform.users user
  let columns : OAuthColumns := ⟨none, none, avatarUrl, some provider.value, profile.emailVerified⟩
  let platform ← createOrgAndAgency env.signup user fullName { s.platform with users := users }
  return (user, { s with platform := platform }.setColumns user.id
    (columns.withProviderId id provider))

/-- "Find existing user by google_id or email", with `is_new_user`. -/
def findOrCreate (env : OAuthEnvironment) (provider : OAuthProvider) (profile : OAuthProfile)
    (s : OAuthDatabase) : Except Failure (Account × Bool × OAuthDatabase) := do
  let id ← textParameter profile.providerId
  match userByProviderId s provider id with
  | some user => do
    let s ← refreshAvatar user profile.avatar s
    return (user, false, s)
  | none =>
    match ← userByJsonEmail env s profile.email with
    | some user => do
      let s ← linkAccount provider user id profile.avatar s
      return (user, false, s)
    | none => do
      let email ← textParameter profile.email
      let (user, s) ← createAccount env provider id email profile s
      return (user, true, s)

/-- `authenticate_with_code` after the state check: the tokens, `is_new_user` and
the rows the session holds. -/
def signIn (env : OAuthEnvironment) (provider : OAuthProvider) (code : String)
    (s : OAuthDatabase) : Except Failure (TokenResponse × Bool × OAuthDatabase) := do
  let tokenData ← exchangeCodeForToken env provider code
  let accessToken ← dictGet tokenData "access_token" .null
  refuseIf (accessToken.truthy = false)
    (.app (unauthorizedException ("No access token in " ++ provider.title ++ " response")))
  let profile ← oauthProfile env accessToken provider
  let (user, isNewUser, s) ← findOrCreate env provider profile s
  refuseIf (user.isActive = false) (.app (unauthorizedException "User account is disabled"))
  let refreshTokens ← issueToken env.signup user s.refreshTokens
  return (tokenPair env.signup.auth env.signup.accessToken env.signup.refreshToken, isNewUser,
    { s with refreshTokens := refreshTokens })

end Reliastra.Source.Auth
