import Reliastra.Guarantees.OAuthLogins
import Reliastra.Source.Auth.Supabase

/-!
# Is an existing account found by a verified address only?

Google's service refuses an unverified address. GitHub's falls back to an
address it makes up itself, and the Supabase entry looks at no flag when it
links. `verified_only_iff` says for which payloads and users the three are safe.
-/

namespace Reliastra.Guarantees.VerifiedLinking

open Reliastra.Library Source Source.Auth Source.Api

/-! ## What the provider says -/

/-- The document of an answer; every key is missing where there is none. -/
def body : ProviderAnswer → Json
  | .document json => json
  | _ => .null

def accessToken (env : OAuthEnvironment) (provider : OAuthProvider) (code : String) : Json :=
  (body (env.tokenUrl provider code)).get "access_token"

def userInfo (env : OAuthEnvironment) (provider : OAuthProvider) (code : String) : Json :=
  body (env.userinfoUrl provider (accessToken env provider code))

def members : Json → List Json
  | .arr entries => entries
  | _ => []

/-- The payload has this address and says that it is verified. -/
def Asserts (env : ExternalEnvironment) (address : String) : ExternalLogin → Prop
  | .oauth .google code =>
    let info := userInfo env.oauth .google code
    (info.get "email_verified").truthy = true ∧
      ∃ email, info.get "email" = .str email ∧ env.oauth.signup.service.lower email = address
  | .oauth .github code =>
    ∃ entry ∈ members (body (env.oauth.emailsUrl (accessToken env.oauth .github code))),
      (entry.get "verified").truthy = true ∧
        ∃ email, entry.get "email" = .str email ∧ env.oauth.signup.service.lower email = address
  | .supabase payload =>
    ((payload.get "email_verified").truthy = true ∨
        ((payload.get "app_metadata").get "email_verified").truthy = true) ∧
      ∃ email, payload.get "email" = .str email ∧ env.oauth.signup.service.lower email = address

/-- Who the provider says it is. -/
def identity (env : ExternalEnvironment) : ExternalLogin → Json
  | .oauth .google code => (userInfo env.oauth .google code).get "id"
  | .oauth .github code =>
    .str (((userInfo env.oauth .github code).get "id").text env.oauth.host)
  | .supabase payload =>
    match dictGet payload "sub" (.str "") with
    | .ok sub => .str ("supabase:" ++ sub.text env.oauth.host)
    | .error _ => .null

/-! ## The property -/

/-- The column that links a user to identities of this kind. -/
def linkOf (s : IdentityDatabase) (login : ExternalLogin) (userId : Uuid) : Option String :=
  match login with
  | .oauth provider _ => (s.oauth.columns userId).providerId provider
  | .supabase _ => s.externalAuthIds userId

def Bound (env : ExternalEnvironment) (s : IdentityDatabase) (login : ExternalLogin)
    (user : Account) : Prop :=
  ∃ id, identity env login = .str id ∧ linkOf s login user.id = some id

/-- The login changed the user's link, or issued a token for them. -/
def Serves (s after : IdentityDatabase) (login : ExternalLogin) (user : Account) : Prop :=
  linkOf after login user.id ≠ linkOf s login user.id ∨
    ∃ rt ∈ after.oauth.refreshTokens.rows, rt ∉ s.oauth.refreshTokens.rows ∧ rt.userId = user.id

def VerifiedOnly (env : ExternalEnvironment) (s : IdentityDatabase) (login : ExternalLogin) :
    Prop :=
  ∀ after, externalLogin env s login = .ok after → ∀ user ∈ s.oauth.platform.users.rows,
    ¬ Bound env s login user → Serves s after login user → Asserts env user.email login

/-! ## The condition -/

/-- What the OAuth services make of the provider's answers. -/
def presentedProfile (env : OAuthEnvironment) (provider : OAuthProvider) (code : String) :
    Except Failure OAuthProfile := do
  let tokenData ← exchangeCodeForToken env provider code
  let accessToken ← dictGet tokenData "access_token" .null
  refuseIf (accessToken.truthy = false)
    (.app (unauthorizedException ("No access token in " ++ provider.title ++ " response")))
  oauthProfile env accessToken provider

/-- The token of this request is new. -/
def NewToken (env : ExternalEnvironment) (s : IdentityDatabase) : Prop :=
  env.oauth.signup.auth.hashToken env.oauth.signup.refreshToken ∉
    s.oauth.refreshTokens.rows.map (·.tokenHash)

/-- The identity is linked to nobody, the address the service settles on is this
user's, and nothing else stands in the way. -/
def Adopts (env : ExternalEnvironment) (s : IdentityDatabase) (user : Account) :
    ExternalLogin → Prop
  | .oauth provider code =>
    ∃ profile id email avatar, presentedProfile env.oauth provider code = .ok profile ∧
      textParameter profile.providerId = .ok id ∧ userByProviderId s.oauth provider id = none ∧
      profile.email = .str email ∧ '\x00' ∉ email.toList ∧
      userByEmail env.oauth.signup.service s.oauth.platform email = some user ∧
      textColumn 500 (match provider with
        | .google => profile.avatar
        | .github => if profile.avatar.truthy then profile.avatar else .null) = .ok avatar ∧
      FitsText 255 id ∧ user.isActive = true ∧ NewToken env s
  | .supabase payload =>
    ∃ mapped email, mapSupabaseUser env.oauth.host payload = .ok mapped ∧
      userByExternalAuthId s mapped.externalAuthId = .ok none ∧
      FitsText 255 mapped.externalAuthId ∧ mapped.email = .str email ∧ email ≠ "" ∧
      '\x00' ∉ email.toList ∧
      userByEmail env.oauth.signup.service s.oauth.platform email = some user ∧ NewToken env s

/-- The login adopts accounts by asserted addresses only. -/
def AdoptsByAssertion (env : ExternalEnvironment) (s : IdentityDatabase) (login : ExternalLogin) :
    Prop :=
  ∀ user, Adopts env s user login → Asserts env user.email login

/-! ## Reading the answers -/

variable {env : ExternalEnvironment} {s after : IdentityDatabase} {login : ExternalLogin}

theorem get_of_dictGet {document value : Json} {key : String}
    (success : dictGet document key .null = .ok value) : document.get key = value := by
  cases document with
  | obj members =>
    cases success
    rfl
  | _ => cases success

theorem document_of_answered {answer : ProviderAnswer} {refusal : String} {json : Json}
    (success : answered answer refusal = .ok json) : body answer = json := by
  cases answer with
  | document json' =>
    cases success
    rfl
  | _ => cases success

theorem exchanged_document {env : OAuthEnvironment} {provider : OAuthProvider} {code : String}
    {data : Json} (success : exchangeCodeForToken env provider code = .ok data) :
    body (env.tokenUrl provider code) = data := by
  obtain ⟨_, _, success⟩ := bind_eq_ok success
  obtain ⟨document, answer, success⟩ := bind_eq_ok success
  have same : document = data := by
    cases provider with
    | google =>
      cases success
      rfl
    | github =>
      obtain ⟨_, _, success⟩ := bind_eq_ok success
      cases success
      rfl
  rw [← same]
  exact document_of_answered answer

/-- The profile comes from the answers to the token of this code. -/
theorem presentedProfile_eq_ok {env : OAuthEnvironment} {provider : OAuthProvider}
    {code : String} {profile : OAuthProfile}
    (success : presentedProfile env provider code = .ok profile) :
    oauthProfile env (accessToken env provider code) provider = .ok profile := by
  obtain ⟨data, exchanged, success⟩ := bind_eq_ok success
  obtain ⟨token, given, success⟩ := bind_eq_ok success
  obtain ⟨_, _, success⟩ := bind_eq_ok success
  unfold accessToken
  rw [exchanged_document exchanged, get_of_dictGet given]
  exact success

theorem profile_identity {provider : OAuthProvider} {code : String} {profile : OAuthProfile}
    (success : presentedProfile env.oauth provider code = .ok profile) :
    identity env (.oauth provider code) = profile.providerId := by
  have read := presentedProfile_eq_ok success
  cases provider with
  | google =>
    obtain ⟨info, answer, read⟩ := bind_eq_ok read
    obtain ⟨id, named, read⟩ := bind_eq_ok read
    obtain ⟨_, _, read⟩ := bind_eq_ok read
    obtain ⟨_, _, read⟩ := bind_eq_ok read
    obtain ⟨_, _, read⟩ := bind_eq_ok read
    obtain ⟨_, _, read⟩ := bind_eq_ok read
    obtain ⟨_, _, read⟩ := bind_eq_ok read
    obtain ⟨_, _, read⟩ := bind_eq_ok read
    cases read
    have document : userInfo env.oauth .google code = info := document_of_answered answer
    change (userInfo env.oauth .google code).get "id" = id
    rw [document]
    exact get_of_dictGet named
  | github =>
    obtain ⟨info, answer, read⟩ := bind_eq_ok read
    obtain ⟨_, _, read⟩ := bind_eq_ok read
    obtain ⟨id, named, read⟩ := bind_eq_ok read
    obtain ⟨_, _, read⟩ := bind_eq_ok read
    obtain ⟨_, _, read⟩ := bind_eq_ok read
    obtain ⟨_, _, read⟩ := bind_eq_ok read
    obtain ⟨_, _, read⟩ := bind_eq_ok read
    obtain ⟨_, _, read⟩ := bind_eq_ok read
    cases read
    have document : userInfo env.oauth .github code = info := document_of_answered answer
    change Json.str (((userInfo env.oauth .github code).get "id").text env.oauth.host) = _
    rw [document, get_of_dictGet named]

theorem mapped_identity {payload : Json} {mapped : SupabaseUser}
    (success : mapSupabaseUser env.oauth.host payload = .ok mapped) :
    identity env (.supabase payload) = .str mapped.externalAuthId := by
  obtain ⟨_, _, success⟩ := bind_eq_ok success
  obtain ⟨_, _, success⟩ := bind_eq_ok success
  obtain ⟨_, _, success⟩ := bind_eq_ok success
  obtain ⟨_, _, success⟩ := bind_eq_ok success
  obtain ⟨_, _, success⟩ := bind_eq_ok success
  obtain ⟨sub, named, success⟩ := bind_eq_ok success
  cases success
  simp only [identity, named]

/-! ## What a login does -/

/-- The code settles on this address for a new account, and on its flag. -/
def FlagsAddress (env : ExternalEnvironment) (address : String) : ExternalLogin → Prop
  | .oauth provider code =>
    ∃ profile email, presentedProfile env.oauth provider code = .ok profile ∧
      profile.email = .str email ∧ profile.emailVerified = true ∧
      env.oauth.signup.service.lower email = address
  | .supabase payload =>
    ∃ mapped email, mapSupabaseUser env.oauth.host payload = .ok mapped ∧
      mapped.email.orElse (.str (env.localAddressPrefix ++ "@supabase.local")) = .str email ∧
      booleanColumn mapped.isEmailVerified = .ok true ∧
      env.oauth.signup.service.lower email = address

/-- A token for the user, and no other user's columns. -/
structure Served (s after : IdentityDatabase) (login : ExternalLogin) (userId : Uuid) : Prop where
  token : ∃ rt, rt.userId = userId ∧
    after.oauth.refreshTokens.rows = s.oauth.refreshTokens.rows ++ [rt]
  links : ∀ id, id ≠ userId → linkOf after login id = linkOf s login id
  flags : ∀ id, id ≠ userId →
    (after.oauth.columns id).isEmailVerified = (s.oauth.columns id).isEmailVerified

/-- The user was there before, and keeps address and flag. -/
structure Returning (s after : IdentityDatabase) (login : ExternalLogin) (user : Account) :
    Prop where
  served : Served s after login user.id
  member : user ∈ s.oauth.platform.users.rows
  users : after.oauth.platform.users = s.oauth.platform.users
  flag : (after.oauth.columns user.id).isEmailVerified =
    (s.oauth.columns user.id).isEmailVerified

/-- The identity is linked to nobody, and the address is nobody's. -/
def Newcomer (env : ExternalEnvironment) (s : IdentityDatabase) (address : String)
    (login : ExternalLogin) : Prop :=
  ∀ known ∈ s.oauth.platform.users.rows, ¬ Bound env s login known ∧ known.email ≠ address

inductive Effect (env : ExternalEnvironment) (s after : IdentityDatabase)
    (login : ExternalLogin) : Prop
  | known (user : Account) (returning : Returning s after login user)
      (bound : Bound env s login user)
      (link : linkOf after login user.id = linkOf s login user.id)
  | adopted (user : Account) (returning : Returning s after login user)
      (adopts : Adopts env s user login)
  | created (user : Account) (served : Served s after login user.id)
      (fresh : user.id ∉ s.oauth.platform.users.rows.map (·.id))
      (rows : after.oauth.platform.users.rows = s.oauth.platform.users.rows ++ [user])
      (newcomer : Newcomer env s user.email login)
      (flags : (after.oauth.columns user.id).isEmailVerified = true →
        FlagsAddress env user.email login)

theorem signIn_eq (env : OAuthEnvironment) (provider : OAuthProvider) (code : String)
    (s : OAuthDatabase) : signIn env provider code s = (do
      let profile ← presentedProfile env provider code
      let (user, isNewUser, s) ← findOrCreate env provider profile s
      refuseIf (user.isActive = false) (.app (unauthorizedException "User account is disabled"))
      let refreshTokens ← issueToken env.signup user s.refreshTokens
      return (tokenPair env.signup.auth env.signup.accessToken env.signup.refreshToken, isNewUser,
        { s with refreshTokens := refreshTokens })) := by
  simp only [signIn, presentedProfile, bind_assoc]

theorem issueToken_eq_ok {signup : SignupEnvironment} {user : Account}
    {tokens issued : Table RefreshToken.tokenHash}
    (success : issueToken signup user tokens = .ok issued) :
    signup.auth.hashToken signup.refreshToken ∉ tokens.rows.map (·.tokenHash) ∧
      ∃ rt, rt.userId = user.id ∧ issued.rows = tokens.rows ++ [rt] := by
  obtain ⟨new, rows⟩ := Table.insert_eq_some (flushNew_eq_ok.mp success)
  exact ⟨new, _, rfl, rows⟩

theorem textParameter_eq_ok {value : Json} {text : String} :
    textParameter value = .ok text ↔ value = .str text ∧ '\x00' ∉ text.toList := by
  cases value with
  | str value =>
    by_cases nul : '\x00' ∈ value.toList
    · simp only [textParameter, if_pos nul]
      constructor
      · intro wrong
        cases wrong
      · intro ⟨same, clean⟩
        cases same
        exact absurd nul clean
    · simp only [textParameter, if_neg nul]
      constructor
      · intro same
        cases same
        exact ⟨rfl, nul⟩
      · intro ⟨same, _⟩
        cases same
        rfl
  | _ =>
    constructor
    · intro wrong
      cases wrong
    · intro ⟨same, _⟩
      cases same

theorem member_of_email {service : ServiceEnvironment} {platform : Platform} {email : String}
    {user : Account} (found : userByEmail service platform email = some user) :
    user ∈ platform.users.rows ∧ service.lower email = user.email := by
  have holds := List.find?_some found
  exact ⟨List.mem_of_find?_eq_some found, (of_decide_eq_true holds).symm⟩

theorem setColumns_self (s : OAuthDatabase) (userId : Uuid) (columns : OAuthColumns) :
    (s.setColumns userId columns).columns userId = columns := if_pos rfl

theorem setColumns_of_ne (s : OAuthDatabase) {userId id : Uuid} (columns : OAuthColumns)
    (other : id ≠ userId) : (s.setColumns userId columns).columns id = s.columns id :=
  if_neg other

theorem providerId_withProviderId (columns : OAuthColumns) (id : String)
    (provider : OAuthProvider) :
    (columns.withProviderId id provider).isEmailVerified = columns.isEmailVerified := by
  cases provider <;> rfl

theorem user_of_providerId {s : OAuthDatabase} {provider : OAuthProvider} {id : String}
    {user : Account} (found : userByProviderId s provider id = some user) :
    user ∈ s.platform.users.rows ∧ (s.columns user.id).providerId provider = some id := by
  unfold userByProviderId at found
  have holds := List.find?_some found
  exact ⟨List.mem_of_find?_eq_some found, of_decide_eq_true holds⟩

/-- What a service leaves of the rows when it writes to a user's columns, apart
from these. -/
structure ColumnFrame (s after : OAuthDatabase) (userId : Uuid) : Prop where
  platform : after.platform = s.platform
  refreshTokens : after.refreshTokens = s.refreshTokens
  others : ∀ id, id ≠ userId → after.columns id = s.columns id
  flag : (after.columns userId).isEmailVerified = (s.columns userId).isEmailVerified

theorem columnFrame_set (s : OAuthDatabase) {userId : Uuid} {columns : OAuthColumns}
    (flag : columns.isEmailVerified = (s.columns userId).isEmailVerified) :
    ColumnFrame s (s.setColumns userId columns) userId := by
  refine ⟨rfl, rfl, fun id other => setColumns_of_ne s columns other, ?_⟩
  rw [setColumns_self]
  exact flag

theorem refreshAvatar_frame {user : Account} {avatar : Json} {s after : OAuthDatabase}
    (success : refreshAvatar user avatar s = .ok after) : ColumnFrame s after user.id ∧
      ∀ provider, (after.columns user.id).providerId provider =
        (s.columns user.id).providerId provider := by
  unfold refreshAvatar at success
  split at success
  · obtain ⟨avatarUrl, _, success⟩ := bind_eq_ok success
    cases success
    refine ⟨columnFrame_set s rfl, fun provider => ?_⟩
    rw [setColumns_self]
    cases provider <;> rfl
  · cases success
    exact ⟨⟨rfl, rfl, fun _ _ => rfl, rfl⟩, fun _ => rfl⟩

theorem linkAccount_eq_ok {provider : OAuthProvider} {user : Account} {id : String}
    {avatar : Json} {s after : OAuthDatabase}
    (success : linkAccount provider user id avatar s = .ok after) :
    ColumnFrame s after user.id ∧ FitsText 255 id ∧ ∃ avatarUrl,
      textColumn 500 (match provider with
        | .google => avatar
        | .github => if avatar.truthy then avatar else .null) = .ok avatarUrl := by
  obtain ⟨avatarUrl, column, success⟩ := bind_eq_ok success
  obtain ⟨_, fits, success⟩ := bind_eq_ok success
  cases success
  unfold refuseMisfit at fits
  rw [refuseIf_eq_ok, not_not] at fits
  exact ⟨columnFrame_set s (providerId_withProviderId _ id provider), fits, avatarUrl, column⟩

theorem createAccount_eq_ok {env : OAuthEnvironment} {provider : OAuthProvider}
    {id email : String} {profile : OAuthProfile} {s after : OAuthDatabase} {user : Account}
    (success : createAccount env provider id email profile s = .ok (user, after)) :
    user.id ∉ s.platform.users.rows.map (·.id) ∧
      after.platform.users.rows = s.platform.users.rows ++ [user] ∧
      user.email = env.signup.service.lower email ∧ after.refreshTokens = s.refreshTokens ∧
      (∀ other, other ≠ user.id → after.columns other = s.columns other) ∧
      (after.columns user.id).isEmailVerified = profile.emailVerified := by
  obtain ⟨_, _, success⟩ := bind_eq_ok success
  obtain ⟨fullName, _, success⟩ := bind_eq_ok success
  obtain ⟨avatarUrl, _, success⟩ := bind_eq_ok success
  obtain ⟨_, _, success⟩ := bind_eq_ok success
  obtain ⟨users, added, success⟩ := bind_eq_ok success
  obtain ⟨platform, opened, success⟩ := bind_eq_ok success
  cases success
  obtain ⟨fresh, rows⟩ := Table.insert_eq_some (flushNew_eq_ok.mp added)
  obtain ⟨_, _, opened⟩ := bind_eq_ok opened
  obtain ⟨_, _, opened⟩ := bind_eq_ok opened
  obtain ⟨_, _, opened⟩ := bind_eq_ok opened
  obtain ⟨_, _, opened⟩ := bind_eq_ok opened
  cases opened
  refine ⟨fresh, rows, rfl, rfl, fun other different => setColumns_of_ne _ _ different, ?_⟩
  rw [setColumns_self, providerId_withProviderId]

theorem userByProviderId_none {s : OAuthDatabase} {provider : OAuthProvider} {id : String}
    (none : userByProviderId s provider id = none) {user : Account}
    (member : user ∈ s.platform.users.rows) :
    (s.columns user.id).providerId provider ≠ some id := by
  have absent := List.find?_eq_none.mp none user member
  simpa using absent

theorem externalAuthId_of_none {externalAuthId : String}
    (none : userByExternalAuthId s externalAuthId = .ok none) {user : Account}
    (member : user ∈ s.oauth.platform.users.rows) :
    s.externalAuthIds user.id ≠ some externalAuthId := by
  intro bound
  have known : user ∈ s.oauth.platform.users.rows.filter
      (fun user => s.externalAuthIds user.id = some externalAuthId) :=
    List.mem_filter.mpr ⟨member, decide_eq_true bound⟩
  rw [nil_of_oneOrNone none] at known
  cases known

theorem email_of_none {service : ServiceEnvironment} {platform : Platform} {email : String}
    (none : userByEmail service platform email = none) {user : Account}
    (member : user ∈ platform.users.rows) : user.email ≠ service.lower email := by
  have absent := List.find?_eq_none.mp none user member
  simpa using absent

theorem userByJsonEmail_eq_ok {env : OAuthEnvironment} {s : OAuthDatabase} {value : Json}
    {found : Option Account} (success : userByJsonEmail env s value = .ok found) :
    ∃ email, value = .str email ∧ '\x00' ∉ email.toList ∧
      userByEmail env.signup.service s.platform email = found := by
  cases value with
  | str email =>
    obtain ⟨email', parameter, success⟩ := bind_eq_ok success
    cases success
    obtain ⟨same, clean⟩ := textParameter_eq_ok.mp parameter
    cases same
    exact ⟨email, rfl, clean, rfl⟩
  | _ => cases success

theorem effect_of_signIn {provider : OAuthProvider} {code : String}
    (success : externalLogin env s (.oauth provider code) = .ok after) :
    Effect env s after (.oauth provider code) := by
  obtain ⟨⟨tokens, isNewUser, oauth⟩, signed, success⟩ := bind_eq_ok success
  cases success
  rw [signIn_eq] at signed
  obtain ⟨profile, presented, signed⟩ := bind_eq_ok signed
  obtain ⟨⟨user, isNew, found⟩, finding, signed⟩ := bind_eq_ok signed
  obtain ⟨_, active, signed⟩ := bind_eq_ok signed
  obtain ⟨refreshTokens, issued, signed⟩ := bind_eq_ok signed
  cases signed
  have active : user.isActive = true := by
    rw [refuseIf_eq_ok] at active
    simpa using active
  obtain ⟨newToken, rt, owner, tokenRows⟩ := issueToken_eq_ok issued
  have served (tokensKept : found.refreshTokens = s.oauth.refreshTokens)
      (others : ∀ id, id ≠ user.id → found.columns id = s.oauth.columns id) :
      Served s ⟨{ found with refreshTokens := refreshTokens }, s.externalAuthIds⟩
        (.oauth provider code) user.id := by
    refine ⟨⟨rt, owner, ?_⟩, ?_, ?_⟩
    · rw [← tokensKept]
      exact tokenRows
    · exact fun id other => congrArg (fun columns => columns.providerId provider) (others id other)
    · exact fun id other => congrArg OAuthColumns.isEmailVerified (others id other)
  obtain ⟨id, parameter, finding⟩ := bind_eq_ok finding
  have named := (textParameter_eq_ok.mp parameter).1
  split at finding
  · next known recognized =>
    obtain ⟨refreshed, avatar, finding⟩ := bind_eq_ok finding
    cases finding
    obtain ⟨member, bound⟩ := user_of_providerId recognized
    obtain ⟨frame, link⟩ := refreshAvatar_frame avatar
    refine .known user ⟨served frame.refreshTokens frame.others, member,
      congrArg Platform.users frame.platform, frame.flag⟩ ⟨id, ?_, bound⟩ (link provider)
    rw [profile_identity presented, named]
  · next unknown =>
    obtain ⟨byEmail, searched, finding⟩ := bind_eq_ok finding
    obtain ⟨email, address, clean, lookup⟩ := userByJsonEmail_eq_ok searched
    split at finding
    · next known =>
      obtain ⟨linked, linking, finding⟩ := bind_eq_ok finding
      cases finding
      obtain ⟨frame, fits, avatarUrl, column⟩ := linkAccount_eq_ok linking
      refine .adopted user ⟨served frame.refreshTokens frame.others, (member_of_email lookup).1,
        congrArg Platform.users frame.platform, frame.flag⟩ ⟨profile, id, email, avatarUrl,
        presented, parameter, unknown, address, clean, lookup, column, fits, active, ?_⟩
      rw [frame.refreshTokens] at newToken
      exact newToken
    · obtain ⟨email', parameter', finding⟩ := bind_eq_ok finding
      obtain ⟨⟨user', opened⟩, creating, finding⟩ := bind_eq_ok finding
      cases finding
      obtain ⟨fresh, rows, lowered, tokensKept, others, flag⟩ := createAccount_eq_ok creating
      have settled := (textParameter_eq_ok.mp parameter').1
      refine .created user (served tokensKept others) fresh rows ?_ ?_
      · intro known member
        constructor
        · intro ⟨id', named', bound⟩
          rw [profile_identity presented, named] at named'
          cases named'
          exact userByProviderId_none unknown member bound
        · rw [lowered]
          rw [address] at settled
          cases settled
          exact email_of_none lookup member
      · intro verified
        exact ⟨profile, email', presented, settled, flag.symm.trans verified, lowered.symm⟩

theorem setExternal_of_ne (s : IdentityDatabase) {userId id : Uuid} (externalAuthId : String)
    (other : id ≠ userId) :
    (s.setExternalAuthId userId externalAuthId).externalAuthIds id = s.externalAuthIds id :=
  if_neg other

theorem user_of_externalAuthId {externalAuthId : String} {user : Account}
    (found : userByExternalAuthId s externalAuthId = .ok (some user)) :
    user ∈ s.oauth.platform.users.rows ∧ s.externalAuthIds user.id = some externalAuthId := by
  obtain ⟨member, bound⟩ := List.mem_filter.mp (mem_of_oneOrNone found)
  exact ⟨member, of_decide_eq_true bound⟩

theorem fallbackByEmail_eq_ok {mapped : SupabaseUser} {found : Option Account}
    (success : fallbackByEmail env mapped s = .ok found) :
    (mapped.email.truthy = false ∧ found = none) ∨
      ∃ email, mapped.email = .str email ∧ email ≠ "" ∧ '\x00' ∉ email.toList ∧
        userByEmail env.oauth.signup.service s.oauth.platform email = found := by
  unfold fallbackByEmail at success
  split at success
  · next given =>
    obtain ⟨email, same, clean, lookup⟩ := userByJsonEmail_eq_ok success
    refine .inr ⟨email, same, ?_, clean, lookup⟩
    rw [same] at given
    simpa [Json.truthy] using given
  · next missing =>
    cases success
    exact .inl ⟨by simpa using missing, rfl⟩

theorem provisionAccount_eq_ok {mapped : SupabaseUser} {user : Account}
    (success : provisionAccount env mapped s = .ok (user, after)) :
    user.id ∉ s.oauth.platform.users.rows.map (·.id) ∧
      after.oauth.platform.users.rows = s.oauth.platform.users.rows ++ [user] ∧
      after.oauth.refreshTokens = s.oauth.refreshTokens ∧
      (∀ other, other ≠ user.id → after.oauth.columns other = s.oauth.columns other ∧
        after.externalAuthIds other = s.externalAuthIds other) ∧
      ∃ email, mapped.email.orElse (.str (env.localAddressPrefix ++ "@supabase.local")) =
          .str email ∧ env.oauth.signup.service.lower email = user.email ∧
        userByEmail env.oauth.signup.service s.oauth.platform email = none ∧
        booleanColumn mapped.isEmailVerified =
          .ok (after.oauth.columns user.id).isEmailVerified := by
  obtain ⟨email, parameter, success⟩ := bind_eq_ok success
  obtain ⟨_, _, success⟩ := bind_eq_ok success
  obtain ⟨fullName, _, success⟩ := bind_eq_ok success
  obtain ⟨isEmailVerified, flag, success⟩ := bind_eq_ok success
  obtain ⟨_, _, success⟩ := bind_eq_ok success
  obtain ⟨_, unused, success⟩ := bind_eq_ok success
  obtain ⟨users, added, success⟩ := bind_eq_ok success
  obtain ⟨_, _, success⟩ := bind_eq_ok success
  obtain ⟨_, _, success⟩ := bind_eq_ok success
  obtain ⟨_, _, success⟩ := bind_eq_ok success
  obtain ⟨_, _, success⟩ := bind_eq_ok success
  cases success
  obtain ⟨fresh, rows⟩ := Table.insert_eq_some (flushNew_eq_ok.mp added)
  rw [refuseIf_eq_ok, Option.not_isSome_iff_eq_none] at unused
  refine ⟨fresh, rows, rfl, ?_, email, (textParameter_eq_ok.mp parameter).1, rfl, unused, ?_⟩
  · exact fun other different => ⟨setColumns_of_ne _ _ different,
      setExternal_of_ne _ _ different⟩
  · rw [flag]
    exact congrArg (fun columns => Except.ok (OAuthColumns.isEmailVerified columns))
      (setColumns_self _ _ ⟨none, none, none, none, isEmailVerified⟩).symm

theorem issueSupabaseToken_eq_ok {signup : SignupEnvironment} {user : Account}
    {tokens issued : Table RefreshToken.tokenHash}
    (success : issueSupabaseToken signup user tokens = .ok issued) :
    signup.auth.hashToken signup.refreshToken ∉ tokens.rows.map (·.tokenHash) ∧
      ∃ rt, rt.userId = user.id ∧ issued.rows = tokens.rows ++ [rt] := by
  obtain ⟨new, rows⟩ := Table.insert_eq_some (flushNew_eq_ok.mp success)
  exact ⟨new, _, rfl, rows⟩

theorem effect_of_supabaseMe {payload : Json}
    (success : externalLogin env s (.supabase payload) = .ok after) :
    Effect env s after (.supabase payload) := by
  obtain ⟨⟨response, committed⟩, signed, success⟩ := bind_eq_ok success
  cases success
  obtain ⟨mapped, mapping, signed⟩ := bind_eq_ok signed
  obtain ⟨⟨user, found⟩, finding, signed⟩ := bind_eq_ok signed
  obtain ⟨refreshTokens, issued, signed⟩ := bind_eq_ok signed
  cases signed
  obtain ⟨newToken, rt, owner, tokenRows⟩ := issueSupabaseToken_eq_ok issued
  have served (tokensKept : found.oauth.refreshTokens = s.oauth.refreshTokens)
      (others : ∀ id, id ≠ user.id → found.oauth.columns id = s.oauth.columns id ∧
        found.externalAuthIds id = s.externalAuthIds id) :
      Served s { found with oauth := { found.oauth with refreshTokens := refreshTokens } }
        (.supabase payload) user.id := by
    refine ⟨⟨rt, owner, ?_⟩, ?_, ?_⟩
    · rw [← tokensKept]
      exact tokenRows
    · exact fun id other => (others id other).2
    · exact fun id other => congrArg OAuthColumns.isEmailVerified (others id other).1
  obtain ⟨_, clean, finding⟩ := bind_eq_ok finding
  obtain ⟨byId, recognized, finding⟩ := bind_eq_ok finding
  split at finding
  · next known =>
    cases finding
    obtain ⟨member, bound⟩ := user_of_externalAuthId recognized
    exact .known user ⟨served rfl (fun _ _ => ⟨rfl, rfl⟩), member, rfl, rfl⟩
      ⟨mapped.externalAuthId, mapped_identity mapping, bound⟩ rfl
  · obtain ⟨byEmail, searched, finding⟩ := bind_eq_ok finding
    split at finding
    · next known =>
      obtain ⟨_, fits, finding⟩ := bind_eq_ok finding
      cases finding
      rcases fallbackByEmail_eq_ok searched with ⟨_, none⟩ | ⟨email, given, filled, plain, lookup⟩
      · cases none
      · unfold refuseMisfit at fits
        rw [refuseIf_eq_ok, not_not] at fits
        exact .adopted user ⟨served rfl (fun id other => ⟨rfl, setExternal_of_ne _ _ other⟩),
          (member_of_email lookup).1, rfl, rfl⟩
          ⟨mapped, email, mapping, recognized, fits, given, filled, plain, lookup, newToken⟩
    · obtain ⟨fresh, rows, tokensKept, others, email, settled, lowered, unused, flag⟩ :=
        provisionAccount_eq_ok finding
      refine .created user (served tokensKept others) fresh rows ?_ ?_
      · intro known member
        constructor
        · intro ⟨id', named, bound⟩
          rw [mapped_identity mapping] at named
          cases named
          exact externalAuthId_of_none recognized member bound
        · rw [← lowered]
          exact email_of_none unused member
      · intro verified
        refine ⟨mapped, email, mapping, settled, ?_, lowered⟩
        rw [flag]
        exact congrArg Except.ok verified

theorem effect_of_externalLogin (success : externalLogin env s login = .ok after) :
    Effect env s after login := by
  cases login with
  | oauth provider code => exact effect_of_signIn success
  | supabase payload => exact effect_of_supabaseMe success

/-! ## An account to adopt is adopted -/

/-- A request with a new token gets it into the table. -/
theorem flush_succeeds (tokens : Table RefreshToken.tokenHash) (rt : RefreshToken)
    (new : rt.tokenHash ∉ tokens.rows.map (·.tokenHash)) :
    ∃ issued, flushNew tokens rt = .ok issued ∧ rt ∈ issued.rows ∧ rt ∉ tokens.rows := by
  obtain ⟨issued, inserted⟩ := (Table.insert_isSome_iff tokens rt).mpr new
  refine ⟨issued, flushNew_eq_ok.mpr inserted, ?_, fun old => new (List.mem_map_of_mem old)⟩
  rw [(Table.insert_eq_some inserted).2]
  exact List.mem_append_right _ (List.mem_singleton_self _)

/-- The login that adopts an account succeeds, for an account of somebody else. -/
structure Adopted (env : ExternalEnvironment) (s : IdentityDatabase) (login : ExternalLogin)
    (user : Account) (after : IdentityDatabase) : Prop where
  success : externalLogin env s login = .ok after
  member : user ∈ s.oauth.platform.users.rows
  unbound : ¬ Bound env s login user
  serves : Serves s after login user

theorem linkAccount_succeeds {provider : OAuthProvider} (user : Account) {id : String}
    {avatar : Json} {avatarUrl : Option String} {s : OAuthDatabase}
    (column : textColumn 500 (match provider with
        | .google => avatar
        | .github => if avatar.truthy then avatar else .null) = .ok avatarUrl)
    (fits : FitsText 255 id) : ∃ after, linkAccount provider user id avatar s = .ok after ∧
      after.refreshTokens = s.refreshTokens := by
  have success : refuseMisfit (FitsText 255 id) = .ok () := by
    unfold refuseMisfit
    rw [refuseIf_eq_ok, not_not]
    exact fits
  cases provider with
  | google =>
    have sent : textColumn 500 avatar = .ok avatarUrl := column
    simp only [linkAccount, sent, success, bind, Except.bind, pure, Except.pure]
    exact ⟨_, rfl, rfl⟩
  | github =>
    have sent : textColumn 500 (if avatar.truthy then avatar else .null) = .ok avatarUrl := column
    simp only [linkAccount, sent, success, bind, Except.bind, pure, Except.pure]
    exact ⟨_, rfl, rfl⟩

theorem adopted_of_oauth {provider : OAuthProvider} {code : String} {user : Account}
    (adopts : Adopts env s user (.oauth provider code)) :
    ∃ after, Adopted env s (.oauth provider code) user after := by
  obtain ⟨profile, id, email, avatarUrl, presented, parameter, unknown, address, clean, lookup,
    column, fits, active, new⟩ := adopts
  obtain ⟨linked, linking, tokensKept⟩ := linkAccount_succeeds user (s := s.oauth)
    column fits
  obtain ⟨issued, issuing, present, absent⟩ := flush_succeeds s.oauth.refreshTokens
    { tokenHash := env.oauth.signup.auth.hashToken env.oauth.signup.refreshToken
      userId := user.id
      tokenFamily := env.oauth.signup.service.newId 4
      tokenSequence := 1
      isRevoked := false
      expiresAt := env.oauth.signup.service.now +
        daysToMicros env.oauth.signup.auth.refreshTokenExpireDays } new
  have issue : issueToken env.oauth.signup user linked.refreshTokens = .ok issued := by
    rw [tokensKept]
    exact issuing
  have searched : userByJsonEmail env.oauth s.oauth profile.email = .ok (some user) := by
    rw [address]
    simp only [userByJsonEmail, textParameter_eq_ok.mpr ⟨rfl, clean⟩, bind, Except.bind, lookup,
      pure, Except.pure]
  have found : findOrCreate env.oauth provider profile s.oauth = .ok (user, false, linked) := by
    unfold findOrCreate
    simp only [parameter, unknown, searched, linking, bind, Except.bind, pure, Except.pure]
  have enabled : refuseIf (user.isActive = false)
      (.app (unauthorizedException "User account is disabled")) = .ok () := by
    rw [refuseIf_eq_ok, active]
    decide
  refine ⟨⟨{ linked with refreshTokens := issued }, s.externalAuthIds⟩, ?_,
    (member_of_email lookup).1, ?_, .inr ⟨_, present, absent, rfl⟩⟩
  · unfold externalLogin
    simp only [signIn_eq, presented, found, enabled, issue, bind, Except.bind, pure, Except.pure]
  · intro ⟨id', named, bound⟩
    rw [profile_identity presented, (textParameter_eq_ok.mp parameter).1] at named
    cases named
    exact userByProviderId_none unknown (member_of_email lookup).1 bound

theorem adopted_of_supabase {payload : Json} {user : Account}
    (adopts : Adopts env s user (.supabase payload)) :
    ∃ after, Adopted env s (.supabase payload) user after := by
  obtain ⟨mapped, email, mapping, unknown, fits, address, filled, clean, lookup, new⟩ := adopts
  obtain ⟨issued, issuing, present, absent⟩ := flush_succeeds s.oauth.refreshTokens
    { tokenHash := env.oauth.signup.auth.hashToken env.oauth.signup.refreshToken
      userId := user.id
      tokenFamily := env.oauth.signup.service.newId 4
      tokenSequence := 1
      isRevoked := false
      expiresAt := env.oauth.signup.service.now +
        secondsToMicros (env.oauth.signup.auth.accessTokenExpireMinutes * 60) } new
  have issue : issueSupabaseToken env.oauth.signup user s.oauth.refreshTokens = .ok issued :=
    issuing
  have searched : fallbackByEmail env mapped s = .ok (some user) := by
    unfold fallbackByEmail
    rw [address, if_pos (by simpa [Json.truthy] using filled)]
    simp only [userByJsonEmail, textParameter_eq_ok.mpr ⟨rfl, clean⟩, bind, Except.bind, lookup,
      pure, Except.pure]
  have plain : refuseIf ('\x00' ∈ mapped.externalAuthId.toList) (.flush "DataError") = .ok () := by
    rw [refuseIf_eq_ok]
    exact fits.2
  have column : refuseMisfit (FitsText 255 mapped.externalAuthId) = .ok () := by
    unfold refuseMisfit
    rw [refuseIf_eq_ok, not_not]
    exact fits
  have found : findOrProvision env mapped s =
      .ok (user, s.setExternalAuthId user.id mapped.externalAuthId) := by
    unfold findOrProvision
    simp only [plain, unknown, searched, column, bind, Except.bind, pure, Except.pure]
  refine ⟨{ s.setExternalAuthId user.id mapped.externalAuthId with
    oauth := { s.oauth with refreshTokens := issued } }, ?_, (member_of_email lookup).1, ?_,
    .inr ⟨_, present, absent, rfl⟩⟩
  · unfold externalLogin supabaseMe
    simp only [mapping, found, bind, Except.bind, pure, Except.pure]
    simp only [IdentityDatabase.setExternalAuthId, issue]
  · intro ⟨id', named, bound⟩
    rw [mapped_identity mapping] at named
    cases named
    exact externalAuthId_of_none unknown (member_of_email lookup).1 bound

theorem asserts_of_adopts (safe : VerifiedOnly env s login) {user : Account}
    (adopts : Adopts env s user login) : Asserts env user.email login := by
  obtain ⟨after, adopted⟩ : ∃ after, Adopted env s login user after := by
    cases login with
    | oauth provider code => exact adopted_of_oauth adopts
    | supabase payload => exact adopted_of_supabase adopts
  exact safe after adopted.success user adopted.member adopted.unbound adopted.serves

/-- The three entries link and serve existing accounts by verified addresses
exactly when every account they would adopt has its address asserted. -/
theorem verified_only_iff (env : ExternalEnvironment) (s : IdentityDatabase)
    (login : ExternalLogin) : VerifiedOnly env s login ↔ AdoptsByAssertion env s login := by
  constructor
  · exact fun safe user adopts => asserts_of_adopts safe adopts
  · intro asserted after success user member unbound serves
    have only {served : Account} (holds : Served s after login served.id)
        (different : user.id ≠ served.id) : False := by
      rcases serves with changed | ⟨rt, issued, new, owner⟩
      · exact changed (holds.links user.id different)
      · obtain ⟨rt', owner', grown⟩ := holds.token
        rw [grown] at issued
        rcases List.mem_append.mp issued with old | same
        · exact new old
        · rw [List.mem_singleton.mp same, owner'] at owner
          exact different owner.symm
    have same {served : Account} (returning : Returning s after login served) : user = served := by
      apply Table.eq_of_key member returning.member
      by_contra different
      exact only returning.served different
    cases effect_of_externalLogin success with
    | known served returning bound link =>
      rw [same returning] at unbound
      exact absurd bound unbound
    | adopted served returning adopts =>
      rw [same returning]
      exact asserted served adopts
    | created served holds fresh rows newcomer flags =>
      refine absurd ?_ fresh
      by_contra absent
      apply only holds
      intro equal
      exact absent (equal ▸ List.mem_map_of_mem member)

/-! ## Three ways in -/

/-- Answers of the provider, and a verified Supabase payload. -/
def githubServer (user emails : Json) : ExternalEnvironment where
  oauth :=
    { OAuthLogins.googleServer with
      userinfoUrl := fun _ _ => .document user
      emailsUrl := fun _ => .document emails }
  localAddressPrefix := "5f0c2a9d"

/-- One local user with the address. -/
def victim (email : String) : IdentityDatabase where
  oauth :=
    { OAuthLogins.linkedUser with
      platform := { OAuthLogins.linkedUser.platform with
        users := ⟨[⟨11, email, "A", "hash", true, false, false, 0⟩], by simp⟩ }
      columns := fun _ => ⟨none, none, none, none, false⟩ }
  externalAuthIds _ := none

def unlistedProfile : ExternalEnvironment :=
  githubServer (.obj [("id", .int 7), ("login", .str "mallory"), ("email", .str "a@example.com")])
    (.arr [.obj [("email", .str "a@example.com"), ("verified", .bool false)]])

def metadataAddress : Json :=
  .obj [("sub", .str "9d2f"), ("user_metadata", .obj [("email", .str "a@example.com")])]

def victimAccount : Account := ⟨11, "a@example.com", "A", "hash", true, false, false, 0⟩

/-- GitHub lists the address of the profile as not verified; the Supabase payload
has it in the metadata its user writes. Both sign in as the local user. -/
theorem account_taken_by_unasserted_address :
    ¬ VerifiedOnly unlistedProfile (victim "a@example.com") (.oauth .github "code") ∧
      ¬ VerifiedOnly unlistedProfile (victim "a@example.com") (.supabase metadataAddress) := by
  constructor
  · intro safe
    have adopts : Adopts unlistedProfile (victim "a@example.com") victimAccount
        (.oauth .github "code") :=
      ⟨⟨.str "7", .str "a@example.com", true, .str "mallory", .null⟩, "7", "a@example.com", none,
        by rfl, by rfl, by rfl, by rfl, by decide, by rfl, by rfl, by decide, by rfl,
        List.not_mem_nil⟩
    obtain ⟨entry, listed, verified, _⟩ := asserts_of_adopts safe adopts
    have only : entry = .obj [("email", .str "a@example.com"), ("verified", .bool false)] :=
      List.mem_singleton.mp listed
    rw [only] at verified
    cases verified
  · intro safe
    have adopts : Adopts unlistedProfile (victim "a@example.com") victimAccount
        (.supabase metadataAddress) :=
      ⟨⟨"supabase:9d2f", .str "a@example.com", .str "", .bool false⟩, "a@example.com",
        by rfl, by rfl, by decide, by rfl, by decide, by decide, by rfl, List.not_mem_nil⟩
    obtain ⟨verified | verified, _⟩ := asserts_of_adopts safe adopts
    · cases verified
    · cases verified

end Reliastra.Guarantees.VerifiedLinking
