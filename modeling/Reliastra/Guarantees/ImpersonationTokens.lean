import Reliastra.Source.Admin.Impersonation
import Reliastra.Source.Auth.RefreshTokens

/-!
# What an impersonation token opens

An administrator impersonates a user with a token that is to be taken for an access
token of that user. Its claims override the type of an access token, and the only
reader of access tokens asks for that type, so the token opens nothing at any time.
-/

namespace Reliastra.Guarantees.ImpersonationTokens

open Reliastra.Library Source Source.Auth Source.Admin

/-- A request with the token as its bearer token, and no API key. -/
def Presents (env : CredentialEnvironment) (request : Request) (token : String) : Prop :=
  rawKey? env request = none ∧
    (env.httpBearer request.authorization).map (·.credentials) = some token

/-- The token is accepted as the target from its issue to its expiry, at no later time,
and never by `refresh`. -/
structure WorksUntilExpiry (credentials : CredentialEnvironment) (auth : AuthEnvironment)
    (request : Request) (token : String) (target : Uuid) (issuedAt expiry : Instant) : Prop where
  accepted : ∀ now, issuedAt ≤ now → now < expiry →
    ∀ (db : Directory) (requiredScope : Option String) (user : Account),
      db.users.get? target = some user → user.isActive = true →
      getCurrentUser credentials db request requiredScope now = .ok (.jwt target, user)
  noLater : ∀ now, expiry ≤ now → ∀ (db : Directory) (requiredScope : Option String) authenticated,
    getCurrentUser credentials db request requiredScope now ≠ .ok authenticated
  neverRefreshes : ∀ (fresh : Fresh) (s : AuthState) (response : TokenResponse),
    (refresh auth token fresh s).outcome ≠ .ok response

/-- Request dependencies that decode tokens with the library that signs them. -/
def dependencies (env : TokenEnvironment) (credentials : CredentialEnvironment) :
    CredentialEnvironment :=
  { credentials with decodeToken := decodeToken env.jwt }

theorem dependencies_httpBearer (env : TokenEnvironment) (credentials : CredentialEnvironment) :
    (dependencies env credentials).httpBearer = credentials.httpBearer := rfl

theorem dependencies_decodeToken (env : TokenEnvironment) (credentials : CredentialEnvironment) :
    (dependencies env credentials).decodeToken = decodeToken env.jwt := rfl

theorem dependencies_rawKey (env : TokenEnvironment) (credentials : CredentialEnvironment)
    (request : Request) : rawKey? (dependencies env credentials) request = rawKey? credentials request :=
  rfl

/-- The authentication service with the same library. -/
def authentication (env : TokenEnvironment) (auth : AuthEnvironment) : AuthEnvironment :=
  { auth with decodeToken := decodeToken env.jwt }

/-- The token one of the two services issues for a target. -/
def Issued (env : TokenEnvironment) (users : Table Account.id) (target administrator : Uuid)
    (draw : ImpersonationDraw) (token : String) : Prop :=
  (∃ response, impersonate env users target administrator draw = .ok response ∧
      response.token = token) ∨
    ∃ reason response, impersonateCustomer env users target reason administrator draw =
      .ok response ∧ response.token = token

/-! ## Who accepts the token -/

theorem isImpersonationToken {env : TokenEnvironment} {users : Table Account.id}
    {target administrator : Uuid} {draw : ImpersonationDraw} {token : String}
    (issued : Issued env users target administrator draw token) :
    IsImpersonationToken env target draw token := by
  rcases issued with ⟨response, issued, rfl⟩ | ⟨reason, response, issued, rfl⟩
  · exact impersonate_eq_ok issued
  · exact impersonateCustomer_eq_ok issued

/-- Whoever decodes the token reads the type `impersonation`. -/
theorem decoded_type {env : TokenEnvironment} {target : Uuid} {draw : ImpersonationDraw}
    {token : String} (made : IsImpersonationToken env target draw token) {now : Instant}
    {payload : Json} (decoded : decodeToken env.jwt token now = .ok payload) :
    payload.get "type" = .str "impersonation" := by
  obtain ⟨administrator, extra, added, rfl⟩ := made
  have plain := impersonationClaims_plain added (env.uuidText target) (env.uuidText administrator)
    draw.token.jti (draw.token.now / 1000000) (impersonationExpiry draw)
  rw [decodeToken_eq_ok plain decoded]
  have member : ("type", .str "impersonation") ∈ impersonationClaims (env.uuidText target)
      (env.uuidText administrator) draw.token.jti (draw.token.now / 1000000)
      (impersonationExpiry draw) extra := by
    simp [impersonationClaims]
  unfold Json.get
  dsimp only
  rw [lookup_of_mem plain.distinct member]
  rfl

/-- A bearer token of another type is refused as such. -/
theorem getCurrentUser_otherType {credentials : CredentialEnvironment} {db : Directory}
    {request : Request} {requiredScope : Option String} {now : Instant} {bearer : BearerCredentials}
    {payload : Json} {other : String} (noKey : rawKey? credentials request = none)
    (header : credentials.httpBearer request.authorization = some bearer)
    (nonempty : bearer.credentials ≠ "")
    (decoded : credentials.decodeToken bearer.credentials now = .ok payload)
    (type : payload.get "type" = .str other) (notAccess : other ≠ "access") :
    getCurrentUser credentials db request requiredScope now =
      .error (.app (unauthorizedException "Invalid token type")) := by
  have chosen : (credentials.httpBearer request.authorization).filter
      (fun bearer => bearer.credentials ≠ "") = some bearer := by
    rw [header]
    exact Option.filter_some_pos (decide_eq_true nonempty)
  unfold getCurrentUser
  rw [noKey]
  dsimp only
  rw [chosen]
  dsimp only
  rw [decoded]
  simp only [bind, Except.bind]
  rw [type]
  split
  · next access => exact absurd (Json.str.inj access) notAccess
  · rfl

/-- `get_current_user` refuses the token at every time. -/
theorem getCurrentUser_refuses {env : TokenEnvironment} {credentials : CredentialEnvironment}
    {target : Uuid} {draw : ImpersonationDraw} {token : String} {request : Request}
    (made : IsImpersonationToken env target draw token)
    (presents : Presents credentials request token) (db : Directory)
    (requiredScope : Option String) (now : Instant) (authenticated : Principal × Account) :
    getCurrentUser (dependencies env credentials) db request requiredScope now ≠
      .ok authenticated := by
  obtain ⟨noKey, bearing⟩ := presents
  obtain ⟨bearer, header, rfl⟩ := Option.map_eq_some_iff.mp bearing
  have keyless : rawKey? (dependencies env credentials) request = none := noKey
  intro accepted
  unfold getCurrentUser at accepted
  rw [keyless] at accepted
  dsimp only at accepted
  split at accepted
  · cases accepted
  · next presented chosen =>
    obtain ⟨found, _⟩ := Option.filter_eq_some_iff.mp chosen
    obtain rfl : bearer = presented := Option.some.inj (header.symm.trans found)
    obtain ⟨payload, decoded, rest⟩ := Api.bind_eq_ok accepted
    rw [decoded_type made decoded] at rest
    cases rest

/-- `refresh` refuses the token at every time. -/
theorem refresh_refuses {env : TokenEnvironment} {auth : AuthEnvironment} {target : Uuid}
    {draw : ImpersonationDraw} {token : String} (made : IsImpersonationToken env target draw token)
    (fresh : Fresh) (s : AuthState) (response : TokenResponse) :
    (refresh (authentication env auth) token fresh s).outcome ≠ .ok response := by
  intro accepted
  unfold refresh at accepted
  cases decoded : (authentication env auth).decodeToken token fresh.now with
  | error failure =>
    rw [decoded] at accepted
    cases accepted
  | ok payload =>
    rw [decoded] at accepted
    dsimp only at accepted
    rw [decoded_type made decoded] at accepted
    cases accepted

/-! ## No token works -/

theorem not_worksUntilExpiry {env : TokenEnvironment} {credentials : CredentialEnvironment}
    {auth : AuthEnvironment} {users : Table Account.id} {target administrator : Uuid}
    {draw : ImpersonationDraw} {token : String} {request : Request} {issuedAt : Instant}
    (issued : Issued env users target administrator draw token)
    (active : ∃ user, users.get? target = some user ∧ user.isActive = true)
    (presents : Presents credentials request token)
    (live : issuedAt < secondsToMicros (impersonationExpiry draw)) :
    ¬ WorksUntilExpiry (dependencies env credentials) (authentication env auth) request token
      target issuedAt (secondsToMicros (impersonationExpiry draw)) := by
  intro works
  obtain ⟨user, found, usable⟩ := active
  have accepted := works.accepted issuedAt le_rfl live ⟨users, .empty, []⟩ none user found usable
  exact getCurrentUser_refuses (isImpersonationToken issued) presents _ none issuedAt _ accepted

/-- For every active target, every administrator and both services, the token issued is
not accepted until its expiry, whichever request presents it. -/
theorem impersonation_never_works (env : TokenEnvironment) (credentials : CredentialEnvironment)
    (auth : AuthEnvironment) (users : Table Account.id) (target administrator : Uuid)
    (user : Account) (found : users.get? target = some user) (active : user.isActive = true)
    (draw : ImpersonationDraw) (token : String)
    (issued : Issued env users target administrator draw token) (request : Request)
    (presents : Presents credentials request token) (issuedAt : Instant)
    (live : issuedAt < secondsToMicros (impersonationExpiry draw)) :
    ¬ WorksUntilExpiry (dependencies env credentials) (authentication env auth) request token
      target issuedAt (secondsToMicros (impersonationExpiry draw)) :=
  not_worksUntilExpiry issued ⟨user, found, active⟩ presents live

/-! ## A customer impersonated at the epoch -/

def customer : Account := ⟨11, "kim@acme.example", "Kim", "", true, false, false, 0⟩

def accounts : Table Account.id := ⟨[customer], by decide⟩

def signing : TokenEnvironment := ⟨plainJwt, fun _ => Api.memberIdText, 30⟩

def atOnce : ImpersonationDraw := ⟨⟨0, 0, "5d41402abc4b2a76b9719d911017c592"⟩, 0, 0⟩

def impersonationText : String :=
  writeClaims (impersonationClaims Api.memberIdText Api.memberIdText
    "5d41402abc4b2a76b9719d911017c592" 0 900 [])

def presenting : Request where
  method := "GET"
  path := "/v1/users/me"
  authorization := some ("Bearer " ++ impersonationText)
  apiKey := none
  organizationId := none
  reliastraOrganization := none
  idempotencyKey := none
  clientHost := none

/-- A header that presents a token is no key, and its credentials are the token. -/
theorem bearer_header {token : String} (nonempty : token ≠ "") :
    Text.startsWith (Text.lower (Text.strip ("Bearer " ++ token))) "rel_" = false ∧
      Text.startsWith (Text.lower (Text.strip ("Bearer " ++ token))) "apikey " = false ∧
      Api.oneTokenCredentials.httpBearer (some ("Bearer " ++ token)) = some ⟨"Bearer", token⟩ := by
  have letters : ("Bearer " ++ token).toList = 'B' :: ("earer ".toList ++ token.toList) := by
    rw [String.toList_append]
    rfl
  obtain ⟨rest, stripped⟩ : ∃ rest, Text.strip ("Bearer " ++ token) = String.ofList ('B' :: rest) := by
    unfold Text.strip
    rw [letters, List.dropWhile_cons_of_neg (by decide), List.rdropWhile, List.reverse_cons,
      List.dropWhile_append]
    split
    · exact ⟨[], rfl⟩
    · exact ⟨_, by rw [List.reverse_append]; rfl⟩
  have parted : Text.partitionSpace ("Bearer " ++ token) = ("Bearer", token) := by
    have word : "Bearer".toList.all (fun c => c != ' ') = true := by decide
    have split : ("Bearer " ++ token).toList = "Bearer".toList ++ ' ' :: token.toList := letters
    unfold Text.partitionSpace
    rw [split, List.takeWhile_append_of_pos (List.all_eq_true.mp word),
      List.dropWhile_append_of_pos (List.all_eq_true.mp word),
      List.takeWhile_cons_of_neg (by decide), List.dropWhile_cons_of_neg (by decide),
      List.append_nil, List.drop_one, List.tail_cons, String.ofList_toList, String.ofList_toList]
  refine ⟨?_, ?_, ?_⟩
  · rw [stripped, Text.lower, Text.startsWith, String.toList_ofList, String.toList_ofList,
      String.toList_ofList]
    rfl
  · rw [stripped, Text.lower, Text.startsWith, String.toList_ofList, String.toList_ofList,
      String.toList_ofList]
    rfl
  · unfold Api.oneTokenCredentials
    dsimp only
    rw [Option.getD_some, parted]
    have bearing : Text.lower "Bearer" = "bearer" ∧ token ≠ "" := ⟨by decide, nonempty⟩
    dsimp only
    rw [if_pos bearing]

theorem impersonationText_letters : ∃ rest, impersonationText.toList = '{' :: rest := by
  unfold impersonationText writeClaims
  rw [String.toList_ofList]
  exact ⟨_, rfl⟩

theorem impersonationText_ne_empty : impersonationText ≠ "" := by
  obtain ⟨rest, letters⟩ := impersonationText_letters
  intro empty
  rw [empty] at letters
  cases letters

theorem presents_impersonationText :
    Presents Api.oneTokenCredentials presenting impersonationText := by
  have noKey : Text.startsWith impersonationText "rel_" = false := by
    obtain ⟨rest, letters⟩ := impersonationText_letters
    rw [Text.startsWith, letters]
    rfl
  obtain ⟨notKey, notApiKey, bearer⟩ := bearer_header impersonationText_ne_empty
  have given : Api.oneTokenCredentials.httpBearer presenting.authorization =
      some ⟨"Bearer", impersonationText⟩ := bearer
  have refused : (some (⟨"Bearer", impersonationText⟩ : BearerCredentials)).filter (fun bearer =>
      Text.startsWith bearer.credentials "rel_" ∧
        Text.lower bearer.scheme ∈ ["apikey", "bearer"]) = none := by
    rw [Option.filter_some_neg]
    simp [noKey]
  refine ⟨?_, by rw [given]; rfl⟩
  unfold rawKey?
  dsimp only
  rw [given, refused]
  have header : presenting.authorization.getD "" = "Bearer " ++ impersonationText := rfl
  have keyless : Text.strip (presenting.apiKey.getD "") = "" := by decide
  rw [header, keyless, notKey, notApiKey]
  rfl

/-- The claims of the token as they are read again. -/
def impersonationPayload : Claims :=
  impersonationClaims Api.memberIdText Api.memberIdText "5d41402abc4b2a76b9719d911017c592" 0 900 []

theorem impersonationText_eq : impersonationText = plainJwt.encode impersonationPayload := by
  unfold impersonationText impersonationPayload plainJwt
  rfl

theorem impersonationPayload_plain : PlainClaims impersonationPayload 0 0 900 :=
  impersonationClaims_plain (Or.inl rfl) Api.memberIdText Api.memberIdText
    "5d41402abc4b2a76b9719d911017c592" 0 900

theorem impersonationPayload_type :
    (Json.obj impersonationPayload).get "type" = .str "impersonation" := rfl

theorem atOnce_begun : secondsToMicros 0 ≤ 0 := by decide

theorem atOnce_live : 0 < secondsToMicros (impersonationExpiry atOnce) := by decide

theorem decode_impersonationText :
    decodeToken plainJwt impersonationText 0 = .ok (.obj impersonationPayload) := by
  have ends : impersonationExpiry atOnce = 900 := by decide
  have live : 0 < secondsToMicros 900 := ends ▸ atOnce_live
  rw [impersonationText_eq]
  exact decodeToken_ok (plainJwt.decode_live impersonationPayload_plain atOnce_begun atOnce_begun live)

theorem issued_impersonationText : Issued signing accounts 11 1 atOnce impersonationText := by
  have found : accounts.get? 11 = some customer := rfl
  have issued : impersonate signing accounts 11 1 atOnce = .ok _ :=
    impersonate_ok found rfl 1 (by decide) (by decide)
  refine Or.inl ⟨_, issued, ?_⟩
  have ends : impersonationExpiry atOnce = 900 := by decide
  have jti : atOnce.token.jti = "5d41402abc4b2a76b9719d911017c592" := rfl
  have issuedAt : atOnce.token.now / 1000000 = 0 := by decide
  have customerText : signing.uuidText 11 = Api.memberIdText := rfl
  have administratorText : signing.uuidText 1 = Api.memberIdText := rfl
  have library : signing.jwt = plainJwt := rfl
  dsimp only
  rw [impersonationText_eq, impersonationPayload, ends, jti, issuedAt, customerText,
    administratorText, library]

/-- The libraries of a server with these tokens; `refresh` uses no other. -/
def renewing : AuthEnvironment := ⟨id, fun _ _ => false, fun _ _ => .ok .null, fun _ => none, 30, 7⟩

theorem impersonation_never_works_for_customer :
    ¬ WorksUntilExpiry (dependencies signing Api.oneTokenCredentials)
      (authentication signing renewing) presenting impersonationText 11 0
      (secondsToMicros (impersonationExpiry atOnce)) :=
  impersonation_never_works signing Api.oneTokenCredentials renewing accounts 11 1 customer rfl rfl
    atOnce impersonationText issued_impersonationText presenting presents_impersonationText 0
    atOnce_live

/-- The token is issued, and its first use is refused. -/
theorem impersonation_of_customer_refused :
    Issued signing accounts 11 1 atOnce impersonationText ∧
      getCurrentUser (dependencies signing Api.oneTokenCredentials) ⟨accounts, .empty, []⟩
        presenting none 0 = .error (.app (unauthorizedException "Invalid token type")) ∧
      ¬ WorksUntilExpiry (dependencies signing Api.oneTokenCredentials)
        (authentication signing renewing) presenting impersonationText 11 0
        (secondsToMicros (impersonationExpiry atOnce)) := by
  refine ⟨issued_impersonationText, ?_, ?_⟩
  · obtain ⟨noKey, bearing⟩ := presents_impersonationText
    obtain ⟨bearer, header, same⟩ := Option.map_eq_some_iff.mp bearing
    have decoded : (dependencies signing Api.oneTokenCredentials).decodeToken bearer.credentials 0 =
        .ok (.obj impersonationPayload) := by
      have library : signing.jwt = plainJwt := rfl
      rw [same, dependencies_decodeToken, library, decode_impersonationText]
    have keyless := (dependencies_rawKey signing Api.oneTokenCredentials presenting).trans noKey
    have bearing : (dependencies signing Api.oneTokenCredentials).httpBearer presenting.authorization =
        some bearer := by
      rw [dependencies_httpBearer]
      exact header
    refine getCurrentUser_otherType keyless bearing ?_ decoded impersonationPayload_type (by decide)
    rw [same]
    exact impersonationText_ne_empty
  exact not_worksUntilExpiry issued_impersonationText ⟨customer, rfl, rfl⟩
    presents_impersonationText atOnce_live

end Reliastra.Guarantees.ImpersonationTokens
