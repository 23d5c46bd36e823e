import Reliastra.Library.Table
import Reliastra.Source.Core.Http
import Reliastra.Source.Core.Text
import Reliastra.Source.Core.Permissions
import Reliastra.Source.Core.RateLimit

/-!
# Who a request is authenticated as

Source: `get_current_user` of `app/dependencies.py` and `authenticate_key` of
`app/modules/api_keys/service.py`. An API key may come in three headers; it is
resolved to the owner of its organization. A handler that only depends on the
user cannot tell the two kinds of credentials apart unless it looks at
`request.state`.
-/

namespace Reliastra.Source.Auth

open Reliastra.Library Organizations

/-- A row of `users`, as far as handlers reached with a key read or write it. -/
structure Account where
  id : Uuid
  email : String
  fullName : String
  passwordHash : String
  isActive : Bool
  isSuperuser : Bool
  isSystemAdmin : Bool
  updatedAt : Instant
  deriving DecidableEq, Repr

structure ApiKey where
  id : Uuid
  orgId : Uuid
  name : String
  keyPrefix : String
  hashedKey : String
  scopes : List String
  expiresAt : Option Instant
  createdAt : Instant
  isDeleted : Bool
  deriving DecidableEq, Repr

/-- The tables authentication reads. -/
structure Directory where
  users : Table Account.id
  apiKeys : Table ApiKey.id
  members : List OrganizationMember

/-! ## API keys -/

/-- `list_by_prefix`: newest first. -/
def Directory.listByPrefix (db : Directory) (head : String) : List ApiKey :=
  (db.apiKeys.rows.filter (fun key => key.keyPrefix = head ∧ key.isDeleted = false)).insertionSort
    (fun newer older => older.createdAt ≤ newer.createdAt)

def authenticateKey (env : CredentialEnvironment) (db : Directory) (rawKey : String)
    (now : Instant) : Except Failure ApiKey :=
  match (db.listByPrefix (Text.slice rawKey 8)).find?
      (fun candidate => env.verifyApiKey rawKey candidate.hashedKey) with
  | none => .error (.app (unauthorizedException "Invalid API key"))
  | some key =>
    if ∃ expiry ∈ key.expiresAt, expiry < now then
      .error (.app (unauthorizedException "API key has expired"))
    else .ok key

/-- `_has_scope`. -/
def hasScope (scopes : List String) (requiredScope : String) : Bool :=
  if requiredScope ∈ scopes ∨ "*" ∈ scopes then true
  else
    let action := String.ofList (requiredScope.toList.takeWhile (fun c => c != ':'))
    let resource := String.ofList ((requiredScope.toList.dropWhile (fun c => c != ':')).drop 1)
    action = "read" ∧ "write:" ++ resource ∈ scopes

/-- `marker in path`. -/
def contains (path marker : String) : Bool :=
  path.toList.tails.any (fun rest => marker.toList.isPrefixOf rest)

/-- `_infer_scope`: the access scope a path asks of a key, where it asks one. -/
def inferScope (request : Request) : Option String :=
  let write := request.method ∉ ["GET", "HEAD", "OPTIONS"]
  let action := if write then "write" else "read"
  if contains request.path "/evidence" then some "read:evidence"
  else if contains request.path "/dependencies" then some (action ++ ":dependencies")
  else if contains request.path "/checks" then some (action ++ ":checks")
  else if contains request.path "/incidents" then some (action ++ ":incidents")
  else if contains request.path "/billing" then some (action ++ ":billing")
  else if contains request.path "/notifications" then some (action ++ ":notifications")
  else if contains request.path "/api-keys" then some (action ++ ":api_keys")
  else if contains request.path "/clients" ∨ contains request.path "/ai-providers" then
    some (action ++ ":organizations")
  else if contains request.path "/dashboard/" then some "read:checks"
  else if Text.startsWith request.path "/v1/orgs" then some (action ++ ":organizations")
  else none

/-! ## The dependency -/

/-- The key a request carries, in the order the headers are tried. -/
def rawKey? (env : CredentialEnvironment) (request : Request) : Option String :=
  let authHeader := Text.strip (request.authorization.getD "")
  let apiKeyHeader := Text.strip (request.apiKey.getD "")
  if apiKeyHeader ≠ "" then some apiKeyHeader
  else if Text.startsWith (Text.lower authHeader) "rel_" then some authHeader
  else match (env.httpBearer request.authorization).filter (fun bearer =>
      Text.startsWith bearer.credentials "rel_" ∧ Text.lower bearer.scheme ∈ ["apikey", "bearer"]) with
    | some bearer => some bearer.credentials
    | none =>
      if Text.startsWith (Text.lower authHeader) "apikey " then
        (Text.splitFirst authHeader).bind (fun parts => parts.2.map Text.strip)
      else none

/-- The credential `request.state` records: a key and its organization, or the
user of a token. -/
inductive Principal where
  | apiKey (key : ApiKey)
  | jwt (userId : Uuid)
  deriving DecidableEq, Repr

/-- The user a key stands for: the owner of its organization, else its first
member, else a user that is in no table. -/
def keyUser (db : Directory) (key : ApiKey) : Account :=
  let members := listMembers db.members key.orgId
  let ownerMember := (members.find? (fun m => m.role = .owner)).or members.head?
  ((ownerMember.bind (fun m => db.users.get? m.userId))).getD
    ⟨0, "apikey@reliastra.local", "API Key (" ++ key.name ++ ")", "", true, false, false, 0⟩

def getCurrentUser (env : CredentialEnvironment) (db : Directory) (request : Request)
    (requiredScope : Option String) (now : Instant) : Except Failure (Principal × Account) :=
  match rawKey? env request with
  | some rawKey => do
    env.enforceRateLimit (Text.slice rawKey 8)
    let key ← authenticateKey env db rawKey now
    match requiredScope.or (inferScope request) with
    | some scope =>
      if hasScope key.scopes scope then .ok (.apiKey key, keyUser db key)
      else .error (.app (forbiddenException ("API key lacks required scope: " ++ scope)))
    | none => .ok (.apiKey key, keyUser db key)
  | none =>
    match (env.httpBearer request.authorization).filter (fun bearer => bearer.credentials ≠ "") with
    | none => .error (.app (unauthorizedException
        "Authentication required (Bearer token or X-API-Key header)"))
    | some bearer => do
      let payload ← env.decodeToken bearer.credentials now
      match payload.get "type" with
      | .str "access" =>
        if ¬ (payload.get "sub").truthy then
          .error (.app (unauthorizedException "Invalid token subject"))
        else match payload.get "sub" with
        | .str userIdText =>
          match env.host.uuidOfText userIdText with
          | none => .error (.python "ValueError")
          | some userId =>
            match db.users.get? userId with
            | some user =>
              if user.isActive then .ok (.jwt user.id, user)
              else .error (.app (unauthorizedException "User not found or disabled"))
            | none => .error (.app (unauthorizedException "User not found or disabled"))
        | _ => .error (.python "AttributeError")
      | _ => .error (.app (unauthorizedException "Invalid token type"))

end Reliastra.Source.Auth

/-!
## The API-key limiter in front of `get_current_user`

A request that carries a key is charged to the limiter before the key is looked up,
under the first eight characters of what it presents. The other credentials are not
charged.
-/

namespace Reliastra.Source.Auth

open Reliastra.Library

/-- `api_key_limiter`. -/
def apiKeyLimiter : SlidingWindowRateLimiter := ⟨1000, 60, "rl_apikey"⟩

/-- A request, with what the limiter's call draws from its clock and from Redis. -/
structure LimitedRequest where
  request : Request
  time : ℚ
  member : String
  outcome : CallOutcome
  nonneg : 0 ≤ time

variable (env : CredentialEnvironment)

/-- The key a request presents. -/
def LimitedRequest.presents (limited : LimitedRequest) : Option String :=
  rawKey? env limited.request

/-- The call of `enforce_rate_limit` for an identifier. -/
def LimitedRequest.rateCall (limited : LimitedRequest) (identifier : String) : RateCall :=
  ⟨identifier, limited.time, limited.member, limited.outcome, limited.nonneg⟩

def LimitedRequest.charge (limited : LimitedRequest) : Option RateCall :=
  (limited.presents env).map (fun rawKey => limited.rateCall (Text.slice rawKey 8))

/-- The calls of the limiter in a sequence of requests. -/
def charges (requests : List LimitedRequest) : List RateCall :=
  requests.filterMap (fun limited => limited.charge env)

/-- The limiter refuses the request, made after others. -/
def LimitRefused (before : List LimitedRequest) (limited : LimitedRequest) : Prop :=
  ∃ call, limited.charge env = some call ∧ apiKeyLimiter.Refused (charges env before) call

/-- `get_current_user` with the limiter as the requests before have left it. -/
def getLimitedUser (before : List LimitedRequest) (db : Directory) (limited : LimitedRequest)
    (requiredScope : Option String) (now : Instant) : Except Failure (Principal × Account) :=
  getCurrentUser
    { env with
      enforceRateLimit := fun identifier =>
        (apiKeyLimiter.answer (charges env before) (limited.rateCall identifier)).map
          (fun _ => ()) }
    db limited.request requiredScope now

/-- A refused request ends there, whatever the key is worth. -/
theorem getLimitedUser_of_refused {before : List LimitedRequest} {limited : LimitedRequest}
    (refused : LimitRefused env before limited) (db : Directory) (requiredScope : Option String)
    (now : Instant) :
    getLimitedUser env before db limited requiredScope now = .error apiKeyLimiter.exceeded := by
  obtain ⟨call, charged, refuses⟩ := refused
  obtain ⟨rawKey, presented, rfl⟩ := Option.map_eq_some_iff.mp charged
  have key : rawKey? env limited.request = some rawKey := presented
  unfold SlidingWindowRateLimiter.Refused at refuses
  unfold getLimitedUser getCurrentUser
  -- the library fields that read the headers are the same in both environments
  change (match rawKey? env limited.request with | some rawKey => _ | none => _) = _
  rw [key]
  simp only [refuses, Except.map]
  rfl

end Reliastra.Source.Auth
