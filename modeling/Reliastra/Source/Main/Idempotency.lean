import Reliastra.Library.Interleaving
import Reliastra.Source.Core.Http
import Reliastra.Source.Core.Redis
import Reliastra.Source.Core.Text

/-!
# The idempotency middleware

Source: `IdempotencyMiddleware` of `app/main.py`. `idempotencyPrincipal` and the
keys made of it say which requests share a cached response; `dispatch` says what
one request does with them, cut where it waits for Redis or for the handler, so
that other requests move in between.

Redis keeps the clock of every expiry. The handler is everything behind
`call_next`, an input here.
-/

namespace Reliastra.Source.Main

open Reliastra.Library

/-! ## Which requests share a response -/

/-- `payload.get('sub', 'unknown')` inside an f-string. -/
def subjectText (host : Runtime) (payload : Json) : String :=
  match payload with
  | .obj members => ((members.lookup "sub").getD (.str "unknown")).text host
  | _ => "unknown"

/-- The principal of an `Authorization: Bearer ...` header. -/
def bearerPrincipal (env : CredentialEnvironment) (authorization : String) (now : Instant) :
    Except Failure String :=
  match Text.splitFirst authorization with
  | some (_, some token) =>
    match env.decodeToken (Text.strip token) now with
    | .ok payload => .ok ("user:" ++ subjectText env.host payload)
    | .error _ => .ok "user:invalid-token"
  | _ => .error (.python "IndexError")

/-- `_idempotency_principal`'s credential when there is no bearer token. -/
def credentialText (authorization apiKey : String) : String :=
  if apiKey ≠ "" then apiKey
  else if Text.startsWith (Text.lower authorization) "apikey " ∨
      Text.startsWith (Text.lower authorization) "rel_" then authorization
  else ""

def idempotencyPrincipal (env : CredentialEnvironment) (request : Request) (now : Instant) :
    Except Failure String :=
  let auth := request.authorization.getD ""
  if Text.startsWith (Text.lower auth) "bearer " then bearerPrincipal env auth now
  else
    let credential := credentialText auth (request.apiKey.getD "")
    if credential ≠ "" then .ok ("key:" ++ Text.slice (env.sha256Hex credential) 32)
    else .ok ("ip:" ++ request.clientHost.getD "unknown")

def cacheKey (principal idempotencyKey : String) : String :=
  "idempotency:" ++ principal ++ ":" ++ idempotencyKey

def lockKey (cacheKey : String) : String := cacheKey ++ ":lock"

/-- Where `dispatch` takes a request: past the middleware, to the fallback
because no principal could be derived, or into the protocol under a key. -/
inductive DispatchEntry where
  | bypass
  | fallback (failure : Failure)
  | keyed (cacheKey : String)
  deriving DecidableEq, Repr

def dispatchEntry (env : CredentialEnvironment) (request : Request) (now : Instant) :
    DispatchEntry :=
  match request.idempotencyKey with
  | none => .bypass
  | some idempotencyKey =>
    if idempotencyKey = "" ∨ request.method ∉ ["POST", "PATCH"] then .bypass
    else match idempotencyPrincipal env request now with
      | .error failure => .fallback failure
      | .ok principal => .keyed (cacheKey principal idempotencyKey)

/-! ## Responses -/

/-- `_HOP_BY_HOP`. -/
def hopByHop : List String :=
  ["connection", "keep-alive", "proxy-authenticate", "proxy-authorization", "te", "trailers",
    "transfer-encoding", "upgrade", "content-encoding"]

structure CachedResponse where
  statusCode : Nat
  content : String
  mediaType : Option String
  headers : List (String × String)
  deriving DecidableEq, Repr

def isCacheableStatus (statusCode : Nat) : Bool :=
  (200 ≤ statusCode ∧ statusCode < 300) ∨ statusCode ∈ [404, 409, 422]

/-- How a run of the handler ends. A body of `none` cannot be read or is not
UTF-8. -/
inductive HandlerOutcome where
  | response (statusCode : Nat) (content : Option String) (mediaType : Option String)
      (headers : List (String × String))
  | raised (exceptionClass : String)
  deriving DecidableEq, Repr

/-- The document that is cached for an outcome, where one is. -/
def HandlerOutcome.cacheable? : HandlerOutcome → Option CachedResponse
  | .response statusCode (some content) mediaType headers =>
    if isCacheableStatus statusCode then
      some ⟨statusCode, content, mediaType,
        headers.filter (fun header => Text.lower header.1 ∉ hopByHop)⟩
    else none
  | _ => none

/-- Handling the outcome raises: the handler did, or its body cannot be cached. -/
def HandlerOutcome.Raises : HandlerOutcome → Prop
  | .response statusCode content _ _ => isCacheableStatus statusCode = true ∧ content = none
  | .raised _ => True

instance (outcome : HandlerOutcome) : Decidable outcome.Raises := by
  cases outcome <;> unfold HandlerOutcome.Raises <;> infer_instance

/-- The response to a request that finds the lock taken. -/
def inFlightResponse : CachedResponse where
  statusCode := 409
  content :=
    "\x7b\"error\":\x7b\"code\":\"IDEMPOTENT_REQUEST_IN_FLIGHT\"," ++
    "\"message\":\"A request with this idempotency key is already being processed\"\x7d\x7d"
  mediaType := some "application/json"
  headers := []

/-! ## The protocol -/

/-- What Redis holds under a key: the lock's `"1"`, or a response as JSON. -/
inductive Stored where
  | held
  | response (cached : CachedResponse)
  deriving DecidableEq, Repr

structure CacheServer where
  redis : Redis Stored
  clock : Instant
  deriving DecidableEq

inductive Answer where
  | replayed (cached : CachedResponse)
  | inFlight
  | handled (outcome : HandlerOutcome)
  deriving DecidableEq, Repr

/-- Where a request is. `since` is when its handler was started, and `ran` says
that the handler had run before the exception that led to the fallback. -/
inductive DispatchPhase where
  | arrived
  | missed
  | executing (since : Instant)
  | returned (since : Instant) (outcome : HandlerOutcome)
  | released (since : Instant) (outcome : HandlerOutcome)
  | fallback (ran : Bool)
  | rerunning (since : Instant)
  | done (answer : Answer)
  | gone
  deriving DecidableEq, Repr

inductive DispatchAction where
  | readCache (call : CallOutcome)
  | acquire (call : CallOutcome)
  | handle (outcome : HandlerOutcome)
  | release (call : CallOutcome)
  | answer (call : CallOutcome)
  | callAgain
  /-- The worker process dies, or the client's disconnect cancels the request. -/
  | crash
  | elapse (micros : Nat)
  deriving DecidableEq, Repr

/-- One step of a request under `key`. An action that does not come next changes
nothing. -/
def dispatch (key : String) (server : CacheServer) (phase : DispatchPhase)
    (action : DispatchAction) : CacheServer × DispatchPhase :=
  match phase, action with
  | _, .elapse micros => ({ server with clock := server.clock + micros }, phase)
  | .arrived, .readCache call =>
    match server.redis.safeGet key server.clock call with
    | some (.response cached) => (server, .done (.replayed cached))
    -- `json.loads("1")["content"]` raises
    | some .held => (server, .fallback false)
    | none => (server, .missed)
  | .missed, .acquire call =>
    let (redis, acquired) := server.redis.safeSetNx (lockKey key) .held 60 server.clock call
    if acquired then ({ server with redis := redis }, .executing server.clock)
    else ({ server with redis := redis }, .done .inFlight)
  | .executing since, .handle outcome => (server, .returned since outcome)
  | .returned since outcome, .release call =>
    ({ server with redis := (server.redis.safeDelete (lockKey key) call).1 },
      .released since outcome)
  | .released _ outcome, .answer call =>
    if outcome.Raises then (server, .fallback true)
    else match outcome.cacheable? with
      | none => (server, .done (.handled outcome))
      | some cached =>
        ({ server with
            redis := (server.redis.safeSetex key 86400 (.response cached) server.clock call).1 },
          .done (.handled outcome))
  | .fallback _, .callAgain => (server, .rerunning server.clock)
  | .rerunning _, .handle outcome => (server, .done (.handled outcome))
  | .done answer, .crash => (server, .done answer)
  | _, .crash => (server, .gone)
  | _, _ => (server, phase)

/-- The steps of requests that carry each its own key. -/
def dispatchAs {ι : Type} (keys : ι → String) (i : ι) : CacheServer → DispatchPhase →
    DispatchAction → CacheServer × DispatchPhase :=
  dispatch (keys i)

/-! ## What a step can do -/

inductive DispatchEffect (key : String) (server : CacheServer) :
    DispatchPhase → DispatchAction → CacheServer × DispatchPhase → Prop where
  | idle (phase : DispatchPhase) (action : DispatchAction) :
      DispatchEffect key server phase action (server, phase)
  | elapse (phase : DispatchPhase) (micros : Nat) :
      DispatchEffect key server phase (.elapse micros)
        ({ server with clock := server.clock + micros }, phase)
  | replay (call : CallOutcome) (cached : CachedResponse)
      (stored : server.redis.live key server.clock = some (.response cached)) :
      DispatchEffect key server .arrived (.readCache call) (server, .done (.replayed cached))
  | corrupt (call : CallOutcome) (stored : server.redis.live key server.clock = some .held) :
      DispatchEffect key server .arrived (.readCache call) (server, .fallback false)
  | miss (call : CallOutcome) :
      DispatchEffect key server .arrived (.readCache call) (server, .missed)
  | acquire (call : CallOutcome) (free : server.redis.live (lockKey key) server.clock = none) :
      DispatchEffect key server .missed (.acquire call)
        ({ server with redis := server.redis.set (lockKey key) .held 60 server.clock },
          .executing server.clock)
  | refuse (call : CallOutcome)
      (taken : call = .requestLost ∨ server.redis.live (lockKey key) server.clock ≠ none) :
      DispatchEffect key server .missed (.acquire call) (server, .done .inFlight)
  /-- The server took the lock and the answer was lost. -/
  | orphan (free : server.redis.live (lockKey key) server.clock = none) :
      DispatchEffect key server .missed (.acquire .answerLost)
        ({ server with redis := server.redis.set (lockKey key) .held 60 server.clock },
          .done .inFlight)
  | handle (since : Instant) (outcome : HandlerOutcome) :
      DispatchEffect key server (.executing since) (.handle outcome)
        (server, .returned since outcome)
  | release (since : Instant) (outcome : HandlerOutcome) (call : CallOutcome) :
      DispatchEffect key server (.returned since outcome) (.release call)
        ({ server with redis := server.redis.delete (lockKey key) }, .released since outcome)
  | unreleased (since : Instant) (outcome : HandlerOutcome) (call : CallOutcome) :
      DispatchEffect key server (.returned since outcome) (.release call)
        (server, .released since outcome)
  | fail (since : Instant) (outcome : HandlerOutcome) (call : CallOutcome)
      (raises : outcome.Raises) :
      DispatchEffect key server (.released since outcome) (.answer call) (server, .fallback true)
  | pass (since : Instant) (outcome : HandlerOutcome) (call : CallOutcome) :
      DispatchEffect key server (.released since outcome) (.answer call)
        (server, .done (.handled outcome))
  | store (since : Instant) (outcome : HandlerOutcome) (call : CallOutcome)
      (cached : CachedResponse) (cacheable : outcome.cacheable? = some cached) :
      DispatchEffect key server (.released since outcome) (.answer call)
        ({ server with redis := server.redis.set key (.response cached) 86400 server.clock },
          .done (.handled outcome))
  | callAgain (ran : Bool) :
      DispatchEffect key server (.fallback ran) .callAgain (server, .rerunning server.clock)
  | finish (since : Instant) (outcome : HandlerOutcome) :
      DispatchEffect key server (.rerunning since) (.handle outcome)
        (server, .done (.handled outcome))
  | crash (phase : DispatchPhase) : DispatchEffect key server phase .crash (server, .gone)

theorem dispatch_effect (key : String) (server : CacheServer) (phase : DispatchPhase)
    (action : DispatchAction) :
    DispatchEffect key server phase action (dispatch key server phase action) := by
  unfold dispatch
  split
  · next micros => exact .elapse _ micros
  · next call =>
    split
    · next cached hit =>
      cases call with
      | delivered => exact .replay _ cached hit
      | requestLost | answerLost => cases hit
    · next hit =>
      cases call with
      | delivered => exact .corrupt _ hit
      | requestLost | answerLost => cases hit
    · exact .miss call
  · next call =>
    cases call with
    | requestLost => exact .refuse _ (.inl rfl)
    | delivered =>
      by_cases free : server.redis.live (lockKey key) server.clock = none
      · simp only [Redis.safeSetNx, free]
        exact .acquire _ free
      · simp only [Redis.safeSetNx, Option.isSome_iff_ne_none.mpr free]
        exact .refuse _ (.inr free)
    | answerLost =>
      by_cases free : server.redis.live (lockKey key) server.clock = none
      · simp only [Redis.safeSetNx, free]
        exact .orphan free
      · simp only [Redis.safeSetNx, Option.isSome_iff_ne_none.mpr free]
        exact .refuse _ (.inr free)
  · next since outcome => exact .handle since outcome
  · next since outcome call =>
    cases call with
    | delivered | answerLost => exact .release since outcome _
    | requestLost => exact .unreleased since outcome _
  · next since outcome call =>
    split
    · next raises => exact .fail since outcome call raises
    · split
      · exact .pass since outcome call
      · next cached cacheable =>
        cases call with
        | delivered | answerLost => exact .store since outcome _ cached cacheable
        | requestLost => exact .pass since outcome _
  · next ran => exact .callAgain ran
  · next since outcome => exact .finish since outcome
  · exact .idle _ _
  · exact .crash _
  · exact .idle _ _

end Reliastra.Source.Main
