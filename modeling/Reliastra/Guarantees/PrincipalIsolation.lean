import Mathlib.Data.List.Infix
import Reliastra.Source.Auth.CurrentUser
import Reliastra.Source.Main.Idempotency

/-!
# Idempotency between principals

The middleware names a principal before anybody is authenticated, from headers
that `get_current_user` reads differently: a key sent as a bearer token is an
undecodable token to it, `X-API-Key` comes second to a bearer token, and a
header that is blank after stripping still counts. Two requests stay apart
exactly when the texts it reads keep them apart; `Confusable` says what that
means for texts that are joined with a colon.
-/

namespace Reliastra.Guarantees.PrincipalIsolation

open Reliastra.Library Source Source.Auth Source.Main

/-! ## Two requests at one server -/

inductive Side where
  | first
  | second
  deriving DecidableEq, Repr

def keysOf (firstKey secondKey : String) : Side → String
  | .first => firstKey
  | .second => secondKey

/-- A fresh server and two requests that arrive. -/
def arrivals : World CacheServer Side DispatchPhase := ⟨⟨[], 0⟩, fun _ => .arrived⟩

/-- A `SET NX` is answered, so a refusal is never the fault of a lost call. -/
def Answered (m : Side × DispatchAction) : Prop :=
  ∀ call, m.2 = .acquire call → call = .delivered

/-- The request was given another's response, or refused as its duplicate. -/
def GivenAway : DispatchPhase → Prop
  | .done (.replayed _) | .done .inFlight => True
  | _ => False

/-- Whatever idempotency keys the two requests carry and however their steps
interleave, the second gets nothing that comes from the first. -/
def Isolated (env : CredentialEnvironment) (first second : Request) (firstAt secondAt : Instant) :
    Prop :=
  ∀ idempotencyKey other firstKey secondKey,
    dispatchEntry env { first with idempotencyKey := some idempotencyKey } firstAt =
      .keyed firstKey →
    dispatchEntry env { second with idempotencyKey := some other } secondAt = .keyed secondKey →
    ∀ run : List (Side × DispatchAction), (∀ m ∈ run, Answered m) →
      ¬ GivenAway ((Run.exec (World.move (dispatchAs (keysOf firstKey secondKey))) arrivals
        run).locals .second)

/-! ## What keeps two texts apart -/

/-- The second text is the first, or goes on after the first and a colon. -/
def Continues (first second : String) : Prop := (first ++ ":").toList <+: (second ++ ":").toList

def Confusable (first second : String) : Prop := Continues first second ∨ Continues second first

private theorem continues_append (head first second : String) :
    Continues (head ++ first) (head ++ second) ↔ Continues first second := by
  simp only [Continues, String.toList_append, List.append_assoc, List.prefix_append_right_inj]

private theorem confusable_append (head first second : String) :
    Confusable (head ++ first) (head ++ second) ↔ Confusable first second :=
  or_congr (continues_append head first second) (continues_append head second first)

/-- Texts that begin with different letters cannot be confused. -/
private theorem not_confusable_of_head {first second : String} {a b : Char} {as bs : List Char}
    (firstText : first.toList = a :: as) (secondText : second.toList = b :: bs)
    (different : a ≠ b) : ¬ Confusable first second := by
  rintro (goesOn | goesOn)
  · simp only [Continues, String.toList_append, firstText, secondText, List.cons_append,
      List.cons_prefix_cons] at goesOn
    exact different goesOn.1
  · simp only [Continues, String.toList_append, firstText, secondText, List.cons_append,
      List.cons_prefix_cons] at goesOn
    exact different goesOn.1.symm

private theorem cacheKey_toList (principal idempotencyKey : String) :
    (cacheKey principal idempotencyKey).toList =
      "idempotency:".toList ++ ((principal ++ ":").toList ++ idempotencyKey.toList) := by
  simp only [cacheKey, String.toList_append, List.append_assoc]

/-- Two principals share a cache key only if one text continues the other. -/
private theorem confusable_of_cacheKey {first second idempotencyKey other : String}
    (same : cacheKey first idempotencyKey = cacheKey second other) : Confusable first second := by
  have texts := congrArg String.toList same
  rw [cacheKey_toList, cacheKey_toList] at texts
  have tails := List.append_cancel_left texts
  have firstHead := List.prefix_append (first ++ ":").toList idempotencyKey.toList
  have secondHead := List.prefix_append (second ++ ":").toList other.toList
  rw [tails] at firstHead
  exact List.prefix_or_prefix_of_prefix firstHead secondHead

private theorem cacheKey_of_continues {first second : String} (goesOn : Continues first second) :
    ∃ idempotencyKey, idempotencyKey ≠ "" ∧ cacheKey first idempotencyKey = cacheKey second "x" := by
  obtain ⟨rest, join⟩ := goesOn
  refine ⟨String.ofList rest ++ "x", ?_, ?_⟩
  · intro empty
    have texts := congrArg String.toList empty
    simp at texts
  · apply String.toList_inj.mp
    rw [cacheKey_toList, cacheKey_toList, ← join]
    simp only [String.toList_append, String.toList_ofList, List.append_assoc]

/-- Conversely such principals share a key under some pair of headers. -/
private theorem cacheKey_of_confusable {first second : String}
    (confusable : Confusable first second) :
    ∃ idempotencyKey other, idempotencyKey ≠ "" ∧ other ≠ "" ∧
      cacheKey first idempotencyKey = cacheKey second other := by
  rcases confusable with goesOn | goesOn
  · obtain ⟨idempotencyKey, given, same⟩ := cacheKey_of_continues goesOn
    exact ⟨idempotencyKey, "x", given, by decide, same⟩
  · obtain ⟨other, given, same⟩ := cacheKey_of_continues goesOn
    exact ⟨"x", other, by decide, given, same.symm⟩

private theorem lockKey_cacheKey (principal idempotencyKey : String) :
    lockKey (cacheKey principal idempotencyKey) = cacheKey principal (idempotencyKey ++ ":lock") := by
  simp only [lockKey, cacheKey, String.append_assoc]

/-! ## What the middleware goes by -/

/-- The subject of the bearer token, `invalid-token` for one that does not
decode; `none` where the header holds no token. -/
def tokenSubject (env : CredentialEnvironment) (request : Request) (now : Instant) :
    Option String :=
  match Text.splitFirst (request.authorization.getD "") with
  | some (_, some token) =>
    match env.decodeToken (Text.strip token) now with
    | .ok payload => some (subjectText env.host payload)
    | .error _ => some "invalid-token"
  | _ => none

def sentCredential (request : Request) : String :=
  credentialText (request.authorization.getD "") (request.apiKey.getD "")

def digest (env : CredentialEnvironment) (credential : String) : String :=
  Text.slice (env.sha256Hex credential) 32

/-- What a principal is named after. -/
inductive Kind where
  | user
  | key
  | ip
  deriving DecidableEq, Repr

/-- A bearer header is told by the subject of its token, other credentials by
their digest, and a request without any by its address. -/
def sender (env : CredentialEnvironment) (request : Request) (now : Instant) :
    Option (Kind × String) :=
  if Text.startsWith (Text.lower (request.authorization.getD "")) "bearer " then
    (tokenSubject env request now).map (Prod.mk Kind.user)
  else if sentCredential request ≠ "" then some (.key, digest env (sentCredential request))
  else some (.ip, request.clientHost.getD "unknown")

/-- The middleware cannot tell who sent which of the two requests. -/
def SameSender (env : CredentialEnvironment) (first second : Request)
    (firstAt secondAt : Instant) : Prop :=
  ∃ kind text other, sender env first firstAt = some (kind, text) ∧
    sender env second secondAt = some (kind, other) ∧ Confusable text other

def Kind.head : Kind → String
  | .user => "user:"
  | .key => "key:"
  | .ip => "ip:"

private def Kind.initial : Kind → Char
  | .user => 'u'
  | .key => 'k'
  | .ip => 'i'

private theorem head_toList (kind : Kind) : ∃ rest, kind.head.toList = kind.initial :: rest := by
  cases kind <;> exact ⟨_, rfl⟩

/-- Different kinds begin with different letters. -/
private theorem confusable_heads (kind kind' : Kind) (text other : String) :
    Confusable (kind.head ++ text) (kind'.head ++ other) ↔ kind = kind' ∧ Confusable text other := by
  by_cases same : kind = kind'
  · subst same
    simp only [confusable_append, true_and]
  · simp only [same, false_and, iff_false]
    obtain ⟨rest, firstHead⟩ := head_toList kind
    obtain ⟨rest', secondHead⟩ := head_toList kind'
    have firstText : (kind.head ++ text).toList = kind.initial :: (rest ++ text.toList) := by
      rw [String.toList_append, firstHead, List.cons_append]
    have secondText : (kind'.head ++ other).toList = kind'.initial :: (rest' ++ other.toList) := by
      rw [String.toList_append, secondHead, List.cons_append]
    refine not_confusable_of_head firstText secondText (fun letters => same ?_)
    cases kind <;> cases kind' <;> first | rfl | exact absurd letters (by decide)

private theorem idempotencyPrincipal_eq_ok_iff (env : CredentialEnvironment) (request : Request)
    (now : Instant) (principal : String) :
    idempotencyPrincipal env request now = .ok principal ↔
      ∃ kind text, sender env request now = some (kind, text) ∧ principal = kind.head ++ text := by
  unfold idempotencyPrincipal sender
  dsimp only
  split
  · unfold bearerPrincipal tokenSubject
    generalize Text.splitFirst (request.authorization.getD "") = parts
    rcases parts with _ | ⟨scheme, _ | token⟩
    · simp
    · simp
    · dsimp only
      cases env.decodeToken (Text.strip token) now with
      | ok payload => simp [eq_comm, Kind.head]
      | error failure =>
        have text : "user:invalid-token" = "user:" ++ "invalid-token" := by decide
        simp [eq_comm, Kind.head, text]
  · unfold sentCredential digest
    split <;> simp [eq_comm, Kind.head]

/-- The principal does not depend on the idempotency key. -/
private theorem dispatchEntry_keyed {env : CredentialEnvironment} {request : Request}
    {now : Instant} {principal : String} (idempotencyKey : String)
    (method : request.method ∈ ["POST", "PATCH"]) (given : idempotencyKey ≠ "")
    (named : idempotencyPrincipal env request now = .ok principal) :
    dispatchEntry env { request with idempotencyKey := some idempotencyKey } now =
      .keyed (cacheKey principal idempotencyKey) := by
  have bypassed : ¬ (idempotencyKey = "" ∨ request.method ∉ ["POST", "PATCH"]) :=
    fun either => either.elim given (fun other => other method)
  have same : idempotencyPrincipal env { request with idempotencyKey := some idempotencyKey } now =
      .ok principal := named
  unfold dispatchEntry
  simp only [same]
  exact if_neg bypassed

private theorem principal_of_keyed {env : CredentialEnvironment} {request : Request}
    {now : Instant} {idempotencyKey key : String}
    (entry : dispatchEntry env { request with idempotencyKey := some idempotencyKey } now =
      .keyed key) :
    request.method ∈ ["POST", "PATCH"] ∧ ∃ principal,
      idempotencyPrincipal env request now = .ok principal ∧
        key = cacheKey principal idempotencyKey := by
  unfold dispatchEntry at entry
  dsimp only at entry
  split at entry
  · cases entry
  · next passed =>
    split at entry
    · cases entry
    · next principal named =>
      cases entry
      exact ⟨not_not.mp (fun other => passed (.inr other)), principal, named, rfl⟩

/-- The principals of two requests are confusable exactly when the middleware
cannot tell their senders apart. -/
private theorem confusable_iff_sameSender (env : CredentialEnvironment) (first second : Request)
    (firstAt secondAt : Instant) :
    (∃ principal other, idempotencyPrincipal env first firstAt = .ok principal ∧
      idempotencyPrincipal env second secondAt = .ok other ∧ Confusable principal other) ↔
      SameSender env first second firstAt secondAt := by
  simp only [idempotencyPrincipal_eq_ok_iff]
  constructor
  · rintro ⟨_, _, ⟨kind, text, here, rfl⟩, ⟨kind', other, there, rfl⟩, confusable⟩
    obtain ⟨rfl, apart⟩ := (confusable_heads kind kind' text other).mp confusable
    exact ⟨kind, text, other, here, there, apart⟩
  · intro ⟨kind, text, other, here, there, confusable⟩
    exact ⟨_, _, ⟨kind, text, here, rfl⟩, ⟨kind, other, there, rfl⟩,
      (confusable_heads kind kind text other).mpr ⟨rfl, confusable⟩⟩

/-! ## Disjoint keys -/

/-- Neither key of the one request is a key of the other. -/
structure Disjoint (firstKey secondKey : String) : Prop where
  cache : firstKey ≠ secondKey
  lockCache : lockKey firstKey ≠ secondKey
  cacheLock : firstKey ≠ lockKey secondKey
  lock : lockKey firstKey ≠ lockKey secondKey

private theorem disjoint_of_not_confusable {first second : String}
    (apart : ¬ Confusable first second) (idempotencyKey other : String) :
    Disjoint (cacheKey first idempotencyKey) (cacheKey second other) := by
  refine ⟨?_, ?_, ?_, ?_⟩ <;> intro same <;> try simp only [lockKey_cacheKey] at same
  all_goals exact apart (confusable_of_cacheKey same)

/-- Before the second request takes its lock, nothing is stored under its keys;
and it is never given away. -/
def Own (secondKey : String) : Side → CacheServer → DispatchPhase → Prop
  | .first, _, _ => True
  | .second, server, phase =>
    match phase with
    | .arrived | .missed => ∀ entry ∈ server.redis,
        entry.key ≠ secondKey ∧ entry.key ≠ lockKey secondKey
    | phase => ¬ GivenAway phase

private theorem own_first_step {firstKey secondKey : String} (disjoint : Disjoint firstKey secondKey)
    (server : CacheServer) (phase waiting : DispatchPhase) (action : DispatchAction)
    (own : Own secondKey .second server waiting) :
    Own secondKey .second (dispatch firstKey server phase action).1 waiting := by
  have effect := dispatch_effect firstKey server phase action
  generalize dispatch firstKey server phase action = after at effect ⊢
  have entries : (∀ entry ∈ after.1.redis, entry ∈ server.redis ∨ entry.key = firstKey ∨
      entry.key = lockKey firstKey) := by
    intro entry member
    cases effect with
    | acquire | orphan =>
      rcases Redis.mem_set.mp member with new | ⟨old, -⟩
      · exact .inr (.inr (by rw [new]))
      · exact .inl old
    | release => exact .inl (Redis.mem_delete.mp member).1
    | store =>
      rcases Redis.mem_set.mp member with new | ⟨old, -⟩
      · exact .inr (.inl (by rw [new]))
      · exact .inl old
    | _ => exact .inl member
  have clean : (∀ entry ∈ server.redis, entry.key ≠ secondKey ∧ entry.key ≠ lockKey secondKey) →
      ∀ entry ∈ after.1.redis, entry.key ≠ secondKey ∧ entry.key ≠ lockKey secondKey := by
    intro before entry member
    rcases entries entry member with old | cache | lock
    · exact before entry old
    · rw [cache]
      exact ⟨disjoint.cache, disjoint.cacheLock⟩
    · rw [lock]
      exact ⟨disjoint.lockCache, disjoint.lock⟩
  cases waiting with
  | arrived => exact clean own
  | missed => exact clean own
  | _ => exact own

private theorem own_second_step {secondKey : String} (server : CacheServer)
    (phase : DispatchPhase) (action : DispatchAction) (answered : Answered (.second, action))
    (own : Own secondKey .second server phase) :
    Own secondKey .second (dispatch secondKey server phase action).1
      (dispatch secondKey server phase action).2 := by
  have effect := dispatch_effect secondKey server phase action
  generalize dispatch secondKey server phase action = after at effect ⊢
  cases effect with
  | idle => exact own
  | elapse => cases phase <;> exact own
  | replay call cached stored =>
    obtain ⟨entry, member, here, -⟩ := Redis.mem_of_live stored
    exact absurd here (own entry member).1
  | miss => exact own
  | refuse call taken =>
    rcases taken with lost | taken
    · rw [answered call rfl] at lost
      cases lost
    · obtain ⟨entry, member, here, -⟩ :=
        (Redis.live_isSome_iff _ _ _).mp (Option.isSome_iff_ne_none.mpr taken)
      exact absurd here (own entry member).2
  | orphan =>
    cases answered _ rfl
  | _ => exact id

private theorem not_givenAway_of_own {secondKey : String} {server : CacheServer}
    {phase : DispatchPhase} (own : Own secondKey .second server phase) : ¬ GivenAway phase := by
  cases phase with
  | arrived | missed => exact id
  | _ => exact own

/-- Two requests under disjoint keys get nothing from each other. -/
theorem not_givenAway_of_disjoint {firstKey secondKey : String}
    (disjoint : Disjoint firstKey secondKey) (run : List (Side × DispatchAction))
    (answered : ∀ m ∈ run, Answered m) :
    ¬ GivenAway ((Run.exec (World.move (dispatchAs (keysOf firstKey secondKey))) arrivals
      run).locals .second) := by
  have initial : World.Holds (fun _ => True) (Own secondKey) (fun _ _ => True) arrivals := by
    refine ⟨trivial, fun side => ?_, fun _ _ _ => trivial⟩
    cases side with
    | first => trivial
    | second =>
      intro entry member
      cases member
  have keeps : ∀ w m, World.Holds (fun _ => True) (Own secondKey) (fun _ _ => True) w →
      Answered m → World.Holds (fun _ => True) (Own secondKey) (fun _ _ => True)
        (w.move (dispatchAs (keysOf firstKey secondKey)) m) := by
    intro w ⟨side, action⟩ holds asked
    refine World.Holds.move (fun _ _ _ => trivial) holds ⟨trivial, ?_, ?_, fun _ _ => trivial⟩
    · cases side with
      | first => trivial
      | second => exact own_second_step w.shared _ action asked (holds.own .second)
    · intro other different
      cases side with
      | second =>
        cases other with
        | first => trivial
        | second => exact absurd rfl different
      | first =>
        cases other with
        | first => trivial
        | second => exact own_first_step disjoint w.shared _ _ action (holds.own .second)
  have holds := Run.exec_invariant_of_allSteps keeps arrivals run initial
    (Run.allSteps_of_forall_mem arrivals run answered)
  exact not_givenAway_of_own (holds.own .second)

/-! ## One shared key -/

def createdOutcome : HandlerOutcome := .response 201 (some "created") (some "text/plain") []

/-- The first request is done before the second arrives. -/
def oneAfterTheOther : List (Side × DispatchAction) :=
  [(.first, .readCache .delivered), (.first, .acquire .delivered),
    (.first, .handle createdOutcome), (.first, .release .delivered), (.first, .answer .delivered),
    (.second, .readCache .delivered)]

private theorem oneAfterTheOther_answered : ∀ m ∈ oneAfterTheOther, Answered m := by
  intro m member call asked
  simp only [oneAfterTheOther, List.mem_cons, List.not_mem_nil, or_false] at member
  rcases member with rfl | rfl | rfl | rfl | rfl | rfl <;> cases asked
  rfl

private theorem replayed_of_shared (key : String) :
    (Run.exec (World.move (dispatchAs (keysOf key key))) arrivals
      oneAfterTheOther).locals .second =
        .done (.replayed ⟨201, "created", some "text/plain", []⟩) := by
  simp [oneAfterTheOther, Run.exec, World.move, dispatchAs, keysOf, arrivals, dispatch,
    Redis.safeGet, Redis.safeSetNx, Redis.safeDelete, Redis.safeSetex, Redis.live, Redis.set,
    Redis.delete, createdOutcome, HandlerOutcome.Raises, HandlerOutcome.cacheable?,
    isCacheableStatus, secondsToMicros]

/-! ## The guarantee -/

theorem not_isolated_of_sameSender {env : CredentialEnvironment} {first second : Request}
    {firstAt secondAt : Instant} (firstMethod : first.method ∈ ["POST", "PATCH"])
    (secondMethod : second.method ∈ ["POST", "PATCH"])
    (sameSender : SameSender env first second firstAt secondAt) :
    ¬ Isolated env first second firstAt secondAt := by
  intro isolated
  obtain ⟨principal, other, here, there, confusable⟩ :=
    (confusable_iff_sameSender env first second firstAt secondAt).mpr sameSender
  obtain ⟨idempotencyKey, otherKey, given, otherGiven, same⟩ := cacheKey_of_confusable confusable
  have firstEntry := dispatchEntry_keyed idempotencyKey firstMethod given here
  have secondEntry := dispatchEntry_keyed otherKey secondMethod otherGiven there
  rw [← same] at secondEntry
  refine isolated _ _ _ _ firstEntry secondEntry oneAfterTheOther oneAfterTheOther_answered ?_
  rw [replayed_of_shared]
  trivial

/-- Two requests are isolated exactly when one of them does not go through the
middleware at all, or the middleware can tell their senders apart. -/
theorem isolated_iff (env : CredentialEnvironment) (first second : Request)
    (firstAt secondAt : Instant) :
    Isolated env first second firstAt secondAt ↔
      ¬ (first.method ∈ ["POST", "PATCH"] ∧ second.method ∈ ["POST", "PATCH"] ∧
        SameSender env first second firstAt secondAt) := by
  constructor
  · intro isolated ⟨firstMethod, secondMethod, sameSender⟩
    exact not_isolated_of_sameSender firstMethod secondMethod sameSender isolated
  · intro apart idempotencyKey other firstKey secondKey firstEntry secondEntry run answered
    obtain ⟨firstMethod, principal, here, rfl⟩ := principal_of_keyed firstEntry
    obtain ⟨secondMethod, otherPrincipal, there, rfl⟩ := principal_of_keyed secondEntry
    have different : ¬ Confusable principal otherPrincipal := by
      intro confusable
      have sameSender := (confusable_iff_sameSender env first second firstAt secondAt).mp
        ⟨principal, otherPrincipal, here, there, confusable⟩
      exact apart ⟨firstMethod, secondMethod, sameSender⟩
    exact not_givenAway_of_disjoint
      (disjoint_of_not_confusable different idempotencyKey other) run answered

/-! ## Two keys as bearer tokens -/

def firstRawKey : String := "rel_a1a1a1a1a1a1a1a1a1a1a1a1a1a1a1a1a1a1a1a1"

def secondRawKey : String := "rel_b2b2b2b2b2b2b2b2b2b2b2b2b2b2b2b2b2b2b2b2"

def sampleSha256 (text : String) : String :=
  if text = firstRawKey then "88d0a4cdecf087899e5fdb5837bd711ccba7baccb5576aba746f4387e5a794ce"
  else if text = secondRawKey then
    "2a2877d73c2e1addc20e3e22a7a65ccf9a195b2811bb4ce1f36c5c2051e3a0e4"
  else ""

/-- A server that knows two keys in the legacy hash format, and no JWT. -/
def sampleEnvironment : CredentialEnvironment where
  host := ⟨fun _ => "", fun _ => none, fun _ => none, fun _ => none, fun _ _ => ""⟩
  decodeToken _ _ := .error (.app (unauthorizedException "Invalid token"))
  sha256Hex := sampleSha256
  httpBearer header :=
    let parts := Text.partitionSpace (header.getD "")
    if Text.lower parts.1 = "bearer" ∧ parts.2 ≠ "" then some ⟨parts.1, parts.2⟩ else none
  verifyApiKey rawKey storedHash := sampleSha256 rawKey = storedHash
  enforceRateLimit _ := .ok ()

def sampleApiKey (id orgId : Uuid) (head hash : String) : ApiKey where
  id := id
  orgId := orgId
  name := "ci"
  keyPrefix := head
  hashedKey := hash
  scopes := ["*"]
  expiresAt := none
  createdAt := 0
  isDeleted := false

def firstApiKey : ApiKey := sampleApiKey 21 1 "rel_a1a1" (sampleSha256 firstRawKey)

def secondApiKey : ApiKey := sampleApiKey 22 2 "rel_b2b2" (sampleSha256 secondRawKey)

def firstOwner : Account := ⟨11, "a@example.com", "A", "hash-a", true, false, false, 0⟩

def secondOwner : Account := ⟨12, "b@example.com", "B", "hash-b", true, false, false, 0⟩

def sampleDirectory : Directory where
  users := ⟨[firstOwner, secondOwner], by decide⟩
  apiKeys := ⟨[firstApiKey, secondApiKey], by decide⟩
  members := [⟨31, 1, 11, .owner, 0, false⟩, ⟨32, 2, 12, .owner, 0, false⟩]

def bearerRequest (rawKey clientHost : String) : Request where
  method := "POST"
  path := "/v1/dependencies"
  authorization := some ("Bearer " ++ rawKey)
  apiKey := none
  organizationId := none
  reliastraOrganization := none
  idempotencyKey := none
  clientHost := some clientHost

/-- Keys of two organizations, sent as `Authorization: Bearer rel_...`, are two
principals to `get_current_user` and one to the middleware. -/
theorem bearer_keys_not_isolated :
    getCurrentUser sampleEnvironment sampleDirectory (bearerRequest firstRawKey "203.0.113.5")
        none 0 = .ok (.apiKey firstApiKey, firstOwner) ∧
      getCurrentUser sampleEnvironment sampleDirectory (bearerRequest secondRawKey "198.51.100.7")
        none 0 = .ok (.apiKey secondApiKey, secondOwner) ∧
      ¬ Isolated sampleEnvironment (bearerRequest firstRawKey "203.0.113.5")
        (bearerRequest secondRawKey "198.51.100.7") 0 0 := by
  refine ⟨by decide, by decide +kernel, ?_⟩
  have undecodable : ∀ request ∈ [bearerRequest firstRawKey "203.0.113.5",
      bearerRequest secondRawKey "198.51.100.7"],
      sender sampleEnvironment request 0 = some (.user, "invalid-token") := by decide +kernel
  refine not_isolated_of_sameSender (by decide) (by decide)
    ⟨.user, "invalid-token", "invalid-token", undecodable _ (by simp), undecodable _ (by simp), ?_⟩
  exact .inl (List.prefix_refl _)

end Reliastra.Guarantees.PrincipalIsolation
