import Reliastra.Source.Api.Routes
import Reliastra.Source.Main.Idempotency

/-!
# Whose response a replay is

The cache key is made of the principal and the `Idempotency-Key` alone. So a
replay answers a request with the response to another operation exactly where a
client sends one key with two operations: another method, path, query, body, or
another organization of the same user.
-/

namespace Reliastra.Guarantees.IdempotentReplays

open Reliastra.Library Reliastra.Source Reliastra.Source.Main

/-! ## Requests and what they ask for -/

/-- A request with the parts that neither a guard nor the middleware reads. -/
structure ClientRequest extends Request where
  query : String
  body : List UInt8
  arrivedAt : Instant

/-- What the effect of a request depends on, besides who sends it. -/
structure Operation where
  method : String
  path : String
  query : String
  /-- The organization header `extract_organization_id` takes. -/
  organization : Option String
  body : List UInt8
  deriving DecidableEq, Repr

def ClientRequest.operation (request : ClientRequest) : Operation where
  method := request.method
  path := request.path
  query := request.query
  organization := [request.organizationId, request.reliastraOrganization].findSome? Api.nonempty
  body := request.body

def ClientRequest.entry (env : CredentialEnvironment) (request : ClientRequest) : DispatchEntry :=
  dispatchEntry env request.toRequest request.arrivedAt

/-! ## Whose responses they are -/

/-- The cache, and who stored the response under a key last, which nothing reads. -/
structure TracedCache (ι : Type) where
  server : CacheServer
  writer : String → Option ι

/-- A request under way, and whose response it was given. -/
structure TracedPhase (ι : Type) where
  phase : DispatchPhase
  origin : Option ι

/-- The step stores a response. -/
def Stores : DispatchPhase → DispatchAction → Prop
  | .released _ outcome, .answer call =>
    ¬ outcome.Raises ∧ outcome.cacheable? ≠ none ∧ call ≠ .requestLost
  | _, _ => False

instance (phase : DispatchPhase) (action : DispatchAction) : Decidable (Stores phase action) := by
  unfold Stores
  split <;> infer_instance

variable {ι : Type}

/-- A step of the request `i`. One that does not go through the middleware leaves
the cache alone. -/
def replayAct (env : CredentialEnvironment) (requests : ι → ClientRequest) (i : ι)
    (s : TracedCache ι) (l : TracedPhase ι) (action : DispatchAction) :
    TracedCache ι × TracedPhase ι :=
  match (requests i).entry env with
  | .keyed key =>
    let after := dispatch key s.server l.phase action
    (⟨after.1, fun other => if other = key ∧ Stores l.phase action then some i else s.writer other⟩,
      ⟨after.2, if l.phase = .arrived then s.writer key else l.origin⟩)
  | _ => (s, l)

/-- An empty cache, and requests that arrive. -/
def arrivals : World (TracedCache ι) ι (TracedPhase ι) :=
  ⟨⟨⟨[], 0⟩, fun _ => none⟩, fun _ => ⟨.arrived, none⟩⟩

/-- Every replay is the response to a request for the same operation. -/
def RepliesToSame (requests : ι → ClientRequest) (w : World (TracedCache ι) ι (TracedPhase ι)) :
    Prop :=
  ∀ i cached, (w.locals i).phase = .done (.replayed cached) →
    ∃ j, (w.locals i).origin = some j ∧ (requests j).operation = (requests i).operation

/-- No two requests that share principal and idempotency key ask for different
operations. -/
def KeysNotReused (env : CredentialEnvironment) (requests : ι → ClientRequest) : Prop :=
  ∀ i j key, (requests i).entry env = .keyed key → (requests j).entry env = .keyed key →
    (requests j).operation = (requests i).operation

/-! ## Responses come from requests under the key -/

variable {env : CredentialEnvironment} {requests : ι → ClientRequest}

/-- Somebody with the key of a stored response has stored it. -/
def Attributed (env : CredentialEnvironment) (requests : ι → ClientRequest)
    (s : TracedCache ι) : Prop :=
  ∀ entry ∈ s.server.redis, ∀ cached, entry.value = .response cached →
    ∃ j, s.writer entry.key = some j ∧ (requests j).entry env = .keyed entry.key

/-- A replay was taken from a request with the same key. -/
def Sourced (env : CredentialEnvironment) (requests : ι → ClientRequest) (i : ι)
    (l : TracedPhase ι) : Prop :=
  ∀ cached, l.phase = .done (.replayed cached) →
    ∃ j key, l.origin = some j ∧ (requests i).entry env = .keyed key ∧
      (requests j).entry env = .keyed key

private theorem answer_unstored {key : String} {server : CacheServer} {since : Instant}
    {outcome : HandlerOutcome} {call : CallOutcome}
    (unstored : ¬ Stores (.released since outcome) (.answer call)) :
    (dispatch key server (.released since outcome) (.answer call)).1 = server := by
  simp only [dispatch]
  split
  · rfl
  next settled =>
  split
  · rfl
  next cached cacheable =>
  cases call with
  | requestLost => rfl
  | delivered | answerLost =>
    exact absurd ⟨settled, by rw [cacheable]; exact Option.some_ne_none _, nofun⟩ unstored

/-- A response in the cache was there before, or is stored now. -/
theorem mem_dispatch_response {key : String} {server : CacheServer} {phase : DispatchPhase}
    {action : DispatchAction} {entry : RedisEntry Stored} {cached : CachedResponse}
    (member : entry ∈ (dispatch key server phase action).1.redis)
    (response : entry.value = .response cached) :
    entry ∈ server.redis ∨ entry.key = key ∧ Stores phase action := by
  by_cases stores : Stores phase action
  · have effect := dispatch_effect key server phase action
    generalize dispatch key server phase action = after at effect member
    cases effect with
    | store =>
      rcases Redis.mem_set.mp member with rfl | ⟨old, _⟩
      · exact .inr ⟨rfl, stores⟩
      · exact .inl old
    | acquire | orphan | release => exact stores.elim
    | _ => exact .inl member
  · by_cases answers : ∃ since outcome call, phase = .released since outcome ∧ action = .answer call
    · obtain ⟨since, outcome, call, rfl, rfl⟩ := answers
      rw [answer_unstored stores] at member
      exact .inl member
    · have effect := dispatch_effect key server phase action
      generalize dispatch key server phase action = after at effect member
      cases effect with
      | store => exact absurd ⟨_, _, _, rfl, rfl⟩ answers
      | acquire | orphan =>
        rcases Redis.mem_set.mp member with rfl | ⟨old, _⟩
        · cases response
        · exact .inl old
      | release => exact .inl (Redis.mem_delete.mp member).1
      | _ => exact .inl member

theorem attributed_step {i : ι} {s : TracedCache ι} {l : TracedPhase ι} {action : DispatchAction}
    (attributed : Attributed env requests s) :
    Attributed env requests (replayAct env requests i s l action).1 := by
  unfold replayAct
  split
  · next key keyed =>
    intro entry member cached response
    by_cases mine : entry.key = key ∧ Stores l.phase action
    · exact ⟨i, if_pos mine, by rw [keyed, mine.1]⟩
    · have old := (mem_dispatch_response member response).resolve_right mine
      obtain ⟨j, wrote, same⟩ := attributed entry old cached response
      exact ⟨j, (if_neg mine).trans wrote, same⟩
  · exact attributed

theorem sourced_step {i : ι} {s : TracedCache ι} {l : TracedPhase ι} {action : DispatchAction}
    (attributed : Attributed env requests s) (sourced : Sourced env requests i l) :
    Sourced env requests i (replayAct env requests i s l action).2 := by
  obtain ⟨phase, origin⟩ := l
  unfold replayAct
  split
  · next key keyed =>
    have effect := dispatch_effect key s.server phase action
    generalize dispatch key s.server phase action = after at effect
    intro cached replayed
    cases effect with
    | replay call stored live =>
      obtain ⟨entry, member, here, response⟩ := Redis.mem_of_live live
      obtain ⟨j, wrote, same⟩ := attributed entry member stored response
      rw [here] at wrote same
      refine ⟨j, key, ?_, keyed, same⟩
      dsimp only
      rw [if_pos rfl]
      exact wrote
    | idle | elapse =>
      have done : phase ≠ .arrived := by
        rintro rfl
        cases replayed
      obtain ⟨j, key, given, mine, same⟩ := sourced cached replayed
      exact ⟨j, key, (if_neg done).trans given, mine, same⟩
    | _ => cases replayed
  · exact sourced

/-! ## Runs -/

variable [DecidableEq ι]

/-- In every run a replay was stored by a request with the same cache key. -/
theorem replays_sourced (env : CredentialEnvironment) (requests : ι → ClientRequest)
    (run : List (ι × DispatchAction)) (i : ι) :
    Sourced env requests i ((Run.exec (World.move (replayAct env requests)) arrivals
      run).locals i) := by
  have keeps (w : World (TracedCache ι) ι (TracedPhase ι)) (i : ι) (action : DispatchAction)
      (holds : World.Holds (Attributed env requests) (fun i _ l => Sourced env requests i l)
        (fun _ _ => True) w) :
      World.Keeps (Attributed env requests) (fun i _ l => Sourced env requests i l)
        (fun _ _ => True) w i (replayAct env requests i w.shared (w.locals i) action) :=
    ⟨attributed_step holds.store, sourced_step holds.store (holds.own i),
      fun j _ => holds.own j, fun _ _ => trivial⟩
  have initial : World.Holds (Attributed env requests) (fun i _ l => Sourced env requests i l)
      (fun _ _ => True) (arrivals (ι := ι)) :=
    ⟨fun entry member => absurd member List.not_mem_nil, fun i cached => nofun,
      fun _ _ _ => trivial⟩
  exact (initial.exec (fun _ _ _ => trivial) keeps arrivals run).own i

/-- One request is handled and its response stored. -/
def handled : List DispatchAction :=
  [.readCache .delivered, .acquire .delivered, .handle (.response 200 (some "first") none []),
    .release .delivered, .answer .delivered]

/-- The first request is done when the second arrives. -/
def oneThenTheOther (first second : ι) : List (ι × DispatchAction) :=
  handled.map (fun action => (first, action)) ++ [(second, .readCache .delivered)]

theorem replayed_under_shared_key {first second : ι} (different : second ≠ first) {key : String}
    (firstEntry : (requests first).entry env = .keyed key)
    (secondEntry : (requests second).entry env = .keyed key) :
    (Run.exec (World.move (replayAct env requests)) arrivals
      (oneThenTheOther first second)).locals second =
        ⟨.done (.replayed ⟨200, "first", none, []⟩), some first⟩ := by
  have stored : Run.exec (fun s action => replayAct env requests first s.1 s.2 action)
      ((arrivals (ι := ι)).shared, (arrivals (ι := ι)).locals first) handled =
      (⟨⟨[⟨key, .response ⟨200, "first", none, []⟩, secondsToMicros 86400⟩], 0⟩,
          fun other => if other = key then some first else none⟩,
        ⟨.done (.handled (.response 200 (some "first") none [])), none⟩) := by
    simp [handled, Run.exec, replayAct, firstEntry, arrivals, dispatch, Stores, Redis.safeGet,
      Redis.safeSetNx, Redis.safeDelete, Redis.safeSetex, Redis.live, Redis.set, Redis.delete,
      HandlerOutcome.Raises, HandlerOutcome.cacheable?, isCacheableStatus]
  unfold oneThenTheOther
  rw [Run.exec_concat, World.exec_party, stored, World.move_locals_self]
  simp [Function.update_of_ne different, arrivals, replayAct, secondEntry, dispatch, Redis.safeGet,
    Redis.live, secondsToMicros]

/-- In every run of the requests, every replay answers the operation it was stored
for, exactly when no cache key is used for two operations. -/
theorem replays_same_operation_iff (env : CredentialEnvironment) (requests : ι → ClientRequest) :
    (∀ run : List (ι × DispatchAction), RepliesToSame requests
        (Run.exec (World.move (replayAct env requests)) arrivals run)) ↔
      KeysNotReused env requests := by
  constructor
  · intro replies i j key mine other
    by_cases same : i = j
    · rw [same]
    · have replayed := replayed_under_shared_key same other mine
      obtain ⟨k, origin, operation⟩ := replies (oneThenTheOther j i) i ⟨200, "first", none, []⟩
        (by rw [replayed])
      rw [replayed] at origin
      cases origin
      exact operation
  · intro unused run i cached replayed
    obtain ⟨j, key, origin, mine, other⟩ := replays_sourced env requests run i cached replayed
    exact ⟨j, origin, unused i j key mine other⟩

/-! ## One user of two organizations -/

/-- The same key for a dependency in one organization, and a webhook in another. -/
def reusedKey : Bool → ClientRequest
  | false => ⟨⟨"POST", "/v1/dependencies", some "Bearer eyJ.access", none,
      some Api.acmeIdText, none, some "create-1", none⟩, "", [1], 0⟩
  | true => ⟨⟨"POST", "/v1/webhooks", some "Bearer eyJ.access", none,
      some Api.betaIdText, none, some "create-1", none⟩, "", [2], 5⟩

/-- The second operation is answered with the result of the first. -/
theorem replay_of_other_operation :
    ¬ RepliesToSame reusedKey (Run.exec (World.move (replayAct Api.oneTokenCredentials reusedKey)) arrivals
      (oneThenTheOther false true)) := by
  intro replies
  obtain ⟨j, origin, operation⟩ := replies true ⟨200, "first", none, []⟩ (by decide +kernel)
  have first : j = false := by
    have written : some false = some j := origin
    exact (Option.some.inj written).symm
  subst first
  exact absurd operation (by decide)

end Reliastra.Guarantees.IdempotentReplays
