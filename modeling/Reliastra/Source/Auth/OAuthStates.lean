import Reliastra.Library.Interleaving
import Reliastra.Source.Auth.OAuth
import Reliastra.Source.Core.Redis

/-!
# State tokens of the OAuth flows

Source: `_store_state`, `_validate_state` and the start of `authenticate_with_code`
of both services, with the routes of `app/modules/auth/router.py` that call them.
All calls share one Redis, and the `EXISTS` and the `DEL` of a check are two
calls with anything between them. The database is not shared here: the rest of a
call runs on whatever it sees of it, which is an input.
-/

namespace Reliastra.Source.Auth

open Reliastra.Library

/-- `_OAUTH_STATE_PREFIX`. -/
def oauthStatePrefix : OAuthProvider → String
  | .google => "oauth:google:state:"
  | .github => "oauth:github:state:"

def oauthStateTtlSeconds : Int := 600

def stateKey (provider : OAuthProvider) (stateToken : String) : String :=
  oauthStatePrefix provider ++ stateToken

/-- `_validate_state`, by the outcomes of its two calls of Redis. -/
def validateState (provider : OAuthProvider) (stateToken : String) (now : Instant)
    (check delete : CallOutcome) (redis : Redis String) : Redis String × Bool :=
  let key := stateKey provider stateToken
  if redis.safeExists key now check then ((redis.safeDelete key delete).1, true)
  else (redis, false)

/-- The request of a callback. -/
structure OAuthCallback where
  provider : OAuthProvider
  code : String
  state : Option String
  deriving DecidableEq, Repr

/-- A state the authorization step has stored. -/
structure StateIssue where
  provider : OAuthProvider
  stateToken : String
  storedAt : Instant
  deriving DecidableEq, Repr

/-- The state keys, and every state stored so far. -/
structure StateStore where
  redis : Redis String
  issued : List StateIssue

/-- A state a call has found, and whether its `DEL` was applied. -/
structure ConsumedState where
  stateToken : String
  checkedAt : Instant
  deleted : Bool
  deriving DecidableEq, Repr

/-- How far a call of `authenticate_with_code` is. A call without a state passes
the check with nothing consumed. -/
inductive CallbackPhase where
  | idle
  | found (callback : OAuthCallback) (state : ConsumedState)
  | passed (callback : OAuthCallback) (consumed : Option ConsumedState)
  | refused (failure : Failure)
  | returned (callback : OAuthCallback) (consumed : Option ConsumedState)
      (tokens : TokenResponse) (isNewUser : Bool)
  deriving DecidableEq, Repr

inductive OAuthAct where
  /-- `GET /google/url` and `GET /github/url`, with the token drawn. -/
  | authorize (provider : OAuthProvider) (stateToken : String) (now : Instant)
      (outcome : CallOutcome)
  | checkState (callback : OAuthCallback) (now : Instant) (outcome : CallOutcome)
  | deleteState (outcome : CallOutcome)
  | signIn (env : OAuthEnvironment) (database : OAuthDatabase)
  /-- The request or its worker ends. -/
  | abort

def invalidState : Failure := .app (validationException
  "Invalid or expired authorization state. Please try again.")

/-! ## Statements -/

def storeState (provider : OAuthProvider) (stateToken : String) (now : Instant)
    (outcome : CallOutcome) (s : StateStore) : StateStore :=
  { redis := (s.redis.safeSet (stateKey provider stateToken) "1" oauthStateTtlSeconds now
      outcome).1
    issued := if outcome = .requestLost then s.issued
      else s.issued ++ [⟨provider, stateToken, now⟩] }

/-- `if state:` and the `EXISTS` of `_validate_state`. -/
def checkState (callback : OAuthCallback) (now : Instant) (outcome : CallOutcome)
    (redis : Redis String) : CallbackPhase :=
  match callback.state.filter (· ≠ "") with
  | none => .passed callback none
  | some stateToken =>
    if redis.safeExists (stateKey callback.provider stateToken) now outcome then
      .found callback ⟨stateToken, now, false⟩
    else .refused invalidState

def oauthAct (shared : StateStore) (phase : CallbackPhase) : OAuthAct → StateStore × CallbackPhase
  | .authorize provider stateToken now outcome =>
    (storeState provider stateToken now outcome shared, phase)
  | .checkState callback now outcome =>
    match phase with
    | .idle => (shared, checkState callback now outcome shared.redis)
    | _ => (shared, phase)
  | .deleteState outcome =>
    match phase with
    | .found callback state =>
      -- the answer of `DEL` is not looked at
      ({ shared with
          redis := (shared.redis.safeDelete (stateKey callback.provider state.stateToken)
            outcome).1 },
        .passed callback (some { state with deleted := outcome ≠ .requestLost }))
    | _ => (shared, phase)
  | .signIn env database =>
    match phase with
    | .passed callback consumed =>
      match signIn env callback.provider callback.code database with
      | .ok (tokens, isNewUser, _) => (shared, .returned callback consumed tokens isNewUser)
      | .error failure => (shared, .refused failure)
    | _ => (shared, phase)
  | .abort =>
    match phase with
    | .found _ _ => (shared, .refused (.python "CancelledError"))
    | .passed _ _ => (shared, .refused (.python "CancelledError"))
    | _ => (shared, phase)

/-! ## One call by itself -/

/-- `authenticate_with_code`. -/
def authenticateWithCode (env : OAuthEnvironment) (callback : OAuthCallback) (now : Instant)
    (check delete : CallOutcome) (database : OAuthDatabase) (redis : Redis String) :
    Redis String × Except Failure (TokenResponse × Bool × OAuthDatabase) :=
  match callback.state.filter (· ≠ "") with
  | none => (redis, signIn env callback.provider callback.code database)
  | some stateToken =>
    match validateState callback.provider stateToken now check delete redis with
    | (redis, true) => (redis, signIn env callback.provider callback.code database)
    | (redis, false) => (redis, .error invalidState)

/-- How a call has ended. -/
def CallbackPhase.result : CallbackPhase → Option (Except Failure (TokenResponse × Bool))
  | .returned _ _ tokens isNewUser => some (.ok (tokens, isNewUser))
  | .refused failure => some (.error failure)
  | _ => none

theorem signIn_result (env : OAuthEnvironment) (database : OAuthDatabase) (s : StateStore)
    (callback : OAuthCallback) (consumed : Option ConsumedState) :
    (oauthAct s (.passed callback consumed) (.signIn env database)).1 = s ∧
      (oauthAct s (.passed callback consumed) (.signIn env database)).2.result =
        some ((signIn env callback.provider callback.code database).map
          (fun returned => (returned.1, returned.2.1))) := by
  simp only [oauthAct]
  cases signIn env callback.provider callback.code database with
  | error failure => exact ⟨rfl, rfl⟩
  | ok returned => exact ⟨rfl, rfl⟩

/-- The statements of a call with nothing in between do what
`authenticate_with_code` does. -/
theorem oauthAct_alone (env : OAuthEnvironment) (callback : OAuthCallback) (now : Instant)
    (check delete : CallOutcome) (database : OAuthDatabase) (s : StateStore) :
    let after := Run.exec (fun state action => oauthAct state.1 state.2 action) (s, .idle)
      [.checkState callback now check, .deleteState delete, .signIn env database]
    let called := authenticateWithCode env callback now check delete database s.redis
    after.1.redis = called.1 ∧
      after.2.result = some (called.2.map (fun returned => (returned.1, returned.2.1))) := by
  simp only [Run.exec_cons, Run.exec_nil]
  cases given : callback.state.filter (· ≠ "") with
  | none =>
    have checked : oauthAct s .idle (.checkState callback now check) =
        (s, .passed callback none) := by
      simp only [oauthAct, checkState, given]
    obtain ⟨same, result⟩ := signIn_result env database s callback none
    rw [checked]
    simp only [authenticateWithCode, given]
    exact ⟨congrArg StateStore.redis same, result⟩
  | some stateToken =>
    cases found : s.redis.safeExists (stateKey callback.provider stateToken) now check with
    | false =>
      have checked : oauthAct s .idle (.checkState callback now check) =
          (s, .refused invalidState) := by
        simp only [oauthAct, checkState, given, found, Bool.false_eq_true, if_false]
      rw [checked]
      simp only [authenticateWithCode, validateState, given, found, Bool.false_eq_true, if_false]
      exact ⟨rfl, rfl⟩
    | true =>
      have checked : oauthAct s .idle (.checkState callback now check) =
          (s, .found callback ⟨stateToken, now, false⟩) := by
        simp only [oauthAct, checkState, given, found, if_true]
      rw [checked]
      simp only [authenticateWithCode, validateState, given, found, if_true]
      obtain ⟨same, result⟩ := signIn_result env database
        (oauthAct s (.found callback ⟨stateToken, now, false⟩) (.deleteState delete)).1 callback
        (some ⟨stateToken, now, delete ≠ .requestLost⟩)
      exact ⟨congrArg StateStore.redis same, result⟩

/-! ## States and their keys -/

/-- The state a call goes on with, or has returned tokens for. -/
def CallbackPhase.consumed : CallbackPhase → Option (OAuthProvider × ConsumedState)
  | .found callback state => some (callback.provider, state)
  | .passed callback consumed => consumed.map (fun state => (callback.provider, state))
  | .returned callback consumed _ _ => consumed.map (fun state => (callback.provider, state))
  | _ => none

/-- No two states share a key, of one provider or of both. -/
theorem stateKey_inj {p q : OAuthProvider} {a b : String} (same : stateKey p a = stateKey q b) :
    p = q ∧ a = b := by
  have texts := congrArg String.toList same
  simp only [stateKey, String.toList_append] at texts
  have providers : p = q := by
    -- the eighth character tells the prefixes apart
    have eighth := congrArg (fun text => text[7]?) texts
    cases p <;> cases q <;> first | rfl | simp [oauthStatePrefix] at eighth
  subst providers
  exact ⟨rfl, String.toList_inj.mp (List.append_cancel_left texts)⟩

/-- The authorization step stored the state, and it was not expired when it was
checked. -/
def Issued (s : StateStore) (provider : OAuthProvider) (state : ConsumedState) : Prop :=
  ∃ issue ∈ s.issued, issue.provider = provider ∧ issue.stateToken = state.stateToken ∧
    state.checkedAt < issue.storedAt + secondsToMicros oauthStateTtlSeconds

/-- Every key comes from the authorization step, with its expiry. -/
def EntriesIssued (s : StateStore) : Prop :=
  ∀ entry ∈ s.redis, ∃ issue ∈ s.issued, entry.key = stateKey issue.provider issue.stateToken ∧
    entry.expiresAt = issue.storedAt + secondsToMicros oauthStateTtlSeconds

theorem issued_storeState (provider : OAuthProvider) (stateToken : String) (now : Instant)
    (outcome : CallOutcome) (s : StateStore) :
    ∀ issue ∈ s.issued, issue ∈ (storeState provider stateToken now outcome s).issued := by
  intro issue member
  unfold storeState
  split
  · exact member
  · exact List.mem_append_left _ member

/-- What `_store_state` may add to the store. -/
theorem mem_storeState {provider : OAuthProvider} {stateToken : String} {now : Instant}
    {outcome : CallOutcome} {s : StateStore} {entry : RedisEntry String}
    (stored : entry ∈ (storeState provider stateToken now outcome s).redis) :
    entry ∈ s.redis ∨
      (entry = ⟨stateKey provider stateToken, "1", now + secondsToMicros oauthStateTtlSeconds⟩ ∧
        ⟨provider, stateToken, now⟩ ∈ (storeState provider stateToken now outcome s).issued) := by
  cases outcome with
  | requestLost => exact .inl stored
  | delivered =>
    rcases Redis.mem_set.mp stored with new | ⟨old, _⟩
    · exact .inr ⟨new, by simp [storeState]⟩
    · exact .inl old
  | answerLost =>
    rcases Redis.mem_set.mp stored with new | ⟨old, _⟩
    · exact .inr ⟨new, by simp [storeState]⟩
    · exact .inl old

theorem EntriesIssued.storeState {s : StateStore} (issued : EntriesIssued s)
    (provider : OAuthProvider) (stateToken : String) (now : Instant) (outcome : CallOutcome) :
    EntriesIssued (storeState provider stateToken now outcome s) := by
  intro entry stored
  rcases mem_storeState stored with old | ⟨rfl, new⟩
  · obtain ⟨issue, member, key, expiry⟩ := issued entry old
    exact ⟨issue, issued_storeState _ _ _ _ s issue member, key, expiry⟩
  · exact ⟨_, new, rfl, rfl⟩

/-- A state that the check finds was issued and is not expired. -/
theorem EntriesIssued.of_exists {s : StateStore} (issued : EntriesIssued s)
    {provider : OAuthProvider} {stateToken : String} {now : Instant} {outcome : CallOutcome}
    (found : s.redis.safeExists (stateKey provider stateToken) now outcome = true) :
    Issued s provider ⟨stateToken, now, false⟩ := by
  obtain ⟨entry, stored, here, alive⟩ := Redis.mem_of_safeExists found
  obtain ⟨issue, member, key, expiry⟩ := issued entry stored
  obtain ⟨same, token⟩ := stateKey_inj (here.symm.trans key)
  exact ⟨issue, member, same.symm, token.symm, expiry ▸ alive⟩

end Reliastra.Source.Auth
