import Reliastra.Guarantees.TokenFamilies
import Reliastra.Source.Auth.OAuthStates

/-!
# Is an OAuth login bound to an issued state?

The state of a callback is optional, and one that is given is looked up and
deleted in two calls of Redis. `bound_to_issued_state` says what this gives:
every login with a state goes back to one that the authorization step of its
provider stored and that had not expired, and no two logins share a state unless
one of them checked it while the other had not deleted it.
-/

namespace Reliastra.Guarantees.OAuthLogins

open Reliastra.Library Reliastra.Source Reliastra.Source.Auth

variable {ι : Type}

/-- Any number of calls, and the Redis they share. -/
abbrev OAuthWorld (ι : Type) := World StateStore ι CallbackPhase

def stateAct (_ : ι) (shared : StateStore) (phase : CallbackPhase) (action : OAuthAct) :
    StateStore × CallbackPhase := oauthAct shared phase action

/-- No state yet, and no call under way. -/
def opening : OAuthWorld ι := ⟨⟨[], []⟩, fun _ => .idle⟩

/-- The call has returned tokens. -/
def LoggedIn (w : OAuthWorld ι) (i : ι) (callback : OAuthCallback)
    (consumed : Option ConsumedState) : Prop :=
  ∃ tokens isNewUser, w.locals i = .returned callback consumed tokens isNewUser

/-- The call consumed the state of its request, which was issued. -/
def ConsumedIssued (w : OAuthWorld ι) (callback : OAuthCallback)
    (consumed : Option ConsumedState) : Prop :=
  ∃ state, consumed = some state ∧ callback.state = some state.stateToken ∧
    Issued w.shared callback.provider state

/-- No two logins consumed one state. -/
def ConsumedOnce (w : OAuthWorld ι) : Prop :=
  ∀ i j, i ≠ j → ∀ first second a b, LoggedIn w i first (some a) → LoggedIn w j second (some b) →
    first.provider = second.provider → a.stateToken ≠ b.stateToken

/-- Every login consumed an issued state of its own. -/
structure BoundToState (w : OAuthWorld ι) : Prop where
  bound : ∀ i callback consumed, LoggedIn w i callback consumed →
    ConsumedIssued w callback consumed
  once : ConsumedOnce w

/-- The same of the logins whose request carries a state. -/
def BoundWhereGiven (w : OAuthWorld ι) : Prop :=
  ∀ i callback consumed, LoggedIn w i callback consumed →
    (callback.state.filter (· ≠ "")).isSome → ConsumedIssued w callback consumed

/-- The call goes on with a state it has not deleted. -/
def Undeleted (phase : CallbackPhase) (provider : OAuthProvider) (stateToken : String) : Prop :=
  ∃ state, phase.consumed = some (provider, state) ∧ state.stateToken = stateToken ∧
    state.deleted = false

/-- A token drawn is new, and a check does not find a state that another call
goes on with and has not deleted yet. -/
def Uncontended (w : OAuthWorld ι) (move : ι × OAuthAct) : Prop :=
  match move.2 with
  | .authorize provider stateToken _ _ => ∀ issue ∈ w.shared.issued,
    ¬ (issue.provider = provider ∧ issue.stateToken = stateToken)
  | .checkState callback now outcome => ∀ stateToken, callback.state = some stateToken →
    w.shared.redis.safeExists (stateKey callback.provider stateToken) now outcome = true →
    ∀ j, j ≠ move.1 → ¬ Undeleted (w.locals j) callback.provider stateToken
  | _ => True

/-! ## One step of a call -/

variable {s : StateStore} {phase : CallbackPhase}

/-- Without a state nothing is consumed, with one that state is. -/
def Accounts : CallbackPhase → Prop
  | .found callback state => callback.state.filter (· ≠ "") = some state.stateToken
  | .passed callback consumed =>
    callback.state.filter (· ≠ "") = consumed.map (·.stateToken)
  | .returned callback consumed _ _ =>
    callback.state.filter (· ≠ "") = consumed.map (·.stateToken)
  | _ => True

theorem accounts_checkState (callback : OAuthCallback) (now : Instant) (outcome : CallOutcome)
    (redis : Redis String) : Accounts (checkState callback now outcome redis) := by
  unfold checkState
  cases given : callback.state.filter (· ≠ "") with
  | none => simpa [Accounts] using given
  | some stateToken =>
    dsimp only
    split
    · exact given
    · trivial

theorem accounts_act (a : OAuthAct) (accounts : Accounts phase) :
    Accounts (oauthAct s phase a).2 := by
  cases a with
  | authorize provider stateToken now outcome => exact accounts
  | checkState callback now outcome =>
    cases phase with
    | idle => exact accounts_checkState callback now outcome s.redis
    | _ => exact accounts
  | deleteState outcome =>
    cases phase with
    | found callback state => exact accounts
    | _ => exact accounts
  | signIn env database =>
    cases phase with
    | passed callback consumed =>
      simp only [oauthAct]
      split
      · exact accounts
      · trivial
    | _ => exact accounts
  | abort =>
    cases phase with
    | found callback state => trivial
    | passed callback consumed => trivial
    | _ => exact accounts

theorem consumed_checkState {callback : OAuthCallback} {now : Instant} {outcome : CallOutcome}
    {redis : Redis String} {provider : OAuthProvider} {state : ConsumedState}
    (after : (checkState callback now outcome redis).consumed = some (provider, state)) :
    provider = callback.provider ∧ callback.state = some state.stateToken ∧
      redis.safeExists (stateKey provider state.stateToken) now outcome = true ∧
      state = ⟨state.stateToken, now, false⟩ := by
  unfold checkState at after
  cases given : callback.state.filter (· ≠ "") with
  | none =>
    rw [given] at after
    cases after
  | some stateToken =>
    rw [given] at after
    dsimp only at after
    split at after
    · next found =>
      cases after
      exact ⟨rfl, (Option.filter_eq_some_iff.mp given).1, found, rfl⟩
    · cases after

/-- Where the state of a call comes from: it had it before, has just found it, or
has just sent its deletion. -/
theorem consumed_act {a : OAuthAct} {provider : OAuthProvider} {state : ConsumedState}
    (after : (oauthAct s phase a).2.consumed = some (provider, state)) :
    phase.consumed = some (provider, state) ∨
      (∃ callback now outcome, a = .checkState callback now outcome ∧
        provider = callback.provider ∧ callback.state = some state.stateToken ∧
        s.redis.safeExists (stateKey provider state.stateToken) now outcome = true ∧
        state = ⟨state.stateToken, now, false⟩) ∨
      (∃ found outcome, phase.consumed = some (provider, found) ∧ a = .deleteState outcome ∧
        state = { found with deleted := outcome ≠ .requestLost } ∧
        (oauthAct s phase a).1.redis =
          (s.redis.safeDelete (stateKey provider state.stateToken) outcome).1) := by
  cases a with
  | authorize drawn stateToken now outcome => exact .inl after
  | checkState callback now outcome =>
    cases phase with
    | idle =>
      obtain ⟨mine, given, found, here⟩ := consumed_checkState after
      exact .inr (.inl ⟨callback, now, outcome, rfl, mine, given, found, here⟩)
    | _ => exact .inl after
  | deleteState outcome =>
    cases phase with
    | found callback found =>
      cases after
      exact .inr (.inr ⟨found, outcome, rfl, rfl, rfl, rfl⟩)
    | _ => exact .inl after
  | signIn env database =>
    cases phase with
    | passed callback consumed =>
      simp only [oauthAct] at after
      split at after
      · exact .inl after
      · cases after
    | _ => exact .inl after
  | abort =>
    cases phase with
    | found callback state => cases after
    | passed callback consumed => cases after
    | _ => exact .inl after

/-- The states issued stay so. -/
theorem issued_act (phase : CallbackPhase) (a : OAuthAct) :
    ∀ issue ∈ s.issued, issue ∈ (oauthAct s phase a).1.issued := by
  intro issue member
  cases a with
  | authorize provider stateToken now outcome =>
    exact issued_storeState provider stateToken now outcome s issue member
  | checkState callback now outcome => cases phase <;> exact member
  | deleteState outcome => cases phase <;> exact member
  | signIn env database =>
    cases phase with
    | passed callback consumed =>
      simp only [oauthAct]
      split <;> exact member
    | _ => exact member
  | abort => cases phase <;> exact member

/-- A key in the store was there before, or is the one just stored. -/
theorem entries_act {a : OAuthAct} {entry : RedisEntry String}
    (stored : entry ∈ (oauthAct s phase a).1.redis) :
    entry ∈ s.redis ∨
      ∃ provider stateToken now outcome, a = .authorize provider stateToken now outcome ∧
        entry.key = stateKey provider stateToken := by
  cases a with
  | authorize provider stateToken now outcome =>
    rcases mem_storeState stored with old | ⟨rfl, _⟩
    · exact .inl old
    · exact .inr ⟨provider, stateToken, now, outcome, rfl, rfl⟩
  | checkState callback now outcome => cases phase <;> exact .inl stored
  | deleteState outcome =>
    cases phase with
    | found callback state => exact .inl (Redis.mem_of_mem_safeDelete stored)
    | _ => exact .inl stored
  | signIn env database =>
    cases phase with
    | passed callback consumed =>
      simp only [oauthAct] at stored
      split at stored <;> exact .inl stored
    | _ => exact .inl stored
  | abort => cases phase <;> exact .inl stored

theorem entriesIssued_act (a : OAuthAct) (issued : EntriesIssued s) :
    EntriesIssued (oauthAct s phase a).1 := by
  cases a with
  | authorize provider stateToken now outcome =>
    exact issued.storeState provider stateToken now outcome
  | _ =>
    intro entry stored
    rcases entries_act stored with old | ⟨_, _, _, _, other, _⟩
    · obtain ⟨issue, member, key, expiry⟩ := issued entry old
      exact ⟨issue, issued_act phase _ issue member, key, expiry⟩
    · cases other

/-! ## Every run -/

/-- The state a call goes on with is the one of its request and was issued. -/
structure FromIssued (s : StateStore) (phase : CallbackPhase) : Prop where
  accounts : Accounts phase
  issued : ∀ provider state, phase.consumed = some (provider, state) → Issued s provider state

theorem FromIssued.mono {after : StateStore} (holds : FromIssued s phase)
    (grows : ∀ issue ∈ s.issued, issue ∈ after.issued) : FromIssued after phase := by
  refine ⟨holds.accounts, ?_⟩
  intro provider state consumed
  obtain ⟨issue, member, rest⟩ := holds.issued provider state consumed
  exact ⟨issue, grows issue member, rest⟩

theorem FromIssued.act (a : OAuthAct) (entries : EntriesIssued s) (holds : FromIssued s phase) :
    FromIssued (oauthAct s phase a).1 (oauthAct s phase a).2 := by
  refine ⟨accounts_act a holds.accounts, ?_⟩
  intro provider state after
  have was : Issued s provider state := by
    rcases consumed_act after with before | ⟨_, now, _, _, _, _, found, here⟩ |
      ⟨found, _, before, _, here, _⟩
    · exact holds.issued provider state before
    · rw [here]
      exact entries.of_exists found
    · obtain ⟨issue, member, mine, token, alive⟩ := holds.issued provider found before
      rw [here]
      exact ⟨issue, member, mine, token, alive⟩
  obtain ⟨issue, member, rest⟩ := was
  exact ⟨issue, issued_act phase a issue member, rest⟩

abbrev Bound (w : OAuthWorld ι) : Prop :=
  World.Holds EntriesIssued (fun _ => FromIssued) (fun _ _ => True) w

theorem bound_opening : Bound (opening : OAuthWorld ι) := by
  refine ⟨?_, ?_, fun _ _ _ => trivial⟩
  · exact fun entry stored => absurd stored List.not_mem_nil
  · exact fun i => ⟨trivial, fun provider state consumed => nomatch consumed⟩

theorem bound_exec [DecidableEq ι] (run : List (ι × OAuthAct)) :
    Bound (Run.exec (World.move stateAct) opening run) := by
  apply World.Holds.exec (fun _ _ _ => trivial) ?_ opening run bound_opening
  intro w i a holds
  refine ⟨entriesIssued_act a holds.store, (holds.own i).act a holds.store, ?_,
    fun _ _ => trivial⟩
  exact fun j _ => (holds.own j).mono (issued_act (w.locals i) a)

theorem Bound.whereGiven {w : OAuthWorld ι} (bound : Bound w) : BoundWhereGiven w := by
  intro i callback consumed ⟨tokens, isNewUser, phase⟩ given
  have own := bound.own i
  rw [phase] at own
  cases consumed with
  | none =>
    have none : callback.state.filter (· ≠ "") = none := own.accounts
    rw [none] at given
    cases given
  | some state =>
    have token : callback.state.filter (· ≠ "") = some state.stateToken := own.accounts
    exact ⟨state, rfl, (Option.filter_eq_some_iff.mp token).1,
      own.issued callback.provider state rfl⟩

/-! ## Runs without contention -/

/-- A state the call has deleted is gone from the store. -/
def Gone (s : StateStore) (phase : CallbackPhase) : Prop :=
  ∀ provider state, phase.consumed = some (provider, state) → state.deleted = true →
    ∀ entry ∈ s.redis, entry.key ≠ stateKey provider state.stateToken

/-- Two calls do not go on with one state. -/
def Apart (first second : CallbackPhase) : Prop :=
  ∀ provider a b, first.consumed = some (provider, a) → second.consumed = some (provider, b) →
    a.stateToken ≠ b.stateToken

theorem apart_symm (first second : CallbackPhase) (apart : Apart first second) :
    Apart second first :=
  fun provider a b mine theirs same => apart provider b a theirs mine same.symm

abbrev Exclusive (w : OAuthWorld ι) : Prop :=
  World.Holds EntriesIssued (fun _ s phase => FromIssued s phase ∧ Gone s phase) Apart w

section Moves
variable {w : OAuthWorld ι} {i : ι} {a : OAuthAct}

/-- A state that some call has and that is gone stays so: tokens drawn are new. -/
theorem not_stored_again (uncontended : Uncontended w (i, a)) {provider : OAuthProvider}
    {state : ConsumedState} (issued : Issued w.shared provider state)
    (gone : ∀ entry ∈ w.shared.redis, entry.key ≠ stateKey provider state.stateToken) :
    ∀ entry ∈ (oauthAct w.shared (w.locals i) a).1.redis,
      entry.key ≠ stateKey provider state.stateToken := by
  intro entry stored same
  rcases entries_act stored with old | ⟨drawn, stateToken, now, outcome, rfl, key⟩
  · exact gone entry old same
  · obtain ⟨issue, member, mine, token, _⟩ := issued
    obtain ⟨provider', token'⟩ := stateKey_inj (key.symm.trans same)
    exact uncontended issue member ⟨mine.trans provider'.symm, token.trans token'.symm⟩

theorem gone_act (holds : Exclusive w) (uncontended : Uncontended w (i, a)) :
    Gone (oauthAct w.shared (w.locals i) a).1 (oauthAct w.shared (w.locals i) a).2 := by
  intro provider state after deleted
  rcases consumed_act after with before | ⟨_, _, _, _, _, _, _, here⟩ |
    ⟨found, outcome, _, _, here, redis⟩
  · exact not_stored_again uncontended ((holds.own i).1.issued provider state before)
      ((holds.own i).2 provider state before deleted)
  · rw [here] at deleted
    cases deleted
  · intro entry stored
    rw [redis] at stored
    cases outcome with
    | requestLost =>
      rw [here] at deleted
      simp at deleted
    | delivered => exact (Redis.mem_delete.mp stored).2
    | answerLost => exact (Redis.mem_delete.mp stored).2

/-- A state just found is no other call's: one that has deleted it keeps it out
of the store, and one that has not would contend. -/
theorem apart_act (holds : Exclusive w) (uncontended : Uncontended w (i, a)) {j : ι}
    (other : j ≠ i) : Apart (oauthAct w.shared (w.locals i) a).2 (w.locals j) := by
  intro provider mine theirs after under same
  rcases consumed_act after with before | ⟨callback, now, outcome, rfl, rfl, given, found, _⟩ |
    ⟨old, _, before, _, here, _⟩
  · exact holds.pair i j other.symm provider mine theirs before under same
  · cases deleted : theirs.deleted with
    | false =>
      exact uncontended mine.stateToken given found j other ⟨theirs, under, same.symm, deleted⟩
    | true =>
      obtain ⟨entry, stored, key, _⟩ := Redis.mem_of_safeExists found
      rw [same] at key
      exact (holds.own j).2 callback.provider theirs under deleted entry stored key
  · rw [here] at same
    exact holds.pair i j other.symm provider old theirs before under same

theorem exclusive_move [DecidableEq ι] (holds : Exclusive w) (uncontended : Uncontended w (i, a)) :
    Exclusive (w.move stateAct (i, a)) := by
  apply holds.move apart_symm
  refine ⟨entriesIssued_act a holds.store, ?_, ?_, ?_⟩
  · exact ⟨(holds.own i).1.act a holds.store, gone_act holds uncontended⟩
  · intro j _
    refine ⟨(holds.own j).1.mono (issued_act (w.locals i) a), ?_⟩
    intro provider state consumed deleted
    exact not_stored_again uncontended ((holds.own j).1.issued provider state consumed)
      ((holds.own j).2 provider state consumed deleted)
  · exact fun j other => apart_act holds uncontended other

end Moves

theorem exclusive_opening : Exclusive (opening : OAuthWorld ι) := by
  refine ⟨bound_opening.store, fun i => ⟨bound_opening.own i, ?_⟩, ?_⟩
  · exact fun provider state consumed => nomatch consumed
  · exact fun i j _ provider a b consumed => nomatch consumed

theorem Exclusive.once {w : OAuthWorld ι} (holds : Exclusive w) : ConsumedOnce w := by
  intro i j other first second a b ⟨_, _, mine⟩ ⟨_, _, theirs⟩ same
  apply holds.pair i j other first.provider a b
  · rw [mine]
    rfl
  · rw [theirs, same]
    rfl

/-- After every interleaving, a login whose request carries a state consumed one
that the authorization step of its provider stored and that had not expired; and
where no check ran into a call that had not deleted the state yet, no two logins
consumed one state. -/
theorem bound_to_issued_state [DecidableEq ι] (run : List (ι × OAuthAct)) :
    BoundWhereGiven (Run.exec (World.move stateAct) opening run) ∧
      (Run.AllSteps (World.move stateAct) Uncontended opening run →
        ConsumedOnce (Run.exec (World.move stateAct) opening run)) := by
  constructor
  · exact (bound_exec run).whereGiven
  · intro uncontended
    have exclusive := Run.exec_invariant_of_allSteps
      (fun (w : OAuthWorld ι) (m : ι × OAuthAct) (holds : Exclusive w) free =>
        exclusive_move holds free) opening run exclusive_opening uncontended
    exact exclusive.once

/-! ## A Google account that has signed in before -/

def googleServer : OAuthEnvironment where
  signup :=
    { service := Api.plainServer Api.oneTokenCredentials
      auth := TokenFamilies.sampleEnvironment
      accessToken := "access-1"
      refreshToken := TokenFamilies.firstJwt
      hexPrefix := fun _ => "00000000" }
  host := Api.oneTokenCredentials.host
  settings _ := ⟨true, "client", "secret"⟩
  tokenUrl _ _ := .document (.obj [("access_token", .str "ya29.token")])
  userinfoUrl _ _ := .document (.obj [("id", .str "1001"), ("email", .str "a@example.com"),
    ("email_verified", .bool true), ("name", .str "A")])
  emailsUrl _ := .document (.arr [])
  randomPassword := "cmFuZG9t"

def linkedUser : OAuthDatabase where
  platform :=
    { users := ⟨[⟨11, "a@example.com", "A", "hash", true, false, false, 0⟩], by decide⟩
      organizations := .empty
      members := .empty
      apiKeys := .empty
      workspace := ⟨.empty, .empty, .empty, .empty, .empty, .empty, .empty, .empty, .empty, .empty,
        .empty, .empty, .empty, .empty, .empty, .empty⟩
      community := ⟨.empty, .empty, .empty, .empty, .empty, .empty, .empty⟩
      partners := ⟨.empty, .empty, .empty, .empty⟩ }
  columns id := if id = 11 then ⟨some "1001", none, none, some "google", true⟩
    else ⟨none, none, none, none, false⟩
  refreshTokens := .empty

def sampleTokens : TokenResponse :=
  tokenPair TokenFamilies.sampleEnvironment "access-1" TokenFamilies.firstJwt

def loginWithState : List (Nat × OAuthAct) :=
  [(0, .authorize .google "c3RhdGU" 0 .delivered),
    (1, .checkState ⟨.google, "4/code", some "c3RhdGU"⟩ (secondsToMicros 5) .delivered),
    (1, .deleteState .delivered), (1, .signIn googleServer linkedUser)]

theorem bound_to_issued_state_sample :
    ConsumedIssued (Run.exec (World.move stateAct) opening loginWithState)
        ⟨.google, "4/code", some "c3RhdGU"⟩ (some ⟨"c3RhdGU", secondsToMicros 5, true⟩) ∧
      ConsumedOnce (Run.exec (World.move stateAct) opening loginWithState) := by
  obtain ⟨given, once⟩ := bound_to_issued_state loginWithState
  constructor
  · apply given 1
    · exact ⟨sampleTokens, false, by decide +kernel⟩
    · decide
  · apply once
    refine ⟨?_, ?_, trivial, trivial, trivial⟩
    · exact fun issue member => absurd member List.not_mem_nil
    · rintro stateToken - - j other ⟨state, consumed, -⟩
      have idle : (World.move stateAct opening
          (0, .authorize .google "c3RhdGU" 0 .delivered)).locals j = .idle := by
        by_cases first : j = 0
        · subst first
          rfl
        · exact World.move_locals_of_ne opening _ first
      rw [idle] at consumed
      cases consumed

/-- The same without a state. -/
def loginWithoutState : List (Nat × OAuthAct) :=
  [(1, .checkState ⟨.google, "4/code", none⟩ (secondsToMicros 5) .delivered),
    (1, .signIn googleServer linkedUser)]

/-- A callback without a state logs in. -/
theorem login_without_state :
    ¬ BoundToState (Run.exec (World.move stateAct) opening loginWithoutState) := by
  intro bound
  have login : LoggedIn (Run.exec (World.move stateAct) opening loginWithoutState) 1
      ⟨.google, "4/code", none⟩ none := ⟨sampleTokens, false, by decide +kernel⟩
  obtain ⟨state, missing, _⟩ := bound.bound 1 _ none login
  cases missing

end Reliastra.Guarantees.OAuthLogins
