import Mathlib.Algebra.Order.Group.Int
import Reliastra.Source.Main.Idempotency

/-!
# At most one execution under an idempotency key

The lock keeps a second request out only from its `SET NX` to its release, and
the cached response only from its write on. Between the two nothing does, a
request that read the cache before the write does not read it again, a release
deletes the lock whoever holds it by then, and an exception after the handler
has run leads to the fallback, which calls the handler once more. Where none of
these happens, the handler is executed at most once.
-/

namespace Reliastra.Guarantees.SingleFlight

open Reliastra.Library Source Source.Main

/-- The requests under one key, and the Redis server between them. -/
abbrev Requests (ι : Type) := World CacheServer ι DispatchPhase

def lockSeconds : Int := 60

/-! ## Executing once -/

def Running : DispatchPhase → Prop
  | .executing _ | .rerunning _ => True
  | _ => False

/-- The handler was started within the lock's lifetime and has not finished, or
its response waits to be cached. -/
def InFlight (now : Instant) : DispatchPhase → Prop
  | .executing since | .returned since _ | .rerunning since =>
    now < since + secondsToMicros lockSeconds
  | .released _ outcome => outcome.cacheable? ≠ none
  | _ => False

instance : DecidablePred Running
  | .executing _ | .rerunning _ => inferInstanceAs (Decidable True)
  | .arrived | .missed | .returned _ _ | .released _ _ | .fallback _ | .done _ | .gone =>
    inferInstanceAs (Decidable False)

instance (now : Instant) : DecidablePred (InFlight now)
  | .executing since | .returned since _ | .rerunning since =>
    inferInstanceAs (Decidable (now < since + secondsToMicros lockSeconds))
  | .released _ outcome => inferInstanceAs (Decidable (outcome.cacheable? ≠ none))
  | .arrived | .missed | .fallback _ | .done _ | .gone => inferInstanceAs (Decidable False)

def ResponseStored (key : String) (server : CacheServer) : Prop :=
  ∃ cached, server.redis.live key server.clock = some (.response cached)

variable {ι : Type}

def StartsHandler (key : String) (w : Requests ι) (m : ι × DispatchAction) : Prop :=
  ¬ Running (w.locals m.1) ∧ Running (dispatch key w.shared (w.locals m.1) m.2).2

/-- The step starts the handler although another execution is in flight, a
response is stored, or this request has run it already. -/
def ExecutesAgain (key : String) (w : Requests ι) (m : ι × DispatchAction) : Prop :=
  StartsHandler key w m ∧
    ((∃ j, j ≠ m.1 ∧ InFlight w.shared.clock (w.locals j)) ∨ ResponseStored key w.shared ∨
      w.locals m.1 = .fallback true)

/-- The step does not leave the protocol:

* a `SET NX` that finds the lock free comes neither after a response was stored
  nor between another request's release and the write of its response;
* a release comes within the lifetime of the request's own lock, or when no lock
  is left;
* the handler does not raise, and a body that is to be cached can be read. -/
def Orderly (key : String) (w : Requests ι) (m : ι × DispatchAction) : Prop :=
  match w.locals m.1, m.2 with
  | .missed, .acquire _ => w.shared.redis.live (lockKey key) w.shared.clock = none →
    ¬ ResponseStored key w.shared ∧
      ∀ j since outcome, w.locals j = .released since outcome → outcome.cacheable? = none
  | .returned since _, .release _ => w.shared.clock < since + secondsToMicros lockSeconds ∨
    w.shared.redis.live (lockKey key) w.shared.clock = none
  | .executing _, .handle outcome => ¬ outcome.Raises
  | _, _ => True

/-- No request has begun, and what is stored under the key are responses. -/
structure Idle (key : String) (w : Requests ι) : Prop where
  arrived : ∀ i, w.locals i = .arrived
  responses : ∀ entry ∈ w.shared.redis, entry.key = key → ∃ cached, entry.value = .response cached

/-! ## The invariant -/

/-- The lock a request took is there as long as it was asked to be. -/
def Locked (key : String) (server : CacheServer) (since : Instant) : Prop :=
  since ≤ server.clock ∧ (server.clock < since + secondsToMicros lockSeconds →
    ∃ entry ∈ server.redis, entry.key = lockKey key ∧
      since + secondsToMicros lockSeconds ≤ entry.expiresAt)

def Own (key : String) (_ : ι) (server : CacheServer) : DispatchPhase → Prop
  | .executing since => Locked key server since
  | .returned since outcome => Locked key server since ∧ ¬ outcome.Raises
  | .released _ outcome => ¬ outcome.Raises
  | .fallback _ | .rerunning _ => False
  | _ => True

def lockedSince : DispatchPhase → Option Instant
  | .executing since | .returned since _ => some since
  | _ => none

/-- Two requests do not hold the lock within one lifetime. -/
def Apart (first second : DispatchPhase) : Prop :=
  ∀ since other, lockedSince first = some since → lockedSince second = some other →
    since + secondsToMicros lockSeconds ≤ other ∨ other + secondsToMicros lockSeconds ≤ since

def OnlyResponses (key : String) (server : CacheServer) : Prop :=
  ∀ entry ∈ server.redis, entry.key = key → ∃ cached, entry.value = .response cached

def Invariant (key : String) : Requests ι → Prop :=
  World.Holds (OnlyResponses key) (Own key) Apart

private theorem apart_symm (first second : DispatchPhase) (apart : Apart first second) :
    Apart second first := by
  intro since other here there
  exact (apart other since there here).symm

private theorem apart_of_none {first : DispatchPhase} (second : DispatchPhase)
    (unlocked : lockedSince first = none) : Apart first second := by
  intro since other here
  rw [unlocked] at here
  cases here

private theorem lockKey_ne (key : String) : lockKey key ≠ key := by
  intro same
  have lengths := congrArg String.length same
  simp [lockKey] at lengths

/-- A request within its lifetime finds its lock alive. -/
private theorem not_free_of_locked {key : String} {server : CacheServer} {since : Instant}
    (locked : Locked key server since)
    (within : server.clock < since + secondsToMicros lockSeconds) :
    server.redis.live (lockKey key) server.clock ≠ none := by
  obtain ⟨entry, member, here, late⟩ := locked.2 within
  intro free
  have alive := (Redis.live_isSome_iff server.redis (lockKey key) server.clock).mpr
    ⟨entry, member, here, lt_of_lt_of_le within late⟩
  rw [free] at alive
  cases alive

private theorem locked_of_lockedSince {i : ι} {key : String} {server : CacheServer}
    {phase : DispatchPhase} {since : Instant} (own : Own key i server phase)
    (holds : lockedSince phase = some since) : Locked key server since := by
  cases phase with
  | executing => cases holds; exact own
  | returned => cases holds; exact own.1
  | _ => cases holds

/-- What the others need of a step: the locks within their lifetimes stay. -/
private theorem own_undisturbed {j : ι} {key : String} {server after : CacheServer}
    {phase : DispatchPhase} (own : Own key j server phase)
    (locks : ∀ since, lockedSince phase = some since → Locked key server since →
      Locked key after since) : Own key j after phase := by
  cases phase with
  | executing since => exact locks since rfl own
  | returned since outcome => exact ⟨locks since rfl own.1, own.2⟩
  | _ => exact own

private theorem locked_elapse {key : String} {server : CacheServer} {since : Instant}
    (micros : Nat) (locked : Locked key server since) :
    Locked key { server with clock := server.clock + micros } since := by
  have later : server.clock ≤ server.clock + micros :=
    Int.le_add_of_nonneg_right (Int.natCast_nonneg micros)
  exact ⟨locked.1.trans later, fun within => locked.2 (lt_of_le_of_lt later within)⟩

private theorem locked_store {key : String} {server : CacheServer} {since : Instant}
    (cached : CachedResponse) (locked : Locked key server since) :
    Locked key
      { server with redis := server.redis.set key (.response cached) 86400 server.clock }
      since := by
  refine ⟨locked.1, fun within => ?_⟩
  obtain ⟨entry, member, here, late⟩ := locked.2 within
  have elsewhere : entry.key ≠ key := by
    rw [here]
    exact lockKey_ne key
  exact ⟨entry, Redis.mem_set.mpr (.inr ⟨member, elsewhere⟩), here, late⟩

/-- Where the lock is found free, every lifetime is over. -/
private theorem locked_of_free {key : String} {server : CacheServer} {since : Instant}
    (redis : Redis Stored) (free : server.redis.live (lockKey key) server.clock = none)
    (locked : Locked key server since) : Locked key { server with redis := redis } since :=
  ⟨locked.1, fun within => absurd free (not_free_of_locked locked within)⟩

private theorem onlyResponses_lock {key : String} {server : CacheServer} (seconds : Int)
    (only : OnlyResponses key server) :
    OnlyResponses key
      { server with redis := server.redis.set (lockKey key) .held seconds server.clock } := by
  intro entry member here
  rcases Redis.mem_set.mp member with new | ⟨old, -⟩
  · rw [new] at here
    exact absurd here (lockKey_ne key)
  · exact only entry old here

/-! ## One step -/

section Step
variable {key : String}

/-- A step that leaves the server's locks and the party's own lock as they are. -/
private theorem keeps_quiet {w : Requests ι} {i : ι} {phase next : DispatchPhase}
    {server : CacheServer} (inv : Invariant key w) (here : w.locals i = phase)
    (only : OnlyResponses key server)
    (locks : ∀ since, Locked key w.shared since → Locked key server since)
    (own : Own key i server next)
    (same : lockedSince next = none ∨ lockedSince next = lockedSince phase) :
    World.Keeps (OnlyResponses key) (Own key) Apart w i (server, next) := by
  refine ⟨only, own, fun j _ => own_undisturbed (inv.own j) (fun since _ => locks since), ?_⟩
  intro j other
  rcases same with unlocked | same
  · exact apart_of_none _ unlocked
  · have apart := inv.pair i j other.symm
    rw [here] at apart
    intro since held mine
    rw [same] at mine
    exact apart since held mine

/-- The lock is taken: every earlier lifetime is over. -/
private theorem keeps_acquire {w : Requests ι} {i : ι} (inv : Invariant key w)
    (free : w.shared.redis.live (lockKey key) w.shared.clock = none) :
    World.Keeps (OnlyResponses key) (Own key) Apart w i
      ({ w.shared with redis := w.shared.redis.set (lockKey key) .held 60 w.shared.clock },
        .executing w.shared.clock) := by
  refine ⟨onlyResponses_lock 60 inv.store, ?_, ?_, ?_⟩
  · exact ⟨le_refl _, fun _ => ⟨_, Redis.mem_set.mpr (.inl rfl), rfl, le_refl _⟩⟩
  · intro j _
    exact own_undisturbed (inv.own j) (fun since _ locked => locked_of_free _ free locked)
  · intro j _ since other mine held
    cases mine
    have locked := locked_of_lockedSince (inv.own j) held
    refine .inr (not_lt.mp fun within => ?_)
    exact not_free_of_locked locked within free

/-- The lock is deleted by its holder, or when none is left. -/
private theorem keeps_release {w : Requests ι} {i : ι} {since : Instant}
    {outcome : HandlerOutcome} (inv : Invariant key w) (here : w.locals i = .returned since outcome)
    (inTime : w.shared.clock < since + secondsToMicros lockSeconds ∨
      w.shared.redis.live (lockKey key) w.shared.clock = none) :
    World.Keeps (OnlyResponses key) (Own key) Apart w i
      ({ w.shared with redis := w.shared.redis.delete (lockKey key) },
        .released since outcome) := by
  have mine := inv.own i
  rw [here] at mine
  refine ⟨?_, mine.2, ?_, fun j _ => apart_of_none _ rfl⟩
  · intro entry member equal
    exact inv.store entry (Redis.mem_delete.mp member).1 equal
  · intro j different
    refine own_undisturbed (inv.own j) (fun other held locked => ⟨locked.1, fun within => ?_⟩)
    rcases inTime with early | free
    · have apart := inv.pair i j different.symm
      rw [here] at apart
      have begun := mine.1.1
      have otherBegun := locked.1
      have within : w.shared.clock < other + secondsToMicros lockSeconds := within
      rcases apart since other rfl held with before | after
      · exact absurd (lt_of_lt_of_le early before) (not_lt.mpr otherBegun)
      · exact absurd (lt_of_lt_of_le within after) (not_lt.mpr begun)
    · exact absurd free (not_free_of_locked locked within)

theorem invariant_step (w : Requests ι) (i : ι) (action : DispatchAction) (inv : Invariant key w)
    (orderly : Orderly key w (i, action)) :
    World.Keeps (OnlyResponses key) (Own key) Apart w i
      (dispatch key w.shared (w.locals i) action) := by
  have effect := dispatch_effect key w.shared (w.locals i) action
  have mine := inv.own i
  have only := inv.store
  have idle : ∀ since, Locked key w.shared since → Locked key w.shared since := fun _ => id
  unfold Orderly at orderly
  dsimp only at orderly
  generalize dispatch key w.shared (w.locals i) action = after at effect ⊢
  generalize here : w.locals i = phase at effect mine orderly
  cases effect with
  | idle => exact keeps_quiet inv here only idle mine (.inr rfl)
  | elapse _ micros =>
    refine keeps_quiet inv here only (fun _ => locked_elapse micros) ?_ (.inr rfl)
    exact own_undisturbed mine (fun since _ => locked_elapse micros)
  | replay | miss | refuse | pass =>
    exact keeps_quiet inv here only idle trivial (.inl rfl)
  | corrupt _ stored =>
    obtain ⟨entry, member, same, held⟩ := Redis.mem_of_live stored
    obtain ⟨cached, response⟩ := only entry member same
    rw [held] at response
    cases response
  | acquire _ free => exact keeps_acquire inv free
  | orphan free =>
    exact keeps_quiet inv here (onlyResponses_lock 60 only) (fun _ => locked_of_free _ free)
      trivial (.inl rfl)
  | handle since outcome =>
    exact keeps_quiet inv here only idle ⟨mine, orderly⟩ (.inr rfl)
  | release since outcome call => exact keeps_release inv here orderly
  | unreleased since outcome call => exact keeps_quiet inv here only idle mine.2 (.inl rfl)
  | fail since outcome call raises => exact absurd raises mine
  | store since outcome call cached cacheable =>
    refine keeps_quiet inv here ?_ (fun _ => locked_store cached) trivial (.inl rfl)
    intro entry member same
    rcases Redis.mem_set.mp member with new | ⟨-, elsewhere⟩
    · exact ⟨cached, by rw [new]⟩
    · exact absurd same elsewhere
  | callAgain => exact mine.elim
  | finish => exact mine.elim
  | crash => exact keeps_quiet inv here only idle trivial (.inl rfl)

/-- A step within the protocol never starts a second execution. -/
theorem not_executesAgain (w : Requests ι) (i : ι) (action : DispatchAction)
    (inv : Invariant key w) (orderly : Orderly key w (i, action)) :
    ¬ ExecutesAgain key w (i, action) := by
  intro ⟨⟨before, starts⟩, again⟩
  have effect := dispatch_effect key w.shared (w.locals i) action
  have mine := inv.own i
  unfold Orderly at orderly
  dsimp only at orderly starts before again
  generalize dispatch key w.shared (w.locals i) action = after at effect starts
  generalize w.locals i = phase at effect mine orderly before again
  cases effect with
  | idle | elapse => exact before starts
  | acquire call free =>
    obtain ⟨unstored, written⟩ := orderly free
    rcases again with ⟨j, different, flying⟩ | stored | fell
    · have own := inv.own j
      cases there : w.locals j with
      | executing since =>
        rw [there] at own flying
        exact not_free_of_locked own flying free
      | returned since outcome =>
        rw [there] at own flying
        exact not_free_of_locked own.1 flying free
      | released since outcome =>
        rw [there] at flying
        exact flying (written j since outcome there)
      | rerunning since =>
        rw [there] at own
        exact own
      | _ =>
        rw [there] at flying
        exact flying
    · exact unstored stored
    · cases fell
  | callAgain => exact mine
  | _ => exact starts

end Step

/-! ## Whole interleavings -/

variable [DecidableEq ι]

private theorem invariant_move {key : String} (w : Requests ι) (m : ι × DispatchAction)
    (inv : Invariant key w) (orderly : Orderly key w m) :
    Invariant key (w.move (fun _ => dispatch key) m) :=
  World.Holds.move apart_symm inv (invariant_step w m.1 m.2 inv orderly)

def sampleKey : String := cacheKey "user:00000000-0000-0000-0000-000000000001" "create-org"

def sampleStart : Requests (Fin 2) := ⟨⟨[], 0⟩, fun _ => .arrived⟩

def created : HandlerOutcome := .response 201 (some "created") (some "text/plain") []

/-- The second request waits until the first is done, and is answered from the
cache. -/
def orderlyRun : List (Fin 2 × DispatchAction) :=
  [(0, .readCache .delivered), (0, .acquire .delivered), (0, .handle created),
    (0, .release .delivered), (0, .answer .delivered), (1, .readCache .delivered)]

/-- Both requests read the cache, and the first has released its lock but not
written its response. -/
def handedOver : List (Fin 2 × DispatchAction) :=
  [(0, .readCache .delivered), (1, .readCache .delivered), (0, .acquire .delivered),
    (0, .handle created), (0, .release .delivered)]

/-- A single request whose response is not UTF-8. -/
def undecodable : List (Fin 2 × DispatchAction) :=
  [(0, .readCache .delivered), (0, .acquire .delivered),
    (0, .handle (.response 200 none (some "application/octet-stream") [])),
    (0, .release .delivered), (0, .answer .delivered)]

end Reliastra.Guarantees.SingleFlight
