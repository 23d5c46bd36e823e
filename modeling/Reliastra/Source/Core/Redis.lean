import Reliastra.Source.Core.Basics

/-!
# Redis behind the `safe_redis_*` helpers

Source: `app/infrastructure/redis_client.py`. A key lives until its expiry
instant. A call can fail before or after the server applied it; the helpers
turn every failure into `None` or `False`, so a lost `SET NX` reads as a key
that was there already.
-/

namespace Reliastra.Source

/-- A key of the server. The value is what its user stores there. -/
structure RedisEntry (β : Type) where
  key : String
  value : β
  expiresAt : Instant
  deriving DecidableEq, Repr

abbrev Redis (β : Type) := List (RedisEntry β)

/-- What happens to one call. -/
inductive CallOutcome where
  | delivered
  /-- The request never reached the server. -/
  | requestLost
  /-- The server applied the command and the answer was lost. -/
  | answerLost
  deriving DecidableEq, Repr

namespace Redis

variable {β : Type}

def live (store : Redis β) (key : String) (now : Instant) : Option β :=
  (store.find? (fun entry => entry.key = key ∧ now < entry.expiresAt)).map (·.value)

def set (store : Redis β) (key : String) (value : β) (seconds : Int) (now : Instant) : Redis β :=
  ⟨key, value, now + secondsToMicros seconds⟩ :: store.filter (fun entry => entry.key ≠ key)

def delete (store : Redis β) (key : String) : Redis β := store.filter (fun entry => entry.key ≠ key)

/-- `safe_redis_get`. -/
def safeGet (store : Redis β) (key : String) (now : Instant) : CallOutcome → Option β
  | .delivered => store.live key now
  | _ => none

/-- `safe_redis_setex`, with what it leaves in the store. -/
def safeSetex (store : Redis β) (key : String) (seconds : Int) (value : β) (now : Instant) :
    CallOutcome → Redis β × Bool
  | .delivered => (store.set key value seconds now, true)
  | .requestLost => (store, false)
  | .answerLost => (store.set key value seconds now, false)

/-- `safe_redis_set` with `ex`, with what it leaves in the store. -/
def safeSet (store : Redis β) (key : String) (value : β) (seconds : Int) (now : Instant)
    (outcome : CallOutcome) : Redis β × Bool := store.safeSetex key seconds value now outcome

/-- `safe_redis_exists`. -/
def safeExists (store : Redis β) (key : String) (now : Instant) : CallOutcome → Bool
  | .delivered => (store.live key now).isSome
  | _ => false

/-- `safe_redis_set_nx`, with what it leaves in the store. -/
def safeSetNx (store : Redis β) (key : String) (value : β) (seconds : Int) (now : Instant) :
    CallOutcome → Redis β × Bool
  | .requestLost => (store, false)
  | outcome =>
    if (store.live key now).isSome then (store, false)
    else (store.set key value seconds now, outcome = .delivered)

/-- `safe_redis_delete`, with what it leaves in the store. -/
def safeDelete (store : Redis β) (key : String) : CallOutcome → Redis β × Bool
  | .delivered => (store.delete key, true)
  | .requestLost => (store, false)
  | .answerLost => (store.delete key, false)

/-! ## Entries that are alive -/

theorem live_isSome_iff (store : Redis β) (key : String) (now : Instant) :
    (store.live key now).isSome = true ↔
      ∃ entry ∈ store, entry.key = key ∧ now < entry.expiresAt := by
  simp [live, List.find?_isSome]

theorem mem_of_live {store : Redis β} {key : String} {now : Instant} {value : β}
    (alive : store.live key now = some value) :
    ∃ entry ∈ store, entry.key = key ∧ entry.value = value := by
  obtain ⟨entry, found, here⟩ := Option.map_eq_some_iff.mp alive
  have holds := List.find?_some found
  rw [decide_eq_true_iff] at holds
  exact ⟨entry, List.mem_of_find?_eq_some found, holds.1, here⟩

theorem mem_of_safeExists {store : Redis β} {key : String} {now : Instant} {outcome : CallOutcome}
    (found : store.safeExists key now outcome = true) :
    ∃ entry ∈ store, entry.key = key ∧ now < entry.expiresAt := by
  cases outcome with
  | delivered => exact (live_isSome_iff store key now).mp found
  | requestLost => cases found
  | answerLost => cases found

theorem mem_set {store : Redis β} {key : String} {value : β} {seconds : Int} {now : Instant}
    {entry : RedisEntry β} :
    entry ∈ store.set key value seconds now ↔
      entry = ⟨key, value, now + secondsToMicros seconds⟩ ∨ entry ∈ store ∧ entry.key ≠ key := by
  simp [set]

theorem mem_delete {store : Redis β} {key : String} {entry : RedisEntry β} :
    entry ∈ store.delete key ↔ entry ∈ store ∧ entry.key ≠ key := by
  simp [delete]

theorem mem_of_mem_safeDelete {store : Redis β} {key : String} {outcome : CallOutcome}
    {entry : RedisEntry β} (kept : entry ∈ (store.safeDelete key outcome).1) : entry ∈ store := by
  cases outcome with
  | requestLost => exact kept
  | delivered => exact (mem_delete.mp kept).1
  | answerLost => exact (mem_delete.mp kept).1

end Redis

end Reliastra.Source
