import Mathlib.Algebra.Order.Field.Rat
import Reliastra.Library.Run
import Reliastra.Source.Core.Redis

/-!
# The sliding-window rate limiter

`SlidingWindowRateLimiter` of `app/core/rate_limit.py`, over the sorted sets of a
Redis server. Times are those of `time.time()`; the difference with a whole number
of seconds is exact for them. The members and the instants of the calls are inputs,
and so is whether Redis answers: without an answer a request is let through, whether
or not the pipeline was executed.
-/

namespace Reliastra.Source

open Reliastra.Library

/-! ## Sorted sets -/

structure ScoredMember where
  member : String
  score : ℚ
  deriving DecidableEq

structure SortedSet where
  entries : List ScoredMember
  expiresAt : ℚ
  deriving DecidableEq

/-- The sorted sets of the server, by key. -/
abbrev SortedSets := String → Option SortedSet

namespace SortedSets

def live (sets : SortedSets) (key : String) (now : ℚ) : List ScoredMember :=
  match sets key with
  | some set => if now < set.expiresAt then set.entries else []
  | none => []

end SortedSets

/-- Both ends are included. -/
def zremrangebyscore (entries : List ScoredMember) (low high : ℚ) : List ScoredMember :=
  entries.filter (fun entry => ¬ (low ≤ entry.score ∧ entry.score ≤ high))

def zcard (entries : List ScoredMember) : Int := entries.length

/-- A member that is there already gets the new score. -/
def zadd (entries : List ScoredMember) (member : String) (score : ℚ) : List ScoredMember :=
  entries.filter (fun entry => entry.member ≠ member) ++ [⟨member, score⟩]

/-- `EXPIRE` with a time that is not positive deletes the key. -/
def expire (entries : List ScoredMember) (seconds : Int) (now : ℚ) : Option SortedSet :=
  if seconds ≤ 0 then none else some ⟨entries, now + seconds⟩

/-! ## The limiter -/

structure SlidingWindowRateLimiter where
  limit : Int
  windowSeconds : Int
  keyPrefix : String

/-- One call of `check`, with the member it adds and what happens to its pipeline. -/
structure RateCall where
  identifier : String
  now : ℚ
  member : String
  outcome : CallOutcome
  nonneg : 0 ≤ now
  deriving DecidableEq

namespace SlidingWindowRateLimiter

variable (limiter : SlidingWindowRateLimiter)

def key (identifier : String) : String := limiter.keyPrefix ++ ":" ++ identifier

/-- What the pipeline counts. -/
def kept (sets : SortedSets) (call : RateCall) : List ScoredMember :=
  zremrangebyscore (sets.live (limiter.key call.identifier) call.now) 0
    (call.now - limiter.windowSeconds)

/-- The commands of the pipeline, executed as one transaction. -/
def pipeline (sets : SortedSets) (call : RateCall) : SortedSets × Int :=
  (Function.update sets (limiter.key call.identifier)
      (expire (zadd (limiter.kept sets call) call.member call.now) (limiter.windowSeconds * 2)
        call.now),
    zcard (limiter.kept sets call))

def exceeded : Failure :=
  .app (rateLimitExceededException ("Rate limit exceeded (" ++ toString limiter.limit ++ " req / " ++
    toString limiter.windowSeconds ++ "s)"))

/-- `check`, with the sets it leaves. -/
def check (sets : SortedSets) (call : RateCall) : SortedSets × Except Failure Bool :=
  let results := limiter.pipeline sets call
  match call.outcome with
  | .requestLost => (sets, .ok true)
  | .answerLost => (results.1, .ok true)
  | .delivered =>
    (results.1, if results.2 ≥ limiter.limit then .error limiter.exceeded else .ok true)

def record (sets : SortedSets) (call : RateCall) : SortedSets := (limiter.check sets call).1

/-- The answer to a call made after others, from a server that held nothing. -/
def answer (before : List RateCall) (call : RateCall) : Except Failure Bool :=
  (limiter.check (Run.exec limiter.record (fun _ => none) before) call).2

def Allowed (before : List RateCall) (call : RateCall) : Prop := limiter.answer before call = .ok true

def Refused (before : List RateCall) (call : RateCall) : Prop :=
  limiter.answer before call = .error limiter.exceeded

instance (before : List RateCall) (call : RateCall) : Decidable (limiter.Allowed before call) :=
  inferInstanceAs (Decidable (_ = _))

/-! ## What a call leaves -/

theorem check_of_requestLost {sets : SortedSets} {call : RateCall}
    (lost : call.outcome = .requestLost) : limiter.check sets call = (sets, .ok true) := by
  simp only [check, lost]

/-- A pipeline that was executed leaves its sets, whatever becomes of the answer. -/
theorem record_of_executed {sets : SortedSets} {call : RateCall}
    (executed : call.outcome ≠ .requestLost) :
    limiter.record sets call = (limiter.pipeline sets call).1 := by
  unfold record check
  cases outcome : call.outcome with
  | requestLost => exact (executed outcome).elim
  | answerLost => rfl
  | delivered => rfl

theorem check_snd_of_delivered {sets : SortedSets} {call : RateCall}
    (delivered : call.outcome = .delivered) :
    (limiter.check sets call).2 =
      if zcard (limiter.kept sets call) ≥ limiter.limit then .error limiter.exceeded
      else .ok true := by
  simp only [check, delivered]
  rfl

/-- A call touches the set of its own identifier only. -/
theorem record_frame {sets : SortedSets} {call : RateCall} {key : String}
    (other : key ≠ limiter.key call.identifier) : limiter.record sets call key = sets key := by
  by_cases lost : call.outcome = .requestLost
  · rw [record, check_of_requestLost limiter lost]
  · rw [record_of_executed limiter lost]
    exact Function.update_of_ne other _ _

/-- The answer and the set it leaves depend on the set of the identifier only. -/
theorem check_congr {sets other : SortedSets} {call : RateCall}
    (same : sets (limiter.key call.identifier) = other (limiter.key call.identifier)) :
    (limiter.check sets call).2 = (limiter.check other call).2 ∧
      limiter.record sets call (limiter.key call.identifier) =
        limiter.record other call (limiter.key call.identifier) := by
  have sameKept : limiter.kept sets call = limiter.kept other call := by
    simp only [kept, SortedSets.live, same]
  constructor
  · cases outcome : call.outcome with
    | requestLost => simp only [check, outcome]
    | answerLost => simp only [check, outcome]
    | delivered =>
      rw [check_snd_of_delivered limiter outcome, check_snd_of_delivered limiter outcome, sameKept]
  · by_cases lost : call.outcome = .requestLost
    · rw [record, record, check_of_requestLost limiter lost, check_of_requestLost limiter lost]
      exact same
    · rw [record_of_executed limiter lost, record_of_executed limiter lost]
      simp only [pipeline, Function.update_self, sameKept]

theorem key_injective {identifier other : String}
    (same : limiter.key identifier = limiter.key other) : identifier = other := by
  have lists := congrArg String.toList same
  simp only [key, String.toList_append] at lists
  exact String.toList_inj.mp (List.append_cancel_left lists)

end SlidingWindowRateLimiter

end Reliastra.Source
