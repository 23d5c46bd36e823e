import Reliastra.Source.Main.Readiness

/-!
# Readiness is never stale

However health requests interleave, with each other and with services that come and go,
every answer is what the database and Redis gave at two moments after the beginning of a
health request that is at most five seconds older. So an answer of 200 means that both
were up within that time, and one of 503 that one of them was down within it.
-/

namespace Reliastra.Guarantees.ReadinessProbes

open Reliastra.Library Source Source.Main

theorem statusCode_eq (atDatabase atRedis : Services) :
    (runHealthChecks atDatabase atRedis).statusCode =
      if atDatabase.databaseError = none ∧ atRedis.redisAnswers = true then 200 else 503 := by
  unfold runHealthChecks
  dsimp only
  by_cases healthy : atDatabase.databaseError = none ∧ atRedis.redisAnswers = true
  · simp only [if_pos healthy, if_true]
  · simp only [if_neg healthy]
    decide

/-- The requests of a process. -/
abbrev HealthRequests (ι : Type) := TimedCache.Requests Unit Services Services HealthAnswer ι

theorem made_health {ι : Type} [DecidableEq ι] {start : HealthRequests ι}
    {run : List (ι × TimedCache.Act Unit Services)} {stamp : Int} {answer : HealthAnswer}
    (made : TimedCache.Made readyRecipe start run () stamp answer) :
    ∃ atDatabase atRedis, answer = runHealthChecks atDatabase atRedis ∧
      TimedCache.Began readyRecipe start run () stamp [id, id] [atDatabase, atRedis] := by
  obtain ⟨results, rfl, began⟩ := made
  obtain ⟨atDatabase, atRedis, rfl⟩ := List.length_eq_two.mp began.length
  exact ⟨atDatabase, atRedis, rfl, began⟩

/-- Every answer is made of the services as they were, first the database and then Redis,
after a health request began that is at most five seconds older; it is 200 exactly if both
answered then. -/
theorem readiness_recent {ι : Type} [DecidableEq ι] (services : Services)
    (run : List (ι × TimedCache.Act Unit Services)) (i : ι) (now : Int) (answer : HealthAnswer)
    (answered : (TimedCache.after readyRecipe (TimedCache.starting services) run).locals i =
      .answered () now answer) :
    ∃ stamp atDatabase atRedis, now - stamp ≤ readyCacheTtl ∧
      TimedCache.Began readyRecipe (TimedCache.starting services) run () stamp [id, id]
        [atDatabase, atRedis] ∧
      answer = runHealthChecks atDatabase atRedis ∧
      (answer.statusCode = 200 ↔
        atDatabase.databaseError = none ∧ atRedis.redisAnswers = true) ∧
      (answer.statusCode = 503 ↔
        atDatabase.databaseError ≠ none ∨ atRedis.redisAnswers = false) := by
  obtain ⟨stamp, young, made⟩ := TimedCache.answered_made services run answered
  obtain ⟨atDatabase, atRedis, rfl, began⟩ := made_health made
  have recent : now - stamp ≤ readyCacheTtl := by
    have notOld : (!decide (readyCacheTtl < now - stamp)) = true := young
    simpa using notOld
  refine ⟨stamp, atDatabase, atRedis, recent, began, rfl, ?_, ?_⟩
  · rw [statusCode_eq]
    split <;> simp [*]
  · rw [statusCode_eq]
    by_cases database : atDatabase.databaseError = none
    · by_cases redis : atRedis.redisAnswers = true <;> simp [database, redis]
    · simp [database]

/-! ## Two requests -/

def bothUp : Services := ⟨none, true⟩

def databaseDown : Services := ⟨some "Connect call failed ('db', 5432)", true⟩

/-- The second request gets what the first has found, although the database is down by
then. -/
def twoRequests : List (Nat × TimedCache.Act Unit Services) :=
  [(0, .ask () 0), (0, .observe), (0, .observe), (0, .store), (2, .outside databaseDown),
    (1, .ask () 4000000)]

theorem second_request_recent :
    ∃ stamp atDatabase atRedis, 4000000 - stamp ≤ readyCacheTtl ∧
      TimedCache.Began readyRecipe (TimedCache.starting bothUp) twoRequests () stamp [id, id]
        [atDatabase, atRedis] ∧
      runHealthChecks bothUp bothUp = runHealthChecks atDatabase atRedis ∧
      ((runHealthChecks bothUp bothUp).statusCode = 200 ↔
        atDatabase.databaseError = none ∧ atRedis.redisAnswers = true) ∧
      ((runHealthChecks bothUp bothUp).statusCode = 503 ↔
        atDatabase.databaseError ≠ none ∨ atRedis.redisAnswers = false) :=
  readiness_recent bothUp twoRequests 1 4000000 (runHealthChecks bothUp bothUp) rfl

end Reliastra.Guarantees.ReadinessProbes
