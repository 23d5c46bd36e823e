import Mathlib.Data.List.Infix
import Reliastra.Library.TimedCache
import Reliastra.Source.Core.Json

/-!
# The health of the process

Source: `_run_health_checks` and `_ready_response` of `app/main.py`, behind
`/health` and `/health/ready`. The cache is one value of the process, so the key of the
cached values is trivial. Times are those of `time.monotonic()`.
-/

namespace Reliastra.Source.Main

open Reliastra.Library

/-- The services at one moment. -/
structure Services where
  /-- The text of what `SELECT 1` raises. -/
  databaseError : Option String
  /-- `safe_redis_ping()`. -/
  redisAnswers : Bool
  deriving DecidableEq, Repr

def databaseCheck (raised : Option String) : String :=
  match raised with
  | none => "ok"
  | some msg =>
    "unavailable: " ++
      (if "Connect call failed".toList <:+: msg.toList then "connection refused" else msg)

def redisCheck (answers : Bool) : String :=
  if answers then "ok" else "unavailable: connection refused"

structure HealthAnswer where
  content : Json
  statusCode : Nat

/-- `_run_health_checks`, from the database at one moment and Redis at another. -/
def runHealthChecks (atDatabase atRedis : Services) : HealthAnswer :=
  let healthy := atDatabase.databaseError = none ∧ atRedis.redisAnswers = true
  let overallStatus := if healthy then "ok" else "degraded"
  { content := .obj
      [("status", .str overallStatus), ("service", .str "reliastra-backend"),
        ("version", .str "0.1.0"),
        ("checks", .obj [("database", .str (databaseCheck atDatabase.databaseError)),
          ("redis", .str (redisCheck atRedis.redisAnswers))])]
    statusCode := if overallStatus = "ok" then 200 else 503 }

/-- `_READY_CACHE_TTL_SECONDS`. -/
def readyCacheTtl : Int := secondsToMicros 5

/-- `_ready_response` with its cache: the checks are made one after the other, and then
stored together with the time the request began. -/
def readyRecipe : TimedCache.Recipe Unit Services Services HealthAnswer where
  readings _ := [id, id]
  assemble _
    | [atDatabase, atRedis] => runHealthChecks atDatabase atRedis
    | _ => ⟨.null, 503⟩
  fresh age := !decide (readyCacheTtl < age)
  fresh_zero := rfl

end Reliastra.Source.Main
