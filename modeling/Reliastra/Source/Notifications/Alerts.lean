import Reliastra.Source.Core.Http
import Reliastra.Source.Core.Redis

/-!
# Alerts

Source: `_alert_fingerprint`, `_is_duplicate_alert` and `dispatch_alert` of
`app/modules/notifications/service.py`. What a channel does with an alert is an
input; it may raise.
-/

namespace Reliastra.Source.Notifications

structure AlertPayload where
  orgId : Uuid
  incidentId : Option Uuid
  severity : String
  title : String
  body : String
  metadata : Json

structure AlertConfig where
  id : Uuid
  orgId : Uuid
  channelType : String
  config : Json
  isActive : Bool

/-- The functions a fingerprint is made with. -/
structure AlertEnvironment where
  host : Runtime
  uuidText : Uuid → String
  sha256Hex : String → String

/-- `alert.incident_id or alert.metadata.get('dependency_id', '')`. -/
def subjectOf (env : AlertEnvironment) (alert : AlertPayload) : String :=
  match alert.incidentId with
  | some incidentId => env.uuidText incidentId
  | none =>
    match alert.metadata with
    | .obj members => ((members.lookup "dependency_id").getD (.str "")).text env.host
    | _ => ""

def alertFingerprint (env : AlertEnvironment) (alert : AlertPayload) : String :=
  env.sha256Hex (env.uuidText alert.orgId ++ "|" ++ alert.severity ++ "|" ++ alert.title ++ "|" ++
    subjectOf env alert)

def dedupKey (env : AlertEnvironment) (alert : AlertPayload) : String :=
  "alert:dedup:" ++ alertFingerprint env alert

/-- `_is_duplicate_alert`, with what it leaves in Redis. -/
def isDuplicateAlert (env : AlertEnvironment) (alert : AlertPayload) (redis : Redis String)
    (now : Instant) (call : CallOutcome) : Redis String × Bool :=
  let (redis, claimed) := redis.safeSetNx (dedupKey env alert) "1" 60 now call
  (redis, !claimed)

/-- How `send_to_channel` ends. -/
inductive SendOutcome where
  | answered (success : Bool)
  | raised (error : String)
  deriving DecidableEq, Repr

/-- What one call of `dispatch_alert` did. -/
structure AlertDispatch where
  redis : Redis String
  /-- The configurations `send_to_channel` was called for. -/
  attempted : List AlertConfig
  sentCount : Nat

/-- `dispatch_alert`; `configs` are the rows of the table, newest first. -/
def dispatchAlert (env : AlertEnvironment) (configs : List AlertConfig)
    (send : AlertPayload → AlertConfig → SendOutcome) (alert : AlertPayload)
    (redis : Redis String) (now : Instant) (call : CallOutcome) : AlertDispatch :=
  let (redis, duplicate) := isDuplicateAlert env alert redis now call
  if duplicate then ⟨redis, [], 0⟩
  else
    let active := configs.filter (fun cfg => cfg.orgId = alert.orgId ∧ cfg.isActive = true)
    ⟨redis, active, active.countP (fun cfg => send alert cfg = .answered true)⟩

end Reliastra.Source.Notifications
