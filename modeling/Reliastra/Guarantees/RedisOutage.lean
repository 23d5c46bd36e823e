import Reliastra.Source.Billing.Deliveries
import Reliastra.Source.Main.Idempotency
import Reliastra.Source.Notifications.Alerts

/-!
# Does a Redis outage fail open?

`safe_redis_set_nx` answers `False` for a call that failed, as it does for a key
that is taken, and the three callers expect an exception. So the work is done
exactly when the claim was delivered, or was not needed.
-/

namespace Reliastra.Guarantees.RedisOutage

open Reliastra.Library Source

/-- The call failed or timed out. -/
def Fails (call : CallOutcome) : Prop := call ≠ .delivered

instance (call : CallOutcome) : Decidable (Fails call) := inferInstanceAs (Decidable (_ ≠ _))

/-- A claim that is not delivered reads as a taken key. -/
theorem not_claimed_of_fails {β : Type} (redis : Redis β) (key : String) (value : β)
    (seconds : Int) (now : Instant) {call : CallOutcome} (fails : Fails call) :
    (redis.safeSetNx key value seconds now call).2 = false := by
  cases call with
  | delivered => exact absurd rfl fails
  | requestLost => rfl
  | answerLost =>
    unfold Redis.safeSetNx
    dsimp only
    split <;> rfl

/-- A claim that is delivered is refused for a taken key only. -/
theorem claimed_of_delivered {β : Type} (redis : Redis β) (key : String) (value : β)
    (seconds : Int) (now : Instant) :
    (redis.safeSetNx key value seconds now .delivered).2 = true ↔ redis.live key now = none := by
  simp only [Redis.safeSetNx]
  cases redis.live key now <;> simp

/-! ## Webhooks -/

section Webhooks

open Source.Billing

/-- A signed webhook is processed, unless its event was claimed before and the
answer of Redis says so. -/
def WebhookFailsOpen (host : Runtime) (settings : BillingSettings) (call : WebhookCall)
    (redis : Redis String) : Prop :=
  checkSignature host settings call = .ok () →
    admitted host settings call redis = true ∨
      ∃ eventId, webhookEventId host call.event call.data.asDict = some eventId ∧
        ¬ Fails call.claim ∧ Claimed redis eventId call.now

theorem webhook_fails_open_iff (host : Runtime) (settings : BillingSettings) (call : WebhookCall)
    (redis : Redis String) :
    WebhookFailsOpen host settings call redis ↔
      (checkSignature host settings call = .ok () →
        webhookEventId host call.event call.data.asDict ≠ none → ¬ Fails call.claim) := by
  unfold WebhookFailsOpen
  apply imp_congr_right
  intro signed
  cases event : webhookEventId host call.event call.data.asDict with
  | none => simp [admitted, signed, event]
  | some eventId =>
    have claims : admitted host settings call redis =
        (claimWebhookEvent eventId call.claim call.now redis).2 := by
      simp [admitted, signed, event]
    by_cases fails : Fails call.claim
    · have refused : (claimWebhookEvent eventId call.claim call.now redis).2 = false :=
        not_claimed_of_fails redis _ _ _ _ fails
      rw [claims, refused]
      simp [fails]
    · have delivered : call.claim = .delivered := Decidable.not_not.mp fails
      have claimed : (claimWebhookEvent eventId call.claim call.now redis).2 = true ↔
          redis.live ("paystack:event:" ++ eventId) call.now = none := by
        unfold claimWebhookEvent
        rw [delivered]
        exact claimed_of_delivered redis _ _ _ _
      rw [claims, claimed]
      unfold Claimed
      cases live : redis.live ("paystack:event:" ++ eventId) call.now <;> simp [fails, live]

end Webhooks

/-! ## Alerts -/

section Alerts

open Source.Notifications

/-- The alert goes to every active configuration of the organization, unless its
fingerprint was claimed before and the answer of Redis says so. -/
def AlertFailsOpen (env : AlertEnvironment) (configs : List AlertConfig)
    (send : AlertPayload → AlertConfig → SendOutcome) (alert : AlertPayload)
    (redis : Redis String) (now : Instant) (call : CallOutcome) : Prop :=
  (dispatchAlert env configs send alert redis now call).attempted =
      configs.filter (fun cfg => cfg.orgId = alert.orgId ∧ cfg.isActive = true) ∨
    ¬ Fails call ∧ redis.live (dedupKey env alert) now ≠ none

theorem dispatchAlert_attempted (env : AlertEnvironment) (configs : List AlertConfig)
    (send : AlertPayload → AlertConfig → SendOutcome) (alert : AlertPayload)
    (redis : Redis String) (now : Instant) (call : CallOutcome) :
    (dispatchAlert env configs send alert redis now call).attempted =
      if (redis.safeSetNx (dedupKey env alert) "1" 60 now call).2 = true then
        configs.filter (fun cfg => cfg.orgId = alert.orgId ∧ cfg.isActive = true)
      else [] := by
  unfold dispatchAlert isDuplicateAlert
  cases claim : redis.safeSetNx (dedupKey env alert) "1" 60 now call with
  | mk after claimed => cases claimed <;> simp

theorem alert_fails_open_iff (env : AlertEnvironment) (configs : List AlertConfig)
    (send : AlertPayload → AlertConfig → SendOutcome) (alert : AlertPayload)
    (redis : Redis String) (now : Instant) (call : CallOutcome) :
    AlertFailsOpen env configs send alert redis now call ↔
      ((∃ cfg ∈ configs, cfg.orgId = alert.orgId ∧ cfg.isActive = true) → ¬ Fails call) := by
  unfold AlertFailsOpen
  rw [dispatchAlert_attempted]
  by_cases fails : Fails call
  · simp only [not_claimed_of_fails redis _ _ _ _ fails, Bool.false_eq_true, if_false, fails,
      not_true_eq_false, false_and, or_false, imp_false, not_exists, not_and]
    constructor
    · intro empty cfg member owned active
      have selected : cfg ∈ configs.filter
          (fun cfg => cfg.orgId = alert.orgId ∧ cfg.isActive = true) :=
        List.mem_filter.mpr ⟨member, by simp [owned, active]⟩
      rw [← empty] at selected
      exact absurd selected List.not_mem_nil
    · intro none
      symm
      rw [List.filter_eq_nil_iff]
      intro cfg member selected
      simp only [decide_eq_true_eq] at selected
      exact none cfg member selected.1 selected.2
  · have delivered : call = .delivered := Decidable.not_not.mp fails
    simp only [fails, not_false_eq_true, true_and, imp_true_iff, iff_true]
    by_cases taken : redis.live (dedupKey env alert) now = none
    · left
      rw [delivered, if_pos ((claimed_of_delivered redis _ _ _ _).mpr taken)]
    · exact .inr taken

end Alerts

/-! ## Requests with an idempotency key -/

section Requests

open Source.Main

/-- The handler is executed: at once, once the lock is taken, or by the fallback.
Other requests may change Redis between the two calls before it. -/
def Executes (key : String) (atRead atAcquire : CacheServer) (get acquire : CallOutcome) : Prop :=
  match (dispatch key atRead .arrived (.readCache get)).2 with
  | .fallback _ => True
  | .missed =>
    (dispatch key atAcquire .missed (.acquire acquire)).2 = .executing atAcquire.clock
  | _ => False

/-- The handler is executed, unless there is a cached response or a lock and the
answer of Redis says so. -/
def RequestFailsOpen (env : CredentialEnvironment) (request : Request) (now : Instant)
    (atRead atAcquire : CacheServer) (get acquire : CallOutcome) : Prop :=
  ∀ key, dispatchEntry env request now = .keyed key →
    Executes key atRead atAcquire get acquire ∨
      (¬ Fails get ∧ ∃ cached, atRead.redis.live key atRead.clock = some (.response cached)) ∨
      (¬ Fails acquire ∧ atAcquire.redis.live (lockKey key) atAcquire.clock ≠ none)

theorem request_fails_open_iff (env : CredentialEnvironment) (request : Request) (now : Instant)
    (atRead atAcquire : CacheServer) (get acquire : CallOutcome) :
    RequestFailsOpen env request now atRead atAcquire get acquire ↔
      ∀ key, dispatchEntry env request now = .keyed key →
        atRead.redis.safeGet key atRead.clock get = none → ¬ Fails acquire := by
  unfold RequestFailsOpen
  apply forall_congr'
  intro key
  apply imp_congr_right
  intro _
  cases found : atRead.redis.safeGet key atRead.clock get with
  | some stored =>
    have delivered : get = .delivered := by
      cases get with
      | delivered => rfl
      | requestLost | answerLost => cases found
    rw [delivered] at found ⊢
    simp only [reduceCtorEq, false_imp_iff, iff_true]
    cases stored with
    | held =>
      left
      simp [Executes, dispatch, found]
    | response cached => exact .inr (.inl ⟨fun fails => fails rfl, cached, found⟩)
  | none =>
    have reads : (dispatch key atRead .arrived (.readCache get)).2 = .missed := by
      simp [dispatch, found]
    have uncached : ¬ (¬ Fails get ∧
        ∃ cached, atRead.redis.live key atRead.clock = some (.response cached)) := by
      intro ⟨answered, cached, live⟩
      have delivered : get = .delivered := Decidable.not_not.mp answered
      rw [delivered] at found
      exact absurd (live.symm.trans found) (by simp)
    have acquires : Executes key atRead atAcquire get acquire ↔
        (atAcquire.redis.safeSetNx (lockKey key) .held 60 atAcquire.clock acquire).2 = true := by
      unfold Executes
      rw [reads]
      simp only [dispatch]
      split <;> simp [*]
    rw [acquires]
    simp only [uncached, false_or, true_imp_iff]
    by_cases fails : Fails acquire
    · rw [not_claimed_of_fails _ _ _ _ _ fails]
      simp [fails]
    · have delivered : acquire = .delivered := Decidable.not_not.mp fails
      have claimed : (atAcquire.redis.safeSetNx (lockKey key) .held 60 atAcquire.clock acquire).2 =
          true ↔ atAcquire.redis.live (lockKey key) atAcquire.clock = none := by
        rw [delivered]
        exact claimed_of_delivered _ _ _ _ _
      rw [claimed]
      simp only [fails, not_false_eq_true, true_and, iff_true]
      exact em _

end Requests

/-! ## The guarantee -/

/-- In none of the three callers an outage of Redis costs work, exactly when the
claim of an identified event, of an alert that somebody is to get, and of a
request without a cached response is delivered. -/
theorem fails_open_iff (host : Runtime) (settings : Billing.BillingSettings)
    (webhook : Billing.WebhookCall) (events : Redis String)
    (alerts : Notifications.AlertEnvironment) (configs : List Notifications.AlertConfig)
    (send : Notifications.AlertPayload → Notifications.AlertConfig → Notifications.SendOutcome)
    (alert : Notifications.AlertPayload) (windows : Redis String) (alertCall : CallOutcome)
    (env : CredentialEnvironment) (request : Request) (now : Instant)
    (atRead atAcquire : Main.CacheServer) (get acquire : CallOutcome) :
    (WebhookFailsOpen host settings webhook events ∧
      AlertFailsOpen alerts configs send alert windows now alertCall ∧
      RequestFailsOpen env request now atRead atAcquire get acquire) ↔
    (Billing.checkSignature host settings webhook = .ok () →
        Billing.webhookEventId host webhook.event webhook.data.asDict ≠ none →
        ¬ Fails webhook.claim) ∧
      ((∃ cfg ∈ configs, cfg.orgId = alert.orgId ∧ cfg.isActive = true) → ¬ Fails alertCall) ∧
      ∀ key, Main.dispatchEntry env request now = .keyed key →
        atRead.redis.safeGet key atRead.clock get = none → ¬ Fails acquire := by
  rw [webhook_fails_open_iff, alert_fails_open_iff, request_fails_open_iff]

/-! ## An unreachable Redis -/

def plainAlerts : Notifications.AlertEnvironment where
  host := ⟨fun _ => "", fun _ => none, fun _ => none, fun _ => none, fun _ _ => ""⟩
  uuidText := toString
  sha256Hex text := text

def outageAlert : Notifications.AlertPayload :=
  ⟨1, some 2, "major", "Service Degradation Detected", "", .obj []⟩

def slackConfig : Notifications.AlertConfig := ⟨3, 1, "slack", .obj [], true⟩

/-- With Redis down an alert is sent to nobody. -/
theorem alert_lost_in_outage :
    ¬ ∀ (env : Notifications.AlertEnvironment) (configs : List Notifications.AlertConfig)
      (send : Notifications.AlertPayload → Notifications.AlertConfig → Notifications.SendOutcome)
      (alert : Notifications.AlertPayload) (redis : Redis String) (now : Instant)
      (call : CallOutcome), AlertFailsOpen env configs send alert redis now call := by
  intro opens
  rcases opens plainAlerts [slackConfig] (fun _ _ => .answered true) outageAlert [] 0 .requestLost
    with attempted | ⟨delivered, _⟩
  · have one := congrArg List.length attempted
    revert one
    decide
  · exact delivered (by decide)

end Reliastra.Guarantees.RedisOutage
