import Reliastra.Source.Webhooks.Attempts

/-!
# Does a failing webhook leave the others alone?

Both loops catch `httpx.HTTPError` around the request and nothing else. An
answer with an error status, a timeout or an unreachable host is recorded and
the loop goes on. A secret that cannot be decrypted, a URL `httpx` does not
take, a header it cannot encode or a text the column does not take end the loop,
and the session with it. `failures_isolated_iff` says that nothing else does.
-/

namespace Reliastra.Guarantees.WebhookIsolation

open Reliastra.Library Source Source.Webhooks

/-! ## The property -/

def requestsFor (s : WebhookStore) (deliveryId : Uuid) : List Post :=
  s.posts.filter (fun post => post.deliveryId = deliveryId)

/-- The row shows a failed attempt, the `current`-th. -/
def FailureRecorded (current : Nat) (row : WebhookDelivery) : Prop :=
  row.status = .failedPermanently ∨
    row.status = .retrying ∧ row.nextRetryAt ≠ none ∧ row.attemptCount = current + 1

/-- What a loop over the items has committed, beside what it commits over the
items that do not fail. -/
structure Isolated {α : Type} (deliveryId webhookId : α → Uuid) (current : α → Nat)
    (failing : α → Prop) (items : List α) (result alone : WebhookStore) : Prop where
  others : ∀ x ∈ items, ¬ failing x →
    result.deliveries.get? (deliveryId x) = alone.deliveries.get? (deliveryId x) ∧
      requestsFor result (deliveryId x) = requestsFor alone (deliveryId x)
  webhooks : ∀ x ∈ items, (∀ y ∈ items, webhookId y = webhookId x → ¬ failing y) →
    result.webhooks.get? (webhookId x) = alone.webhooks.get? (webhookId x)
  failures : ∀ x ∈ items, failing x →
    ∃ row ∈ result.deliveries.get? (deliveryId x), FailureRecorded (current x) row

/-! ## How a session ends -/

/-- After a rollback a failing item has no failed attempt on record, if it had
none before. -/
theorem not_isolated_of_rollback {α : Type} {deliveryId webhookId : α → Uuid} {current : α → Nat}
    {failing : α → Prop} {items : List α} {s u : WebhookStore} {flushed : Flushed}
    (raised : flushed.2 ≠ .ok ()) {x : α} (member : x ∈ items) (fails : failing x)
    (unrecorded : ∀ row ∈ s.deliveries.get? (deliveryId x), ¬ FailureRecorded (current x) row) :
    ¬ Isolated deliveryId webhookId current failing items (endSession s flushed) u := by
  intro isolated
  obtain ⟨row, stored, recorded⟩ := isolated.failures x member fails
  obtain ⟨after, outcome⟩ := flushed
  cases outcome with
  | ok done => exact raised rfl
  | error failure => exact unrecorded row stored recorded

/-! ## Loops that end regularly -/

variable {lib : WebhookLibrary} {net : Post → Exchange}

theorem failureRecorded_of_requested {webhookId : Uuid} {webhook : Webhook}
    {delivery : WebhookDelivery} {post : Post}
    (request : requestOf lib webhook delivery = .ok post)
    (contained : ¬ Escapes lib net webhook delivery) (fails : ¬ Succeeds lib net webhook delivery) :
    FailureRecorded delivery.currentAttempt (requested net webhookId delivery post).delivery := by
  obtain ⟨post', request', caught⟩ := contained_request contained
  rw [request] at request'
  cases request'
  rw [succeeds_iff request] at fails
  obtain ⟨statusCode, responseBody, recorded⟩ := recordedDelivery_of_fails delivery caught fails
  right
  change (recordedDelivery (net post) delivery).status = .retrying ∧ _ ∧ _
  simp [requested, recorded, retried]

section Applied
variable {α : Type} {attemptOf : α → Attempt} {failing : α → Prop} [DecidablePred failing]
  {items : List α} {s t u : WebhookStore}

theorem isolated_of_applied {current : α → Nat} (applied : AllApplied attemptOf items s t)
    (alone : AllApplied attemptOf (items.filter (fun x => ¬ failing x)) s u)
    (distinct : (items.map (fun x => (attemptOf x).delivery.id)).Nodup)
    (own : ∀ x ∈ items, ∀ post ∈ (attemptOf x).post,
      post.deliveryId = (attemptOf x).delivery.id)
    (recorded : ∀ x ∈ items, failing x → FailureRecorded (current x) (attemptOf x).delivery) :
    Isolated (fun x => (attemptOf x).delivery.id) (fun x => (attemptOf x).webhookId) current
      failing items t u := by
  have sub : (items.filter (fun x => ¬ failing x)).Sublist items := List.filter_sublist
  have kept : ∀ x ∈ items, ¬ failing x → x ∈ items.filter (fun x => ¬ failing x) :=
    fun x member fine => List.mem_filter.mpr ⟨member, decide_eq_true fine⟩
  refine ⟨?_, ?_, ?_⟩
  · intro x member fine
    constructor
    · rw [applied.written x member, alone.written x (kept x member fine)]
    · unfold requestsFor
      rw [applied.posts, alone.posts, List.filter_append, List.filter_append,
        filter_posts own distinct member,
        filter_posts (fun y there => own y (sub.subset there)) (distinct.sublist (sub.map _))
          (kept x member fine)]
  · intro x member fine
    have same : (items.filter (fun y => ¬ failing y)).filter
          (fun y => (attemptOf y).webhookId = (attemptOf x).webhookId) =
        items.filter (fun y => (attemptOf y).webhookId = (attemptOf x).webhookId) := by
      rw [List.filter_filter]
      refine List.filter_congr (fun y there => ?_)
      by_cases here : (attemptOf y).webhookId = (attemptOf x).webhookId
      · simp [here, fine y there here]
      · simp [here]
    rw [applied.webhooks, alone.webhooks, same]
  · intro x member fails
    exact ⟨_, applied.written x member, recorded x member fails⟩

end Applied

/-! ## Delivering an event -/

section Deliver
variable {draw : Uuid → Draw} {eventType : String} {payload : Json} {s : WebhookStore}

theorem deliver_isolated_iff (webhooks : List Webhook) (fresh : ReadyToDeliver draw webhooks s) :
    Isolated (fun w => (draw w.id).id) (·.id) (fun _ => 1)
        (fun w => ¬ Succeeds lib net w (newDelivery w eventType payload (draw w.id))) webhooks
        (endSession s (Loops.untilRaised (deliverSingle lib net draw eventType payload) s webhooks))
        (endSession s (Loops.untilRaised (deliverSingle lib net draw eventType payload) s
          (webhooks.filter (fun w =>
            ¬ ¬ Succeeds lib net w (newDelivery w eventType payload (draw w.id)))))) ↔
      ∀ w ∈ webhooks, ¬ Escapes lib net w (newDelivery w eventType payload (draw w.id)) := by
  constructor
  · intro isolated w member escapes
    have raised : (Loops.untilRaised (deliverSingle lib net draw eventType payload) s webhooks).2 ≠
        .ok () := by
      have raises : ∀ t, True → (deliverSingle lib net draw eventType payload t w).2 ≠ .ok () :=
        fun t _ => deliverSingle_error t escapes
      exact Loops.untilRaised_raises (fun _ _ _ _ => trivial) raises s webhooks trivial member
    refine not_isolated_of_rollback raised member (not_succeeds_of_escapes escapes) ?_ isolated
    intro row stored
    rw [(fresh.2 w member).1] at stored
    cases stored
  · intro contained
    have sub : (webhooks.filter (fun w =>
        ¬ ¬ Succeeds lib net w (newDelivery w eventType payload (draw w.id)))).Sublist webhooks :=
      List.filter_sublist
    obtain ⟨ok, applied⟩ := deliver_applied fresh contained
    obtain ⟨ok', alone⟩ := deliver_applied
      (⟨fresh.1.sublist (sub.map _), fun w member => fresh.2 w (sub.subset member)⟩ :
        ReadyToDeliver draw _ s) (fun w member => contained w (sub.subset member))
    rw [endSession_ok ok, endSession_ok ok']
    have distinct : (webhooks.map
        (fun w => (deliverAttempt lib net draw eventType payload w).delivery.id)).Nodup := by
      simpa using fresh.1
    have recorded : ∀ w ∈ webhooks,
        ¬ Succeeds lib net w (newDelivery w eventType payload (draw w.id)) →
          FailureRecorded 1 (deliverAttempt lib net draw eventType payload w).delivery := by
      intro w member fails
      obtain ⟨post, request, _⟩ := contained_request (contained w member)
      simp only [deliverAttempt, request]
      exact failureRecorded_of_requested request (contained w member) fails
    have isolated := isolated_of_applied applied alone distinct
      (fun w _ => deliverAttempt_post w) recorded
    simpa using isolated

end Deliver

/-! ## Retrying a batch -/

theorem sameTargets_updateWebhook (s : WebhookStore) (webhookId : Uuid) {f : Webhook → Webhook}
    (keeps : ∀ row, (f row).id = row.id) (kept : ∀ row, target (f row) = target row) :
    SameTargets s (s.updateWebhook webhookId f keeps) := by
  intro id
  unfold WebhookStore.updateWebhook
  rw [Table.get?_updateKey, Option.map_map]
  congr 1
  funext w
  by_cases here : id = webhookId <;> simp [here, kept]

theorem handleDeliveryFailure_targets (s : WebhookStore) (webhook : Webhook)
    (delivery : WebhookDelivery) (statusCode : Option Nat) (responseBody : Option String)
    (now : Instant) :
    SameTargets s (handleDeliveryFailure s webhook delivery statusCode responseBody now).1 := by
  have counted : SameTargets s (incrementFailureCount s webhook.id) := by
    refine sameTargets_updateWebhook s webhook.id ?_ ?_
    exact fun _ => rfl
  unfold handleDeliveryFailure
  dsimp only
  split
  · exact counted
  · unfold markFailed
    split
    · exact counted
    · exact counted

/-- Raising or not, a retry leaves the webhooks' targets alone. -/
theorem retryDelivery_targets (s : WebhookStore) (delivery : WebhookDelivery) :
    SameTargets s (retryDelivery lib net s delivery).1 := by
  unfold retryDelivery
  split
  · exact fun _ => rfl
  next webhook _ =>
  unfold send
  split
  · exact fun _ => rfl
  next post _ =>
  dsimp only
  split
  · next status text _ =>
    split
    · unfold markSuccess
      by_cases fits : FitsColumn (bodyOf text)
      · simp only [fits, if_true]
        have recorded : SameTargets s (recordDelivered s webhook.id (net post).now) := by
          refine sameTargets_updateWebhook s webhook.id ?_ ?_
          exact fun _ => rfl
        exact recorded
      · simp only [fits, if_false]
        exact fun _ => rfl
    · exact handleDeliveryFailure_targets _ webhook delivery _ _ _
  · exact handleDeliveryFailure_targets _ webhook delivery _ _ _
  · exact fun _ => rfl

theorem unrecorded_of_due {now : Instant} {delivery : WebhookDelivery} (due : Due now delivery) :
    ¬ FailureRecorded delivery.currentAttempt delivery := by
  have waiting := due.1
  intro recorded
  rcases recorded with final | ⟨_, _, count⟩
  · rw [waiting] at final
    cases final
  · unfold WebhookDelivery.currentAttempt at count
    split at count <;> omega

theorem retry_isolated_iff {s : WebhookStore} {now : Instant} {ids : List Uuid}
    (answer : DueAnswer s now ids) :
    Isolated (·.id) (·.webhookId) (·.currentAttempt) (RetryFails lib net s) (dueBatch s ids)
        (endSession s (retryPendingDeliveries lib net s (dueBatch s ids)))
        (endSession s (retryPendingDeliveries lib net s
          ((dueBatch s ids).filter (fun d => ¬ RetryFails lib net s d)))) ↔
      ∀ delivery ∈ dueBatch s ids, ¬ RetryEscapes lib net s delivery := by
  have ready := readyToRetry_of_answer answer
  have early : ∀ d ∈ dueBatch s ids, d.currentAttempt < maxRetries :=
    fun d member => early_of_due (due_of_answer answer member)
  constructor
  · intro isolated delivery member escapes
    have raised : (retryPendingDeliveries lib net s (dueBatch s ids)).2 ≠ .ok () := by
      have turns : ∀ t d, SameTargets s t → (retryDelivery lib net t d).2 = .ok () →
          SameTargets s (retryDelivery lib net t d).1 := by
        intro t d same _ id
        rw [retryDelivery_targets t d id, same id]
      exact Loops.untilRaised_raises turns
        (fun t same => retryDelivery_error same escapes (early delivery member)) s _
        (fun _ => rfl) member
    have fails : RetryFails lib net s delivery := by
      obtain ⟨webhook, live, uncaught⟩ := escapes
      exact ⟨webhook, live, not_succeeds_of_escapes uncaught⟩
    refine not_isolated_of_rollback raised member fails ?_ isolated
    intro row stored
    have same : delivery = row := Option.some.inj ((ready.2.2 delivery member).symm.trans stored)
    rw [← same]
    exact unrecorded_of_due (due_of_answer answer member)
  · intro contained
    have sub : ((dueBatch s ids).filter (fun d => ¬ RetryFails lib net s d)).Sublist
        (dueBatch s ids) := List.filter_sublist
    obtain ⟨ok, applied⟩ := retry_applied ready early contained
    obtain ⟨ok', alone⟩ := retry_applied
      ⟨ready.1, ready.2.1.sublist (sub.map _), fun d member => ready.2.2 d (sub.subset member)⟩
      (fun d member => early d (sub.subset member))
      (fun d member => contained d (sub.subset member))
    rw [endSession_ok ok, endSession_ok ok']
    have distinct : ((dueBatch s ids).map
        (fun d => (retryAttempt lib net s d).delivery.id)).Nodup := by
      simpa using ready.2.1
    have recorded : ∀ d ∈ dueBatch s ids, RetryFails lib net s d →
        FailureRecorded d.currentAttempt (retryAttempt lib net s d).delivery := by
      intro d member fails
      obtain ⟨webhook, live, unsuccessful⟩ := fails
      have caught : ¬ Escapes lib net webhook d :=
        fun uncaught => contained d member ⟨webhook, live, uncaught⟩
      obtain ⟨post, request, _⟩ := contained_request caught
      have live : liveWebhook s d = some webhook := live
      simp only [retryAttempt, live, request]
      exact failureRecorded_of_requested request caught unsuccessful
    have isolated := isolated_of_applied applied alone distinct
      (fun d _ => retryAttempt_post s d) recorded
    simpa using isolated

/-! ## Main result -/

/-- The loops isolate failures, over every set of webhooks and over every batch,
exactly when no attempt ends in an exception that they do not catch. -/
theorem failures_isolated_iff (lib : WebhookLibrary) (order : OrderBy Webhook.createdAt)
    (net : Post → Exchange) (s : WebhookStore) :
    (∀ (draw : Uuid → Draw) (orgId : Uuid) (eventType : String) (payload : Json),
      let webhooks := listActiveForOrgAndEvent order s orgId eventType
      let failing := fun w => ¬ Succeeds lib net w (newDelivery w eventType payload (draw w.id))
      ReadyToDeliver draw webhooks s →
      (Isolated (fun w => (draw w.id).id) (·.id) (fun _ => 1) failing webhooks
          (endSession s (deliverWebhook lib order net draw s orgId eventType payload))
          (endSession s (Loops.untilRaised (deliverSingle lib net draw eventType payload) s
            (webhooks.filter (fun w => ¬ failing w)))) ↔
        ∀ w ∈ webhooks, ¬ Escapes lib net w (newDelivery w eventType payload (draw w.id)))) ∧
    ∀ (now : Instant) (ids : List Uuid), DueAnswer s now ids →
      (Isolated (·.id) (·.webhookId) (·.currentAttempt) (RetryFails lib net s) (dueBatch s ids)
          (endSession s (retryPendingDeliveries lib net s (dueBatch s ids)))
          (endSession s (retryPendingDeliveries lib net s
            ((dueBatch s ids).filter (fun d => ¬ RetryFails lib net s d)))) ↔
        ∀ delivery ∈ dueBatch s ids, ¬ RetryEscapes lib net s delivery) := by
  constructor
  · intro draw orgId eventType payload webhooks failing fresh
    exact deliver_isolated_iff webhooks fresh
  · intro now ids answer
    exact retry_isolated_iff answer

/-! ## Two webhooks -/

def siteLibrary : WebhookLibrary where
  dumps _ := "\x7b\"event\": \"incident.opened\"\x7d"
  -- the key was rotated
  decrypt _ := none
  hmacSha256Hex _ _ := "9b74c9897bac770ffc029102a200c5de"
  uuidText id := "00000000-0000-0000-0000-" ++ zeroPadded 12 id

def siteWebhook (id : Uuid) (url : String) (secretHash : Option String) : Webhook where
  id := id
  orgId := 5
  url := url
  events := ["incident.opened"]
  secretHash := secretHash
  customHeaders := none
  isActive := true
  isDeleted := false
  lastDeliveryAt := none
  failureCount := 0
  createdAt := id

/-- A delivery of the webhook that has failed once. -/
def siteDelivery (webhookId : Uuid) : WebhookDelivery where
  id := 20 + webhookId
  webhookId := webhookId
  eventType := "incident.opened"
  payload := .null
  status := .retrying
  responseStatusCode := some 500
  responseBody := none
  attemptCount := 2
  nextRetryAt := some 0
  createdAt := -60
  deliveredAt := none

/-- The first webhook with this secret, the second without one. -/
def siteStore (secretHash : Option String) : WebhookStore where
  webhooks := ⟨[siteWebhook 1 "https://down.example/" secretHash,
    siteWebhook 2 "https://fine.example/" none], by simp [siteWebhook]⟩
  deliveries := ⟨[siteDelivery 1, siteDelivery 2], by simp [siteDelivery]⟩
  posts := []

/-- The first host answers with an error. -/
def siteNet (post : Post) : Exchange :=
  if post.url = "https://down.example/" then ⟨.response 500 "", 100⟩ else ⟨.response 200 "ok", 100⟩

def siteDraw (webhookId : Uuid) : Draw := ⟨30 + webhookId, 100⟩

theorem site_webhooks (secretHash : Option String) :
    listActiveForOrgAndEvent (OrderBy.stable _) (siteStore secretHash) 5 "incident.opened" =
      [siteWebhook 1 "https://down.example/" secretHash,
        siteWebhook 2 "https://fine.example/" none] := rfl

theorem site_ready (secretHash : Option String) :
    ReadyToDeliver siteDraw
      (listActiveForOrgAndEvent (OrderBy.stable _) (siteStore secretHash) 5 "incident.opened")
      (siteStore secretHash) := by
  rw [site_webhooks]
  have distinct : ([31, 32] : List Uuid).Nodup := by decide
  refine ⟨distinct, fun w member => ⟨?_, fun post sent => by cases sent⟩⟩
  simp only [List.mem_cons, List.not_mem_nil, or_false] at member
  rcases member with rfl | rfl <;> rfl

/-- The first webhook's secret cannot be decrypted: the event is not delivered
to the second one either, and neither delivery is on record. -/
theorem undecryptable_secret_spreads :
    ¬ ∀ (lib : WebhookLibrary) (order : OrderBy Webhook.createdAt) (net : Post → Exchange)
      (s : WebhookStore) (draw : Uuid → Draw) (orgId : Uuid) (eventType : String) (payload : Json),
      let webhooks := listActiveForOrgAndEvent order s orgId eventType
      let failing := fun w => ¬ Succeeds lib net w (newDelivery w eventType payload (draw w.id))
      ReadyToDeliver draw webhooks s →
      Isolated (fun w => (draw w.id).id) (·.id) (fun _ => 1) failing webhooks
        (endSession s (deliverWebhook lib order net draw s orgId eventType payload))
        (endSession s (Loops.untilRaised (deliverSingle lib net draw eventType payload) s
          (webhooks.filter (fun w => ¬ failing w)))) := by
  intro always
  have isolated := always siteLibrary (OrderBy.stable _) siteNet (siteStore (some "gAAAAAstale"))
    siteDraw 5 "incident.opened" .null (site_ready _)
  have contained := (deliver_isolated_iff _ (site_ready (some "gAAAAAstale"))).mp isolated
  refine contained (siteWebhook 1 "https://down.example/" (some "gAAAAAstale")) ?_ ?_
  · rw [site_webhooks]
    exact List.mem_cons_self
  · intro post request
    cases request

theorem site_contained (net : Post → Exchange) (delivery : WebhookDelivery) (w : Webhook)
    (unsigned : w.secretHash = none) (caught : ∀ post, ¬ Uncaught (net post).result) :
    ¬ Escapes siteLibrary net w delivery := by
  intro escapes
  refine caught _ (escapes (postOf siteLibrary w delivery none) ?_)
  simp [requestOf, recoverSigningSecret, unsigned, Except.map, Except.toOption]

theorem siteNet_caught (post : Post) : ¬ Uncaught (siteNet post).result := by
  unfold siteNet
  split
  · show ¬ ¬ FitsColumn (bodyOf "")
    decide
  · show ¬ ¬ FitsColumn (bodyOf "ok")
    decide

/-- The first host answers with an error, and the second webhook does not notice. -/
theorem failures_isolated_iff_sample :
    let webhooks := listActiveForOrgAndEvent (OrderBy.stable _) (siteStore none) 5 "incident.opened"
    let failing := fun w =>
      ¬ Succeeds siteLibrary siteNet w (newDelivery w "incident.opened" .null (siteDraw w.id))
    Isolated (fun w => (siteDraw w.id).id) (·.id) (fun _ => 1) failing webhooks
        (endSession (siteStore none) (deliverWebhook siteLibrary (OrderBy.stable _) siteNet siteDraw
          (siteStore none) 5 "incident.opened" .null))
        (endSession (siteStore none) (Loops.untilRaised
          (deliverSingle siteLibrary siteNet siteDraw "incident.opened" .null) (siteStore none)
          (webhooks.filter (fun w => ¬ failing w)))) ∧
      Isolated (·.id) (·.webhookId) (·.currentAttempt) (RetryFails siteLibrary siteNet (siteStore none))
        (dueBatch (siteStore none) [21, 22])
        (endSession (siteStore none) (retryPendingDeliveries siteLibrary siteNet (siteStore none)
          (dueBatch (siteStore none) [21, 22])))
        (endSession (siteStore none) (retryPendingDeliveries siteLibrary siteNet (siteStore none)
          ((dueBatch (siteStore none) [21, 22]).filter
            (fun d => ¬ RetryFails siteLibrary siteNet (siteStore none) d)))) := by
  have isolated := failures_isolated_iff siteLibrary (OrderBy.stable _) siteNet (siteStore none)
  constructor
  · refine (isolated.1 siteDraw 5 "incident.opened" .null (site_ready none)).mpr ?_
    rw [site_webhooks]
    intro w member
    simp only [List.mem_cons, List.not_mem_nil, or_false] at member
    rcases member with rfl | rfl
    · exact site_contained siteNet _ _ rfl siteNet_caught
    · exact site_contained siteNet _ _ rfl siteNet_caught
  · refine (isolated.2 60 [21, 22] (by decide)).mpr ?_
    intro delivery member escapes
    obtain ⟨w, live, uncaught⟩ := escapes
    have stored := ((Table.get?_eq_some_iff _ _ _).mp (Option.filter_eq_some_iff.mp live).1).1
    have stored : w ∈ [siteWebhook 1 "https://down.example/" none,
        siteWebhook 2 "https://fine.example/" none] := stored
    simp only [List.mem_cons, List.not_mem_nil, or_false] at stored
    rcases stored with rfl | rfl
    · exact site_contained siteNet _ _ rfl siteNet_caught uncaught
    · exact site_contained siteNet _ _ rfl siteNet_caught uncaught

end Reliastra.Guarantees.WebhookIsolation
