import Reliastra.Source.Webhooks.Service

/-!
# What an attempt leaves

An attempt that ends in no exception but an `httpx.HTTPError` writes one
delivery, may change one webhook, and makes at most one request. `Applied` says
this of a turn of either loop, and `after_loop` of a whole loop.
-/

namespace Reliastra.Source.Webhooks

open Reliastra.Library

/-! ## Outcomes -/

def Answered (status : Fin 1000) : Prop := 200 ≤ status.val ∧ status.val < 300

instance (status : Fin 1000) : Decidable (Answered status) :=
  inferInstanceAs (Decidable (200 ≤ status.val ∧ status.val < 300))

/-- The request is answered with 2xx, and the answer can be recorded. -/
def Delivered : PostResult → Prop
  | .response status text => Answered status ∧ FitsColumn (bodyOf text)
  | .httpError _ | .raises _ => False

/-- No `httpx.HTTPError`, or a text that cannot be recorded. -/
def Uncaught : PostResult → Prop
  | .response _ text => ¬ FitsColumn (bodyOf text)
  | .httpError message => ¬ FitsColumn (some (Text.slice message 5000))
  | .raises _ => True

instance : DecidablePred Delivered
  | .response status text => inferInstanceAs (Decidable (Answered status ∧ FitsColumn (bodyOf text)))
  | .httpError _ | .raises _ => inferInstanceAs (Decidable False)

def Succeeds (lib : WebhookLibrary) (net : Post → Exchange) (webhook : Webhook)
    (delivery : WebhookDelivery) : Prop :=
  ∃ post ∈ (requestOf lib webhook delivery).toOption, Delivered (net post).result

instance (lib : WebhookLibrary) (net : Post → Exchange) (webhook : Webhook)
    (delivery : WebhookDelivery) : Decidable (Succeeds lib net webhook delivery) :=
  inferInstanceAs (Decidable (∃ post ∈ (requestOf lib webhook delivery).toOption,
    Delivered (net post).result))

/-- The attempt ends in an exception that the loop does not catch: the secret
cannot be decrypted, `client.post` raises something else than an
`httpx.HTTPError`, or the text that is recorded has a NUL. -/
def Escapes (lib : WebhookLibrary) (net : Post → Exchange) (webhook : Webhook)
    (delivery : WebhookDelivery) : Prop :=
  ∀ post ∈ (requestOf lib webhook delivery).toOption, Uncaught (net post).result

theorem not_uncaught_of_delivered {result : PostResult} (delivered : Delivered result) :
    ¬ Uncaught result := by
  cases result with
  | response status text => exact not_not.mpr delivered.2
  | httpError message => exact delivered.elim
  | raises exceptionClass => exact delivered.elim

theorem not_succeeds_of_escapes {lib : WebhookLibrary} {net : Post → Exchange} {webhook : Webhook}
    {delivery : WebhookDelivery} (escapes : Escapes lib net webhook delivery) :
    ¬ Succeeds lib net webhook delivery := by
  intro ⟨post, request, delivered⟩
  exact not_uncaught_of_delivered delivered (escapes post request)

theorem contained_request {lib : WebhookLibrary} {net : Post → Exchange} {webhook : Webhook}
    {delivery : WebhookDelivery} (contained : ¬ Escapes lib net webhook delivery) :
    ∃ post, requestOf lib webhook delivery = .ok post ∧ ¬ Uncaught (net post).result := by
  unfold Escapes at contained
  cases request : requestOf lib webhook delivery with
  | error failure => simp [request, Except.toOption] at contained
  | ok post =>
    refine ⟨post, rfl, ?_⟩
    simpa [request, Except.toOption] using contained

/-! ## What is written -/

/-- The delivery after a failed attempt that is not the last. -/
def retried (delivery : WebhookDelivery) (statusCode : Option Nat) (responseBody : Option String)
    (now : Instant) : WebhookDelivery :=
  { delivery with
    status := .retrying
    responseStatusCode := statusCode
    responseBody := responseBody
    attemptCount := delivery.currentAttempt + 1
    nextRetryAt :=
      some (now + retryDelays.getD (min (delivery.currentAttempt - 1) (retryDelays.length - 1)) 0) }

def recordedDelivery (exchange : Exchange) (delivery : WebhookDelivery) : WebhookDelivery :=
  match exchange.result with
  | .response status text =>
    if Answered status then
      { delivery with
        status := .success
        responseStatusCode := some status.val
        responseBody := bodyOf text
        deliveredAt := some exchange.now }
    else retried delivery (some status.val) (bodyOf text) exchange.now
  | .httpError message => retried delivery none (some (Text.slice message 5000)) exchange.now
  | .raises _ => delivery

def recordedWebhook (exchange : Exchange) (webhook : Webhook) : Webhook :=
  match exchange.result with
  | .response status _ =>
    if Answered status then { webhook with failureCount := 0, lastDeliveryAt := some exchange.now }
    else { webhook with failureCount := webhook.failureCount + 1 }
  | .httpError _ => { webhook with failureCount := webhook.failureCount + 1 }
  | .raises _ => webhook

@[simp] theorem recordedDelivery_id (exchange : Exchange) (delivery : WebhookDelivery) :
    (recordedDelivery exchange delivery).id = delivery.id := by
  unfold recordedDelivery
  split
  · split <;> rfl
  · rfl
  · rfl

/-- The part of a webhook that no attempt changes. -/
def target (webhook : Webhook) : Webhook :=
  { webhook with failureCount := 0, lastDeliveryAt := none }

@[simp] theorem target_recordedWebhook (exchange : Exchange) (webhook : Webhook) :
    target (recordedWebhook exchange webhook) = target webhook := by
  unfold recordedWebhook
  split
  · split <;> rfl
  · rfl
  · rfl

/-- What a turn of a loop writes and sends. -/
structure Attempt where
  delivery : WebhookDelivery
  webhookId : Uuid
  onWebhook : Webhook → Webhook
  post : Option Post

/-- The attempt is the difference between two stores. -/
structure Applied (attempt : Attempt) (s t : WebhookStore) : Prop where
  deliveries : ∀ id, t.deliveries.get? id =
    if attempt.delivery.id = id then some attempt.delivery else s.deliveries.get? id
  webhooks : ∀ id, t.webhooks.get? id = (s.webhooks.get? id).map
    (fun w => if attempt.webhookId = id then attempt.onWebhook w else w)
  posts : t.posts = s.posts ++ attempt.post.toList

def requested (net : Post → Exchange) (webhookId : Uuid) (delivery : WebhookDelivery)
    (post : Post) : Attempt where
  delivery := recordedDelivery (net post) delivery
  webhookId := webhookId
  onWebhook := recordedWebhook (net post)
  post := some post

/-- The delivery of a webhook that is gone. -/
def abandoned (delivery : WebhookDelivery) : Attempt where
  delivery := { delivery with status := .failedPermanently }
  webhookId := delivery.webhookId
  onWebhook := id
  post := none

theorem requestOf_deliveryId {lib : WebhookLibrary} {webhook : Webhook}
    {delivery : WebhookDelivery} {post : Post} (request : requestOf lib webhook delivery = .ok post) :
    post.deliveryId = delivery.id := by
  unfold requestOf at request
  cases secret : recoverSigningSecret lib webhook with
  | error failure => simp [secret, Except.map] at request
  | ok signingSecret =>
    simp only [secret, Except.map, Except.ok.injEq] at request
    rw [← request]
    rfl

theorem succeeds_iff {lib : WebhookLibrary} {net : Post → Exchange} {webhook : Webhook}
    {delivery : WebhookDelivery} {post : Post} (request : requestOf lib webhook delivery = .ok post) :
    Succeeds lib net webhook delivery ↔ Delivered (net post).result := by
  simp [Succeeds, request, Except.toOption]

/-- A failed attempt that does not escape plans another one. -/
theorem recordedDelivery_of_fails {exchange : Exchange} (delivery : WebhookDelivery)
    (contained : ¬ Uncaught exchange.result) (fails : ¬ Delivered exchange.result) :
    ∃ statusCode responseBody,
      recordedDelivery exchange delivery = retried delivery statusCode responseBody exchange.now := by
  unfold recordedDelivery
  cases result : exchange.result with
  | response status text =>
    rw [result] at contained fails
    have unanswered : ¬ Answered status := fun answered => fails ⟨answered, not_not.mp contained⟩
    exact ⟨some status.val, bodyOf text, by simp [unanswered]⟩
  | httpError message => exact ⟨none, _, rfl⟩
  | raises exceptionClass =>
    rw [result] at contained
    exact absurd trivial contained

theorem recordedDelivery_of_delivered {exchange : Exchange} (delivery : WebhookDelivery)
    (delivered : Delivered exchange.result) :
    (recordedDelivery exchange delivery).status = .success ∧
      (recordedDelivery exchange delivery).attemptCount = delivery.attemptCount := by
  unfold recordedDelivery
  cases result : exchange.result with
  | response status text =>
    rw [result] at delivered
    simp [delivered.1]
  | httpError message =>
    rw [result] at delivered
    exact delivered.elim
  | raises exceptionClass =>
    rw [result] at delivered
    exact delivered.elim

/-! ## One attempt -/

theorem get?_write {deliveries : Table WebhookDelivery.id} {delivery : WebhookDelivery}
    {f : WebhookDelivery → WebhookDelivery} (keeps : ∀ row, (f row).id = row.id)
    (stored : deliveries.get? delivery.id = some delivery) (id : Uuid) :
    (deliveries.updateKey delivery.id f keeps).get? id =
      if (f delivery).id = id then some (f delivery) else deliveries.get? id := by
  rw [Table.get?_updateKey, keeps]
  by_cases here : delivery.id = id
  · subst here
    simp [stored]
  · cases found : deliveries.get? id <;> simp [here, Ne.symm here]

theorem get?_webhook {webhooks : Table Webhook.id} {webhookId : Uuid} {f : Webhook → Webhook}
    (keeps : ∀ row, (f row).id = row.id) (id : Uuid) :
    (webhooks.updateKey webhookId f keeps).get? id =
      (webhooks.get? id).map (fun w => if webhookId = id then f w else w) := by
  rw [Table.get?_updateKey]
  by_cases here : webhookId = id
  · simp [here]
  · simp [here, Ne.symm here]

section Send
variable {lib : WebhookLibrary} {net : Post → Exchange} {s : WebhookStore} {webhook : Webhook}
  {delivery : WebhookDelivery}

theorem send_error (escapes : Escapes lib net webhook delivery)
    (early : delivery.currentAttempt < maxRetries) :
    (send lib net s webhook delivery).2 ≠ .ok () := by
  unfold send
  unfold Escapes at escapes
  cases request : requestOf lib webhook delivery with
  | error failure => simp
  | ok post =>
    have uncaught : Uncaught (net post).result := escapes post (by rw [request]; rfl)
    have notLast : ¬ maxRetries ≤ delivery.currentAttempt := by omega
    cases result : (net post).result with
    | response status text =>
      rw [result] at uncaught
      have uncaught : ¬ FitsColumn (bodyOf text) := uncaught
      by_cases answered : 200 ≤ status.val ∧ status.val < 300
      · simp [result, answered, markSuccess, uncaught]
      · simp [result, answered, handleDeliveryFailure, notLast, markFailed, uncaught]
    | httpError message =>
      rw [result] at uncaught
      have uncaught : ¬ FitsColumn (some (Text.slice message 5000)) := uncaught
      simp [result, handleDeliveryFailure, notLast, markFailed, uncaught]
    | raises exceptionClass => simp [result]

/-- A row of each table is rewritten, and a request was made. -/
theorem applied_write {f : WebhookDelivery → WebhookDelivery} {g : Webhook → Webhook} {t : WebhookStore}
    (keepsDelivery : ∀ row, (f row).id = row.id) (keepsWebhook : ∀ row, (g row).id = row.id)
    (post : Post) (stored : s.deliveries.get? delivery.id = some delivery)
    (deliveries : t.deliveries = s.deliveries.updateKey delivery.id f keepsDelivery)
    (webhooks : t.webhooks = s.webhooks.updateKey webhook.id g keepsWebhook)
    (posts : t.posts = s.posts ++ [post]) :
    Applied ⟨f delivery, webhook.id, g, some post⟩ s t := by
  refine ⟨fun id => ?_, fun id => ?_, posts⟩
  · rw [deliveries]
    exact get?_write keepsDelivery stored id
  · rw [webhooks]
    exact get?_webhook keepsWebhook id

theorem handleDeliveryFailure_applied {statusCode : Option Nat} {responseBody : Option String}
    (now : Instant) (post : Post) (early : delivery.currentAttempt < maxRetries)
    (stored : s.deliveries.get? delivery.id = some delivery) (fits : FitsColumn responseBody) :
    (handleDeliveryFailure { s with posts := s.posts ++ [post] } webhook delivery statusCode
        responseBody now).2 = .ok () ∧
      Applied ⟨retried delivery statusCode responseBody now, webhook.id,
        fun w => { w with failureCount := w.failureCount + 1 }, some post⟩ s
        (handleDeliveryFailure { s with posts := s.posts ++ [post] } webhook delivery statusCode
          responseBody now).1 := by
  have notLast : ¬ maxRetries ≤ delivery.currentAttempt := by omega
  simp only [handleDeliveryFailure, notLast, if_false, markFailed, fits, if_true]
  refine ⟨trivial, applied_write
    (f := fun row => retried { row with attemptCount := delivery.attemptCount } statusCode
      responseBody now)
    (g := fun w => { w with failureCount := w.failureCount + 1 })
    (fun _ => rfl) (fun _ => rfl) post stored rfl rfl rfl⟩

/-- The spec of an attempt that is not the last and does not escape. -/
theorem send_applied (contained : ¬ Escapes lib net webhook delivery)
    (early : delivery.currentAttempt < maxRetries)
    (stored : s.deliveries.get? delivery.id = some delivery) :
    ∃ post, requestOf lib webhook delivery = .ok post ∧
      (send lib net s webhook delivery).2 = .ok () ∧
      Applied (requested net webhook.id delivery post) s (send lib net s webhook delivery).1 := by
  obtain ⟨post, request, caught⟩ := contained_request contained
  refine ⟨post, request, ?_⟩
  unfold send requested recordedDelivery recordedWebhook
  cases result : (net post).result with
  | response status text =>
    have fits : FitsColumn (bodyOf text) := by
      rw [result] at caught
      exact not_not.mp caught
    by_cases answered : Answered status
    · have inRange : 200 ≤ status.val ∧ status.val < 300 := answered
      simp only [request, result, answered, inRange, and_self, if_true, markSuccess, fits]
      refine ⟨trivial, applied_write
        (f := fun row => { row with
          status := .success
          responseStatusCode := some status.val
          responseBody := bodyOf text
          deliveredAt := some (net post).now })
        (g := fun w => { w with failureCount := 0, lastDeliveryAt := some (net post).now })
        (fun _ => rfl) (fun _ => rfl) post stored rfl rfl rfl⟩
    · have outOfRange : ¬ (200 ≤ status.val ∧ status.val < 300) := answered
      simp only [request, result, answered, outOfRange, if_false]
      exact handleDeliveryFailure_applied (net post).now post early stored fits
  | httpError message =>
    have fits : FitsColumn (some (Text.slice message 5000)) := by
      rw [result] at caught
      exact not_not.mp caught
    simp only [request, result]
    exact handleDeliveryFailure_applied (net post).now post early stored fits
  | raises exceptionClass =>
    rw [result] at caught
    exact absurd trivial caught

theorem handleDeliveryFailure_posts (statusCode : Option Nat) (responseBody : Option String)
    (now : Instant) :
    (handleDeliveryFailure s webhook delivery statusCode responseBody now).1.posts = s.posts := by
  unfold handleDeliveryFailure markFailed
  dsimp only
  split
  · rfl
  · split <;> rfl

end Send

/-- Whatever it ends in, an attempt makes the request for its delivery, if there is one. -/
theorem send_requests (lib : WebhookLibrary) (net : Post → Exchange) (s : WebhookStore)
    (webhook : Webhook) (delivery : WebhookDelivery) :
    (send lib net s webhook delivery).1.posts =
      s.posts ++ (requestOf lib webhook delivery).toOption.toList := by
  unfold send
  cases request : requestOf lib webhook delivery with
  | error failure => exact (List.append_nil _).symm
  | ok post =>
    have one : (Except.ok post : Except Failure Post).toOption.toList = [post] := rfl
    rw [one]
    dsimp only
    cases (net post).result with
    | response status text =>
      by_cases answered : 200 ≤ status.val ∧ status.val < 300
      · unfold markSuccess
        by_cases fits : FitsColumn (bodyOf text)
        · simp only [answered, and_self, fits, if_true]
          rfl
        · simp only [answered, and_self, fits, if_true, if_false]
      · simp only [answered, if_false, handleDeliveryFailure_posts]
    | httpError message => exact handleDeliveryFailure_posts _ _ _
    | raises exceptionClass => rfl

theorem send_posts (lib : WebhookLibrary) (net : Post → Exchange) (s : WebhookStore)
    (webhook : Webhook) (delivery : WebhookDelivery) :
    ∃ sent : List Post, (send lib net s webhook delivery).1.posts = s.posts ++ sent ∧
      ∀ post ∈ sent, post.deliveryId = delivery.id := by
  refine ⟨_, send_requests lib net s webhook delivery, ?_⟩
  intro post member
  cases request : requestOf lib webhook delivery with
  | error failure => simp [request, Except.toOption] at member
  | ok made =>
    rw [request] at member
    rw [List.mem_singleton.mp member]
    exact requestOf_deliveryId request

/-! ## Whole loops -/

theorem endSession_ok {s : WebhookStore} {flushed : Flushed} (ok : flushed.2 = .ok ()) :
    endSession s flushed = flushed.1 := by
  unfold endSession
  rw [ok]

section Loop
variable {α : Type}

/-- What the attempts for these items leave, the items having deliveries of
their own. -/
structure AllApplied (attemptOf : α → Attempt) (items : List α) (s t : WebhookStore) : Prop where
  written : ∀ item ∈ items,
    t.deliveries.get? (attemptOf item).delivery.id = some (attemptOf item).delivery
  untouched : ∀ id, (∀ item ∈ items, (attemptOf item).delivery.id ≠ id) →
    t.deliveries.get? id = s.deliveries.get? id
  webhooks : ∀ id, t.webhooks.get? id = (s.webhooks.get? id).map (fun w =>
    (items.filter (fun item => (attemptOf item).webhookId = id)).foldl
      (fun w item => (attemptOf item).onWebhook w) w)
  posts : t.posts = s.posts ++ items.flatMap (fun item => (attemptOf item).post.toList)

theorem AllApplied.nil (attemptOf : α → Attempt) (s : WebhookStore) :
    AllApplied attemptOf [] s s := by
  refine ⟨?_, fun _ _ => rfl, fun id => ?_, (List.append_nil _).symm⟩
  · intro item member
    cases member
  · cases s.webhooks.get? id <;> rfl

theorem AllApplied.cons {attemptOf : α → Attempt} {item : α} {rest : List α} {s t u : WebhookStore}
    (first : Applied (attemptOf item) s t) (later : AllApplied attemptOf rest t u)
    (apart : ∀ other ∈ rest, (attemptOf other).delivery.id ≠ (attemptOf item).delivery.id) :
    AllApplied attemptOf (item :: rest) s u := by
  refine ⟨?_, ?_, ?_, ?_⟩
  · intro other member
    rcases List.mem_cons.mp member with rfl | there
    · rw [later.untouched _ apart, first.deliveries, if_pos rfl]
    · exact later.written other there
  · intro id elsewhere
    rw [later.untouched id (fun other there => elsewhere other (by simp [there])), first.deliveries,
      if_neg (elsewhere item (by simp))]
  · intro id
    rw [later.webhooks, first.webhooks, Option.map_map]
    congr 1
    funext w
    by_cases here : (attemptOf item).webhookId = id <;> simp [here]
  · rw [later.posts, first.posts, List.flatMap_cons, List.append_assoc]

/-- Every turn applies its attempt, if it is ready for it, and leaves the others
ready. -/
theorem after_loop {attemptOf : α → Attempt} {body : WebhookStore → α → Flushed}
    (ready : List α → WebhookStore → Prop)
    (turns : ∀ s item rest, ready (item :: rest) s →
      (body s item).2 = .ok () ∧ Applied (attemptOf item) s (body s item).1 ∧
        ready rest (body s item).1)
    (s : WebhookStore) (items : List α)
    (distinct : (items.map (fun item => (attemptOf item).delivery.id)).Nodup)
    (initial : ready items s) :
    (Loops.untilRaised body s items).2 = .ok () ∧
      AllApplied attemptOf items s (Loops.untilRaised body s items).1 := by
  induction items generalizing s with
  | nil => exact ⟨rfl, AllApplied.nil attemptOf s⟩
  | cons item rest ih =>
    obtain ⟨ok, applied, kept⟩ := turns s item rest initial
    rw [List.map_cons, List.nodup_cons] at distinct
    obtain ⟨finished, later⟩ := ih (body s item).1 distinct.2 kept
    rw [Loops.untilRaised_cons_ok ok]
    refine ⟨finished, later.cons applied (fun other there same => distinct.1 ?_)⟩
    exact same ▸ List.mem_map_of_mem (f := fun item => (attemptOf item).delivery.id) there

theorem filter_posts_none {attemptOf : α → Attempt} {items : List α} {id : Uuid}
    (own : ∀ x ∈ items, ∀ post ∈ (attemptOf x).post, post.deliveryId = (attemptOf x).delivery.id)
    (elsewhere : ∀ x ∈ items, (attemptOf x).delivery.id ≠ id) :
    (items.flatMap (fun x => (attemptOf x).post.toList)).filter (fun p => p.deliveryId = id) = [] := by
  rw [List.filter_eq_nil_iff]
  intro post member
  obtain ⟨x, there, sent⟩ := List.mem_flatMap.mp member
  have target := own x there post (Option.mem_toList.mp sent)
  simpa [target] using elsewhere x there

/-- The requests of a loop for one of its deliveries. -/
theorem filter_posts {attemptOf : α → Attempt} {items : List α}
    (own : ∀ x ∈ items, ∀ post ∈ (attemptOf x).post, post.deliveryId = (attemptOf x).delivery.id)
    (distinct : (items.map (fun x => (attemptOf x).delivery.id)).Nodup) {x : α} (member : x ∈ items) :
    (items.flatMap (fun x => (attemptOf x).post.toList)).filter
      (fun p => p.deliveryId = (attemptOf x).delivery.id) = (attemptOf x).post.toList := by
  induction items with
  | nil => cases member
  | cons y rest ih =>
    rw [List.map_cons, List.nodup_cons] at distinct
    have own' : ∀ z ∈ rest, ∀ post ∈ (attemptOf z).post,
        post.deliveryId = (attemptOf z).delivery.id := fun z there => own z (by simp [there])
    rw [List.flatMap_cons, List.filter_append]
    rcases List.mem_cons.mp member with rfl | later
    · have others : ∀ z ∈ rest, (attemptOf z).delivery.id ≠ (attemptOf x).delivery.id := by
        intro z there same
        exact distinct.1 (List.mem_map.mpr ⟨z, there, same⟩)
      rw [filter_posts_none own' others, List.append_nil, List.filter_eq_self]
      intro post sent
      exact decide_eq_true (own x (by simp) post (Option.mem_toList.mp sent))
    · have other : (attemptOf y).delivery.id ≠ (attemptOf x).delivery.id := by
        intro same
        exact distinct.1 (List.mem_map.mpr ⟨x, later, same.symm⟩)
      have none : (attemptOf y).post.toList.filter
          (fun p => p.deliveryId = (attemptOf x).delivery.id) = [] := by
        rw [List.filter_eq_nil_iff]
        intro post sent
        have target := own y (by simp) post (Option.mem_toList.mp sent)
        simpa [target] using other
      rw [none, List.nil_append]
      exact ih own' distinct.2 later

end Loop

/-! ## New deliveries -/

/-- No row and no request has had the id. -/
def Fresh (s : WebhookStore) (id : Uuid) : Prop :=
  s.deliveries.get? id = none ∧ ∀ post ∈ s.posts, post.deliveryId ≠ id

section Deliver
variable {lib : WebhookLibrary} {net : Post → Exchange} {draw : Uuid → Draw} {eventType : String}
  {payload : Json}

theorem newDelivery_early (webhook : Webhook) (eventType : String) (payload : Json) (draw : Draw) :
    (newDelivery webhook eventType payload draw).currentAttempt < maxRetries := by
  change 1 < maxRetries
  decide

/-- The attempt an event comes to at a webhook. -/
def deliverAttempt (lib : WebhookLibrary) (net : Post → Exchange) (draw : Uuid → Draw)
    (eventType : String) (payload : Json) (webhook : Webhook) : Attempt :=
  let delivery := newDelivery webhook eventType payload (draw webhook.id)
  match requestOf lib webhook delivery with
  | .ok post => requested net webhook.id delivery post
  | .error _ => ⟨delivery, webhook.id, id, none⟩

@[simp] theorem deliverAttempt_id (webhook : Webhook) :
    (deliverAttempt lib net draw eventType payload webhook).delivery.id = (draw webhook.id).id := by
  unfold deliverAttempt
  dsimp only
  split
  · exact recordedDelivery_id _ _
  · rfl

@[simp] theorem deliverAttempt_webhookId (webhook : Webhook) :
    (deliverAttempt lib net draw eventType payload webhook).webhookId = webhook.id := by
  unfold deliverAttempt
  dsimp only
  split <;> rfl

theorem deliverAttempt_post (webhook : Webhook) :
    ∀ post ∈ (deliverAttempt lib net draw eventType payload webhook).post,
      post.deliveryId = (deliverAttempt lib net draw eventType payload webhook).delivery.id := by
  intro post sent
  rw [deliverAttempt_id]
  unfold deliverAttempt at sent
  dsimp only at sent
  split at sent
  · next request =>
    rw [← Option.some.inj sent]
    exact requestOf_deliveryId request
  · cases sent

theorem fresh_iff {s : WebhookStore} {id : Uuid} :
    Fresh s id ↔ id ∉ s.deliveries.rows.map (·.id) ∧ ¬ ∃ post ∈ s.posts, post.deliveryId = id := by
  unfold Fresh
  rw [Table.get?_eq_none_iff]
  simp

theorem deliverSingle_fresh (lib : WebhookLibrary) (net : Post → Exchange) (eventType : String)
    (payload : Json) {s : WebhookStore} {webhook : Webhook} (fresh : Fresh s (draw webhook.id).id) :
    ∃ deliveries, s.deliveries.insert (newDelivery webhook eventType payload (draw webhook.id)) =
        some deliveries ∧
      deliverSingle lib net draw eventType payload s webhook =
        send lib net { s with deliveries := deliveries } webhook
          (newDelivery webhook eventType payload (draw webhook.id)) := by
  obtain ⟨unused, unsent⟩ := fresh_iff.mp fresh
  have unsent : ¬ ∃ post ∈ s.posts,
      post.deliveryId = (newDelivery webhook eventType payload (draw webhook.id)).id := unsent
  obtain ⟨deliveries, inserted⟩ := (Table.insert_isSome_iff s.deliveries
    (newDelivery webhook eventType payload (draw webhook.id))).mpr unused
  exact ⟨deliveries, inserted, by simp only [deliverSingle, unsent, if_false, inserted]⟩

theorem deliverSingle_used {s : WebhookStore} {webhook : Webhook}
    (used : ¬ Fresh s (draw webhook.id).id) :
    ∃ failure, deliverSingle lib net draw eventType payload s webhook = (s, .error failure) := by
  rw [fresh_iff, not_and_or, not_not, not_not] at used
  unfold deliverSingle
  dsimp only
  rcases used with stored | sent
  · split
    · exact ⟨_, rfl⟩
    · have refused : s.deliveries.insert (newDelivery webhook eventType payload (draw webhook.id)) =
          none := dif_pos stored
      rw [refused]
      exact ⟨_, rfl⟩
  · rw [if_pos]
    · exact ⟨_, rfl⟩
    · exact sent

theorem deliverSingle_error {webhook : Webhook} (s : WebhookStore)
    (escapes : Escapes lib net webhook (newDelivery webhook eventType payload (draw webhook.id))) :
    (deliverSingle lib net draw eventType payload s webhook).2 ≠ .ok () := by
  unfold deliverSingle
  dsimp only
  split
  · simp
  · split
    · simp
    · exact send_error escapes (newDelivery_early webhook eventType payload _)

/-- The spec of the loop's body. -/
theorem deliverSingle_applied {s : WebhookStore} {webhook : Webhook}
    (fresh : Fresh s (draw webhook.id).id)
    (contained : ¬ Escapes lib net webhook (newDelivery webhook eventType payload (draw webhook.id))) :
    (deliverSingle lib net draw eventType payload s webhook).2 = .ok () ∧
      Applied (deliverAttempt lib net draw eventType payload webhook) s
        (deliverSingle lib net draw eventType payload s webhook).1 := by
  obtain ⟨deliveries, inserted, equal⟩ := deliverSingle_fresh lib net eventType payload fresh
  have rows := Table.get?_insert inserted
  have early := newDelivery_early webhook eventType payload (draw webhook.id)
  obtain ⟨post, request, ok, applied⟩ := send_applied
    (s := { s with deliveries := deliveries }) contained early (by rw [rows, if_pos rfl])
  rw [equal]
  refine ⟨ok, ?_⟩
  have attempt : deliverAttempt lib net draw eventType payload webhook =
      requested net webhook.id (newDelivery webhook eventType payload (draw webhook.id)) post := by
    simp only [deliverAttempt, request]
  rw [attempt]
  refine ⟨?_, applied.webhooks, applied.posts⟩
  intro id
  rw [applied.deliveries]
  dsimp only
  rw [rows]
  split
  · rfl
  · next other =>
    rw [if_neg]
    intro here
    exact other ((recordedDelivery_id _ _).trans here)

def ReadyToDeliver (draw : Uuid → Draw) (rest : List Webhook) (s : WebhookStore) : Prop :=
  (rest.map (fun w => (draw w.id).id)).Nodup ∧ ∀ w ∈ rest, Fresh s (draw w.id).id

theorem ReadyToDeliver.next {s t : WebhookStore} {webhook : Webhook} {rest : List Webhook}
    (ready : ReadyToDeliver draw (webhook :: rest) s)
    (applied : Applied (deliverAttempt lib net draw eventType payload webhook) s t) :
    ReadyToDeliver draw rest t := by
  obtain ⟨distinct, fresh⟩ := ready
  rw [List.map_cons, List.nodup_cons] at distinct
  refine ⟨distinct.2, fun w member => ?_⟩
  have apart : (draw webhook.id).id ≠ (draw w.id).id :=
    fun same => distinct.1 (List.mem_map.mpr ⟨w, member, same.symm⟩)
  obtain ⟨unused, unsent⟩ := fresh w (by simp [member])
  constructor
  · rw [applied.deliveries, deliverAttempt_id, if_neg apart, unused]
  · intro post sent
    rw [applied.posts, List.mem_append, Option.mem_toList] at sent
    rcases sent with old | new
    · exact unsent post old
    · rw [deliverAttempt_post webhook post new, deliverAttempt_id]
      exact apart

/-- An event whose deliveries do not escape. -/
theorem deliver_applied {s : WebhookStore} {webhooks : List Webhook}
    (ready : ReadyToDeliver draw webhooks s)
    (contained : ∀ w ∈ webhooks,
      ¬ Escapes lib net w (newDelivery w eventType payload (draw w.id))) :
    (Loops.untilRaised (deliverSingle lib net draw eventType payload) s webhooks).2 = .ok () ∧
      AllApplied (deliverAttempt lib net draw eventType payload) webhooks s
        (Loops.untilRaised (deliverSingle lib net draw eventType payload) s webhooks).1 := by
  have turns : ∀ t w rest,
      (ReadyToDeliver draw (w :: rest) t ∧ ∀ v ∈ w :: rest,
        ¬ Escapes lib net v (newDelivery v eventType payload (draw v.id))) →
      (deliverSingle lib net draw eventType payload t w).2 = .ok () ∧
        Applied (deliverAttempt lib net draw eventType payload w) t
          (deliverSingle lib net draw eventType payload t w).1 ∧
        ReadyToDeliver draw rest (deliverSingle lib net draw eventType payload t w).1 ∧
          ∀ v ∈ rest, ¬ Escapes lib net v (newDelivery v eventType payload (draw v.id)) := by
    intro t w rest ⟨ready, fine⟩
    obtain ⟨ok, applied⟩ := deliverSingle_applied (ready.2 w (by simp)) (fine w (by simp))
    exact ⟨ok, applied, ready.next applied, fun v member => fine v (by simp [member])⟩
  have distinct : (webhooks.map
      (fun w => (deliverAttempt lib net draw eventType payload w).delivery.id)).Nodup := by
    simpa using ready.1
  exact after_loop (fun rest t => ReadyToDeliver draw rest t ∧
      ∀ v ∈ rest, ¬ Escapes lib net v (newDelivery v eventType payload (draw v.id))) turns s webhooks
    distinct ⟨ready, contained⟩

end Deliver

/-! ## Retries -/

section Retry
variable {lib : WebhookLibrary} {net : Post → Exchange}

/-- The webhooks differ in nothing but what attempts change. -/
def SameTargets (s t : WebhookStore) : Prop :=
  ∀ id, (t.webhooks.get? id).map target = (s.webhooks.get? id).map target

theorem requestOf_target (webhook : Webhook) (delivery : WebhookDelivery) :
    requestOf lib (target webhook) delivery = requestOf lib webhook delivery := rfl

theorem liveWebhook_target {s t : WebhookStore} (same : SameTargets s t)
    (delivery : WebhookDelivery) :
    (liveWebhook t delivery).map target = (liveWebhook s delivery).map target := by
  have targets := same delivery.webhookId
  unfold liveWebhook
  cases here : s.webhooks.get? delivery.webhookId with
  | none =>
    rw [here, Option.map_none, Option.map_eq_none_iff] at targets
    rw [targets]
  | some w =>
    rw [here, Option.map_some, Option.map_eq_some_iff] at targets
    obtain ⟨w', there, equal⟩ := targets
    have deleted : (target w').isDeleted = (target w).isDeleted := by rw [equal]
    have active : (target w').isActive = (target w).isActive := by rw [equal]
    have flags : w'.isDeleted = w.isDeleted ∧ w'.isActive = w.isActive := ⟨deleted, active⟩
    rw [there]
    by_cases live : w.isDeleted = false ∧ w.isActive = true
    · simp [Option.filter, flags, live, equal]
    · simp [Option.filter, flags, live]

/-- The attempt a retry comes to, by the webhooks of this store. -/
def retryAttempt (lib : WebhookLibrary) (net : Post → Exchange) (s : WebhookStore)
    (delivery : WebhookDelivery) : Attempt :=
  match liveWebhook s delivery with
  | none => abandoned delivery
  | some webhook =>
    match requestOf lib webhook delivery with
    | .ok post => requested net delivery.webhookId delivery post
    | .error _ => abandoned delivery

/-- The retry of the delivery ends in an exception that the loop does not catch. -/
def RetryEscapes (lib : WebhookLibrary) (net : Post → Exchange) (s : WebhookStore)
    (delivery : WebhookDelivery) : Prop :=
  ∃ webhook ∈ liveWebhook s delivery, Escapes lib net webhook delivery

/-- The retry makes a request, or tries to, and does not succeed. -/
def RetryFails (lib : WebhookLibrary) (net : Post → Exchange) (s : WebhookStore)
    (delivery : WebhookDelivery) : Prop :=
  ∃ webhook ∈ liveWebhook s delivery, ¬ Succeeds lib net webhook delivery

instance (lib : WebhookLibrary) (net : Post → Exchange) (s : WebhookStore) :
    DecidablePred (RetryFails lib net s) := fun delivery =>
  inferInstanceAs (Decidable (∃ webhook ∈ liveWebhook s delivery,
    ¬ Succeeds lib net webhook delivery))

@[simp] theorem retryAttempt_id (s : WebhookStore) (delivery : WebhookDelivery) :
    (retryAttempt lib net s delivery).delivery.id = delivery.id := by
  unfold retryAttempt
  split
  · rfl
  · split
    · exact recordedDelivery_id _ _
    · rfl

@[simp] theorem retryAttempt_webhookId (s : WebhookStore) (delivery : WebhookDelivery) :
    (retryAttempt lib net s delivery).webhookId = delivery.webhookId := by
  unfold retryAttempt
  split
  · rfl
  · split <;> rfl

theorem retryAttempt_post (s : WebhookStore) (delivery : WebhookDelivery) :
    ∀ post ∈ (retryAttempt lib net s delivery).post,
      post.deliveryId = (retryAttempt lib net s delivery).delivery.id := by
  intro post sent
  rw [retryAttempt_id]
  unfold retryAttempt at sent
  split at sent
  · cases sent
  · split at sent
    · next request =>
      rw [← Option.some.inj sent]
      exact requestOf_deliveryId request
    · cases sent

theorem target_onWebhook (s : WebhookStore) (delivery : WebhookDelivery) (w : Webhook) :
    target ((retryAttempt lib net s delivery).onWebhook w) = target w := by
  unfold retryAttempt
  split
  · rfl
  · split
    · exact target_recordedWebhook _ w
    · rfl

theorem Applied.sameTargets {s t : WebhookStore} {attempt : Attempt}
    (applied : Applied attempt s t) (kept : ∀ w, target (attempt.onWebhook w) = target w) :
    SameTargets s t := by
  intro id
  rw [applied.webhooks, Option.map_map]
  congr 1
  funext w
  by_cases here : attempt.webhookId = id <;> simp [here, kept]

theorem retryDelivery_error {s t : WebhookStore} {delivery : WebhookDelivery}
    (same : SameTargets s t) (escapes : RetryEscapes lib net s delivery)
    (early : delivery.currentAttempt < maxRetries) :
    (retryDelivery lib net t delivery).2 ≠ .ok () := by
  obtain ⟨webhook, live, uncaught⟩ := escapes
  have targets := liveWebhook_target same delivery
  rw [live, Option.map_some, Option.map_eq_some_iff] at targets
  obtain ⟨webhook', live', equal⟩ := targets
  unfold retryDelivery
  rw [live']
  refine send_error ?_ early
  unfold Escapes
  rw [← requestOf_target, equal, requestOf_target]
  exact uncaught

/-- The spec of a retry, in a store whose webhooks have the targets of `s`. -/
theorem retryDelivery_applied {s t : WebhookStore} {delivery : WebhookDelivery}
    (same : SameTargets s t) (contained : ¬ RetryEscapes lib net s delivery)
    (early : delivery.currentAttempt < maxRetries)
    (stored : t.deliveries.get? delivery.id = some delivery) :
    (retryDelivery lib net t delivery).2 = .ok () ∧
      Applied (retryAttempt lib net s delivery) t (retryDelivery lib net t delivery).1 := by
  have targets := liveWebhook_target same delivery
  unfold retryDelivery retryAttempt
  cases live : liveWebhook s delivery with
  | none =>
    rw [live, Option.map_none, Option.map_eq_none_iff] at targets
    rw [targets]
    refine ⟨rfl, ?_, ?_, (List.append_nil _).symm⟩
    · intro id
      refine get?_write ?_ stored id
      exact fun _ => rfl
    · intro id
      have kept : (fun w : Webhook => if delivery.webhookId = id then w else w) = fun w => w :=
        funext (fun _ => ite_self _)
      change t.webhooks.get? id =
        (t.webhooks.get? id).map (fun w => if delivery.webhookId = id then w else w)
      rw [kept, Option.map_id']
  | some webhook =>
    rw [live, Option.map_some, Option.map_eq_some_iff] at targets
    obtain ⟨webhook', live', equal⟩ := targets
    have asked : requestOf lib webhook' delivery = requestOf lib webhook delivery := by
      rw [← requestOf_target, equal, requestOf_target]
    have contained' : ¬ Escapes lib net webhook' delivery := by
      intro uncaught
      refine contained ⟨webhook, live, ?_⟩
      unfold Escapes
      rw [← asked]
      exact uncaught
    have owner : webhook'.id = delivery.webhookId := by
      unfold liveWebhook at live'
      exact ((Table.get?_eq_some_iff _ _ _).mp (Option.filter_eq_some_iff.mp live').1).2
    obtain ⟨post, request, ok, applied⟩ := send_applied contained' early stored
    rw [live']
    rw [owner] at applied
    simp only [← asked, request]
    exact ⟨ok, applied⟩

/-- The rows of the batch are stored as they were read, and no webhook has
changed but for its counter and its last delivery. -/
def ReadyToRetry (s : WebhookStore) (rest : List WebhookDelivery) (t : WebhookStore) : Prop :=
  SameTargets s t ∧ (rest.map (·.id)).Nodup ∧
    ∀ delivery ∈ rest, t.deliveries.get? delivery.id = some delivery

theorem ReadyToRetry.next {s t u : WebhookStore} {delivery : WebhookDelivery}
    {rest : List WebhookDelivery} (ready : ReadyToRetry s (delivery :: rest) t)
    (applied : Applied (retryAttempt lib net s delivery) t u) : ReadyToRetry s rest u := by
  obtain ⟨same, distinct, stored⟩ := ready
  rw [List.map_cons, List.nodup_cons] at distinct
  refine ⟨?_, distinct.2, ?_⟩
  · intro id
    rw [applied.sameTargets (target_onWebhook s delivery) id, same id]
  · intro other member
    have apart : delivery.id ≠ other.id :=
      fun equal => distinct.1 (equal ▸ List.mem_map_of_mem member)
    rw [applied.deliveries, retryAttempt_id, if_neg apart]
    exact stored other (by simp [member])

/-- A batch in which nothing escapes. -/
theorem retry_applied {s : WebhookStore} {batch : List WebhookDelivery}
    (ready : ReadyToRetry s batch s)
    (early : ∀ delivery ∈ batch, delivery.currentAttempt < maxRetries)
    (contained : ∀ delivery ∈ batch, ¬ RetryEscapes lib net s delivery) :
    (retryPendingDeliveries lib net s batch).2 = .ok () ∧
      AllApplied (retryAttempt lib net s) batch s (retryPendingDeliveries lib net s batch).1 := by
  have turns : ∀ t delivery rest,
      (ReadyToRetry s (delivery :: rest) t ∧ ∀ d ∈ delivery :: rest,
        d.currentAttempt < maxRetries ∧ ¬ RetryEscapes lib net s d) →
      (retryDelivery lib net t delivery).2 = .ok () ∧
        Applied (retryAttempt lib net s delivery) t (retryDelivery lib net t delivery).1 ∧
        ReadyToRetry s rest (retryDelivery lib net t delivery).1 ∧
          ∀ d ∈ rest, d.currentAttempt < maxRetries ∧ ¬ RetryEscapes lib net s d := by
    intro t delivery rest ⟨ready, fine⟩
    have here := fine delivery (by simp)
    obtain ⟨ok, applied⟩ := retryDelivery_applied ready.1 here.2 here.1 (ready.2.2 delivery (by simp))
    exact ⟨ok, applied, ready.next applied, fun d member => fine d (by simp [member])⟩
  have distinct : (batch.map (fun d => (retryAttempt lib net s d).delivery.id)).Nodup := by
    simpa using ready.2.1
  exact after_loop (fun rest t => ReadyToRetry s rest t ∧
      ∀ d ∈ rest, d.currentAttempt < maxRetries ∧ ¬ RetryEscapes lib net s d) turns s batch distinct
    ⟨ready, fun d member => ⟨early d member, contained d member⟩⟩

/-- The rows a query has just answered with. -/
theorem readyToRetry_of_answer {s : WebhookStore} {now : Instant} {ids : List Uuid}
    (answer : DueAnswer s now ids) : ReadyToRetry s (dueBatch s ids) s := by
  have named : ∀ delivery ∈ dueBatch s ids, s.deliveries.get? delivery.id = some delivery := by
    intro delivery member
    obtain ⟨id, _, found⟩ := List.mem_filterMap.mp member
    have here := ((Table.get?_eq_some_iff _ _ _).mp found).2
    rw [here]
    exact found
  refine ⟨fun _ => rfl, ?_, named⟩
  have same : (dueBatch s ids).map (·.id) = ids := by
    unfold dueBatch
    have due := answer.due
    clear answer named
    induction ids with
    | nil => rfl
    | cons id rest ih =>
      obtain ⟨delivery, found, _⟩ := due id (by simp)
      have here := ((Table.get?_eq_some_iff _ _ _).mp found).2
      rw [List.filterMap_cons_some found, List.map_cons, here,
        ih (fun other member => due other (by simp [member]))]
  rw [same]
  exact answer.distinct

theorem due_of_answer {s : WebhookStore} {now : Instant} {ids : List Uuid}
    (answer : DueAnswer s now ids) {delivery : WebhookDelivery}
    (member : delivery ∈ dueBatch s ids) : Due now delivery := by
  obtain ⟨id, listed, found⟩ := List.mem_filterMap.mp member
  obtain ⟨other, there, due⟩ := answer.due id listed
  have same : other = delivery := Option.some.inj (there.symm.trans found)
  exact same ▸ due

theorem early_of_due {now : Instant} {delivery : WebhookDelivery} (due : Due now delivery) :
    delivery.currentAttempt < maxRetries := by
  have below := due.2.2
  unfold WebhookDelivery.currentAttempt
  split
  · decide
  · exact below

end Retry

end Reliastra.Source.Webhooks
