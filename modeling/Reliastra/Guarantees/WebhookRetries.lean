import Reliastra.Library.Run
import Reliastra.Source.Webhooks.Attempts

/-!
# Does every delivery come to an end?

`_handle_delivery_failure` counts a failed attempt and plans the next one while
the count is below `_MAX_RETRIES`; the query for retries asks for a count below
`_MAX_RETRIES` as well. The fourth failure leaves a count of five: the delivery
is neither retried nor given up, and a fifth attempt is never made.
`deliveries_end_iff` says that nothing else strands a delivery, where no
exception takes back the record of attempts.
-/

namespace Reliastra.Guarantees.WebhookRetries

open Reliastra.Library Source Source.Webhooks

/-! ## The property -/

/-- The HTTP attempts for a delivery. -/
def attempts (s : WebhookStore) (deliveryId : Uuid) : Nat :=
  s.posts.countP (fun post => post.deliveryId = deliveryId)

/-- What is claimed of a delivery in a committed state. -/
structure Progresses (s : WebhookStore) (delivery : WebhookDelivery) : Prop where
  settled : delivery.status = .success ∨ delivery.status = .failedPermanently ∨
    delivery.status = .retrying ∧
      ∃ retryAt ∈ delivery.nextRetryAt, ∀ now, retryAt ≤ now → Due now delivery
  bounded : attempts s delivery.id ≤ maxRetries
  usedUp : attempts s delivery.id = maxRetries →
    delivery.status = .success ∨ delivery.status = .failedPermanently
  selectable : delivery.status = .retrying → ∃ now, Due now delivery

def AllProgress (s : WebhookStore) : Prop := ∀ delivery ∈ s.deliveries.rows, Progresses s delivery

/-- No retry with a count of four fails. -/
def LastSucceeds (lib : WebhookLibrary) (s : WebhookStore) : WebhookStep → Prop
  | .retry now ids net => DueAnswer s now ids →
    ∀ delivery ∈ dueBatch s ids, delivery.attemptCount + 1 = maxRetries →
      ¬ RetryFails lib net s delivery
  | .writeWebhook _ | .deliver _ _ _ _ _ => True

/-- No retry ends in an exception that the loop does not catch. -/
def RetriesCaught (lib : WebhookLibrary) (s : WebhookStore) : WebhookStep → Prop
  | .retry now ids net => DueAnswer s now ids →
    ∀ delivery ∈ dueBatch s ids, ¬ RetryEscapes lib net s delivery
  | .writeWebhook _ | .deliver _ _ _ _ _ => True

/-! ## The invariant -/

/-- A delivery after this many HTTP attempts. -/
structure Counted (made : Nat) (delivery : WebhookDelivery) : Prop where
  positive : 1 ≤ delivery.attemptCount
  early : delivery.attemptCount < maxRetries
  covered : made ≤ delivery.attemptCount
  state : delivery.status = .success ∨ delivery.status = .failedPermanently ∨
    delivery.status = .retrying ∧ delivery.nextRetryAt ≠ none ∧ made < delivery.attemptCount

def AllCounted (s : WebhookStore) : Prop :=
  ∀ delivery ∈ s.deliveries.rows, Counted (attempts s delivery.id) delivery

theorem progresses_of_counted {s : WebhookStore} {delivery : WebhookDelivery}
    (counted : Counted (attempts s delivery.id) delivery) : Progresses s delivery := by
  have early := counted.early
  have covered := counted.covered
  have due (waiting : delivery.status = .retrying) (planned : delivery.nextRetryAt ≠ none) :
      ∃ retryAt ∈ delivery.nextRetryAt, ∀ now, retryAt ≤ now → Due now delivery := by
    obtain ⟨retryAt, found⟩ := Option.ne_none_iff_exists'.mp planned
    exact ⟨retryAt, found, fun now reached => ⟨waiting, ⟨retryAt, found, reached⟩, early⟩⟩
  refine ⟨?_, by omega, by omega, ?_⟩
  · rcases counted.state with done | ended | ⟨waiting, planned, _⟩
    · exact .inl done
    · exact .inr (.inl ended)
    · exact .inr (.inr ⟨waiting, due waiting planned⟩)
  · intro waiting
    rcases counted.state with done | ended | ⟨_, planned, _⟩
    · rw [waiting] at done
      cases done
    · rw [waiting] at ended
      cases ended
    · obtain ⟨retryAt, _, selected⟩ := due waiting planned
      exact ⟨retryAt, selected retryAt le_rfl⟩

theorem currentAttempt_of_positive {delivery : WebhookDelivery}
    (positive : 1 ≤ delivery.attemptCount) : delivery.currentAttempt = delivery.attemptCount := by
  unfold WebhookDelivery.currentAttempt
  split <;> omega

/-- One more attempt, that succeeds or is not the last. -/
theorem counted_recorded {exchange : Exchange} {delivery : WebhookDelivery} {made : Nat}
    (caught : ¬ Uncaught exchange.result) (positive : 1 ≤ delivery.attemptCount)
    (before : made < delivery.attemptCount)
    (early : delivery.attemptCount < maxRetries)
    (last : delivery.attemptCount + 1 = maxRetries → Delivered exchange.result) :
    Counted (made + 1) (recordedDelivery exchange delivery) := by
  by_cases delivered : Delivered exchange.result
  · obtain ⟨success, count⟩ := recordedDelivery_of_delivered delivery delivered
    refine ⟨?_, ?_, ?_, .inl success⟩ <;> rw [count] <;> omega
  · have notLast : delivery.attemptCount + 1 ≠ maxRetries := fun same => delivered (last same)
    obtain ⟨statusCode, responseBody, recorded⟩ :=
      recordedDelivery_of_fails delivery caught delivered
    have current := currentAttempt_of_positive positive
    rw [recorded]
    refine ⟨?_, ?_, ?_, .inr (.inr ⟨rfl, Option.some_ne_none _, ?_⟩)⟩ <;>
      simp only [retried, current] <;> omega

/-! ## One attempt -/

variable {lib : WebhookLibrary} {net : Post → Exchange} {s t : WebhookStore}

theorem attempts_of_applied {attempt : Attempt} (applied : Applied attempt s t)
    (own : ∀ post ∈ attempt.post, post.deliveryId = attempt.delivery.id) (deliveryId : Uuid) :
    attempts t deliveryId = attempts s deliveryId +
      if attempt.delivery.id = deliveryId then attempt.post.toList.length else 0 := by
  unfold attempts
  rw [applied.posts, List.countP_append]
  congr 1
  cases sent : attempt.post with
  | none => simp
  | some post =>
    have target := own post sent
    by_cases here : attempt.delivery.id = deliveryId <;> simp [target, here]

/-- The attempt's delivery is counted, and the others are as they were. -/
theorem allCounted_of_applied {attempt : Attempt} (applied : Applied attempt s t)
    (own : ∀ post ∈ attempt.post, post.deliveryId = attempt.delivery.id) (counted : AllCounted s)
    (mine : Counted (attempts s attempt.delivery.id + attempt.post.toList.length)
      attempt.delivery) : AllCounted t := by
  intro delivery stored
  have found := (Table.get?_eq_some_iff t.deliveries delivery.id delivery).mpr ⟨stored, rfl⟩
  rw [applied.deliveries] at found
  rw [attempts_of_applied applied own]
  by_cases here : attempt.delivery.id = delivery.id
  · rw [if_pos here] at found ⊢
    rw [← here, ← Option.some.inj found]
    exact mine
  · rw [if_neg here] at found ⊢
    exact counted delivery ((Table.get?_eq_some_iff _ _ _).mp found).1

/-! ## Delivering an event -/

section Deliver
variable {draw : Uuid → Draw} {eventType : String} {payload : Json}

/-- The deliveries there were have the attempts they had. -/
def AttemptsKept (s t : WebhookStore) : Prop :=
  ∀ delivery ∈ s.deliveries.rows, attempts t delivery.id = attempts s delivery.id

/-- Between two webhooks of an event. -/
structure Delivering (s t : WebhookStore) : Prop where
  counted : AllCounted t
  stored : ∀ delivery ∈ s.deliveries.rows, delivery ∈ t.deliveries.rows
  kept : AttemptsKept s t

theorem attempts_eq_zero {id : Uuid} (fresh : Fresh s id) : attempts s id = 0 := by
  unfold attempts
  rw [List.countP_eq_zero]
  intro post sent
  simpa using fresh.2 post sent

theorem attempts_of_own {sent : List Post} {id other : Uuid} (posts : t.posts = s.posts ++ sent)
    (own : ∀ post ∈ sent, post.deliveryId = id) (apart : id ≠ other) :
    attempts t other = attempts s other := by
  have none : sent.countP (fun post => post.deliveryId = other) = 0 := by
    rw [List.countP_eq_zero]
    intro post member
    simpa [own post member] using apart
  unfold attempts
  rw [posts, List.countP_append, none, Nat.add_zero]

/-- A turn makes requests for its own delivery, raising or not. -/
theorem deliverSingle_kept (webhook : Webhook) (delivering : Delivering s t) :
    AttemptsKept s (deliverSingle lib net draw eventType payload t webhook).1 := by
  by_cases fresh : Fresh t (draw webhook.id).id
  · obtain ⟨deliveries, _, equal⟩ := deliverSingle_fresh lib net eventType payload fresh
    obtain ⟨sent, posts, own⟩ := send_posts lib net { t with deliveries := deliveries } webhook
      (newDelivery webhook eventType payload (draw webhook.id))
    rw [equal]
    intro delivery stored
    have apart : (draw webhook.id).id ≠ delivery.id := by
      intro same
      have unused := (Table.get?_eq_none_iff _ _).mp fresh.1
      exact unused delivery (delivering.stored delivery stored) same.symm
    have same : attempts _ delivery.id = attempts t delivery.id := attempts_of_own posts own apart
    rw [same]
    exact delivering.kept delivery stored
  · have raised : ∃ failure, deliverSingle lib net draw eventType payload t webhook =
        (t, .error failure) := deliverSingle_used fresh
    obtain ⟨failure, equal⟩ := raised
    rw [equal]
    exact delivering.kept

theorem counted_new (webhook : Webhook) {post : Post} {delivery : WebhookDelivery}
    (caught : ¬ Uncaught (net post).result) (first : delivery.attemptCount = 1) :
    Counted 1 (requested net webhook.id delivery post).delivery :=
  counted_recorded caught (by omega) (by omega) (by rw [first]; decide)
    (fun last => by rw [first] at last; cases last)

theorem deliverSingle_delivering (webhook : Webhook) (delivering : Delivering s t)
    (ok : (deliverSingle lib net draw eventType payload t webhook).2 = .ok ()) :
    Delivering s (deliverSingle lib net draw eventType payload t webhook).1 := by
  have fresh : Fresh t (draw webhook.id).id := by
    by_contra used
    have raised : ∃ failure, deliverSingle lib net draw eventType payload t webhook =
        (t, .error failure) := deliverSingle_used used
    obtain ⟨failure, equal⟩ := raised
    rw [equal] at ok
    cases ok
  have contained : ¬ Escapes lib net webhook
      (newDelivery webhook eventType payload (draw webhook.id)) :=
    fun escapes => deliverSingle_error t escapes ok
  obtain ⟨_, applied⟩ := deliverSingle_applied fresh contained
  obtain ⟨post, request, caught⟩ := contained_request contained
  have attempt : deliverAttempt lib net draw eventType payload webhook =
      requested net webhook.id (newDelivery webhook eventType payload (draw webhook.id)) post := by
    simp only [deliverAttempt, request]
  refine ⟨?_, ?_, deliverSingle_kept webhook delivering⟩
  · refine allCounted_of_applied applied (deliverAttempt_post webhook) delivering.counted ?_
    rw [deliverAttempt_id, attempts_eq_zero fresh, attempt]
    exact counted_new webhook caught rfl
  · intro delivery stored
    have before := delivering.stored delivery stored
    have apart : (draw webhook.id).id ≠ delivery.id := by
      intro same
      exact (Table.get?_eq_none_iff _ _).mp fresh.1 delivery before same.symm
    have found := (Table.get?_eq_some_iff t.deliveries delivery.id delivery).mpr ⟨before, rfl⟩
    have after := applied.deliveries delivery.id
    rw [deliverAttempt_id, if_neg apart, found] at after
    exact ((Table.get?_eq_some_iff _ _ _).mp after).1

/-- A transaction that is rolled back has made no requests for the deliveries
there were, and one that commits counts its own. -/
theorem deliver_counted (webhooks : List Webhook) (counted : AllCounted s) :
    AllCounted (endSession s
      (Loops.untilRaised (deliverSingle lib net draw eventType payload) s webhooks)) := by
  have initial : Delivering s s := ⟨counted, fun _ stored => stored, fun _ _ => rfl⟩
  have turns : ∀ t w, Delivering s t →
      AttemptsKept s (deliverSingle lib net draw eventType payload t w).1 ∧
        ((deliverSingle lib net draw eventType payload t w).2 = .ok () →
          Delivering s (deliverSingle lib net draw eventType payload t w).1) :=
    fun t w delivering =>
      ⟨deliverSingle_kept w delivering, deliverSingle_delivering w delivering⟩
  have ended := Loops.untilRaised_invariant (fun t delivering => delivering.kept) turns s webhooks
    initial
  generalize Loops.untilRaised (deliverSingle lib net draw eventType payload) s webhooks = flushed
    at ended ⊢
  obtain ⟨after, outcome⟩ := flushed
  cases outcome with
  | ok done => exact (ended.2 rfl).counted
  | error failure =>
    intro delivery stored
    have kept : attempts after delivery.id = attempts s delivery.id := ended.1 delivery stored
    change Counted (attempts after delivery.id) delivery
    rw [kept]
    exact counted delivery stored

end Deliver

/-! ## Retrying a batch -/

/-- One retry that does not escape, and is not a last failure. -/
theorem counted_retry {delivery : WebhookDelivery} {made : Nat} (counted : Counted made delivery)
    (waiting : delivery.status = .retrying) (contained : ¬ RetryEscapes lib net s delivery)
    (last : delivery.attemptCount + 1 = maxRetries → ¬ RetryFails lib net s delivery) :
    Counted (made + (retryAttempt lib net s delivery).post.toList.length)
      (retryAttempt lib net s delivery).delivery := by
  have before : made < delivery.attemptCount := by
    rcases counted.state with done | ended | ⟨_, _, before⟩
    · rw [waiting] at done
      cases done
    · rw [waiting] at ended
      cases ended
    · exact before
  unfold retryAttempt
  cases live : liveWebhook s delivery with
  | none => exact ⟨counted.positive, counted.early, counted.covered, .inr (.inl rfl)⟩
  | some webhook =>
    have caught : ¬ Escapes lib net webhook delivery :=
      fun escapes => contained ⟨webhook, live, escapes⟩
    obtain ⟨post, request, caught⟩ := contained_request caught
    simp only [request]
    refine counted_recorded caught counted.positive before counted.early (fun isLast => ?_)
    by_contra undelivered
    refine last isLast ⟨webhook, live, ?_⟩
    rw [succeeds_iff request]
    exact undelivered

theorem retry_counted {now : Instant} {ids : List Uuid} (answer : DueAnswer s now ids)
    (counted : AllCounted s)
    (contained : ∀ delivery ∈ dueBatch s ids, ¬ RetryEscapes lib net s delivery)
    (last : ∀ delivery ∈ dueBatch s ids, delivery.attemptCount + 1 = maxRetries →
      ¬ RetryFails lib net s delivery) :
    AllCounted (endSession s (retryPendingDeliveries lib net s (dueBatch s ids))) := by
  have turns : ∀ t delivery rest,
      (ReadyToRetry s (delivery :: rest) t ∧ AllCounted t ∧
        ∀ d ∈ delivery :: rest, d ∈ dueBatch s ids) →
      (retryDelivery lib net t delivery).2 = .ok () ∧
        ReadyToRetry s rest (retryDelivery lib net t delivery).1 ∧
          AllCounted (retryDelivery lib net t delivery).1 ∧ ∀ d ∈ rest, d ∈ dueBatch s ids := by
    intro t delivery rest ⟨ready, counted, listed⟩
    have member := listed delivery (by simp)
    have due := due_of_answer answer member
    have stored := ready.2.2 delivery (by simp)
    obtain ⟨ok, applied⟩ := retryDelivery_applied ready.1 (contained delivery member)
      (early_of_due due) stored
    refine ⟨ok, ready.next applied, ?_, fun d there => listed d (by simp [there])⟩
    refine allCounted_of_applied applied (retryAttempt_post s delivery) counted ?_
    rw [retryAttempt_id]
    exact counted_retry (counted delivery ((Table.get?_eq_some_iff _ _ _).mp stored).1) due.1
      (contained delivery member) (last delivery member)
  obtain ⟨ok, _, kept, _⟩ := Loops.untilRaised_ok
    (fun rest t => ReadyToRetry s rest t ∧ AllCounted t ∧ ∀ d ∈ rest, d ∈ dueBatch s ids)
    turns s (dueBatch s ids) ⟨readyToRetry_of_answer answer, counted, fun _ member => member⟩
  unfold retryPendingDeliveries
  rw [endSession_ok ok]
  exact kept

/-- A last attempt that fails leaves a count the query does not ask for. -/
theorem stranded {now : Instant} {ids : List Uuid} (answer : DueAnswer s now ids)
    (contained : ∀ delivery ∈ dueBatch s ids, ¬ RetryEscapes lib net s delivery)
    {delivery : WebhookDelivery} (member : delivery ∈ dueBatch s ids)
    (isLast : delivery.attemptCount + 1 = maxRetries) (fails : RetryFails lib net s delivery) :
    ¬ AllProgress (endSession s (retryPendingDeliveries lib net s (dueBatch s ids))) := by
  have early : ∀ d ∈ dueBatch s ids, d.currentAttempt < maxRetries :=
    fun d there => early_of_due (due_of_answer answer there)
  obtain ⟨ok, applied⟩ := retry_applied (readyToRetry_of_answer answer) early contained
  rw [endSession_ok ok]
  intro progress
  obtain ⟨webhook, live, unsuccessful⟩ := fails
  have live : liveWebhook s delivery = some webhook := live
  have caught : ¬ Escapes lib net webhook delivery :=
    fun escapes => contained delivery member ⟨webhook, live, escapes⟩
  obtain ⟨post, request, caught⟩ := contained_request caught
  rw [succeeds_iff request] at unsuccessful
  obtain ⟨statusCode, responseBody, recorded⟩ :=
    recordedDelivery_of_fails delivery caught unsuccessful
  have written := applied.written delivery member
  have row : (retryAttempt lib net s delivery).delivery =
      retried delivery statusCode responseBody (net post).now := by
    simp only [retryAttempt, live, request, requested, recorded]
  rw [row] at written
  obtain ⟨later, due⟩ := (progress _ ((Table.get?_eq_some_iff _ _ _).mp written).1).selectable rfl
  have below : delivery.currentAttempt + 1 < maxRetries := due.2.2
  have current : delivery.currentAttempt = delivery.attemptCount := by
    unfold WebhookDelivery.currentAttempt
    split
    · next zero =>
      rw [zero] at isLast
      cases isLast
    · rfl
  omega

/-! ## Runs -/

/-- No delivery was made yet. -/
def noDeliveries (webhooks : Table Webhook.id) : WebhookStore := ⟨webhooks, .empty, []⟩

theorem writeWebhook_deliveries (s : WebhookStore) (webhook : Webhook) :
    (writeWebhook s webhook).deliveries = s.deliveries ∧ (writeWebhook s webhook).posts = s.posts := by
  unfold writeWebhook
  split <;> exact ⟨rfl, rfl⟩

variable {order : OrderBy Webhook.createdAt}

theorem step_counted (s : WebhookStore) (step : WebhookStep) (counted : AllCounted s)
    (caught : RetriesCaught lib s step) (last : LastSucceeds lib s step) :
    AllCounted (webhookStep lib order s step) := by
  cases step with
  | writeWebhook webhook =>
    obtain ⟨deliveries, posts⟩ := writeWebhook_deliveries s webhook
    intro delivery stored
    unfold webhookStep attempts at *
    rw [deliveries] at stored
    rw [posts]
    exact counted delivery stored
  | deliver orgId eventType payload draw net => exact deliver_counted _ counted
  | retry now ids net =>
    unfold webhookStep
    dsimp only
    split
    · next answer => exact retry_counted answer counted (caught answer) (last answer)
    · exact counted

theorem step_strands (s : WebhookStore) (step : WebhookStep) (caught : RetriesCaught lib s step)
    (fails : ¬ LastSucceeds lib s step) : ¬ AllProgress (webhookStep lib order s step) := by
  cases step with
  | writeWebhook webhook => exact absurd trivial fails
  | deliver orgId eventType payload draw net => exact absurd trivial fails
  | retry now ids net =>
    unfold LastSucceeds at fails
    push Not at fails
    obtain ⟨answer, delivery, member, isLast, fails⟩ := fails
    unfold webhookStep
    dsimp only
    rw [if_pos answer]
    exact stranded answer (caught answer) member isLast fails

/-- Whatever comes of the attempts, as long as no retry ends in an exception the
loop does not catch: every delivery is settled or will be selected again, in
every committed state, exactly when no fourth attempt fails. -/
theorem deliveries_end_iff (lib : WebhookLibrary) (order : OrderBy Webhook.createdAt)
    (webhooks : Table Webhook.id) (run : List WebhookStep)
    (caught : Run.AllSteps (webhookStep lib order) (RetriesCaught lib) (noDeliveries webhooks) run) :
    (∀ before after, run = before ++ after →
        AllProgress (Run.exec (webhookStep lib order) (noDeliveries webhooks) before)) ↔
      Run.AllSteps (webhookStep lib order) (LastSucceeds lib) (noDeliveries webhooks) run := by
  have sound : ∀ s, AllCounted s → AllProgress s :=
    fun s counted delivery stored => progresses_of_counted (counted delivery stored)
  have initial : AllCounted (noDeliveries webhooks) := by
    intro delivery stored
    cases stored
  exact Run.forall_states_iff_allSteps_within sound step_counted
    (fun s step _ inside fails => step_strands s step inside fails) _ run initial caught

/-! ## A host that is down -/

def downLibrary : WebhookLibrary where
  dumps _ := "\x7b\"event\": \"incident.opened\"\x7d"
  decrypt _ := none
  hmacSha256Hex _ _ := ""
  uuidText id := "00000000-0000-0000-0000-" ++ zeroPadded 12 id

def downWebhook : Webhook where
  id := 1
  orgId := 5
  url := "https://down.example/"
  events := ["incident.opened"]
  secretHash := none
  customHeaders := none
  isActive := true
  isDeleted := false
  lastDeliveryAt := none
  failureCount := 0
  createdAt := 0

def downWebhooks : Table Webhook.id := ⟨[downWebhook], List.nodup_singleton _⟩

/-- Every request times out at this moment. -/
def downNet (now : Instant) : Post → Exchange := fun _ => ⟨.httpError "timed out", now⟩

/-- An event, and a retry every three hours. -/
def downRun (retries : List Instant) : List WebhookStep :=
  .deliver 5 "incident.opened" .null (fun _ => ⟨10, 0⟩) (downNet 0) ::
    retries.map (fun now => .retry now [10] (downNet now))

def everyThreeHours : List Instant :=
  [secondsToMicros 10800, secondsToMicros 21600, secondsToMicros 32400]

/-- The delivery has failed four times, and is never selected again. -/
theorem fourth_failure_strands :
    ¬ ∀ (lib : WebhookLibrary) (order : OrderBy Webhook.createdAt) (webhooks : Table Webhook.id)
      (run before after : List WebhookStep), run = before ++ after →
        AllProgress (Run.exec (webhookStep lib order) (noDeliveries webhooks) before) := by
  intro always
  have progress := always downLibrary (OrderBy.stable _) downWebhooks (downRun everyThreeHours)
    (downRun everyThreeHours) [] (List.append_nil _).symm
  have row : ((Run.exec (webhookStep downLibrary (OrderBy.stable _)) (noDeliveries downWebhooks)
      (downRun everyThreeHours)).deliveries.get? 10).map (fun d => (d.status, d.attemptCount)) =
        some (.retrying, 5) := by decide
  obtain ⟨delivery, found, shown⟩ := Option.map_eq_some_iff.mp row
  obtain ⟨waiting, count⟩ := Prod.mk.inj shown
  obtain ⟨now, due⟩ := (progress delivery ((Table.get?_eq_some_iff _ _ _).mp found).1).selectable
    waiting
  have below : delivery.attemptCount < 5 := due.2.2
  omega

theorem downNet_contained (now : Instant) (delivery : WebhookDelivery) {w : Webhook}
    (unsigned : w.secretHash = none) : ¬ Escapes downLibrary (downNet now) w delivery := by
  intro escapes
  have uncaught : ¬ FitsColumn (some "timed out") :=
    escapes (postOf downLibrary w delivery none) (by
      simp [requestOf, recoverSigningSecret, unsigned, Except.map, Except.toOption])
  exact uncaught (by decide)

/-- The event is sent, and fails. -/
def sentOnce : WebhookStore :=
  webhookStep downLibrary (OrderBy.stable _) (noDeliveries downWebhooks)
    (.deliver 5 "incident.opened" .null (fun _ => ⟨10, 0⟩) (downNet 0))

theorem sentOnce_count {delivery : WebhookDelivery} (member : delivery ∈ dueBatch sentOnce [10]) :
    delivery.attemptCount = 2 := by
  obtain ⟨id, listed, found⟩ := List.mem_filterMap.mp member
  rw [List.mem_singleton.mp listed] at found
  have counts : (sentOnce.deliveries.get? 10).map (fun d => d.attemptCount) = some 2 := by decide
  rw [found] at counts
  exact Option.some.inj counts

theorem sentOnce_contained (delivery : WebhookDelivery) (now : Instant) :
    ¬ RetryEscapes downLibrary (downNet now) sentOnce delivery := by
  intro ⟨w, live, escapes⟩
  have stored := ((Table.get?_eq_some_iff _ _ _).mp (Option.filter_eq_some_iff.mp live).1).1
  have rows : sentOnce.webhooks.rows = [{ downWebhook with failureCount := 1 }] := by decide
  rw [rows, List.mem_singleton] at stored
  exact downNet_contained now delivery (by rw [stored]; rfl) escapes

/-- After two failures the delivery still progresses. -/
theorem deliveries_end_iff_sample :
    AllProgress (Run.exec (webhookStep downLibrary (OrderBy.stable _)) (noDeliveries downWebhooks)
      (downRun [secondsToMicros 10800])) := by
  have last : LastSucceeds downLibrary sentOnce
      (.retry (secondsToMicros 10800) [10] (downNet (secondsToMicros 10800))) := by
    intro _ delivery member isLast
    rw [sentOnce_count member] at isLast
    cases isLast
  have always := (deliveries_end_iff downLibrary (OrderBy.stable _) downWebhooks
    (downRun [secondsToMicros 10800])
    ⟨trivial, fun _ delivery _ => sentOnce_contained delivery _, trivial⟩).mpr
    ⟨trivial, last, trivial⟩
  exact always (downRun [secondsToMicros 10800]) [] (List.append_nil _).symm

end Reliastra.Guarantees.WebhookRetries
